/-
# Reading clauses back

Both layouts walk over the nodes of a clause, each in its own way (`Walker`); texts and anchors mean
the same to both.  What is shown of a type changes the pending type of the current list as if the
type had been put there at once (`reads_shown`): this is an induction on the type, in which the
stack of the pending type is whatever it is, as long as it admits the depth.

At the top of a list a type ends when something else begins, and until then it is pending.
`Settled l ts` says that `ts` are the types of a list, the pending one included: names, separators,
another clause and the end of the header all find the list so and leave it so.

A keyword is a word of the text, and nothing but a type, a blank or the end of the nodes has to tell
it from what follows (`ShownClause.Readable.parted`).
-/
import ApiPages.Proofs.Header.Rendering
import ApiPages.Proofs.Outcome
import Mathlib.Data.List.Chain

namespace ApiPages

open TypeFrame (finished)

/-! ## 1. Pending types -/

namespace SupertypeList

/-- The list with another pending type. -/
def withPending (l : SupertypeList) (type : TypeStack) : SupertypeList :=
  { l with pending := some type }

variable (l : SupertypeList) {p type next : TypeStack}

theorem typeStep_of_done {step : TypeStep} (h : type.step step = .done next) :
    l.typeStep type step = .ok (l.withPending next) := by
  rw [typeStep, h]
  rfl

/-- A name behind an opening bracket or a comma is that of an argument. -/
theorem name_of_push (p : TypeStack) (n : String) :
    (l.withPending p.push).name n =
      .ok (l.withPending (p.push.withCurrent (finished ⟨n, []⟩))) := by
  have hstep : p.push.step (.setName n) = .done (p.push.withCurrent (finished ⟨n, []⟩)) :=
    TypeStack.setName_of_unnamed rfl n
  exact typeStep_of_done _ hstep

theorem openList_of_admits {n : String} {depth : Nat} (h : p.Admits depth) (hdepth : 1 ≤ depth) :
    ClauseMark.openList.apply (l.withPending (p.withCurrent (finished ⟨n, []⟩))) =
      .ok (l.withPending (p.withCurrent ⟨some n, [], true⟩).push) := by
  have hstep : (p.withCurrent (finished ⟨n, []⟩)).step .openList =
      .done (p.withCurrent ⟨some n, [], true⟩).push :=
    TypeStack.openList_of_admits rfl rfl h hdepth
  exact typeStep_of_done _ hstep

theorem comma_of_push {n : String} {as : List TypeName} (t : TypeName) :
    ClauseMark.comma.apply
        (l.withPending ((p.withCurrent ⟨some n, as, true⟩).push.withCurrent (finished t))) =
      .ok (l.withPending (p.withCurrent ⟨some n, as ++ [t], true⟩).push) := by
  have hstep : ((p.withCurrent ⟨some n, as, true⟩).push.withCurrent (finished t)).step
      .nextArgument = .done (p.withCurrent ⟨some n, as ++ [t], true⟩).push := by
    have h := TypeStack.nextArgument_of_push (p := p.withCurrent ⟨some n, as, true⟩)
      (TypeFrame.toType_finished t) (by simp)
    simpa [TypeStack.step] using h
  exact typeStep_of_done _ hstep

theorem closeList_of_push {n : String} {as : List TypeName} (t : TypeName) :
    ClauseMark.closeList.apply
        (l.withPending ((p.withCurrent ⟨some n, as, true⟩).push.withCurrent (finished t))) =
      .ok (l.withPending (p.withCurrent (finished ⟨n, as ++ [t]⟩))) := by
  have hstep : ((p.withCurrent ⟨some n, as, true⟩).push.withCurrent (finished t)).step
      .closeList = .done (p.withCurrent (finished ⟨n, as ++ [t]⟩)) := by
    have h := TypeStack.closeList_of_push (p := p.withCurrent ⟨some n, as, true⟩)
      (TypeFrame.toType_finished t) (by simp)
    simpa [TypeStack.step, finished] using h
  exact typeStep_of_done _ hstep

/-! ## 2. Lists between two types -/

/-- A list whose types are `ts`, up to those that go without saying; the last one may be pending. -/
inductive Settled (limit : Option Nat) : SupertypeList → List TypeName → Prop
  | ended (ts : List TypeName) : Settled limit ⟨none, explicitTypes ts, limit⟩ ts
  | pending (ts : List TypeName) (t : TypeName) :
    Settled limit ⟨some (.ofType limit t), explicitTypes ts, limit⟩ (ts ++ [t])

variable {l} {limit : Option Nat} {ts : List TypeName}

theorem settled_start (limit : Option Nat) : Settled limit (start limit) [] := .ended []

theorem record_explicit (ts : List TypeName) (t : TypeName) :
    record ⟨none, explicitTypes ts, limit⟩ t = ⟨none, explicitTypes (ts ++ [t]), limit⟩ := by
  by_cases ht : t.name ∈ implicitSupertypes <;> simp [record, explicitTypes, ht]

theorem Settled.endPending (h : Settled limit l ts) :
    l.endPending = .ok ⟨none, explicitTypes ts, limit⟩ := by
  cases h with
  | ended ts => rfl
  | pending ts t =>
    simp only [SupertypeList.endPending, TypeStack.toType_ofType]
    exact congrArg Except.ok (record_explicit ts t)

theorem Settled.commit (h : Settled limit l ts) :
    l.commit = .ok ⟨none, explicitTypes ts, limit⟩ := by
  rw [← h.endPending]
  cases h <;> rfl

theorem Settled.comma (h : Settled limit l ts) :
    l.comma = .ok ⟨none, explicitTypes ts, limit⟩ := by
  rw [← h.commit]
  cases h <;> rfl

theorem Settled.finish (h : Settled limit l ts) : l.finish = .ok (explicitTypes ts) := by
  rw [SupertypeList.finish, h.endPending]
  rfl

/-- A name ends the pending type and begins the next. -/
theorem Settled.name (h : Settled limit l ts) (n : String) :
    l.name n = .ok ⟨some (.ofType limit ⟨n, []⟩), explicitTypes ts, limit⟩ := by
  have hcommit := h.commit
  have hlimit : l.limit = limit := by cases h <;> rfl
  have hnew : l.name n = (do (← l.commit).typeStep (.start l.limit) (.setName n)) := by
    cases h <;> rfl
  rw [hnew, hcommit, hlimit]
  rfl

end SupertypeList

/-! ## 3. Walks over the nodes of a clause -/

/-- **A walk over nodes** that reads texts and anchors as parts of clauses, on a state that holds
the clauses. -/
structure Walker (σ : Type) where
  child : σ → Node → Except Failure σ
  state : Supertypes → σ
  bareNames : Bool
  text_eq : ∀ s content, child (state s) (.text content) =
    (do return state (← s.text bareNames content))
  anchor_eq : ∀ s attributes children, child (state s) (.element "a" attributes children) =
    (do return state (← s.anchor ⟨"a", attributes, children⟩))

namespace Supertypes

/-- The list of a clause. -/
def list (s : Supertypes) : Clause → SupertypeList
  | .extending => s.extended
  | .implementing => s.implemented

/-- The clauses with `clause` for the current one, and `l` for its list. -/
def focus (s : Supertypes) (clause : Clause) (l : SupertypeList) : Supertypes :=
  match clause with
  | .extending => { s with clause := some .extending, extended := l }
  | .implementing => { s with clause := some .implementing, implemented := l }

variable (s : Supertypes) (clause : Clause) {l l' : SupertypeList}

theorem list_focus (other : Clause) (l : SupertypeList) :
    (s.focus clause l).list other = if other = clause then l else s.list other := by
  cases clause <;> cases other <;> rfl

theorem focus_list (h : s.clause = some clause) : s.focus clause (s.list clause) = s := by
  obtain ⟨_, extended, implemented⟩ := s
  obtain rfl := h
  cases clause <;> rfl

theorem onList_focus {token : String} {change : SupertypeList → Except Failure SupertypeList}
    (h : change l = .ok l') : (s.focus clause l).onList token change = .ok (s.focus clause l') := by
  cases clause <;> simp [onList, focus, h]

end Supertypes

namespace Walker

open Text (Parted lexemes_append_of_parted)

variable {σ : Type} (w : Walker σ) {s s' : Supertypes} {ns : List Node}

/-- The walk over nodes from a state of the clauses. -/
def run (s : Supertypes) (ns : List Node) : Except Failure σ := ns.foldlM w.child (w.state s)

theorem run_text {content : String} (h : s.text w.bareNames content = .ok s') (ns : List Node) :
    w.run s (.text content :: ns) = w.run s' ns := by
  rw [run, List.foldlM_cons, w.text_eq, h]
  rfl

theorem run_anchor {attributes : List (String × String)} {children : List Node}
    (h : s.anchor ⟨"a", attributes, children⟩ = .ok s') (ns : List Node) :
    w.run s (.element "a" attributes children :: ns) = w.run s' ns := by
  rw [run, List.foldlM_cons, w.anchor_eq, h]
  rfl

theorem text_append {bareNames : Bool} {content more : String}
    (hparted : Parted ClauseMark.ofChar? content.toList more.toList) :
    s.text bareNames (content ++ more) =
      (do (← s.text bareNames content).text bareNames more) := by
  simp only [Supertypes.text, lexemes_append_of_parted hparted, List.foldlM_append]

/-- **A text in front of nodes is read before them**, although it is one with a text there, if no
word goes on from it to that text. -/
theorem run_withText {content : String}
    (hparted : Parted ClauseMark.ofChar? content.toList (Node.leadingText ns).toList)
    (h : s.text w.bareNames content = .ok s') :
    w.run s (Node.withText content ns) = w.run s' ns := by
  unfold Node.withText
  split
  · rename_i more rest
    have hmore : Parted ClauseMark.ofChar? content.toList more.toList := hparted
    rw [run, run, List.foldlM_cons, List.foldlM_cons, w.text_eq, w.text_eq, text_append hmore, h]
    rfl
  · split
    · rename_i hempty
      subst hempty
      obtain rfl := Except.ok.inj h
      rfl
    · exact w.run_text h ns

end Walker

/-! ## 4. Texts of a clause -/

namespace ClauseMark

theorem isClosed_text (m : ClauseMark) : Text.IsClosed ofChar? m.text.toList := by
  cases m <;> intro c hc <;> obtain rfl := Option.some.inj hc <;> exact Or.inl rfl

theorem lexemes_text (m : ClauseMark) : Text.lexemes ofChar? m.text = [.mark m] := by
  cases m <;> rfl

theorem ofChar?_of_isBlank {c : Char} (h : Text.isBlank c = true) : ofChar? c = none := by
  unfold ofChar?
  split
  · exact absurd h (by decide)
  · exact absurd h (by decide)
  · exact absurd h (by decide)
  · rfl

end ClauseMark

open Text (Lexes IsClosed EndsWord Parted lexemes_of_lexes)

theorem lexes_blanks {cs ds : List Char} {ls : List (Text.Lexeme ClauseMark)}
    (hcs : ∀ c ∈ cs, Text.isBlank c = true) (h : Lexes ClauseMark.ofChar? ds ls) :
    Lexes ClauseMark.ofChar? (cs ++ ds) ls := by
  intro rest hrest
  rw [List.append_assoc,
    Text.lexemesFrom_blanks (fun _ => ClauseMark.ofChar?_of_isBlank) hcs, h rest hrest]

/-- A separator is some commas. -/
theorem exists_commas {cs : List Char} (hcs : ∀ c ∈ cs, c = ',' ∨ Text.isBlank c = true) :
    ∃ n, Lexes ClauseMark.ofChar? cs (List.replicate n (.mark .comma)) := by
  induction cs with
  | nil => exact ⟨0, .nil⟩
  | cons c cs ih =>
    obtain ⟨n, hn⟩ := ih fun d hd => hcs d (List.mem_cons_of_mem c hd)
    rcases hcs c List.mem_cons_self with rfl | hc
    · exact ⟨n + 1, hn.cons_mark rfl⟩
    · exact ⟨n, hn.cons_blank (ClauseMark.ofChar?_of_isBlank hc) hc⟩

theorem eq_or_isBlank_of_isSeparator {s : String} (h : isSeparator s = true) :
    ∀ c ∈ s.toList, c = ',' ∨ Text.isBlank c = true := by
  intro c hc
  simpa using List.all_eq_true.mp h c hc

theorem isClosed_of_isSeparator {s : String} (h : isSeparator s = true) :
    IsClosed ClauseMark.ofChar? s.toList := by
  intro c hc
  rcases eq_or_isBlank_of_isSeparator h c (List.mem_of_getLast? hc) with rfl | hc
  · exact Or.inl rfl
  · exact Or.inr hc

namespace Supertypes

variable (s : Supertypes) (clause : Clause) (bareNames : Bool) {l l' : SupertypeList}
  {limit : Option Nat} {ts : List TypeName}

theorem text_mark {m : ClauseMark} (h : m.apply l = .ok l') :
    (s.focus clause l).text bareNames m.text = .ok (s.focus clause l') := by
  rw [text, ClauseMark.lexemes_text, List.foldlM_cons, lexeme, onList_focus s clause h]
  rfl

/-- Commas and blanks leave a list settled, in the same way in every clause. -/
theorem exists_text_separator {separator : String}
    (hseparator : isSeparator separator = true)
    (h : l.Settled limit ts) :
    ∃ l', l'.Settled limit ts ∧ ∀ (s : Supertypes) (clause : Clause) (bareNames : Bool),
      (s.focus clause l).text bareNames separator = .ok (s.focus clause l') := by
  obtain ⟨n, hn⟩ := exists_commas (eq_or_isBlank_of_isSeparator hseparator)
  simp only [text, lexemes_of_lexes hn]
  clear hn
  induction n generalizing l with
  | zero => exact ⟨l, h, fun _ _ _ => rfl⟩
  | succ n ih =>
    have hcomma : ClauseMark.comma.apply l = .ok ⟨none, explicitTypes ts, limit⟩ := h.comma
    obtain ⟨l', hl', hrest⟩ := ih (.ended ts)
    refine ⟨l', hl', fun s clause bareNames => ?_⟩
    rw [List.replicate_succ, List.foldlM_cons, lexeme, onList_focus s clause hcomma]
    exact hrest s clause bareNames

/-- The keyword of a clause, between blanks. -/
theorem text_keyword {before behind : String}
    (hbefore : Text.isBlankText before = true) (hbehind : Text.isBlankText behind = true) :
    s.text bareNames (before ++ clause.keyword ++ behind) = s.goto clause := by
  have hword : Lexes ClauseMark.ofChar? clause.keyword.toList [.word clause.keyword] := by
    have h : Text.IsPlainWord ClauseMark.ofChar? clause.keyword.toList := by
      cases clause <;> decide
    simpa using Lexes.word h
  have hbehind := Text.isBlank_of_isBlankText hbehind
  have hblanks : Lexes ClauseMark.ofChar? behind.toList [] := by
    simpa using lexes_blanks hbehind .nil
  have hends : EndsWord ClauseMark.ofChar? behind.toList := .of_isBlank hbehind
  have hlexes : Lexes ClauseMark.ofChar? (before ++ clause.keyword ++ behind).toList
      [.word clause.keyword] := by
    simpa using lexes_blanks (Text.isBlank_of_isBlankText hbefore) (hword.append hblanks hends)
  have hkeyword : Clause.ofKeyword? clause.keyword = some clause := by cases clause <;> rfl
  rw [text, lexemes_of_lexes hlexes, List.foldlM_cons, lexeme, word, hkeyword]
  exact bind_pure _

end Supertypes

/-! ## 5. Types -/

/-- The reading of a name needs only the target of its anchor. -/
theorem Supertypes.anchor_focus (s : Supertypes) (clause : Clause) {l l' : SupertypeList}
    {n : String} (hn : Link.IsPlainName n) (children : List Node) (h : l.name n = .ok l') :
    (s.focus clause l).anchor ⟨"a", [("href", Link.reference n)], children⟩ =
      .ok (s.focus clause l') := by
  have htype (shown : String) :
      ClassReference.typeName ⟨shown, Link.reference n⟩ = .ok (.simple n) := by
    simp [ClassReference.typeName, ClassReference.qualifiedName, Link.resolve_reference hn]
  have hstep : (s.focus clause l).onList n (·.name n) = .ok (s.focus clause l') :=
    s.onList_focus clause h
  simp [anchor, Element.classReference, Element.attribute?, htype, TypeName.simple, hstep, bind,
    Except.bind]

namespace Walker

open SupertypeList (name_of_push openList_of_admits comma_of_push closeList_of_push)

variable {σ : Type} (w : Walker σ) (label : String → List Node) {l l' : SupertypeList}
  {limit : Option Nat} {ts : List TypeName}

/-- **Nodes are read as a change of the current list**, whichever it is and whatever follows. -/
def Reads (shown : List Node → List Node) (l l' : SupertypeList) : Prop :=
  ∀ (s : Supertypes) (clause : Clause) (ns : List Node),
    w.run (s.focus clause l) (shown ns) = w.run (s.focus clause l') ns

variable {w}

theorem Reads.comp {shown shown' : List Node → List Node} {l'' : SupertypeList}
    (h : w.Reads shown l l') (h' : w.Reads shown' l' l'') : w.Reads (shown ∘ shown') l l'' :=
  fun s clause ns => (h s clause (shown' ns)).trans (h' s clause ns)

theorem Reads.mark {m : ClauseMark} (h : m.apply l = .ok l') :
    w.Reads (Node.withText m.text) l l' :=
  fun s clause _ => w.run_withText (Or.inl m.isClosed_text) (s.text_mark clause _ h)

theorem Reads.anchor {n : String} (hn : Link.IsPlainName n) (h : l.name n = .ok l') :
    w.Reads (Node.anchor label n :: ·) l l' :=
  fun s clause ns => w.run_anchor (s.anchor_focus clause hn (label n) h) ns

section Marks

variable {n : String} {p : TypeStack}

theorem reads_openList {depth : Nat} (h : p.Admits depth) (hdepth : 1 ≤ depth) :
    w.Reads (Node.withText "<") (l.withPending (p.withCurrent (finished ⟨n, []⟩)))
      (l.withPending (p.withCurrent ⟨some n, [], true⟩).push) :=
  .mark (openList_of_admits l h hdepth)

theorem reads_comma (done : List TypeName) (t : TypeName) :
    w.Reads (Node.withText ",")
      (l.withPending ((p.withCurrent ⟨some n, done, true⟩).push.withCurrent (finished t)))
      (l.withPending (p.withCurrent ⟨some n, done ++ [t], true⟩).push) :=
  .mark (comma_of_push l t)

theorem reads_closeList (done : List TypeName) (t : TypeName) :
    w.Reads (Node.withText ">")
      (l.withPending ((p.withCurrent ⟨some n, done, true⟩).push.withCurrent (finished t)))
      (l.withPending (p.withCurrent (finished ⟨n, done ++ [t]⟩))) :=
  .mark (closeList_of_push l t)

end Marks

mutual

/-- **A type is read as an argument** where one is expected. -/
theorem reads_argument (p : TypeStack) : (t : TypeName) →
    (∀ n ∈ t.names, Link.IsPlainName n) → p.push.Admits t.depth →
    w.Reads (t.shown label) (l.withPending p.push) (l.withPending (p.push.withCurrent (finished t)))
  | ⟨m, as⟩, hnames, hadmits => by
    simp only [TypeName.names, List.forall_mem_cons] at hnames
    exact (Reads.anchor label hnames.1 (name_of_push l p m)).comp
      (reads_arguments m p.push as hnames.2 hadmits)

/-- An argument list is that of the pending type. -/
theorem reads_arguments (n : String) (p : TypeStack) : (as : List TypeName) →
    (∀ m ∈ TypeName.namesAll as, Link.IsPlainName m) → p.Admits (TypeName.depth ⟨n, as⟩) →
    w.Reads (TypeName.shownArguments label as) (l.withPending (p.withCurrent (finished ⟨n, []⟩)))
      (l.withPending (p.withCurrent (finished ⟨n, as⟩)))
  | [], _, _ => fun _ _ _ => rfl
  | t :: others, hnames, hadmits => by
    simp only [TypeName.namesAll, List.forall_mem_append] at hnames
    have hfirst : p.Admits (1 + t.depth) :=
      hadmits.mono (Nat.add_le_add_left (Nat.le_max_left _ _) 1)
    have hothers : p.Admits (1 + TypeName.depthAll others) :=
      hadmits.mono (Nat.add_le_add_left (Nat.le_max_right _ _) 1)
    have hopen := reads_openList (w := w) (l := l) (n := n) hfirst (Nat.le_add_right 1 _)
    exact (hopen.comp (reads_argument _ t hnames.1 hfirst.push)).comp
      (reads_others n p others hnames.2 hothers [] t)

/-- The arguments behind `t`, before which `done` are finished. -/
theorem reads_others (n : String) (p : TypeStack) : (as : List TypeName) →
    (∀ m ∈ TypeName.namesAll as, Link.IsPlainName m) → p.Admits (1 + TypeName.depthAll as) →
    (done : List TypeName) → (t : TypeName) →
    w.Reads (TypeName.shownOthers label as)
      (l.withPending ((p.withCurrent ⟨some n, done, true⟩).push.withCurrent (finished t)))
      (l.withPending (p.withCurrent (finished ⟨n, done ++ t :: as⟩)))
  | [], _, _, done, t => reads_closeList done t
  | u :: others, hnames, hadmits, done, t => by
    simp only [TypeName.namesAll, List.forall_mem_append] at hnames
    have hfirst : p.Admits (1 + u.depth) :=
      hadmits.mono (Nat.add_le_add_left (Nat.le_max_left _ _) 1)
    have hothers : p.Admits (1 + TypeName.depthAll others) :=
      hadmits.mono (Nat.add_le_add_left (Nat.le_max_right _ _) 1)
    have hrest := reads_others n p others hnames.2 hothers (done ++ [t]) u
    rw [List.append_assoc, List.singleton_append] at hrest
    exact ((reads_comma done t).comp (reads_argument _ u hnames.1 hfirst.push)).comp hrest

end

/-! ## 6. Lists of types -/

/-- **A type behind others is read as the next one**, and is pending behind it. -/
theorem reads_shown {t : TypeName} (hnames : ∀ n ∈ t.names, Link.IsPlainName n)
    (hdepth : ∀ n, limit = some n → t.depth ≤ n) (h : l.Settled limit ts) :
    w.Reads (t.shown label) l ⟨some (.ofType limit t), explicitTypes ts, limit⟩ := by
  obtain ⟨m, as⟩ := t
  simp only [TypeName.names, List.forall_mem_cons] at hnames
  have hadmits : (TypeStack.start limit).Admits (TypeName.depth ⟨m, as⟩) :=
    fun n hn => by simpa [TypeStack.depth, TypeStack.start] using hdepth n hn
  exact (Reads.anchor label hnames.1 (h.name m)).comp
    (reads_arguments (l := ⟨none, explicitTypes ts, limit⟩) label m (.start limit) as hnames.2
      hadmits)

theorem exists_reads_separator {separator : String}
    (hseparator : isSeparator separator = true)
    (h : l.Settled limit ts) :
    ∃ l', w.Reads (Node.withText separator) l l' ∧ l'.Settled limit ts := by
  obtain ⟨l', hl', htext⟩ := Supertypes.exists_text_separator hseparator h
  exact ⟨l', fun s clause _ =>
    w.run_withText (Or.inl (isClosed_of_isSeparator hseparator)) (htext s clause w.bareNames), hl'⟩

/-- **The types of a list are read one by one**, whatever separates them. -/
theorem exists_reads_shownList {items : List (TypeName × String)}
    (hseparators : ∀ item ∈ items, isSeparator item.2 = true)
    (hnames : ∀ n ∈ TypeName.namesAll (items.map (·.1)), Link.IsPlainName n)
    (hdepth : Signature.Within limit (items.map (·.1))) (h : l.Settled limit ts) :
    ∃ l', w.Reads (TypeName.shownList label items) l l' ∧
      l'.Settled limit (ts ++ items.map (·.1)) := by
  induction items generalizing l ts with
  | nil => exact ⟨l, fun _ _ _ => rfl, by simpa using h⟩
  | cons item items ih =>
    obtain ⟨t, separator⟩ := item
    obtain ⟨hseparator, hseparators⟩ := List.forall_mem_cons.mp hseparators
    simp only [List.map_cons, TypeName.namesAll, List.forall_mem_append] at hnames
    obtain ⟨ht, hdepth⟩ := List.forall_mem_cons.mp hdepth
    have htype := reads_shown (w := w) label hnames.1 ht h
    obtain ⟨separated, hseparated, hsettled⟩ :=
      exists_reads_separator (w := w) hseparator (.pending ts t)
    obtain ⟨l', hrest, hl'⟩ := ih hseparators hnames.2 hdepth hsettled
    exact ⟨l', (htype.comp hseparated).comp hrest, by simpa using hl'⟩

end Walker

/-! ## 7. Clauses -/

/-- Both lists of a header have been read up to the types `types clause`. -/
def Supertypes.Collected (limit : Option Nat) (s : Supertypes) (types : Clause → List TypeName) :
    Prop :=
  ∀ clause, (s.list clause).Settled limit (types clause)

namespace Supertypes

variable {limit : Option Nat} {s : Supertypes} {types : Clause → List TypeName}

theorem collected_start (limit : Option Nat) : (start limit).Collected limit fun _ => [] := by
  intro clause
  cases clause <;> exact SupertypeList.settled_start limit

/-- Some types more in the list of one clause. -/
theorem Collected.focus (h : s.Collected limit types) (clause : Clause) {l : SupertypeList}
    {ts : List TypeName} (hl : l.Settled limit (types clause ++ ts)) :
    (s.focus clause l).Collected limit fun other =>
      types other ++ if clause = other then ts else [] := by
  intro other
  rw [list_focus]
  by_cases hother : other = clause
  · subst hother
    simpa using hl
  · simpa [hother, Ne.symm hother] using h other

/-- Ending the pending type of the current clause. -/
theorem Collected.exists_commit (h : s.Collected limit types) {clause : Clause}
    (hclause : s.clause = some clause) :
    ∃ s', s.commit = .ok s' ∧ s'.clause = some clause ∧ s'.Collected limit types := by
  have hcommit : s.commit = .ok (s.focus clause ⟨none, explicitTypes (types clause), limit⟩) := by
    conv_lhs => rw [← s.focus_list clause hclause]
    exact s.onList_focus clause (h clause).commit
  refine ⟨_, hcommit, by cases clause <;> rfl, ?_⟩
  have hended : SupertypeList.Settled limit ⟨none, explicitTypes (types clause), limit⟩
      (types clause ++ []) := by
    simpa using SupertypeList.Settled.ended (types clause)
  simpa using h.focus clause hended

/-- The beginning of a clause ends the pending type of the one before. -/
theorem Collected.exists_goto (h : s.Collected limit types) (clause : Clause) :
    ∃ s', s.goto clause = .ok s' ∧ s'.clause = some clause ∧ s'.Collected limit types := by
  have hgoto {committed : Supertypes} (hcommitted : committed.Collected limit types) :
      { committed with clause := some clause : Supertypes }.Collected limit types := by
    intro other
    cases other
    · exact hcommitted .extending
    · exact hcommitted .implementing
  cases hcurrent : s.clause with
  | none =>
    refine ⟨{ s with clause := some clause }, ?_, rfl, hgoto h⟩
    rw [goto, hcurrent]
    rfl
  | some current =>
    obtain ⟨committed, hcommit, -, hcommitted⟩ := h.exists_commit hcurrent
    refine ⟨{ committed with clause := some clause }, ?_, rfl, hgoto hcommitted⟩
    rw [goto, hcurrent, Option.isSome_some, if_pos rfl, hcommit]
    rfl

/-- The end of the header. -/
theorem Collected.finish (h : s.Collected limit types) (header : ClassHeader) :
    s.finish header = .ok { header with
      extended := header.extended ++ explicitTypes (types .extending)
      implemented := header.implemented ++ explicitTypes (types .implementing) } := by
  have hextended := (h .extending).finish
  have himplemented := (h .implementing).finish
  simp only [list] at hextended himplemented
  simp only [Supertypes.finish, hextended, himplemented]
  rfl

end Supertypes

namespace ShownClause

variable {σ : Type} {w : Walker σ} (label : String → List Node) {limit : Option Nat}
  {c : ShownClause} {clause : Clause} {s : Supertypes} {types : Clause → List TypeName}

theorem typesOf_filter {clauses : List (Clause × ShownClause)} {p : Clause × ShownClause → Bool}
    (hp : ∀ c ∈ clauses, p c = false → c.2.typeNames = []) (clause : Clause) :
    typesOf (clauses.filter p) clause = typesOf clauses clause := by
  induction clauses with
  | nil => rfl
  | cons c clauses ih =>
    obtain ⟨hc, hclauses⟩ := List.forall_mem_cons.mp hp
    have ih := ih hclauses
    cases hpc : p c with
    | true => simpa [hpc, typesOf] using ih
    | false => simpa [hpc, typesOf, hc hpc] using ih

theorem typesOf_cons (c : Clause × ShownClause) (clauses : List (Clause × ShownClause))
    (clause : Clause) :
    typesOf (c :: clauses) clause = typesOf [c] clause ++ typesOf clauses clause := by
  simp [typesOf]

/-- **The types of a clause are read** behind those that its list has already. -/
theorem Readable.exists_run_types (hc : c.Readable limit) (h : s.Collected limit types)
    (hclause : s.clause = some clause) :
    ∃ s', (∀ ns, w.run s (TypeName.shownList label c.types ns) = w.run s' ns) ∧
      s'.clause = some clause ∧
      s'.Collected limit fun other => types other ++ typesOf [(clause, c)] other := by
  obtain ⟨l', hreads, hl'⟩ := Walker.exists_reads_shownList (w := w) label hc.separators hc.names
    hc.within (h clause)
  refine ⟨s.focus clause l', fun ns => ?_, by cases clause <;> rfl, ?_⟩
  · conv_lhs => rw [← s.focus_list clause hclause]
    exact hreads s clause ns
  · simpa [typesOf, typeNames] using h.focus clause hl'

/-- **No word goes on behind the keyword of a clause**: there is a blank, or an anchor, or else what
follows the clause ends the word. -/
theorem Readable.parted (hc : c.Readable limit) (clause : Clause) {ns : List Node}
    (hns : c.types = [] → c.behind = "" →
      EndsWord ClauseMark.ofChar? (Node.leadingText ns).toList) :
    Parted ClauseMark.ofChar? (c.before ++ clause.keyword ++ c.behind).toList
      (Node.leadingText (TypeName.shownList label c.types ns)).toList := by
  by_cases hbehind : c.behind = ""
  · refine Or.inr ?_
    cases htypes : c.types with
    | nil => exact hns htypes hbehind
    | cons item items =>
      -- a type begins with an anchor
      obtain ⟨⟨name, arguments⟩, separator⟩ := item
      exact EndsWord.nil
  · refine Or.inl fun ch hch => ?_
    have hne : c.behind.toList ≠ [] := by simpa using hbehind
    rw [String.toList_append, List.getLast?_append_of_ne_nil _ hne] at hch
    exact Or.inr (Text.isBlank_of_isBlankText hc.behind ch (List.mem_of_getLast? hch))

/-- A clause that begins with a blank ends the word before it. -/
theorem Readable.endsWord_shown (hc : c.Readable limit) (hbefore : c.before ≠ "") (clause : Clause)
    (ns : List Node) :
    EndsWord ClauseMark.ofChar? (Node.leadingText (c.shown label clause ns)).toList := by
  have hne : c.before.toList ≠ [] := by simpa using hbefore
  have hends : EndsWord ClauseMark.ofChar? c.before.toList :=
    .of_isBlank (Text.isBlank_of_isBlankText hc.before)
  simp only [shown, Node.leadingText_withText, String.toList_append, List.append_assoc]
  exact hends.append_of_ne_nil hne _

/-- In front of nothing, the keyword is a text of its own. -/
theorem shown_nil (c : ShownClause) (clause : Clause) :
    c.shown label clause [] =
      .text (c.before ++ clause.keyword ++ c.behind) :: TypeName.shownList label c.types [] := by
  have hkeyword : clause.keyword ≠ "" := by cases clause <;> decide
  have hne : c.before ++ clause.keyword ++ c.behind ≠ "" := by simp [hkeyword]
  unfold shown
  cases c.types with
  | nil => simp [TypeName.shownList, Node.withText, hne]
  | cons item items =>
    obtain ⟨⟨name, arguments⟩, separator⟩ := item
    simp [TypeName.shownList, TypeName.shown, Node.anchor, Node.withText, hne]

/-- **A clause is read**, whatever clauses there have been before. -/
theorem Readable.exists_run (hc : c.Readable limit) (h : s.Collected limit types)
    (clause : Clause) {ns : List Node}
    (hns : c.types = [] → c.behind = "" →
      EndsWord ClauseMark.ofChar? (Node.leadingText ns).toList) :
    ∃ s', w.run s (c.shown label clause ns) = w.run s' ns ∧
      s'.Collected limit fun other => types other ++ typesOf [(clause, c)] other := by
  obtain ⟨begun, hgoto, hclause, hbegun⟩ := h.exists_goto clause
  obtain ⟨s', hrun, -, hs'⟩ := hc.exists_run_types (w := w) label hbegun hclause
  have htext := (s.text_keyword clause w.bareNames hc.before hc.behind).trans hgoto
  exact ⟨s', (w.run_withText (hc.parted label clause hns) htext).trans (hrun ns), hs'⟩

/-- **Clauses are read one after the other**, if no keyword runs into the next one. -/
theorem exists_run_clauses {clauses : List (Clause × ShownClause)}
    (hclauses : ∀ c ∈ clauses, c.2.Readable limit)
    (hapart : clauses.IsChain fun c next => c.2.ApartFrom next.2) (h : s.Collected limit types) :
    ∃ s', w.run s (clauses.foldr (fun c => c.2.shown label c.1) []) = .ok (w.state s') ∧
      s'.Collected limit fun other => types other ++ typesOf clauses other := by
  induction clauses generalizing s types with
  | nil => exact ⟨s, rfl, by simpa [typesOf] using h⟩
  | cons c clauses ih =>
    obtain ⟨hc, hclauses⟩ := List.forall_mem_cons.mp hclauses
    have hends : c.2.types = [] → c.2.behind = "" → EndsWord ClauseMark.ofChar?
        (Node.leadingText (clauses.foldr (fun c => c.2.shown label c.1) [])).toList := by
      intro htypes hbehind
      cases clauses with
      | nil => exact EndsWord.nil
      | cons next rest =>
        have hnext : c.2.ApartFrom next.2 := (List.isChain_cons_cons.mp hapart).1
        have hbefore : next.2.before ≠ "" := by simpa [hbehind] using hnext htypes
        exact (hclauses next List.mem_cons_self).endsWord_shown label hbefore next.1 _
    obtain ⟨read, hrun, hread⟩ := hc.exists_run (w := w) label h c.1 hends
    obtain ⟨s', hrest, hs'⟩ := ih hclauses hapart.tail hread
    refine ⟨s', hrun.trans hrest, ?_⟩
    simpa only [List.append_assoc, ← typesOf_cons] using hs'

end ShownClause

end ApiPages
