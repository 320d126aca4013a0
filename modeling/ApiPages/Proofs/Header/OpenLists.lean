/-
# Lists that a clause leaves open

A keyword ends the clause before it, but not an argument list that is open there: a type with an
open list stays pending, and when its keyword comes again the list is gone on with.  So a clause
need not close its own lists.  Over the whole header, though, they are closed: a bracket closes a
list of its own clause, a list that is left open stays as it is until its keyword comes again, and
at the end none is open (`ClosesLists`).

How many lists are open in a clause is counted from the marks under its keyword (`Written.depth`).
That each clause closes its own lists is therefore the same as that no keyword finds a list of its
clause open; a header with each keyword once cannot do otherwise.
-/
import ApiPages.Proofs.Header.HiddenNames
import Mathlib.Data.List.Induction

namespace ApiPages

/-! ## 1. Lists that are open -/

namespace Written

variable {w : Written} {clause : Clause} {ts : List ClauseToken}

/-- The number of lists that are open in the current clause. -/
def openLists (w : Written) : Nat := (w.current.map w.depth).getD 0

/-- **Nothing is opened or closed in a clause but behind its keyword.** -/
theorem depth_foldl (hw : w.current ≠ some clause) (hts : .keyword clause ∉ ts) :
    (ts.foldl step w).depth clause = w.depth clause := by
  induction ts generalizing w with
  | nil => rfl
  | cons t ts ih =>
    obtain ⟨ht, hts⟩ : t ≠ .keyword clause ∧ .keyword clause ∉ ts := by
      simpa [eq_comm] using hts
    have hstep : (w.step t).current ≠ some clause ∧ (w.step t).depth clause = w.depth clause := by
      cases t with
      | keyword other =>
        have hother : other ≠ clause := fun heq => ht (heq ▸ rfl)
        exact ⟨by simpa [step] using hother, rfl⟩
      | name n =>
        cases hcurrent : w.current with
        | none => simp [step, hcurrent]
        | some other => exact ⟨by simpa [step, hcurrent] using hw, by simp [step, hcurrent]⟩
      | mark m =>
        cases hcurrent : w.current with
        | none => simp [step, hcurrent]
        | some other =>
          have hother : clause ≠ other := fun heq => hw (heq ▸ hcurrent)
          exact ⟨by simpa [step, hcurrent] using hw, by simp [step, hcurrent, hother]⟩
    rw [List.foldl_cons, ih hstep.1 hts, hstep.2]

theorem ofTokens_append (ts us : List ClauseToken) :
    ofTokens (ts ++ us) = us.foldl step (ofTokens ts) := List.foldl_append

/-- A list that is open at a keyword and closed in the end is gone on with behind its own keyword;
in between it stays as it is. -/
theorem exists_keyword {next : Clause} {after : List ClauseToken} (hopen : 0 < w.depth clause)
    (hclosed : ((.keyword next :: after).foldl step w).depth clause = 0) :
    ∃ between rest, .keyword next :: after = between ++ .keyword clause :: rest ∧
      .keyword clause ∉ between ∧ (between.foldl step w).depth clause = w.depth clause := by
  have hfixed (us : List ClauseToken) (hus : .keyword clause ∉ .keyword next :: us) :
      ((.keyword next :: us).foldl step w).depth clause = w.depth clause := by
    obtain ⟨hnext, hus⟩ : next ≠ clause ∧ .keyword clause ∉ us := by simpa [eq_comm] using hus
    rw [List.foldl_cons, depth_foldl (by simpa [step] using hnext) hus]
    rfl
  by_cases hmem : .keyword clause ∈ ClauseToken.keyword next :: after
  · obtain ⟨between, rest, hsplit, hbetween⟩ := List.eq_append_cons_of_mem hmem
    refine ⟨between, rest, hsplit, hbetween, ?_⟩
    cases between with
    | nil => rfl
    | cons t between =>
      obtain ⟨rfl, -⟩ := List.cons.inj hsplit
      exact hfixed between hbetween
  · have hdepth := hfixed after hmem
    omega

end Written

/-- **Every clause closes its own lists**: at no keyword is a list of the clause before it open. -/
def ClosesOwnLists (ts : List ClauseToken) : Prop :=
  ∀ before clause after, ts = before ++ .keyword clause :: after →
    (Written.ofTokens before).openLists = 0

/-- **All lists are closed**, if not by the clause that opens them. -/
structure ClosesLists (ts : List ClauseToken) : Prop where
  /-- A mark stands under a keyword. -/
  current : ∀ before m after, ts = before ++ .mark m :: after →
    (Written.ofTokens before).current.isSome
  /-- A closing bracket closes a list that is open in its clause. -/
  closing : ∀ before after, ts = before ++ .mark .closeList :: after →
    0 < (Written.ofTokens before).openLists
  /-- At the end no list is open. -/
  closed : ∀ clause, (Written.ofTokens ts).depth clause = 0
  /-- A list that is open at a keyword stays as it is until the keyword of its own clause comes, and
  that keyword does come. -/
  resumed : ∀ before next after clause, ts = before ++ .keyword next :: after →
    0 < (Written.ofTokens before).depth clause →
    ∃ between rest, .keyword next :: after = between ++ .keyword clause :: rest ∧
      .keyword clause ∉ between ∧
      (Written.ofTokens (before ++ between)).depth clause = (Written.ofTokens before).depth clause
  /-- So every clause closes its own lists exactly if no keyword finds a list of its clause open. -/
  own_iff : ClosesOwnLists ts ↔ ∀ before clause after,
    ts = before ++ .keyword clause :: after → (Written.ofTokens before).depth clause = 0
  /-- Where neither keyword comes twice, every clause closes its own lists. -/
  once : (∀ clause, ts.count (.keyword clause) ≤ 1) → ClosesOwnLists ts

section

variable {ts us : List ClauseToken}

theorem ClosesOwnLists.of_append (h : ClosesOwnLists (ts ++ us)) : ClosesOwnLists ts := by
  intro before clause after hts
  exact h before clause (after ++ us) (by rw [hts]; simp)

/-- Where every clause closes its own lists, only the current one has open lists. -/
theorem ClosesOwnLists.current_or_closed (h : ClosesOwnLists ts) (clause : Clause) :
    (Written.ofTokens ts).current = some clause ∨ (Written.ofTokens ts).depth clause = 0 := by
  induction ts using List.reverseRecOn with
  | nil => exact .inr rfl
  | append_singleton ts t ih =>
    have ih := ih h.of_append
    rw [Written.ofTokens_append, List.foldl_cons, List.foldl_nil]
    cases t with
    | keyword next =>
      right
      rcases ih with hcurrent | hclosed
      · have hnone := h ts next [] rfl
        rwa [Written.openLists, hcurrent] at hnone
      · exact hclosed
    | name n => cases hcurrent : (Written.ofTokens ts).current <;> simp_all [Written.step]
    | mark m =>
      cases hcurrent : (Written.ofTokens ts).current with
      | none => simpa [Written.step, hcurrent] using ih
      | some other =>
        by_cases hother : clause = other
        · exact .inl (by simp [Written.step, hcurrent, hother])
        · right
          simpa [Written.step, hcurrent, hother, Ne.symm hother] using ih

theorem exists_resumed (hclosed : ∀ clause, (Written.ofTokens ts).depth clause = 0)
    {before after : List ClauseToken} {next clause : Clause}
    (hts : ts = before ++ .keyword next :: after)
    (hopen : 0 < (Written.ofTokens before).depth clause) :
    ∃ between rest, .keyword next :: after = between ++ .keyword clause :: rest ∧
      .keyword clause ∉ between ∧
      (Written.ofTokens (before ++ between)).depth clause =
        (Written.ofTokens before).depth clause := by
  have hend := hclosed clause
  rw [hts, Written.ofTokens_append] at hend
  simpa only [Written.ofTokens_append] using Written.exists_keyword hopen hend

theorem closesOwnLists_iff (hclosed : ∀ clause, (Written.ofTokens ts).depth clause = 0) :
    ClosesOwnLists ts ↔ ∀ before clause after,
      ts = before ++ .keyword clause :: after → (Written.ofTokens before).depth clause = 0 := by
  constructor
  · intro hown before clause after hts
    have hbefore : ClosesOwnLists before := (hts ▸ hown).of_append
    rcases hbefore.current_or_closed clause with hcurrent | hnone
    · have hnone := hown before clause after hts
      rwa [Written.openLists, hcurrent] at hnone
    · exact hnone
  · intro hnone before next after hts
    cases hcurrent : (Written.ofTokens before).current with
    | none => rw [Written.openLists, hcurrent]; rfl
    | some clause =>
      rw [Written.openLists, hcurrent]
      change (Written.ofTokens before).depth clause = 0
      by_contra hne
      obtain ⟨between, rest, hsplit, -, hdepth⟩ :=
        exists_resumed hclosed hts (Nat.pos_of_ne_zero hne)
      have hlater := hnone (before ++ between) clause rest (by rw [hts, hsplit, List.append_assoc])
      omega

/-- In front of its first keyword a clause has no lists. -/
theorem depth_of_not_mem {clause : Clause} (h : .keyword clause ∉ ts) :
    (Written.ofTokens ts).depth clause = 0 := Written.depth_foldl nofun h

end

/-! ## 2. The lists of a run -/

namespace SupertypeList

variable {l l' : SupertypeList} {ts : List TypeName} {depth : Nat} {names : List PlacedName}

/-- A bracket closes a list only if one is open. -/
theorem Holds.depth_pos (h : l.Holds ts depth names)
    (hl : ClauseMark.closeList.apply l = .ok l') : 0 < depth := by
  obtain ⟨type, htype, hstep⟩ | ⟨hcomma, -⟩ := ok_of_mark hl
  · obtain ⟨next, hdone, -⟩ := ok_of_typeStep hstep
    have hframes : l.frames = type.frames := by simp [frames, htype]
    have hclose := TypeStack.frames_of_step hdone
    rw [← h.depth_eq, hframes]
    generalize type.frames = fs, next.frames = gs at hclose
    cases hclose with
    | closeList ha hopen => simp
  · cases hcomma

/-- At its end a list has no open lists. -/
theorem Holds.depth_of_finish (h : l.Holds ts depth names) {us : List TypeName}
    (hl : l.finish = .ok us) : depth = 0 := by
  obtain ⟨ended, hended, -⟩ := ok_of_map hl
  obtain ⟨⟨all, hall⟩, hpending⟩ := h.endPending hended
  rw [← hall.depth_eq, frames, hpending]
  rfl

end SupertypeList

namespace Supertypes

variable {s s' : Supertypes} {ts : List ClauseToken}

/-- **Every token of a run has been read**, when what is in front of it had been. -/
theorem Run.exists_token (h : s.Run ts s') {before after : List ClauseToken} {t : ClauseToken}
    (hts : ts = before ++ t :: after) :
    ∃ reached next, s.Run before reached ∧ reached.token t = .ok next := by
  induction h generalizing after with
  | start => simp at hts
  | token h ht ih =>
    rename_i ts t' reached next
    rcases List.eq_nil_or_concat after with rfl | ⟨rest, last, rfl⟩
    · obtain ⟨rfl, hlast⟩ := List.append_inj' hts rfl
      obtain rfl := List.singleton_inj.mp hlast
      exact ⟨reached, next, h, ht⟩
    · have hinit : ts ++ [t'] = (before ++ t :: rest) ++ [last] := by simpa using hts
      exact ih (List.append_inj' hinit rfl).1
  | commit h hcommit ih => exact ih hts

/-- **A run that comes to an end has closed all its lists.** -/
theorem Run.closesLists {limit : Option Nat} {h h' : ClassHeader}
    (hrun : (Supertypes.start limit).Run ts s) (hfinish : s.finish h = .ok h') :
    ClosesLists ts := by
  have hmark {before after : List ClauseToken} {m : ClauseMark}
      (hts : ts = before ++ .mark m :: after) :
      ∃ clause l l' us, (Written.ofTokens before).current = some clause ∧
        SupertypeList.Holds us ((Written.ofTokens before).depth clause)
          ((Written.ofTokens before).under clause) l ∧ m.apply l = .ok l' := by
    obtain ⟨reached, next, hreached, hnext⟩ := hrun.exists_token hts
    have hholds := hreached.holds (holds_start limit)
    obtain ⟨clause, l, hclause, hl, -⟩ := ok_of_onList hnext
    obtain ⟨us, hus⟩ := hholds.list clause
    exact ⟨clause, _, l, us, hholds.current ▸ hclause, hus, hl⟩
  have hclosed : ∀ clause, (Written.ofTokens ts).depth clause = 0 := by
    intro clause
    obtain ⟨us, hus, -⟩ := list_of_finish hfinish clause
    obtain ⟨held, hheld⟩ := (hrun.holds (holds_start limit)).list clause
    exact hheld.depth_of_finish hus
  refine {
    current := ?current
    closing := ?closing
    closed := hclosed
    resumed := fun before next after clause hts hopen => exists_resumed hclosed hts hopen
    own_iff := closesOwnLists_iff hclosed
    once := ?once }
  case current =>
    intro before m after hts
    obtain ⟨clause, -, -, -, hcurrent, -⟩ := hmark hts
    rw [hcurrent]
    rfl
  case closing =>
    intro before after hts
    obtain ⟨clause, l, l', us, hcurrent, hholds, hl⟩ := hmark hts
    rw [Written.openLists, hcurrent]
    exact hholds.depth_pos hl
  case once =>
    intro honce
    rw [closesOwnLists_iff hclosed]
    intro before clause after hts
    refine depth_of_not_mem fun hmem => ?_
    have hcount := honce clause
    rw [hts, List.count_append, List.count_cons_self] at hcount
    have hpos := List.count_pos_iff.mpr hmem
    omega

end Supertypes

/-! ## 3. The clauses of a page -/

namespace Supertypes

variable {s s' : Supertypes}

/-- Where bare names are allowed, all that is read without them is read alike. -/
theorem text_of_text {content : String} (h : s.text false content = .ok s') :
    s.text true content = .ok s' := by
  refine foldlM_of_imp (fun s l s' hl => ?_) h
  cases l with
  | mark m => exact hl
  | word w =>
    simp only [lexeme, word] at hl ⊢
    split at hl
    · exact hl
    · cases hl

theorem element_of_element {e : Element} (h : s.element false e = .ok s') :
    s.element true e = .ok s' := by
  rw [element] at h ⊢
  split at h
  · rename_i htag
    rw [if_pos htag]
    exact h
  · rename_i htag
    rw [if_neg htag]
    exact text_of_text h

end Supertypes

namespace Header.Google

/-- Whether a node is an element. -/
def isElement : Node → Bool
  | .element .. => true
  | _ => false

/-- Whether a node is a line break. -/
def isLineBreak : Node → Bool
  | .element tag .. => tag == "br"
  | _ => false

/-- **The nodes that have the clauses**: those behind the name, without line breaks. -/
def clauseNodes (nodes : List Node) : List Node :=
  (nodes.dropWhile (!isElement ·)).tail.filter (!isLineBreak ·)

variable {s : Supertypes} {ts : List ClauseToken} {r r' : Reader} {nodes : List Node}

/-- Behind the name, the run goes on over every node but line breaks. -/
theorem run_of_nodes (hphase : r.phase = .supertypes) (h : s.Run ts r.supertypes)
    (hr : nodes.foldlM Reader.child r = .ok r') :
    r'.header = r.header ∧
      s.Run (ts ++ (nodes.filter (!isLineBreak ·)).flatMap ClauseToken.ofNode) r'.supertypes := by
  induction nodes generalizing r ts with
  | nil => simpa [← Except.ok.inj hr] using h
  | cons node nodes ih =>
    rw [List.foldlM_cons] at hr
    obtain ⟨next, hnext, hrest⟩ := ok_of_bind hr
    cases node with
    | text content =>
      simp only [Reader.child, Reader.text, hphase] at hnext
      obtain ⟨supertypes, hsupertypes, rfl⟩ := ok_of_map hnext
      have htokens := Supertypes.text_of_text hsupertypes
      rw [Supertypes.text_eq_tokens] at htokens
      obtain ⟨hheader, hrun⟩ := ih rfl (h.tokens htokens) hrest
      exact ⟨hheader, by simpa [isLineBreak, ClauseToken.ofNode] using hrun⟩
    | comment content =>
      obtain rfl := Except.ok.inj hnext
      simpa [isLineBreak, ClauseToken.ofNode] using ih hphase h hrest
    | element tag attributes children =>
      simp only [Reader.child, Reader.element, hphase] at hnext
      split at hnext
      · rename_i hbreak
        obtain rfl := Except.ok.inj hnext
        have hbreak : tag = "br" := hbreak
        simpa [isLineBreak, hbreak] using ih hphase h hrest
      · rename_i hbreak
        have hbreak : tag ≠ "br" := hbreak
        obtain ⟨supertypes, hsupertypes, rfl⟩ := ok_of_map hnext
        have htokens := Supertypes.tokens_of_element (Supertypes.element_of_element hsupertypes)
        obtain ⟨hheader, hrun⟩ := ih rfl (h.tokens htokens) hrest
        exact ⟨hheader, by simpa [isLineBreak, hbreak, ClauseToken.ofNode] using hrun⟩

/-- A text in front of the name. -/
theorem before_name {content : String} (hphase : r.phase ≠ .supertypes)
    (hr : r.text content = .ok r') :
    r'.phase ≠ .supertypes ∧ r'.supertypes = r.supertypes ∧
      ∀ clause, r'.header.list clause = r.header.list clause := by
  simp only [Reader.text] at hr
  split at hr
  · obtain ⟨header, hheader, rfl⟩ := ok_of_map hr
    have hlists : header.extended = r.header.extended ∧
        header.implemented = r.header.implemented := by
      refine foldlM_induction
        (fun h => h.extended = r.header.extended ∧ h.implemented = r.header.implemented)
        (fun h h' word _ hh hk => ?_) ⟨rfl, rfl⟩ hheader
      obtain ⟨hextended, himplemented⟩ := types_of_keyword hk
      exact ⟨hextended.trans hh.1, himplemented.trans hh.2⟩
    refine ⟨?_, rfl, fun clause => by cases clause <;> simp [ClassHeader.list, hlists]⟩
    dsimp only
    split
    · decide
    · decide
  · split at hr
    · obtain rfl := Except.ok.inj hr
      exact ⟨hphase, rfl, fun _ => rfl⟩
    · cases hr
  · rename_i hsupertypes
    exact absurd hsupertypes hphase

/-- In front of the name nothing is written of the clauses, and nothing is added to their lists. -/
theorem run_of_children (hphase : r.phase ≠ .supertypes) (h : s.Run ts r.supertypes)
    (hr : nodes.foldlM Reader.child r = .ok r') :
    (∀ clause, r'.header.list clause = r.header.list clause) ∧
      s.Run (ts ++ (clauseNodes nodes).flatMap ClauseToken.ofNode) r'.supertypes := by
  induction nodes generalizing r with
  | nil =>
    obtain rfl := Except.ok.inj hr
    simpa [clauseNodes] using h
  | cons node nodes ih =>
    rw [List.foldlM_cons] at hr
    obtain ⟨next, hnext, hrest⟩ := ok_of_bind hr
    cases node with
    | text content =>
      obtain ⟨hnextPhase, hsupertypes, hlists⟩ := before_name hphase hnext
      obtain ⟨hrestLists, hrun⟩ := ih hnextPhase (hsupertypes ▸ h) hrest
      refine ⟨fun clause => (hrestLists clause).trans (hlists clause), ?_⟩
      simpa [clauseNodes, isElement] using hrun
    | comment content =>
      obtain rfl := Except.ok.inj hnext
      simpa [clauseNodes, isElement] using ih hphase h hrest
    | element tag attributes children =>
      have hname : next = { r with phase := .supertypes } := by
        simp only [Reader.child, Reader.element] at hnext
        split at hnext
        · exact (Except.ok.inj hnext).symm
        · exact (Except.ok.inj hnext).symm
        · rename_i hsupertypes
          exact absurd hsupertypes hphase
      subst hname
      have hnamed : s.Run ts { r with phase := .supertypes }.supertypes := h
      obtain ⟨hheader, hrun⟩ := run_of_nodes rfl hnamed hrest
      exact ⟨fun clause => by rw [hheader], by simpa [clauseNodes, isElement] using hrun⟩

/-- The tokens of the clauses of a page. -/
def clauseTokens (page : Element) : List ClauseToken :=
  ((Located.root page).select block).flatMap fun found =>
    (clauseNodes found.element.children).flatMap ClauseToken.ofNode

end Header.Google

namespace ClassHeader

/-- **What a page shows of its clauses**: their keywords, names and marks, in page order. -/
def clauseTokens : Layout → Element → List ClauseToken
  | .android, page => (Header.Android.clauseElements page).flatMap (·.shown)
  | .google, page => Header.Google.clauseTokens page

variable {layout : Layout} {limit : Option Nat} {page : Element} {h : ClassHeader}

/-- **The reading of a header is a run over the tokens of its clauses.** -/
theorem exists_run_of_ofPage (hpage : ofPage layout limit page = .ok h) :
    ∃ (s : Supertypes) (bare : ClassHeader),
      (Supertypes.start limit).Run (clauseTokens layout page) s ∧ s.finish bare = .ok h ∧
        ∀ clause, bare.list clause = [] := by
  have hempty : ∀ clause, ClassHeader.list {} clause = [] := by
    intro clause
    cases clause <;> rfl
  cases layout with
  | android =>
    obtain ⟨⟨bare, s⟩, hstate, hfinish⟩ := ok_of_bind hpage
    obtain ⟨hlists, hrun⟩ := Header.Android.run_of_elements .start hstate
    exact ⟨s, bare, hrun, hfinish, fun clause => (hlists clause).trans (hempty clause)⟩
  | google =>
    obtain ⟨found, hfound, hpage⟩ := ok_of_bind hpage
    obtain ⟨r, hr, hfinish⟩ := ok_of_bind hpage
    obtain ⟨hlists, hrun⟩ := Header.Google.run_of_children (by simp) .start hr
    have hselect : (Located.root page).select Header.Google.block = [found] := by
      unfold Located.selectSingle at hfound
      split at hfound
      · next heq => rw [heq, Except.ok.inj hfound]
      · cases hfound
    refine ⟨r.supertypes, r.header, ?_, hfinish,
      fun clause => (hlists clause).trans (hempty clause)⟩
    simpa [clauseTokens, Header.Google.clauseTokens, hselect] using hrun

/-- **The lists of a header.**  Whatever header is read, in either layout: all argument lists in its
clauses are closed, though not always by the clause that opens them, and the types of a clause have
the names under its keyword in their places, whichever clause of this keyword they stand in. -/
theorem closesLists_of_ofPage (hpage : ofPage layout limit page = .ok h) :
    ClosesLists (clauseTokens layout page) ∧
      ∀ clause, ∃ types, h.list clause = explicitTypes types ∧
        TypeName.placedAll 0 types =
          (Written.ofTokens (clauseTokens layout page)).under clause := by
  obtain ⟨s, bare, hrun, hfinish, hbare⟩ := exists_run_of_ofPage hpage
  refine ⟨hrun.closesLists hfinish, fun clause => ?_⟩
  obtain ⟨ts, hts, hlist⟩ := Supertypes.list_of_finish hfinish clause
  obtain ⟨held, hheld⟩ := (hrun.holds (Supertypes.holds_start limit)).list clause
  obtain ⟨all, rfl, hplaced⟩ := hheld.finish hts
  exact ⟨all, by rw [hlist, hbare, List.nil_append], hplaced⟩

/-- A list of a class that is gone on with behind an interface, in both layouts: the header is read,
and the type is complete. -/
theorem resumed_list :
    let anchor (path : String) : Node := .element "a" [("href", path)] []
    let clause (nodes : List Node) : Node := .element "code" [("class", "api-signature")] nodes
    let android : Element := ⟨"html", [],
      [clause [.text "public\n\n\n\nclass"],
        clause [.text "extends ", anchor "/reference/a/B.html", .text "<"],
        clause [.text "implements ", anchor "/reference/a/C.html"],
        clause [.text "extends ", anchor "/reference/a/D.html", .text ">"]]⟩
    let google : Element := ⟨"html", [],
      [.element "div" [("id", "jd-header")]
        [.text "public class", .element "h1" [] [.text "A"],
          .text "extends ", anchor "/reference/a/B.html", .text "< implements ",
          anchor "/reference/a/C.html", .text " extends ", anchor "/reference/a/D.html",
          .text ">"]]⟩
    let h : ClassHeader := ⟨.ofList [.publicAccess], some .classType,
      [⟨"a.B", [⟨"a.D", []⟩]⟩], [⟨"a.C", []⟩]⟩
    (ofPage .android none android = .ok h ∧ ¬ ClosesOwnLists (clauseTokens .android android)) ∧
      ofPage .google none google = .ok h ∧ ¬ ClosesOwnLists (clauseTokens .google google) := by
  intro anchor clause android google h
  let tokens : List ClauseToken := [.keyword .extending, .name "a.B", .mark .openList,
    .keyword .implementing, .name "a.C", .keyword .extending, .name "a.D", .mark .closeList]
  have hopen : ¬ ClosesOwnLists tokens := by
    intro hown
    have hnone := hown [.keyword .extending, .name "a.B", .mark .openList] .implementing
      [.name "a.C", .keyword .extending, .name "a.D", .mark .closeList] rfl
    cases hnone
  have handroid : clauseTokens .android android = tokens := by decide +kernel
  have hgoogle : clauseTokens .google google = tokens := by decide +kernel
  exact ⟨⟨by decide +kernel, handroid ▸ hopen⟩, by decide +kernel, hgoogle ▸ hopen⟩

/-- An interface in which each clause closes its own lists. -/
theorem closesLists_of_nested_arguments :
    let anchor (path : String) : Node := .element "a" [("href", path)] []
    let page : Element := ⟨"html", [],
      [.element "div" [("id", "jd-header")]
        [.text "public class", .element "h1" [] [.text "A"],
          .text "extends ", anchor "/reference/a/B.html", .text "<", anchor "/reference/a/C.html",
          .text "<", anchor "/reference/a/D.html", .text ">> implements ",
          anchor "/reference/a/E.html"]]⟩
    ∃ h, ofPage .google none page = .ok h ∧ ClosesLists (clauseTokens .google page) ∧
      ClosesOwnLists (clauseTokens .google page) ∧
      h.list .extending = [⟨"a.B", [⟨"a.C", [⟨"a.D", []⟩]⟩]⟩] := by
  intro anchor page
  let h : ClassHeader := ⟨.ofList [.publicAccess], some .classType,
    [⟨"a.B", [⟨"a.C", [⟨"a.D", []⟩]⟩]⟩], [⟨"a.E", []⟩]⟩
  have hpage : ofPage .google none page = .ok h := by decide +kernel
  have htokens : clauseTokens .google page = [.keyword .extending, .name "a.B", .mark .openList,
      .name "a.C", .mark .openList, .name "a.D", .mark .closeList, .mark .closeList,
      .keyword .implementing, .name "a.E"] := by decide +kernel
  obtain ⟨hcloses, -⟩ := closesLists_of_ofPage hpage
  refine ⟨h, hpage, hcloses, hcloses.once fun clause => ?_, rfl⟩
  rw [htokens]
  cases clause <;> decide

end ClassHeader

end ApiPages
