/-
# The names under a keyword

The texts and anchors of a header write names, each under a keyword, and its marks say in how many
argument lists a name stands (`Written`).  While the clauses are read, their lists have the names
that have been written so far, each in its place: those of the finished types, and those of the
pending one (`SupertypeList.Holds`).  Every token keeps it so (`Supertypes.Holds.token`), and so
does a run over all tokens of a header (`Supertypes.Run.holds`); at the end of a list its types have
the names that stand under its keyword.
-/
import ApiPages.Proofs.Header.Clause
import ApiPages.Proofs.Header.Supertypes
import ApiPages.Proofs.Signature.Places

namespace ApiPages

/-! ## 1. Lists of types -/

namespace SupertypeList

variable {l l' : SupertypeList} {type : TypeStack} {ts : List TypeName} {depth : Nat}
  {names : List PlacedName}

/-- The frames of the pending type. -/
def frames (l : SupertypeList) : List TypeFrame := (l.pending.map (·.frames)).getD []

/-- **What a list has of the names that have been read**: the types `ts` are finished, and the
pending type has the other names. -/
structure Holds (ts : List TypeName) (depth : Nat) (names : List PlacedName) (l : SupertypeList) :
    Prop where
  types : l.types = explicitTypes ts
  namedFirst : ∀ f ∈ l.frames, f.NamedFirst
  depth_eq : l.frames.length - 1 = depth
  placed : TypeName.placedAll 0 ts ++ TypeFrame.placedAll l.frames = names

theorem holds_start (limit : Option Nat) : (start limit).Holds [] 0 [] :=
  ⟨rfl, by simp [frames, start], rfl, rfl⟩

theorem Holds.typeStep (h : l.Holds ts depth names) (htype : l.pending = some type)
    {step : TypeStep} (hstep : ∀ w, step ≠ .appendSuffix w) (hl : l.typeStep type step = .ok l') :
    l'.Holds ts (step.depthBehind depth) (names ++ step.placed depth) := by
  obtain ⟨next, hdone, rfl⟩ := ok_of_typeStep hl
  have hframes : l.frames = type.frames := by simp [frames, htype]
  obtain ⟨hnamed, hdepth, hplaced⟩ :=
    (TypeStack.frames_of_step hdone).placed hstep (hframes ▸ h.namedFirst)
  rw [← hframes, h.depth_eq] at hdepth hplaced
  refine ⟨h.types, hnamed, hdepth, ?_⟩
  rw [← h.placed, List.append_assoc, ← hplaced]
  rfl

/-- The pending type becomes the last finished one. -/
theorem Holds.endPending (h : l.Holds ts depth names) (hl : l.endPending = .ok l') :
    (∃ us, l'.Holds us depth names) ∧ l'.pending = none := by
  obtain ⟨hnone, rfl⟩ | ⟨type, t, htype, ht, rfl⟩ := ok_of_endPending hl
  · exact ⟨⟨ts, h⟩, hnone⟩
  · have hframes : l.frames = [.finished t] := by
      simpa [frames, htype] using TypeStack.toType_eq_ok_iff.mp ht
    have hpending : (record { l with pending := none } t).pending = none := by
      unfold record
      split <;> rfl
    have htypes : (record { l with pending := none } t).types = explicitTypes (ts ++ [t]) := by
      by_cases hexplicit : t.name ∈ implicitSupertypes <;>
        simp [record, explicitTypes, hexplicit, h.types]
    refine ⟨⟨ts ++ [t], htypes, by simp [frames, hpending], ?_, ?_⟩, hpending⟩
    · rw [← h.depth_eq, hframes]
      simp [frames, hpending]
    · rw [← h.placed, hframes]
      simp [frames, hpending, TypeName.placedAll_append, TypeName.placedAll, TypeFrame.placedAll,
        TypeFrame.placed_of_toType (TypeFrame.toType_finished t)]

theorem Holds.commit (h : l.Holds ts depth names) (hl : l.commit = .ok l') :
    ∃ us, l'.Holds us depth names := by
  obtain rfl | hended := ok_of_commit hl
  · exact ⟨ts, h⟩
  · exact (h.endPending hended).1

/-- A name is added at the end, as deep as the list is open. -/
theorem Holds.name (h : l.Holds ts depth names) {n : String} (hl : l.name n = .ok l') :
    ∃ us, l'.Holds us depth (names ++ [⟨n, depth⟩]) := by
  obtain ⟨type, htype, hstep⟩ | ⟨ended, hended, hstep⟩ := ok_of_name hl
  · exact ⟨ts, h.typeStep htype (by simp) hstep⟩
  · obtain ⟨⟨us, hus⟩, hpending⟩ := h.endPending hended
    -- a type of which nothing has been read has no names yet
    have hstarted : Holds us depth names { ended with pending := some (.start l.limit) } :=
      ⟨hus.types, by simp [frames, TypeFrame.NamedFirst],
        by simpa [frames, hpending] using hus.depth_eq,
        by simpa [frames, hpending, TypeFrame.placedAll] using hus.placed⟩
    exact ⟨us, hstarted.typeStep rfl (by simp) hstep⟩

/-- A mark adds no name. -/
theorem Holds.mark (h : l.Holds ts depth names) {m : ClauseMark} (hl : m.apply l = .ok l') :
    ∃ us, l'.Holds us (m.step.depthBehind depth) names := by
  obtain ⟨type, htype, hstep⟩ | ⟨rfl, hcommit⟩ := ok_of_mark hl
  · have hsuffix : ∀ w, m.step ≠ .appendSuffix w := by cases m <;> simp [ClauseMark.step]
    have hplaced : m.step.placed depth = [] := by cases m <;> rfl
    exact ⟨ts, by simpa [hplaced] using h.typeStep htype hsuffix hstep⟩
  · exact h.commit hcommit

/-- **At its end a list has the names that have been read**, each in its place. -/
theorem Holds.finish (h : l.Holds ts depth names) {us : List TypeName} (hl : l.finish = .ok us) :
    ∃ all, us = explicitTypes all ∧ TypeName.placedAll 0 all = names := by
  obtain ⟨ended, hended, rfl⟩ := ok_of_map hl
  obtain ⟨⟨all, hall⟩, hpending⟩ := h.endPending hended
  exact ⟨all, hall.types, by simpa [frames, hpending, TypeFrame.placedAll] using hall.placed⟩

end SupertypeList

/-! ## 2. Clauses -/

/-- What a reader of clauses meets. -/
inductive ClauseToken where
  | keyword (clause : Clause)
  | name (name : String)
  | mark (mark : ClauseMark)
  deriving Repr, DecidableEq

namespace ClauseToken

/-- The name that a token is, if it is one. -/
def name? : ClauseToken → Option String
  | name n => some n
  | _ => none

/-- The names among tokens. -/
def namesOf (ts : List ClauseToken) : List String := ts.filterMap name?

theorem namesOf_append (ts us : List ClauseToken) :
    namesOf (ts ++ us) = namesOf ts ++ namesOf us :=
  List.filterMap_append

/-- A word names a type unless it is a keyword. -/
def ofLexeme : Text.Lexeme ClauseMark → ClauseToken
  | .word w =>
    match Clause.ofKeyword? w with
    | some clause => keyword clause
    | none => name w
  | .mark m => mark m

/-- The tokens of a text. -/
def ofText (content : String) : List ClauseToken :=
  (Text.lexemes ClauseMark.ofChar? content).map ofLexeme

/-- The tokens of an element: an anchor is the name of the class that it leads to. -/
def ofElement (e : Element) : List ClauseToken :=
  if e.tag = "a" then
    match e.classReference.bind (·.typeName) with
    | .ok type => [name type.name]
    | .error _ => []
  else ofText e.line

/-- The tokens of a node. -/
def ofNode : Node → List ClauseToken
  | .text content => ofText content
  | .comment _ => []
  | .element tag attributes children => ofElement ⟨tag, attributes, children⟩

end ClauseToken

/-- The names that have been written: under which keyword each of them stands, and where.  Each
clause has its own open lists, which the other one does not close. -/
structure Written where
  current : Option Clause := none
  depth : Clause → Nat := fun _ => 0
  names : List (Clause × PlacedName) := []

namespace Written

/-- One more token. -/
def step (w : Written) : ClauseToken → Written
  | .keyword clause => { w with current := some clause }
  | .name n =>
    match w.current with
    | some clause => { w with names := w.names ++ [(clause, ⟨n, w.depth clause⟩)] }
    | none => w
  | .mark m =>
    match w.current with
    | some clause => { w with
        depth := fun c => if c = clause then m.step.depthBehind (w.depth c) else w.depth c }
    | none => w

/-- The names under a keyword. -/
def under (w : Written) (clause : Clause) : List PlacedName :=
  (w.names.filter (·.1 = clause)).map (·.2)

/-- Every name stands under one of the keywords. -/
theorem names_under_perm (w : Written) :
    ((w.under .extending).map (·.name) ++ (w.under .implementing).map (·.name)).Perm
      (w.names.map (·.2.name)) := by
  have hother : w.names.filter (·.1 = .implementing) =
      w.names.filter fun n => !decide (n.1 = .extending) :=
    List.filter_congr fun n _ => by cases n.1 <;> rfl
  rw [under, under, hother, List.map_map, List.map_map, ← List.map_append]
  exact (List.filter_append_perm _ w.names).map _

/-- What tokens write. -/
def ofTokens (ts : List ClauseToken) : Written := ts.foldl step {}

/-- Behind a keyword all names are written. -/
theorem names_foldl {w : Written} (hw : w.current.isSome) (ts : List ClauseToken) :
    (ts.foldl step w).current.isSome ∧
      (ts.foldl step w).names.map (·.2.name) =
        w.names.map (·.2.name) ++ ClauseToken.namesOf ts := by
  induction ts generalizing w with
  | nil => simp [hw, ClauseToken.namesOf]
  | cons t ts ih =>
    obtain ⟨clause, hclause⟩ := Option.isSome_iff_exists.mp hw
    have hstep : (w.step t).current.isSome ∧ (w.step t).names.map (·.2.name) =
        w.names.map (·.2.name) ++ (ClauseToken.name? t).toList := by
      cases t <;> simp [step, hclause, ClauseToken.name?]
    obtain ⟨hcurrent, hnames⟩ := ih hstep.1
    refine ⟨hcurrent, ?_⟩
    rw [List.foldl_cons, hnames, hstep.2, List.append_assoc, ClauseToken.namesOf,
      ClauseToken.namesOf, List.filterMap_cons]
    cases ClauseToken.name? t <;> rfl

end Written

namespace Supertypes

variable {s s' : Supertypes} {w : Written}

/-- **What a token does to the clauses**, where bare names are allowed. -/
def token (s : Supertypes) : ClauseToken → Except Failure Supertypes
  | .keyword clause => s.goto clause
  | .name n => s.onList n (·.name n)
  | .mark m => s.onList m.text m.apply

theorem lexeme_eq_token (s : Supertypes) (l : Text.Lexeme ClauseMark) :
    s.lexeme true l = s.token (.ofLexeme l) := by
  cases l with
  | mark m => rfl
  | word w =>
    cases hw : Clause.ofKeyword? w <;> simp [lexeme, word, ClauseToken.ofLexeme, hw, token]

theorem text_eq_tokens (s : Supertypes) (content : String) :
    s.text true content = (ClauseToken.ofText content).foldlM token s := by
  rw [text, ClauseToken.ofText, List.foldlM_map]
  exact congrArg (fun f => List.foldlM f s _) (funext fun s => funext (lexeme_eq_token s))

theorem tokens_of_element {e : Element} (h : s.element true e = .ok s') :
    (ClauseToken.ofElement e).foldlM token s = .ok s' := by
  rw [element] at h
  rw [ClauseToken.ofElement]
  split
  · rename_i htag
    rw [if_pos htag] at h
    obtain ⟨reference, hreference, h⟩ := ok_of_bind h
    obtain ⟨type, htype, h⟩ := ok_of_bind h
    simp only [hreference, Except.bind, htype, List.foldlM_cons, token, h]
    rfl
  · rename_i htag
    rw [if_neg htag] at h
    rw [← text_eq_tokens, h]

/-- **What the clauses have of what has been written.** -/
structure Holds (w : Written) (s : Supertypes) : Prop where
  current : s.clause = w.current
  list : ∀ clause, ∃ ts, (s.list clause).Holds ts (w.depth clause) (w.under clause)

theorem holds_start (limit : Option Nat) : (start limit).Holds {} where
  current := rfl
  list clause := ⟨[], by cases clause <;> exact SupertypeList.holds_start limit⟩

theorem ok_of_onList {token : String} {change : SupertypeList → Except Failure SupertypeList}
    (h : s.onList token change = .ok s') :
    ∃ clause l,
      s.clause = some clause ∧ change (s.list clause) = .ok l ∧ s' = s.focus clause l := by
  unfold onList at h
  split at h
  · rename_i hclause
    obtain ⟨l, hl, rfl⟩ := ok_of_map h
    exact ⟨.extending, l, hclause, hl, by rw [focus, hclause]⟩
  · rename_i hclause
    obtain ⟨l, hl, rfl⟩ := ok_of_map h
    exact ⟨.implementing, l, hclause, hl, by rw [focus, hclause]⟩
  · cases h

/-- A change of the current list; the other one stays as it is. -/
theorem Holds.focus {w' : Written} (h : s.Holds w) {clause : Clause} {l : SupertypeList}
    (hcurrent : w'.current = some clause)
    (hl : ∃ ts, l.Holds ts (w'.depth clause) (w'.under clause))
    (hother : ∀ other, other ≠ clause →
      w'.depth other = w.depth other ∧ w'.under other = w.under other) :
    (s.focus clause l).Holds w' where
  current := by rw [hcurrent]; cases clause <;> rfl
  list other := by
    rw [list_focus]
    by_cases hsame : other = clause
    · subst hsame
      rwa [if_pos rfl]
    · rw [if_neg hsame, (hother other hsame).1, (hother other hsame).2]
      exact h.list other

theorem Holds.commit (h : s.Holds w) (hs : s.commit = .ok s') : s'.Holds w := by
  obtain ⟨clause, l, hclause, hl, rfl⟩ := ok_of_onList hs
  obtain ⟨ts, hts⟩ := h.list clause
  exact h.focus (h.current ▸ hclause) (hts.commit hl) fun _ _ => ⟨rfl, rfl⟩

/-- **A token adds to the clauses what it writes.** -/
theorem Holds.token {t : ClauseToken} (h : s.Holds w) (hs : s.token t = .ok s') :
    s'.Holds (w.step t) := by
  cases t with
  | keyword clause =>
    obtain ⟨ended, hended, rfl⟩ := ok_of_goto hs
    have hholds : ended.Holds w := hended.elim (fun heq => heq ▸ h) h.commit
    exact ⟨rfl, fun other => by cases other <;> exact hholds.list _⟩
  | name n =>
    simp only [Supertypes.token] at hs
    obtain ⟨clause, l, hclause, hl, rfl⟩ := ok_of_onList hs
    have hcurrent : w.current = some clause := h.current ▸ hclause
    obtain ⟨ts, hts⟩ := h.list clause
    refine h.focus (by simp [Written.step, hcurrent]) ?_ fun other hother => ?_
    · simpa [Written.step, hcurrent, Written.under] using hts.name hl
    · simp [Written.step, hcurrent, Written.under, Ne.symm hother]
  | mark m =>
    simp only [Supertypes.token] at hs
    obtain ⟨clause, l, hclause, hl, rfl⟩ := ok_of_onList hs
    have hcurrent : w.current = some clause := h.current ▸ hclause
    obtain ⟨ts, hts⟩ := h.list clause
    refine h.focus (by simp [Written.step, hcurrent]) ?_ fun other hother => ?_
    · simpa [Written.step, hcurrent, Written.under] using hts.mark hl
    · simp [Written.step, hcurrent, Written.under, hother]

/-- **A run over tokens**: what the clauses may have become once the tokens have been read.  The end
of an element ends the pending type of the current clause, but is no token. -/
inductive Run (s : Supertypes) : List ClauseToken → Supertypes → Prop
  | start : Run s [] s
  | token {ts : List ClauseToken} {t : ClauseToken} {s' s'' : Supertypes} (h : Run s ts s')
      (ht : s'.token t = .ok s'') : Run s (ts ++ [t]) s''
  | commit {ts : List ClauseToken} {s' s'' : Supertypes} (h : Run s ts s')
      (hcommit : s'.commit = .ok s'') : Run s ts s''

theorem Run.tokens {s'' : Supertypes} {ts us : List ClauseToken} (h : s.Run ts s')
    (hs : us.foldlM Supertypes.token s' = .ok s'') : s.Run (ts ++ us) s'' := by
  induction us generalizing ts s' with
  | nil => simpa [Except.ok.inj hs] using h
  | cons u us ih =>
    rw [List.foldlM_cons] at hs
    obtain ⟨next, hnext, hrest⟩ := ok_of_bind hs
    simpa using ih (h.token hnext) hrest

/-- **The clauses have what has been written at every place of a run.** -/
theorem Run.holds {ts : List ClauseToken} (h : s.Run ts s') (hs : s.Holds w) :
    s'.Holds (ts.foldl Written.step w) := by
  induction h with
  | start => exact hs
  | token _ ht ih =>
    rw [List.foldl_append]
    exact ih.token ht
  | commit _ hcommit ih => exact ih.commit hcommit

end Supertypes

end ApiPages
