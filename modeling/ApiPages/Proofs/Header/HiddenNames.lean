/-
# Names that a header does not read

A header of the Android layout records the names that it reads, each in its place.  It does not
read all of them.  In the text that starts a clause, what stands behind the keyword is passed over,
and an element that does not begin with that text is passed over as a whole
(`ClauseElement.hidden`).  No other names are lost (`recordsNames_of_ofPage`).
-/
import ApiPages.Proofs.Header.Names
import Mathlib.Data.List.Perm.Basic

namespace ApiPages

/-- The list of a clause in a header. -/
def ClassHeader.list (h : ClassHeader) : Clause → List TypeName
  | .extending => h.extended
  | .implementing => h.implemented

theorem Supertypes.list_of_finish {s : Supertypes} {h h' : ClassHeader} (hs : s.finish h = .ok h')
    (clause : Clause) :
    ∃ ts, (s.list clause).finish = .ok ts ∧ h'.list clause = h.list clause ++ ts := by
  obtain ⟨extended, hextended, hs⟩ := ok_of_bind hs
  obtain ⟨implemented, himplemented, rfl⟩ := ok_of_map hs
  cases clause with
  | extending => exact ⟨extended, hextended, rfl⟩
  | implementing => exact ⟨implemented, himplemented, rfl⟩

namespace Header.Android

open scoped List

/-! ## 1. Elements that start clauses -/

/-- Whether a node is text. -/
def isText : Node → Bool
  | .text _ => true
  | _ => false

/-- An element whose first text starts a clause. -/
structure ClauseElement where
  clause : Clause
  /-- The nodes before the first text. -/
  before : List Node
  /-- The first text. -/
  run : String
  behind : List Node

namespace ClauseElement

/-- The element as one that starts a clause, if it does. -/
def of? (e : Element) : Option ClauseElement :=
  match e.children.dropWhile (!isText ·) with
  | .text content :: behind =>
    (clauseOfRun? (Text.trimmed content)).map fun clause =>
      ⟨clause, e.children.takeWhile (!isText ·), Text.trimmed content, behind⟩
  | _ => none

/-- The tokens of the first text behind the keyword. -/
def runTokens (c : ClauseElement) : List ClauseToken := (ClauseToken.ofText c.run).tail

/-- The tokens of the nodes behind the first text. -/
def nodeTokens (c : ClauseElement) : List ClauseToken := c.behind.flatMap ClauseToken.ofNode

/-- All that is written behind the keyword. -/
def tokens (c : ClauseElement) : List ClauseToken := c.runTokens ++ c.nodeTokens

/-- **What is not read of it**: the rest of the first text, or everything if something stands before
that text. -/
def hidden (c : ClauseElement) : List ClauseToken :=
  if c.before.isEmpty then c.runTokens else c.tokens

/-- What is read of it. -/
def shown (c : ClauseElement) : List ClauseToken :=
  if c.before.isEmpty then .keyword c.clause :: c.nodeTokens else []

/-- All that is written, with the keyword. -/
def written (c : ClauseElement) : List ClauseToken := .keyword c.clause :: c.tokens

/-- An element that begins with nothing but the keyword. -/
structure IsPlain (c : ClauseElement) : Prop where
  before : c.before = []
  run : c.runTokens = []

instance (c : ClauseElement) : Decidable c.IsPlain :=
  decidable_of_iff (c.before.isEmpty ∧ c.runTokens = [])
    ⟨fun h => ⟨List.isEmpty_iff.mp h.1, h.2⟩, fun h => ⟨List.isEmpty_iff.mpr h.before, h.run⟩⟩

theorem IsPlain.shown_eq {c : ClauseElement} (h : c.IsPlain) : c.shown = c.written := by
  rw [shown, written, tokens, h.before, h.run]
  rfl

/-- What is shown and what is hidden is what is written. -/
theorem namesOf_written_perm (c : ClauseElement) :
    (ClauseToken.namesOf c.shown ++ ClauseToken.namesOf c.hidden).Perm
      (ClauseToken.namesOf c.written) := by
  have hkeyword (ts : List ClauseToken) :
      ClauseToken.namesOf (.keyword c.clause :: ts) = ClauseToken.namesOf ts := rfl
  rw [shown, hidden, written, hkeyword]
  split
  · rw [hkeyword, tokens, ClauseToken.namesOf_append]
    exact List.perm_append_comm
  · exact .refl _

/-- The names that are shown are written, each under a keyword. -/
theorem names_foldl_shown (cs : List ClauseElement) (w : Written) :
    ((cs.flatMap shown).foldl Written.step w).names.map (·.2.name) =
      w.names.map (·.2.name) ++ cs.flatMap fun c => ClauseToken.namesOf c.shown := by
  induction cs generalizing w with
  | nil => simp
  | cons c cs ih =>
    have hshown : (c.shown.foldl Written.step w).names.map (·.2.name) =
        w.names.map (·.2.name) ++ ClauseToken.namesOf c.shown := by
      rw [shown]
      split
      · exact (Written.names_foldl (w := w.step (.keyword c.clause)) rfl c.nodeTokens).2
      · simp [ClauseToken.namesOf]
    rw [List.flatMap_cons, List.foldl_append, ih, hshown, List.flatMap_cons, List.append_assoc]

end ClauseElement

/-- The elements of a page that start clauses. -/
def clauseElements (page : Element) : List ClauseElement :=
  ((Located.root page).select signatures).filterMap fun l => ClauseElement.of? l.element

/-! ## 2. The walk over a page -/

theorem tokens_of_children {s s' : Supertypes} {nodes : List Node}
    (h : nodes.foldlM clauseChild s = .ok s') :
    (nodes.flatMap ClauseToken.ofNode).foldlM Supertypes.token s = .ok s' := by
  induction nodes generalizing s with
  | nil => exact h
  | cons node nodes ih =>
    rw [List.foldlM_cons] at h
    obtain ⟨next, hnext, hrest⟩ := ok_of_bind h
    have hnode : (ClauseToken.ofNode node).foldlM Supertypes.token s = .ok next := by
      cases node with
      | text content => exact (s.text_eq_tokens content).symm.trans hnext
      | comment content => exact hnext
      | element tag attributes children => exact Supertypes.tokens_of_element hnext
    rw [List.flatMap_cons, List.foldlM_append, hnode]
    exact ih hrest

/-- An element that begins with a text starts the clause that the text names. -/
theorem of?_of_text {e : Element} {content : String} {behind : List Node}
    (h : e.children = .text content :: behind) :
    ClauseElement.of? e = (clauseOfRun? (Text.trimmed content)).map fun clause =>
      ⟨clause, [], Text.trimmed content, behind⟩ := by
  simp [ClauseElement.of?, h, isText]

/-- Nothing is shown of an element that does not begin with a text. -/
theorem shown_of_not_text {e : Element} {c : ClauseElement}
    (h : ∀ content behind, e.children ≠ .text content :: behind)
    (hc : ClauseElement.of? e = some c) : c.shown = [] := by
  unfold ClauseElement.of? at hc
  split at hc
  · obtain ⟨clause, -, rfl⟩ := Option.map_eq_some_iff.mp hc
    cases hchildren : e.children with
    | nil => simp_all
    | cons node nodes =>
      have hnode : isText node = false := by
        cases node with
        | text content => exact absurd hchildren (h content nodes)
        | comment content => rfl
        | element tag attributes children => rfl
      simp [ClauseElement.shown, hnode]
  · cases hc

section

variable {state state' : ClassHeader × Supertypes} {s : Supertypes} {ts : List ClauseToken}

/-- **One of the elements of a header**: the run goes on over what is shown of it, and nothing is
added to the header yet. -/
theorem run_of_element {l : Located} (h : s.Run ts state.2) (hl : element state l = .ok state') :
    (∀ clause, state'.1.list clause = state.1.list clause) ∧
      s.Run (ts ++ (ClauseElement.of? l.element).toList.flatMap (·.shown)) state'.2 := by
  obtain ⟨header, current⟩ := state
  simp only [element] at hl
  split at hl
  · rename_i content behind hchildren
    rw [of?_of_text hchildren]
    split at hl
    · rename_i hempty
      obtain rfl := Except.ok.inj hl
      rw [hempty]
      exact ⟨fun _ => rfl, by simpa [clauseOfRun?, Text.after?, Clause.keyword] using h⟩
    · split at hl
      · rename_i clause hclause
        obtain ⟨started, hstarted, hl⟩ := ok_of_bind hl
        obtain ⟨continued, hcontinued, hl⟩ := ok_of_bind hl
        obtain ⟨committed, hcommitted, rfl⟩ := ok_of_map hl
        have hkeyword : s.Run (ts ++ [.keyword clause]) started :=
          h.token (t := .keyword clause) hstarted
        have hnodes := (hkeyword.tokens (tokens_of_children hcontinued)).commit hcommitted
        rw [hclause]
        exact ⟨fun _ => rfl, by simpa [ClauseElement.shown, ClauseElement.nodeTokens] using hnodes⟩
      · rename_i hclause
        obtain ⟨recorded, hrecorded, rfl⟩ := ok_of_map hl
        obtain ⟨hextended, himplemented⟩ := types_of_record hrecorded
        rw [hclause]
        exact ⟨fun clause => by cases clause <;> assumption, by simpa using h⟩
  · rename_i hchildren
    obtain rfl := Except.ok.inj hl
    refine ⟨fun _ => rfl, ?_⟩
    cases hof : ClauseElement.of? l.element with
    | none => simpa using h
    | some c => simpa [shown_of_not_text hchildren hof] using h

/-- The elements of a header, one after the other. -/
theorem run_of_elements {ls : List Located} (h : s.Run ts state.2)
    (hls : ls.foldlM element state = .ok state') :
    (∀ clause, state'.1.list clause = state.1.list clause) ∧
      s.Run (ts ++ (ls.filterMap fun l => ClauseElement.of? l.element).flatMap (·.shown))
        state'.2 := by
  induction ls generalizing state ts with
  | nil => simpa [← Except.ok.inj hls] using h
  | cons l ls ih =>
    rw [List.foldlM_cons] at hls
    obtain ⟨next, hnext, hrest⟩ := ok_of_bind hls
    obtain ⟨hlists, hnextRun⟩ := run_of_element h hnext
    obtain ⟨hlists', hstate'⟩ := ih hnextRun hrest
    refine ⟨fun clause => (hlists' clause).trans (hlists clause), ?_⟩
    rw [List.filterMap_cons]
    cases hof : ClauseElement.of? l.element <;> simpa [hof] using hstate'

theorem holds_of_elements {w : Written} {ls : List Located} (h : state.2.Holds w)
    (hls : ls.foldlM element state = .ok state') :
    (∀ clause, state'.1.list clause = state.1.list clause) ∧
      state'.2.Holds (((ls.filterMap fun l => ClauseElement.of? l.element).flatMap
        (·.shown)).foldl Written.step w) := by
  obtain ⟨hlists, hrun⟩ := run_of_elements .start hls
  exact ⟨hlists, hrun.holds h⟩

end

/-! ## 3. What a header records -/

/-- The names that a page writes behind the keywords of its clauses. -/
def writtenNames (page : Element) : List String :=
  (clauseElements page).flatMap fun c => ClauseToken.namesOf c.written

/-- The names that a page writes where they are not read. -/
def hiddenNames (page : Element) : List String :=
  (clauseElements page).flatMap fun c => ClauseToken.namesOf c.hidden

/-- **How a header records the names that a page writes**, where `types` are the types of its
clauses with those that go without saying. -/
structure RecordsNames (page : Element) (h : ClassHeader) (types : Clause → List TypeName) :
    Prop where
  /-- The header has these types. -/
  lists : ∀ clause, h.list clause = explicitTypes (types clause)
  /-- Each name that is shown is in the list of its clause, in order and in its place. -/
  recorded : ∀ clause, TypeName.placedAll 0 (types clause) =
    (Written.ofTokens ((clauseElements page).flatMap (·.shown))).under clause
  /-- There are no other types with these names in these places. -/
  unique : ∀ clause ts, TypeName.placedAll 0 ts =
    (Written.ofTokens ((clauseElements page).flatMap (·.shown))).under clause → ts = types clause
  /-- The recorded names and the hidden ones are those that are written. -/
  accounted : (TypeName.namesAll (types .extending) ++ TypeName.namesAll (types .implementing) ++
    hiddenNames page).Perm (writtenNames page)
  /-- So no name is lost exactly if none is hidden. -/
  complete_iff : (TypeName.namesAll (types .extending) ++
    TypeName.namesAll (types .implementing)).Perm (writtenNames page) ↔ hiddenNames page = []
  /-- If every clause begins with nothing but its keyword, every name that is written is in the list
  of its clause, in order and in its place. -/
  complete : (∀ c ∈ clauseElements page, c.IsPlain) → ∀ clause,
    TypeName.placedAll 0 (types clause) =
      (Written.ofTokens ((clauseElements page).flatMap (·.written))).under clause

/-- **A header records the names that are shown**, and no others. -/
theorem recordsNames_of_ofPage {limit : Option Nat} {page : Element} {h : ClassHeader}
    (hpage : ofPage limit page = .ok h) : ∃ types, RecordsNames page h types := by
  obtain ⟨⟨header, s⟩, hstate, hfinish⟩ := ok_of_bind hpage
  obtain ⟨hlists, hs⟩ := holds_of_elements (Supertypes.holds_start limit) hstate
  have htypes : ∀ clause, ∃ ts, h.list clause = explicitTypes ts ∧ TypeName.placedAll 0 ts =
      (Written.ofTokens ((clauseElements page).flatMap (·.shown))).under clause := by
    intro clause
    obtain ⟨ts, hts, hlist⟩ := Supertypes.list_of_finish hfinish clause
    obtain ⟨held, hheld⟩ := hs.list clause
    obtain ⟨all, rfl, hplaced⟩ := hheld.finish hts
    have hempty : header.list clause = [] := (hlists clause).trans (by cases clause <;> rfl)
    exact ⟨all, by rw [hlist, hempty, List.nil_append], hplaced⟩
  choose types hlist hrecorded using htypes
  have haccounted : (TypeName.namesAll (types .extending) ++
      TypeName.namesAll (types .implementing) ++ hiddenNames page).Perm (writtenNames page) := by
    rw [← TypeName.map_name_placedAll 0, ← TypeName.map_name_placedAll 0, hrecorded, hrecorded]
    have hshown := ClauseElement.names_foldl_shown (clauseElements page) {}
    calc
      _ ~ ((clauseElements page).flatMap fun c => ClauseToken.namesOf c.shown) ++
            hiddenNames page := (hshown ▸ Written.names_under_perm _).append_right _
      _ ~ (clauseElements page).flatMap fun c =>
            ClauseToken.namesOf c.shown ++ ClauseToken.namesOf c.hidden :=
          List.flatMap_append_perm _ _ _
      _ ~ writtenNames page := List.Perm.flatMap_left _ fun c _ => c.namesOf_written_perm
  have hunique (clause : Clause) (ts : List TypeName) (hts : TypeName.placedAll 0 ts =
      (Written.ofTokens ((clauseElements page).flatMap (·.shown))).under clause) :
      ts = types clause := TypeName.placedAll_inj (hts.trans (hrecorded clause).symm)
  refine ⟨types, ⟨hlist, hrecorded, hunique, haccounted,
    ⟨fun hperm => ?_, fun hhidden => ?_⟩, ?_⟩⟩
  · have hlength := haccounted.length_eq
    rw [List.length_append, hperm.length_eq] at hlength
    exact List.eq_nil_of_length_eq_zero (by omega)
  · simpa [hhidden] using haccounted
  · intro hplain clause
    rw [hrecorded, List.flatMap_congr fun c hc => (hplain c hc).shown_eq]

/-- Nested arguments, and a clause that is gone back to. -/
theorem recordsNames_of_nested_arguments :
    let anchor (path shown : String) : Node := .element "a" [("href", path)] [.text shown]
    let clause (nodes : List Node) : Node := .element "code" [("class", "api-signature")] nodes
    let page : Element := ⟨"html", [],
      [clause [.text "public\n\n\n\nclass"],
        clause [.text " extends ", anchor "/reference/a/Base.html" "Base", .text "<K,",
          anchor "/reference/a/Map.html" "Map", .text "<V>> implements B"],
        clause [.text "implements", .comment "none", .text "\nC, "]]⟩
    let h : ClassHeader := ⟨.ofList [.publicAccess], some .classType,
      [⟨"a.Base", [⟨"K", []⟩, ⟨"a.Map", [⟨"V", []⟩]⟩]⟩], [⟨"B", []⟩, ⟨"C", []⟩]⟩
    ofPage (some 2) page = .ok h ∧ (∀ c ∈ clauseElements page, c.IsPlain) ∧
      ∃ types, RecordsNames page h types ∧
        TypeName.placedAll 0 (types .extending) =
          [⟨"a.Base", 0⟩, ⟨"K", 1⟩, ⟨"a.Map", 1⟩, ⟨"V", 2⟩] := by
  intro anchor clause page h
  have hpage : ofPage (some 2) page = .ok h := by decide +kernel
  have hplain : ∀ c ∈ clauseElements page, c.IsPlain := by decide +kernel
  obtain ⟨types, htypes⟩ := recordsNames_of_ofPage hpage
  exact ⟨hpage, hplain, types, htypes, (htypes.complete hplain _).trans (by decide +kernel)⟩

/-- A name behind the keyword, in the same text: it is lost. -/
theorem lost_name :
    let page : Element := ⟨"html", [],
      [.element "code" [("class", "api-signature")] [.text "public\n\n\n\nclass\n"],
        .element "code" [("class", "api-signature")] [.text "extends com.example.Base"]]⟩
    ∃ h, ofPage none page = .ok h ∧ writtenNames page = ["com.example.Base"] ∧
      ∀ clause, h.list clause = [] :=
  ⟨⟨.ofList [.publicAccess], some .classType, [], []⟩, by decide +kernel, by decide +kernel,
    fun clause => by cases clause <;> rfl⟩

end Header.Android

end ApiPages
