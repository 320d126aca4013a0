/-
# Signatures survive being written out

A signature of the shape of its kind, whose names are words that cannot be taken for anything else
(`Renderable`), is written out as the documented grammar has it (`spells_renderedTokens`).  So it
is read back from its text, and from any other way of writing it that the grammar has: with
anchors for names, with suffixes apart, with blanks and line ends anywhere between tokens
(`ofFragments_rendered`).
-/
import ApiPages.Proofs.Declaration.Modifiers
import ApiPages.Proofs.Signature.Acceptance
import ApiPages.Proofs.Signature.Rendering

namespace ApiPages

/-- Whether no argument list in the type has more than one argument. -/
def TypeName.isUnary : TypeName → Bool
  | ⟨_, []⟩ => true
  | ⟨_, [a]⟩ => a.isUnary
  | ⟨_, _ :: _ :: _⟩ => false

namespace Signature

/-! ## 1. Displayed types are written as documented -/

mutual

theorem writtenType_lexemes (place : Place) : (t : TypeName) →
    (place.hasCommas = true ∨ t.isUnary = true) →
    WrittenType place t (t.lexemes.map Token.ofLexeme)
  | ⟨n, []⟩, _ => by
    simpa [TypeName.lexemes, Token.ofLexeme] using
      @WrittenType.plain place n (.word n) [] (.word n) (by simp) (by simp)
  | ⟨n, first :: rest⟩, h => by
    have hone : rest = [] ∨ place.hasCommas = true := by
      cases rest with
      | nil => exact Or.inl rfl
      | cons => simpa [TypeName.isUnary] using h
    have hfirst : place.hasCommas = true ∨ first.isUnary = true := by
      rcases h with h | h
      · exact Or.inl h
      · cases rest with
        | nil => exact Or.inr h
        | cons => simp [TypeName.isUnary] at h
    have harguments :=
      writtenArguments_lexemes place rest hone (.one (writtenType_lexemes place first hfirst))
    have h := @WrittenType.generic place n (.word n) _ _ [] (.word n) harguments (by simp) (by simp)
    simpa [TypeName.lexemes, Token.ofLexeme] using h

theorem writtenArguments_lexemes (place : Place) : (rest : List TypeName) →
    (rest = [] ∨ place.hasCommas = true) → {as : List TypeName} → {ts : List Token} →
    WrittenArguments place as ts →
    WrittenArguments place (as ++ rest) (ts ++ (TypeName.lexemesRest rest).map Token.ofLexeme)
  | [], _, _, _, h => by simpa [TypeName.lexemesRest] using h
  | t :: rest, hrest, as, ts, h => by
    have hplace : place.hasCommas = true := by simpa using hrest
    have hmore := h.more hplace (writtenType_lexemes place t (Or.inl hplace))
    have hall := writtenArguments_lexemes place rest (Or.inr hplace) hmore
    simpa [TypeName.lexemesRest, Token.ofLexeme] using hall

end

/-! ## 2. The parts of a signature -/

theorem map_intercalate {α β : Type} (f : α → β) (sep : List α) (xs : List (List α)) :
    (sep.intercalate xs).map f = (sep.map f).intercalate (xs.map (·.map f)) := by
  induction xs with
  | nil => rfl
  | cons x xs ih => cases xs <;> simp_all

/-- One thing more, behind a comma. -/
theorem Listed.snoc {α : Type} {P : α → List Token → Prop} {as : List α} {a : α}
    {ts us : List Token} (h : Listed P as ts) (ha : P a us) :
    Listed P (as ++ [a]) (ts ++ .mark .comma :: us) := by
  cases h with
  | mk init last => simpa using Listed.mk (init.snoc last) ha

theorem Listed.append_intercalate {α : Type} {P : α → List Token → Prop} {f : α → List Token}
    {done as : List α} {ts : List Token} (h : Listed P done ts) (has : ∀ a ∈ as, P a (f a)) :
    Listed P (done ++ as) (ts ++ as.flatMap fun a => .mark .comma :: f a) := by
  induction as generalizing done ts with
  | nil => simpa using h
  | cons a as ih =>
    have hmore := ih (h.snoc (has a (by simp))) fun b hb => has b (by simp [hb])
    simpa using hmore

theorem intercalate_cons_eq {α β : Type} (sep : List β) (f : α → List β) (a : α) (as : List α) :
    sep.intercalate ((a :: as).map f) = f a ++ as.flatMap fun b => sep ++ f b := by
  induction as generalizing a with
  | nil => simp
  | cons b as ih => simpa using ih b

/-- Things with commas between them, of which there is at least one. -/
theorem listed_intercalate {α : Type} {P : α → List Token → Prop} {f : α → List Token} {as : List α}
    (h : ∀ a ∈ as, P a (f a)) (hne : as ≠ []) :
    Listed P as ([Token.mark .comma].intercalate (as.map f)) := by
  obtain ⟨a, as, rfl⟩ := List.exists_cons_of_ne_nil hne
  have hfirst : Listed P ([] ++ [a]) ([] ++ f a) := .mk .nil (h a (by simp))
  have hrest : ∀ b ∈ as, P b (f b) := fun b hb => h b (by simp [hb])
  rw [intercalate_cons_eq]
  simpa using hfirst.append_intercalate hrest

/-- Annotations, each on a line of its own. -/
theorem Preamble.append_annotations {G : Grammar} {ms : Modifiers} {as bs : List TypeName}
    {ts : List Token} {f : TypeName → List Token} (h : Preamble G ms as ts)
    (hbs : ∀ b ∈ bs, G.type .annotated b (f b)) :
    Preamble G ms (as ++ bs)
      (ts ++ bs.flatMap fun b => .mark .atSign :: f b ++ [.lineBreak]) := by
  induction bs generalizing as ts with
  | nil => simpa using h
  | cons b bs ih =>
    have hmore := ih (h.annotated (hbs b (by simp))) fun c hc => hbs c (by simp [hc])
    simpa using hmore

/-- Modifier keywords, in any order. -/
theorem Preamble.append_modifiers {G : Grammar} {ms : Modifiers} {as : List TypeName}
    {ts : List Token} (h : Preamble G ms as ts) (more : List Modifier) :
    Preamble G (more.foldl .insert ms) as (ts ++ more.map fun m => .word m.keyword) := by
  induction more generalizing ms ts with
  | nil => simpa using h
  | cons m more ih => simpa using ih (h.modifier m.ofKeyword?_keyword)

/-! ## 3. Signatures that can be read back -/

/-- The word that ends the modifiers: the name of a type, or that of a constructor. -/
def firstWord (s : Signature) : Option String := (s.returnType.map (·.name)).or s.name

/-- **A signature that can be written out and read back** as a member of its kind. -/
structure Renderable (kind : MemberKind) (limit : Option Nat) (s : Signature) : Prop where
  /-- Only a constructor has no type. -/
  returnType : s.returnType.isSome = true ↔ kind ≠ .constructor
  name : s.name.isSome = true
  field : kind = .field → s.parameters = [] ∧ s.exceptions = []
  modifiers : s.modifiers.otherBits = 0#16
  names : ∀ n ∈ s.names, IsName n
  firstWord : ∀ w ∈ s.firstWord, Modifier.ofKeyword? w = none
  /-- A name behind a type must not be taken for a part of it. -/
  memberName : kind ≠ .constructor → ∀ n ∈ s.name, isArraySuffix n = false
  parameterNames : ∀ p ∈ s.parameters, isArraySuffix p.name = false
  /-- In an annotation there are no commas. -/
  annotations : ∀ a ∈ s.annotations, a.isUnary = true
  depth : Within limit s.types

/-- The tokens up to the name. -/
def headingTokens (ms : List Modifier) (s : Signature) : List Token :=
  s.annotations.flatMap (fun a => .mark .atSign :: a.lexemes.map Token.ofLexeme ++ [.lineBreak]) ++
    (ms.map fun m => .word m.keyword) ++
    (s.returnType.toList.flatMap fun t => t.lexemes.map Token.ofLexeme) ++ s.name.toList.map .word

theorem renderedTokens_eq (kind : MemberKind) (ms : List Modifier) (s : Signature) :
    renderedTokens kind ms s = headingTokens ms s ++
      (parametersLexemes kind s.parameters).map Token.ofLexeme ++
      (throwsLexemes s.exceptions).map Token.ofLexeme := by
  simp [renderedTokens, headlineLexemes, headingTokens, List.map_flatMap, Function.comp_def,
    Token.ofLexeme]

section Parts

variable {kind : MemberKind} {limit : Option Nat} {s : Signature} {ms : List Modifier}

theorem heading_headingTokens (h : Renderable kind limit s)
    (hms : ∀ m, m ∈ ms ↔ s.modifiers.has m = true) :
    Heading .documented kind { s with parameters := [], exceptions := [] }
      (headingTokens ms s) := by
  have hannotations : ∀ a ∈ s.annotations,
      WrittenType .annotated a (a.lexemes.map Token.ofLexeme) := fun a ha =>
    writtenType_lexemes .annotated a (Or.inr (h.annotations a ha))
  have hnil : Preamble .documented .empty [] [] := .nil
  have hpreamble := (hnil.append_annotations hannotations).append_modifiers ms
  rw [show ms.foldl .insert .empty = s.modifiers from
    Modifiers.ofList_eq_of_mem_iff h.modifiers hms] at hpreamble
  obtain ⟨w, hw⟩ := Option.isSome_iff_exists.mp h.name
  cases htype : s.returnType with
  | none =>
    have hkind : kind = .constructor := by
      by_contra hkind
      simpa [htype] using h.returnType.mpr hkind
    have hkeyword : Modifier.ofKeyword? w = none := h.firstWord w (by simp [firstWord, htype, hw])
    subst hkind
    simpa [headingTokens, htype, hw] using Heading.constructor hpreamble hkeyword
  | some t =>
    have hkind : kind ≠ .constructor := h.returnType.mp (by simp [htype])
    have hkeyword : Modifier.ofKeyword? t.name = none :=
      h.firstWord t.name (by simp [firstWord, htype])
    have hwritten := writtenType_lexemes .returnType t (Or.inl rfl)
    have hfirst : ∀ u ∈ (t.lexemes.map Token.ofLexeme).head?, u.isKeyword = false := by
      obtain ⟨n, as⟩ := t
      cases as <;> simpa [TypeName.lexemes, Token.ofLexeme, Token.isKeyword] using hkeyword
    have hheading := Heading.typed hkind hpreamble hwritten hfirst (h.memberName hkind w hw)
    simpa [headingTokens, htype, hw] using hheading

theorem map_commaLexemes {α : Type} (f : α → List (Text.Lexeme Mark)) (as : List α) :
    (commaLexemes (as.map f)).map Token.ofLexeme =
      [Token.mark .comma].intercalate (as.map fun a => (f a).map Token.ofLexeme) := by
  simp [commaLexemes, map_intercalate, Token.ofLexeme, Function.comp_def]

theorem parameters_parametersLexemes (h : Renderable kind limit s) (hkind : kind ≠ .field) :
    ∃ us, Parameters .documented s.parameters us ∧
      (parametersLexemes kind s.parameters).map Token.ofLexeme =
        .mark .openParameters :: us ++ [.mark .closeParameters] := by
  refine ⟨(commaLexemes (s.parameters.map parameterLexemes)).map Token.ofLexeme, ?_,
    by simp [parametersLexemes, hkind, Token.ofLexeme]⟩
  by_cases hnone : s.parameters = []
  · simpa [hnone, commaLexemes] using Parameters.none
  · refine .some ?_
    rw [map_commaLexemes]
    refine listed_intercalate (fun p hp => ?_) hnone
    have hwritten : WrittenParameter p _ :=
      .mk (writtenType_lexemes .parameter p.type (Or.inl rfl)) (h.parameterNames p hp)
    simpa [parameterLexemes, Token.ofLexeme, Grammar.documented] using hwritten

theorem exceptions_throwsLexemes (s : Signature) :
    Exceptions .documented s.exceptions ((throwsLexemes s.exceptions).map Token.ofLexeme) := by
  by_cases hnone : s.exceptions = []
  · simpa [hnone, throwsLexemes] using Exceptions.none
  · have hlisted : Listed (WrittenType .exception) s.exceptions _ :=
      listed_intercalate (fun e _ => writtenType_lexemes .exception e (Or.inl rfl)) hnone
    rw [← map_commaLexemes] at hlisted
    simpa [throwsLexemes, hnone, Token.ofLexeme] using Exceptions.some hlisted

/-- **What is written out is spelled as documented.** -/
theorem spells_renderedTokens (h : Renderable kind limit s)
    (hms : ∀ m, m ∈ ms ↔ s.modifiers.has m = true) :
    Spells .documented kind s (renderedTokens kind ms s) := by
  have hheading := heading_headingTokens h hms
  rw [renderedTokens_eq]
  by_cases hkind : kind = .field
  · obtain ⟨hparameters, hexceptions⟩ := h.field hkind
    have hs : { s with parameters := [], exceptions := [] } = s := by
      rw [← hparameters, ← hexceptions]
    rw [hs] at hheading
    subst hkind
    simpa [hparameters, hexceptions, parametersLexemes, throwsLexemes] using Spells.field hheading
  · obtain ⟨us, hparameters, htokens⟩ := parameters_parametersLexemes h hkind
    have hmember := Spells.member hkind hheading hparameters (exceptions_throwsLexemes s)
    simpa [htokens] using hmember

end Parts

/-- **Signatures survive being written out**: the text of a signature is read as that signature,
and so is every other text that spells it as documented. -/
theorem ofFragments_rendered {kind : MemberKind} {limit : Option Nat} {s : Signature}
    {ms : List Modifier} (h : Renderable kind limit s)
    (hms : ∀ m, m ∈ ms ↔ s.modifiers.has m = true) :
    ofFragments kind limit (rendered kind ms s) = .ok s ∧
      ∀ fragments, Spells .documented kind s (Token.ofFragments fragments) →
        ofFragments kind limit fragments = .ok s := by
  have hspelled : ∀ fragments, Spells .documented kind s (Token.ofFragments fragments) →
      ofFragments kind limit fragments = .ok s :=
    fun fragments hspells => (ofTokens_of_documented hspells h.depth).1
  refine ⟨hspelled _ ?_, hspelled⟩
  rw [ofFragments_rendered_eq kind ms h.names]
  exact spells_renderedTokens h hms

theorem ofFragments_rendered_method :
    ∃ s, Renderable .method (some 2) s ∧
      (∀ m, m ∈ [.static, .publicAccess, .static] ↔ s.modifiers.has m = true) ∧
      ofFragments .method (some 2) (rendered .method [.static, .publicAccess, .static] s) =
        .ok s := by
  let s : Signature := {
    modifiers := .ofList [.publicAccess, .static]
    annotations := [⟨"Keep", [⟨"A", []⟩]⟩]
    returnType := some ⟨"Map", [⟨"String", []⟩, ⟨"List", [⟨"Integer[]", []⟩]⟩]⟩
    name := some "group"
    parameters := [⟨⟨"Collection", [⟨"Integer", []⟩]⟩, "values"⟩, ⟨⟨"int", []⟩, "size"⟩]
    exceptions := [⟨"IOException", []⟩] }
  have hms : ∀ m, m ∈ [.static, .publicAccess, .static] ↔ s.modifiers.has m = true := by
    intro m
    cases m <;> decide
  have h : Renderable .method (some 2) s := {
    returnType := by decide
    name := by decide
    field := by decide
    modifiers := by decide
    names := by decide +kernel
    firstWord := by decide
    memberName := by decide
    parameterNames := by decide
    annotations := by decide
    depth := by
      rintro t ht n ⟨⟩
      revert t
      decide }
  exact ⟨s, h, hms, (ofFragments_rendered h hms).1⟩

end Signature

end ApiPages
