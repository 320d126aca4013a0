/-
# Signatures as text

A signature written out: each annotation on a line of its own, then the modifier keywords, the
type, the name, the parameters and the exceptions, types as they are displayed (`rendered`).  If
all names are plain words the text falls into the tokens that one expects
(`ofFragments_rendered_eq`).
-/
import ApiPages.Proofs.Signature.Limit
import ApiPages.Proofs.Text.Lexeme

namespace ApiPages

open Text (Lexes EndsWord IsPlainWord)

/-! ## 1. Displayed types -/

namespace TypeName

mutual

/-- All base names in a type. -/
def names : TypeName → List String
  | ⟨name, arguments⟩ => name :: namesAll arguments

/-- All base names in a list of types. -/
def namesAll : List TypeName → List String
  | [] => []
  | t :: rest => t.names ++ namesAll rest

end

mutual

/-- What a displayed type consists of. -/
def lexemes : TypeName → List (Text.Lexeme Signature.Mark)
  | ⟨name, []⟩ => [.word name]
  | ⟨name, first :: rest⟩ =>
    .word name :: .mark .openList :: (first.lexemes ++ lexemesRest rest ++ [.mark .closeList])

/-- The arguments after the first, each after a comma. -/
def lexemesRest : List TypeName → List (Text.Lexeme Signature.Mark)
  | [] => []
  | t :: rest => .mark .comma :: (t.lexemes ++ lexemesRest rest)

end

end TypeName

namespace Signature

/-- A name that is a word of the text of a signature. -/
def IsName (name : String) : Prop := IsPlainWord Mark.ofChar? name.toList

instance (name : String) : Decidable (IsName name) :=
  inferInstanceAs (Decidable (IsPlainWord Mark.ofChar? name.toList))

theorem lexes_name {name : String} (h : IsName name) :
    Lexes Mark.ofChar? name.toList [.word name] := by
  simpa using Lexes.word h

section Marks

variable {cs : List Char} {ls : List (Text.Lexeme Mark)}

theorem lexes_blank (h : Lexes Mark.ofChar? cs ls) : Lexes Mark.ofChar? (' ' :: cs) ls :=
  h.cons_blank rfl (by decide)

theorem lexes_mark (m : Mark) (h : Lexes Mark.ofChar? cs ls) :
    Lexes Mark.ofChar? (m.char :: cs) (.mark m :: ls) := h.cons_mark m.ofChar?_char

theorem endsWord_blank : EndsWord Mark.ofChar? (' ' :: cs) := by
  simp [EndsWord, Text.isBlank, Text.inIntervals, Text.blankIntervals]

theorem endsWord_mark (m : Mark) : EndsWord Mark.ofChar? (m.char :: cs) := by
  simp [EndsWord, m.ofChar?_char]

end Marks

mutual

/-- **A displayed type is read as what it consists of.** -/
theorem lexes_display : (t : TypeName) → (∀ n ∈ t.names, IsName n) →
    Lexes Mark.ofChar? t.display.toList t.lexemes
  | ⟨name, []⟩, h => by
    simpa [TypeName.display_nil, TypeName.lexemes] using
      lexes_name (h name (by simp [TypeName.names]))
  | ⟨name, first :: rest⟩, h => by
    simp only [TypeName.names, TypeName.namesAll, List.mem_cons, List.mem_append] at h
    have hname := lexes_name (h name (by simp))
    have hfirst := lexes_display first fun n hn => h n (by simp [hn])
    obtain ⟨hrest, hends⟩ := lexes_displayRest rest fun n hn => h n (by simp [hn])
    have hclose : Lexes Mark.ofChar? ['>'] [.mark .closeList] := lexes_mark .closeList .nil
    have hinner := (hfirst.append hrest hends).append hclose (endsWord_mark .closeList)
    have hlist := hname.append (lexes_mark .openList hinner) (endsWord_mark .openList)
    simpa [TypeName.display_cons, TypeName.lexemes, Mark.char] using hlist

theorem lexes_displayRest : (ts : List TypeName) → (∀ n ∈ TypeName.namesAll ts, IsName n) →
    Lexes Mark.ofChar? (TypeName.displayRest ts).toList (TypeName.lexemesRest ts) ∧
      EndsWord Mark.ofChar? (TypeName.displayRest ts).toList
  | [], _ => ⟨.nil, .nil⟩
  | t :: rest, h => by
    simp only [TypeName.namesAll, List.mem_append] at h
    have hfirst := lexes_display t fun n hn => h n (by simp [hn])
    obtain ⟨hrest, hends⟩ := lexes_displayRest rest fun n hn => h n (by simp [hn])
    have hcomma := lexes_mark .comma (lexes_blank (hfirst.append hrest hends))
    exact ⟨by simpa [TypeName.displayRest, TypeName.lexemesRest, Mark.char] using hcomma,
      by simpa [TypeName.displayRest, Mark.char] using endsWord_mark .comma⟩

end

/-! ## 2. The text of a signature -/

/-- A parameter as it is written out. -/
def parameterText (p : Parameter) : String := p.type.display ++ " " ++ p.name

/-- The parameters of a member in their parentheses; a field has none. -/
def parametersText (kind : MemberKind) (ps : List Parameter) : String :=
  if kind = .field then "" else " (" ++ ", ".intercalate (ps.map parameterText) ++ ")"

/-- The `throws` clause, if there are exceptions. -/
def throwsText (es : List TypeName) : String :=
  if es = [] then "" else " throws " ++ ", ".intercalate (es.map TypeName.display)

/-- A signature without its annotations, its modifiers written as the list says. -/
def headline (kind : MemberKind) (ms : List Modifier) (s : Signature) : String :=
  " ".intercalate (ms.map Modifier.keyword ++ s.returnType.toList.map TypeName.display ++
    s.name.toList) ++ parametersText kind s.parameters ++ throwsText s.exceptions

/-- **A signature written out**: the annotations, each on a line of its own, and the rest.  The
modifiers are written in the order of the list `ms`, and as often as they occur in it. -/
def rendered (kind : MemberKind) (ms : List Modifier) (s : Signature) : List Fragment :=
  s.annotations.flatMap (fun a => [.text ("@" ++ a.display), .lineBreak]) ++
    [.text (headline kind ms s)]

/-! ## 3. Its tokens -/

/-- What a parameter consists of. -/
def parameterLexemes (p : Parameter) : List (Text.Lexeme Mark) :=
  p.type.lexemes ++ [.word p.name]

/-- Things with commas between them. -/
def commaLexemes (items : List (List (Text.Lexeme Mark))) : List (Text.Lexeme Mark) :=
  [.mark .comma].intercalate items

/-- What the parameters of a member consist of. -/
def parametersLexemes (kind : MemberKind) (ps : List Parameter) : List (Text.Lexeme Mark) :=
  if kind = .field then []
  else .mark .openParameters ::
    (commaLexemes (ps.map parameterLexemes) ++ [.mark .closeParameters])

/-- What the `throws` clause consists of. -/
def throwsLexemes (es : List TypeName) : List (Text.Lexeme Mark) :=
  if es = [] then [] else .word "throws" :: commaLexemes (es.map TypeName.lexemes)

/-- What a signature without its annotations consists of. -/
def headlineLexemes (kind : MemberKind) (ms : List Modifier) (s : Signature) :
    List (Text.Lexeme Mark) :=
  ms.map (fun m => .word m.keyword) ++ s.returnType.toList.flatMap TypeName.lexemes ++
    s.name.toList.map .word ++ parametersLexemes kind s.parameters ++ throwsLexemes s.exceptions

/-- The tokens of a signature that is written out. -/
def renderedTokens (kind : MemberKind) (ms : List Modifier) (s : Signature) : List Token :=
  s.annotations.flatMap (fun a => .mark .atSign :: a.lexemes.map Token.ofLexeme ++ [.lineBreak]) ++
    (headlineLexemes kind ms s).map Token.ofLexeme

/-- The names in a signature. -/
def names (s : Signature) : List String :=
  s.types.flatMap TypeName.names ++ s.name.toList ++ s.parameters.map (·.name)

/-- Pieces with commas and spaces between them. -/
theorem lexes_commas {α : Type} {f : α → String} {g : α → List (Text.Lexeme Mark)} {as : List α}
    (h : ∀ a ∈ as, Lexes Mark.ofChar? (f a).toList (g a)) :
    Lexes Mark.ofChar? (", ".intercalate (as.map f)).toList (commaLexemes (as.map g)) := by
  have hends (cs : List Char) : EndsWord Mark.ofChar? ([',', ' '] ++ cs) := endsWord_mark .comma
  have hsep (cs : List Char) (ls : List (Text.Lexeme Mark)) (hcs : Lexes Mark.ofChar? cs ls) :
      Lexes Mark.ofChar? ([',', ' '] ++ cs) ([.mark .comma] ++ ls) :=
    lexes_mark .comma (lexes_blank hcs)
  simpa [commaLexemes, Function.comp_def] using Lexes.intercalate hends hsep h

theorem flatten_eq_intercalate {α : Type} (xs : List (List α)) :
    [].intercalate xs = xs.flatten := by
  induction xs with
  | nil => rfl
  | cons x xs ih => cases xs <;> simp_all

/-- Pieces with spaces between them, each with what it consists of. -/
theorem lexes_spaces {ps : List (String × List (Text.Lexeme Mark))}
    (h : ∀ p ∈ ps, Lexes Mark.ofChar? p.1.toList p.2) :
    Lexes Mark.ofChar? (" ".intercalate (ps.map (·.1))).toList (ps.flatMap (·.2)) := by
  have hends (cs : List Char) : EndsWord Mark.ofChar? ([' '] ++ cs) := endsWord_blank
  have hsep (cs : List Char) (ls : List (Text.Lexeme Mark)) (hcs : Lexes Mark.ofChar? cs ls) :
      Lexes Mark.ofChar? ([' '] ++ cs) ([] ++ ls) := lexes_blank hcs
  simpa [flatten_eq_intercalate, Function.comp_def, List.flatMap_def] using
    Lexes.intercalate hends hsep h

theorem lexes_keyword (m : Modifier) :
    Lexes Mark.ofChar? m.keyword.toList [.word m.keyword] := by
  refine lexes_name ?_
  cases m <;> decide +kernel

theorem lexes_parameterText {p : Parameter} (hname : IsName p.name)
    (htype : ∀ n ∈ p.type.names, IsName n) :
    Lexes Mark.ofChar? (parameterText p).toList (parameterLexemes p) := by
  have hword :=
    (lexes_display p.type htype).append (lexes_blank (lexes_name hname)) endsWord_blank
  simpa [parameterText, parameterLexemes] using hword

theorem lexes_parametersText (kind : MemberKind) {ps : List Parameter}
    (h : ∀ p ∈ ps, IsName p.name ∧ ∀ n ∈ p.type.names, IsName n) :
    Lexes Mark.ofChar? (parametersText kind ps).toList (parametersLexemes kind ps) ∧
      EndsWord Mark.ofChar? (parametersText kind ps).toList := by
  by_cases hkind : kind = .field
  · simp only [parametersText, parametersLexemes, hkind, if_true]
    exact ⟨.nil, .nil⟩
  · have hps := lexes_commas fun p hp => lexes_parameterText (h p hp).1 (h p hp).2
    have hclose : Lexes Mark.ofChar? [')'] [.mark .closeParameters] :=
      lexes_mark .closeParameters .nil
    have hall := lexes_blank (lexes_mark .openParameters
      (hps.append hclose (endsWord_mark .closeParameters)))
    have hends (cs : List Char) : EndsWord Mark.ofChar? (' ' :: cs) := endsWord_blank
    constructor
    · simpa [parametersText, parametersLexemes, hkind, Mark.char] using hall
    · simpa [parametersText, hkind] using hends _

theorem lexes_throwsText {es : List TypeName} (h : ∀ e ∈ es, ∀ n ∈ e.names, IsName n) :
    Lexes Mark.ofChar? (throwsText es).toList (throwsLexemes es) ∧
      EndsWord Mark.ofChar? (throwsText es).toList := by
  by_cases hes : es = []
  · simp only [throwsText, throwsLexemes, hes, if_true]
    exact ⟨.nil, .nil⟩
  · have hlist := lexes_commas fun e he => lexes_display e (h e he)
    have hthrows : Lexes Mark.ofChar? "throws".toList [.word "throws"] :=
      lexes_name (by decide +kernel)
    have hall := lexes_blank (hthrows.append (lexes_blank hlist) endsWord_blank)
    constructor
    · simpa [throwsText, throwsLexemes, hes] using hall
    · have hends (cs : List Char) : EndsWord Mark.ofChar? (' ' :: cs) := endsWord_blank
      simpa [throwsText, hes] using hends _

/-- **The text of a signature is read as what it consists of.** -/
theorem lexes_headline (kind : MemberKind) (ms : List Modifier) {s : Signature}
    (h : ∀ n ∈ s.names, IsName n) :
    Lexes Mark.ofChar? (headline kind ms s).toList (headlineLexemes kind ms s) := by
  simp only [names, types, List.mem_append, List.mem_flatMap, List.mem_map] at h
  let pieces : List (String × List (Text.Lexeme Mark)) :=
    ms.map (fun m => (m.keyword, [.word m.keyword])) ++
      s.returnType.toList.map (fun t => (t.display, t.lexemes)) ++
      s.name.toList.map (fun n => (n, [.word n]))
  have hpieces : ∀ p ∈ pieces, Lexes Mark.ofChar? p.1.toList p.2 := by
    intro p hp
    simp only [pieces, List.mem_append, List.mem_map] at hp
    rcases hp with (⟨m, -, rfl⟩ | ⟨t, ht, rfl⟩) | ⟨n, hn, rfl⟩
    · exact lexes_keyword m
    · exact lexes_display t fun n hn => h n (by grind)
    · exact lexes_name (h n (by grind))
  have hwords := lexes_spaces hpieces
  have hps : ∀ p ∈ s.parameters, IsName p.name ∧ ∀ n ∈ p.type.names, IsName n := fun p hp =>
    ⟨h p.name (by grind), fun n hn => h n (by grind)⟩
  have hes : ∀ e ∈ s.exceptions, ∀ n ∈ e.names, IsName n := fun e he n hn => h n (by grind)
  obtain ⟨hparameters, hends⟩ := lexes_parametersText kind hps
  obtain ⟨hthrows, hends'⟩ := lexes_throwsText hes
  have hall := (hwords.append hparameters hends).append hthrows hends'
  simpa [headline, headlineLexemes, pieces, Function.comp_def, List.flatMap_map,
    ← List.map_eq_flatMap] using hall

/-- **The tokens of a signature that is written out.** -/
theorem ofFragments_rendered_eq (kind : MemberKind) (ms : List Modifier) {s : Signature}
    (h : ∀ n ∈ s.names, IsName n) :
    Token.ofFragments (rendered kind ms s) = renderedTokens kind ms s := by
  have hheadline := Text.lexemes_of_lexes (lexes_headline kind ms h)
  have hannotated : s.annotations.flatMap (fun a =>
      Token.ofFragment (.text ("@" ++ a.display)) ++ Token.ofFragment .lineBreak) =
      s.annotations.flatMap fun a =>
        .mark .atSign :: a.lexemes.map Token.ofLexeme ++ [.lineBreak] := by
    refine List.flatMap_congr fun a ha => ?_
    have hnames : ∀ n ∈ a.names, IsName n := fun n hn => h n (by
      simp only [names, types, List.mem_append, List.mem_flatMap]
      grind)
    have hlexes : Lexes Mark.ofChar? ("@" ++ a.display).toList (.mark .atSign :: a.lexemes) := by
      simpa [Mark.char] using lexes_mark .atSign (lexes_display a hnames)
    simp [Token.ofFragment, Text.lexemes_of_lexes hlexes, Token.ofLexeme]
  rw [renderedTokens, ← hannotated]
  simp [Token.ofFragments, rendered, Token.ofFragment, hheadline, List.flatMap_assoc]

end Signature

end ApiPages
