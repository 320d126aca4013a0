/-
# Constants in both layouts

The two layouts write a constant differently.  One has two lines of text of a fixed form, where a
number stands with its value in hexadecimal behind it.  The other has an element for the modifiers
and the type, one for the name and one for the literal.  From both, the same constant is read
(`constants_alike`), whatever blanks there are between the words and around them.

A text with given words is, in one line, these words with single spaces between them
(`Element.line_eq`).  So what is left to show is about lines of single words: that the reader of
lines finds the parts again where they were put (`ofLines_written`), and that the last word of a
declaration is that of the type.
-/
import ApiPages.Member.Android
import ApiPages.Member.Google
import ApiPages.Proofs.Text.Normalized
import ApiPages.Proofs.Text.Pieces

namespace ApiPages

open Text

/-! ## 1. Constants as they are written -/

namespace Constant

/-- One or more characters of a class. -/
structure Run (p : Char → Bool) where
  chars : List Char
  nonempty : chars ≠ []
  all : ∀ c ∈ chars, p c = true

/-- The text of a run. -/
def Run.text {p : Char → Bool} (r : Run p) : String := String.ofList r.chars

/-- A hexadecimal digit. -/
def isHexadecimal (c : Char) : Bool := (hexValue? c).isSome

/-- A literal that a page can show, with what a value line adds to it. -/
inductive Literal where
  /-- Decimal digits, possibly behind a minus sign, and a value in hexadecimal digits. -/
  | int (isNegative : Bool) (digits : Run isDecimal) (note : Run isHexadecimal)
  /-- Word characters, between double quotes. -/
  | string (content : Run isWord)

namespace Literal

/-- The word for the type of the literal. -/
def typeWord : Literal → String
  | int .. => "int"
  | string _ => "String"

/-- The type of the literal. -/
def type : Literal → TypeName
  | int .. => TypeName.simple "int"
  | string _ => TypeName.simple "java.lang.String"

/-- **The literal itself.** -/
def text : Literal → String
  | int isNegative digits _ => (if isNegative then "-" else "") ++ digits.text
  | string content => "\"" ++ content.text ++ "\""

/-- The words of a value line behind the literal. -/
def noteWords : Literal → List String
  | int _ _ note => ["(0x" ++ note.text ++ ")"]
  | string _ => []

end Literal

/-- A constant that both layouts can show. -/
structure Written where
  name : Run isWord
  literal : Literal

namespace Written

/-- The words of a signature in front of the name. -/
def declaredWords (c : Written) : List String := ["public", "static", "final", c.literal.typeWord]

/-- The words of a signature line. -/
def signatureWords (c : Written) : List String := c.declaredWords ++ [c.name.text]

/-- The words of a value line. -/
def valueWords (c : Written) : List String :=
  ["Constant", "Value:", c.literal.text] ++ c.literal.noteWords

/-- **The constant that is to be read**, with its documentation. -/
def field (c : Written) (doc : String) : Field where
  name := c.name.text
  type := c.literal.type
  modifiers := Modifiers.ofList [.publicAccess, .static, .final]
  value := some c.literal.text
  doc := doc

end Written

/-! ## 2. Lines of text -/

theorem isName_run (name : Run isWord) : isName name.chars = true := by
  have hne : name.chars ≠ [] := name.nonempty
  have hall : ∀ c ∈ name.chars, isWord c = true := name.all
  simpa [isName, hne] using hall

/-- The reader of signature lines finds the type word and the name. -/
theorem signature?_written (c : Written) :
    signature? (" ".intercalate c.signatureWords) = some (c.literal.typeWord, c.name.text) := by
  obtain ⟨name, literal⟩ := c
  have hline (type : String) :
      (" ".intercalate ["public", "static", "final", type, name.text]).toList =
        "public static final ".toList ++ (type.toList ++ ' ' :: name.chars) := by
    simp [Run.text]
  have hbegin (type : String) :
      after? "public static final ".toList
          (" ".intercalate ["public", "static", "final", type, name.text]).toList =
        some (type.toList ++ ' ' :: name.chars) := after?_eq_some_iff.mpr (hline type)
  cases literal with
  | int isNegative digits note =>
    have htype : after? "int ".toList ("int".toList ++ ' ' :: name.chars) = some name.chars :=
      after?_eq_some_iff.mpr rfl
    change signature? (" ".intercalate ["public", "static", "final", "int", name.text]) = _
    simp only [signature?, hbegin, Option.bind_eq_bind, Option.bind_some, htype, isName_run]
    rfl
  | string content =>
    have hint : after? "int ".toList ("String".toList ++ ' ' :: name.chars) = none := rfl
    have htype : after? "String ".toList ("String".toList ++ ' ' :: name.chars) =
        some name.chars := after?_eq_some_iff.mpr rfl
    change signature? (" ".intercalate ["public", "static", "final", "String", name.text]) = _
    simp only [signature?, hbegin, Option.bind_eq_bind, Option.bind_some, hint, htype, isName_run]
    rfl

/-- A minus sign is no decimal digit, so it is the sign that is taken off and not a digit. -/
theorem isIntLiteral_text (isNegative : Bool) (digits : Run isDecimal) :
    isIntLiteral ((if isNegative then "-".toList else []) ++ digits.chars) = true := by
  have hdigits : (!digits.chars.isEmpty && digits.chars.all isDecimal) = true := by
    have hne : digits.chars ≠ [] := digits.nonempty
    have hall : ∀ c ∈ digits.chars, isDecimal c = true := digits.all
    simpa [hne] using hall
  cases isNegative with
  | true =>
    have hsign : after? "-".toList ("-".toList ++ digits.chars) = some digits.chars :=
      after?_eq_some_iff.mpr rfl
    simp only [isIntLiteral, if_true, hsign, Option.getD_some]
    exact hdigits
  | false =>
    have hsign : after? "-".toList digits.chars = none := by
      refine Option.eq_none_iff_forall_ne_some.mpr fun rest hrest => ?_
      have hmem : '-' ∈ digits.chars := by
        rw [after?_eq_some_iff.mp hrest]
        exact List.mem_cons_self
      exact absurd (digits.all '-' hmem) (by decide)
    simp only [isIntLiteral, Bool.false_eq_true, if_false, List.nil_append, hsign,
      Option.getD_none]
    exact hdigits

theorem isHexNote_text (note : Run isHexadecimal) :
    isHexNote (" (0x".toList ++ (note.chars ++ ")".toList)) = true := by
  have hbegin : after? " (0x".toList (" (0x".toList ++ (note.chars ++ ")".toList)) =
      some (note.chars ++ ")".toList) := after?_eq_some_iff.mpr rfl
  have hne : note.chars ≠ [] := note.nonempty
  have hall : ∀ c ∈ note.chars, (hexValue? c).isSome = true := note.all
  simp only [isHexNote, hbegin, Option.bind_some, before?_append]
  simpa [hne] using hall

/-- The literal ends at the first space, since it has none itself. -/
theorem intLiteral?_text (isNegative : Bool) (digits : Run isDecimal) (note : Run isHexadecimal) :
    intLiteral? ((if isNegative then "-".toList else []) ++ digits.chars ++
        (" (0x".toList ++ (note.chars ++ ")".toList))) =
      some ((if isNegative then "-".toList else []) ++ digits.chars) := by
  have hspace : ∀ c ∈ (if isNegative then "-".toList else []) ++ digits.chars,
      (c != ' ') = true := by
    intro c hc
    rw [bne_iff_ne]
    rintro rfl
    rcases List.mem_append.mp hc with hsign | hdigit
    · cases isNegative <;> simp at hsign
    · exact absurd (digits.all ' ' hdigit) (by decide)
  have htake : (((if isNegative then "-".toList else []) ++ digits.chars) ++
      (" (0x".toList ++ (note.chars ++ ")".toList))).takeWhile (· != ' ') =
        (if isNegative then "-".toList else []) ++ digits.chars := by
    rw [List.takeWhile_append_of_pos hspace]
    simp
  have hdrop : (((if isNegative then "-".toList else []) ++ digits.chars) ++
      (" (0x".toList ++ (note.chars ++ ")".toList))).dropWhile (· != ' ') =
        " (0x".toList ++ (note.chars ++ ")".toList) := by
    rw [List.dropWhile_append_of_pos hspace]
    simp
  rw [intLiteral?, htake, hdrop, isIntLiteral_text, isHexNote_text]
  rfl

theorem stringLiteral?_text (content : Run isWord) :
    stringLiteral? ("\"".toList ++ (content.chars ++ "\"".toList)) =
      some ("\"".toList ++ (content.chars ++ "\"".toList)) := by
  have hbegin : after? "\"".toList ("\"".toList ++ (content.chars ++ "\"".toList)) =
      some (content.chars ++ "\"".toList) := after?_eq_some_iff.mpr rfl
  have hquoted : isStringLiteral ("\"".toList ++ (content.chars ++ "\"".toList)) = true := by
    simp only [isStringLiteral, hbegin, Option.bind_some, before?_append, isName_run]
  rw [stringLiteral?, hquoted]
  rfl

/-- **The reader of value lines finds the literal**, with the reading that the type word selects. -/
theorem exists_literalReader (c : Written) :
    ∃ reader, literalReader c.literal.typeWord = .ok reader ∧
      literal? reader (" ".intercalate c.valueWords) = some c.literal.text := by
  obtain ⟨name, literal⟩ := c
  cases literal with
  | int isNegative digits note =>
    refine ⟨intLiteral?, rfl, ?_⟩
    have hline :
        (" ".intercalate (Written.mk name (.int isNegative digits note)).valueWords).toList =
        "Constant Value: ".toList ++ ((if isNegative then "-".toList else []) ++ digits.chars ++
          (" (0x".toList ++ (note.chars ++ ")".toList))) := by
      cases isNegative <;>
        simp [Written.valueWords, Literal.text, Literal.noteWords, Run.text]
    rw [literal?, after?_eq_some_iff.mpr hline, Option.bind_some, intLiteral?_text, Option.map_some,
      Option.some_inj, ← String.toList_inj]
    cases isNegative <;> simp [Literal.text, Run.text]
  | string content =>
    refine ⟨stringLiteral?, rfl, ?_⟩
    have hline : (" ".intercalate (Written.mk name (.string content)).valueWords).toList =
        "Constant Value: ".toList ++ ("\"".toList ++ (content.chars ++ "\"".toList)) := by
      simp [Written.valueWords, Literal.text, Literal.noteWords, Run.text]
    rw [literal?, after?_eq_some_iff.mpr hline, Option.bind_some, stringLiteral?_text,
      Option.map_some, Option.some_inj, ← String.toList_inj]
    simp [Literal.text, Run.text]

theorem typeOfWord_typeWord (l : Literal) : typeOfWord l.typeWord = .ok l.type := by
  cases l <;> rfl

/-- **From the lines of a constant the constant is read.** -/
theorem ofLines_written (c : Written) (doc : String) :
    ofLines (" ".intercalate c.signatureWords) (" ".intercalate c.valueWords) doc =
      .ok (c.field doc) := by
  obtain ⟨reader, hreader, hliteral⟩ := exists_literalReader c
  simp only [ofLines, signature?_written, hreader, bind, Except.bind, hliteral,
    typeOfWord_typeWord]
  rfl

/-- The type word is the last one in front of the name. -/
theorem getLastD_declaredWords (c : Written) :
    (piecesOf ' ' (" ".intercalate c.declaredWords)).getLastD "" = c.literal.typeWord := by
  have hspace : ∀ s ∈ c.declaredWords, ' ' ∉ s.toList := by
    unfold Written.declaredWords
    cases c.literal with
    | int isNegative digits note =>
      change ∀ s ∈ ["public", "static", "final", "int"], ' ' ∉ s.toList
      decide
    | string content =>
      change ∀ s ∈ ["public", "static", "final", "String"], ' ' ∉ s.toList
      decide
  have hpieces : piecesOf ' ' (" ".intercalate c.declaredWords) = c.declaredWords :=
    piecesOf_intercalate (List.cons_ne_nil _ _) hspace
  rw [hpieces]
  rfl

/-- A signature line has one of the two type words that have a reading. -/
theorem type_of_signature? {line type name : String} (h : signature? line = some (type, name)) :
    type = "int" ∨ type = "String" := by
  simp only [signature?, bind, Option.bind_eq_some_iff] at h
  obtain ⟨rest, -, h⟩ := h
  split at h
  · simp only [Option.bind_some, Option.ite_none_right_eq_some, Option.some_inj,
      Prod.mk.injEq] at h
    exact .inl h.2.1.symm
  · simp only [Option.bind_some, Option.ite_none_right_eq_some, Option.some_inj,
      Prod.mk.injEq] at h
    exact .inr h.2.1.symm
  · cases h

/-- **Lines never fail for their type**: a line with a type that has no reading has not the form of
a signature line in the first place. -/
theorem ofLines_ne_unsupportedFieldType (signatureLine valueLine doc word : String) :
    ofLines signatureLine valueLine doc ≠ .error (.unsupportedFieldType word) := by
  intro h
  rw [ofLines] at h
  split at h
  · cases h
  · next type name hsignature =>
    obtain ⟨reader, t, hreader, htype⟩ :
        ∃ reader t, literalReader type = .ok reader ∧ typeOfWord type = .ok t := by
      rcases type_of_signature? hsignature with rfl | rfl
      · exact ⟨_, _, rfl, rfl⟩
      · exact ⟨_, _, rfl, rfl⟩
    simp only [hreader, htype, bind, Except.bind, pure, Except.pure] at h
    split at h
    · cases h
    · cases h

end Constant

/-! ## 3. Blocks -/

/-- The words of each element that a selector matches. -/
def Located.shown (l : Located) (s : Selector) : List (List String) :=
  (l.select s).map fun found => wordsOf found.element.text

/-- Where one element is matched, it is found, and its line is that of its words. -/
theorem Located.exists_selectSingle {l : Located} {s : Selector} {words : List String}
    (h : l.shown s = [words]) :
    ∃ found, l.selectSingle s = .ok found ∧ found.element.line = " ".intercalate words := by
  obtain ⟨found, hselect, hwords⟩ := List.map_eq_singleton_iff.mp h
  refine ⟨found, ?_, ?_⟩
  · rw [Located.selectSingle, hselect]
  · rw [Element.line_eq, hwords]

namespace Member

/-- A block with a constant in lines: the only signature has the words of the signature line, and
the last paragraph those of the value line. -/
structure Android.ShowsConstant (block : Located) (c : Constant.Written) : Prop where
  signature : block.shown Android.signature = [c.signatureWords]
  value : (block.shown Android.paragraph).getLast? = some c.valueWords

/-- A block with a constant in parts: there is one element for the modifiers and the type, one for
the name and one for the literal. -/
structure Google.ShowsConstant (block : Located) (c : Constant.Written) : Prop where
  declared : block.shown Google.declaredType = [c.declaredWords]
  name : block.shown Google.declaredName = [[c.name.text]]
  literal : block.shown Google.literal = [[c.literal.text]]

variable {block : Located} {c : Constant.Written}

theorem Android.constant_of_shown (h : Android.ShowsConstant block c) :
    Android.constant block = .ok (c.field (Documentation.ofMember .android block)) := by
  obtain ⟨found, hfound, hsignature⟩ := Located.exists_selectSingle h.signature
  have hvalue := h.value
  rw [Located.shown, List.getLast?_map] at hvalue
  obtain ⟨last, hlast, hwords⟩ := Option.map_eq_some_iff.mp hvalue
  simp only [Android.constant, hfound, hlast, bind, Except.bind, Option.map_some, Option.getD_some]
  rw [hsignature, Element.line_eq, hwords]
  exact Constant.ofLines_written c (Documentation.ofMember .android block)

theorem Google.constant_of_shown (h : Google.ShowsConstant block c) :
    Google.constant block = .ok (c.field (Documentation.ofMember .google block)) := by
  obtain ⟨declared, hdeclared, hdeclaredLine⟩ := Located.exists_selectSingle h.declared
  obtain ⟨name, hname, hnameLine⟩ := Located.exists_selectSingle h.name
  obtain ⟨literal, hliteral, hliteralLine⟩ := Located.exists_selectSingle h.literal
  have hone (s : String) : " ".intercalate [s] = s := by simp
  have htype : Constant.typeOfWord ((piecesOf ' ' declared.element.line).getLastD "") =
      .ok c.literal.type := by
    rw [hdeclaredLine, Constant.getLastD_declaredWords, Constant.typeOfWord_typeWord]
  simp only [Google.constant, hdeclared, hname, hliteral, bind, Except.bind, htype]
  rw [hnameLine, hliteralLine, hone, hone]
  rfl

theorem Android.constant_ne_unsupportedFieldType (block : Located) (word : String) :
    Android.constant block ≠ .error (.unsupportedFieldType word) := by
  intro h
  simp only [Android.constant, bind, Except.bind] at h
  split at h
  · next f hfailed =>
    -- where there is not one signature, the failure says how many there are
    unfold Located.selectSingle at hfailed
    split at hfailed
    · cases hfailed
    · obtain rfl := Except.error.inj hfailed
      cases h
  · exact Constant.ofLines_ne_unsupportedFieldType _ _ _ _ h

/-- **Both layouts read constants alike.**  A block with a constant in lines and one with the same
constant in parts are both read, and what they declare is the same but for the documentation: the
name, the type, the modifiers `public static final` and as the value the literal exactly.

No block with a constant in lines fails for its type, whatever it shows. -/
theorem constants_alike (limit : Option Nat) (c : Constant.Written) {lines parts : Located}
    (hlines : Android.ShowsConstant lines c) (hparts : Google.ShowsConstant parts c) :
    Android.ofBlock limit .constants lines =
        .ok (.field (c.field (Documentation.ofMember .android lines))) ∧
      Google.constant parts = .ok (c.field (Documentation.ofMember .google parts)) ∧
      ∀ (block : Located) (word : String),
        Android.constant block ≠ .error (.unsupportedFieldType word) := by
  refine ⟨?_, Google.constant_of_shown hparts, Android.constant_ne_unsupportedFieldType⟩
  simp only [Android.ofBlock, Android.constant_of_shown hlines, bind, Except.bind]
  rfl

/-- A negative number between line breaks, tabs and no-break spaces. -/
theorem constants_alike_number :
    ∃ (c : Constant.Written) (lines parts : Located),
      c.literal.text = "-42" ∧ Android.ShowsConstant lines c ∧ Google.ShowsConstant parts c ∧
      (Android.constant lines).toOption.map (·.value) = some (some "-42") ∧
      (Google.constant parts).toOption.map (·.value) = some (some "-42") ∧
      Android.ofBlock none .constants lines =
        .ok (.field (c.field (Documentation.ofMember .android lines))) := by
  let c : Constant.Written :=
    { name := ⟨"MIN_VALUE".toList, by decide, List.all_eq_true.mp (by decide)⟩
      literal := .int true ⟨"42".toList, by decide, List.all_eq_true.mp (by decide)⟩
        ⟨"ffD6".toList, by decide, List.all_eq_true.mp (by decide)⟩ }
  let lines : Located := Located.root
    { tag := "div", attributes := [], children :=
      [ .element "pre" [("class", "api-signature")]
          [.text "\n  public\tstatic final\n  int ", .element "b" [] [.text "MIN_VALUE"]],
        .element "p" [] [.text "The least value."],
        .element "p" [] [.text "\n Constant  Value:\xa0-42\n (0xffD6) "] ] }
  let parts : Located := Located.root
    { tag := "div", attributes := [("class", "jd-details")], children :=
      [ .element "h4" [("class", "jd-details-title")]
          [ .element "span" [("class", "normal")] [.text " public static\n final  int"],
            .element "strong" [] [.text " MIN_VALUE "] ],
        .element "div" [("class", "jd-tagdata")]
          [ .element "span" [("class", "jd-tagdescr")] [.text "Constant Value:"],
            .element "span" [] [.text "\n -42\n"] ] ] }
  have hlines : Android.ShowsConstant lines c := ⟨by decide +kernel, by decide +kernel⟩
  have hparts : Google.ShowsConstant parts c :=
    ⟨by decide +kernel, by decide +kernel, by decide +kernel⟩
  obtain ⟨hlinesRead, hpartsRead, hnever⟩ := constants_alike none c hlines hparts
  refine ⟨c, lines, parts, by decide, hlines, hparts, ?_, ?_, hlinesRead⟩
  · decide +kernel
  · decide +kernel

end Member

end ApiPages
