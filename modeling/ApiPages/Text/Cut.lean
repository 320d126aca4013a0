/-
# Cutting texts

Cutting a text at every character of a class, taking a known beginning or ending off it, and leaving
out every occurrence of a known part.  All of it is recursion on the characters.
-/
namespace ApiPages.Text

/-! ## 1. Cutting at separators -/

/-- The pieces between the characters that satisfy `p`; a text with `n` of them has `n + 1` pieces,
empty ones included. -/
def cut (p : Char → Bool) : List Char → List (List Char)
  | [] => [[]]
  | c :: rest =>
    if p c then [] :: cut p rest
    else
      match cut p rest with
      | [] => [[c]]
      | piece :: pieces => (c :: piece) :: pieces

/-- There is always a first piece. -/
theorem cut_ne_nil (p : Char → Bool) (cs : List Char) : cut p cs ≠ [] := by
  cases cs with
  | nil => simp [cut]
  | cons c rest =>
    simp only [cut]
    split
    · simp
    · split <;> simp

/-- The pieces of a string between the occurrences of a separator. -/
def piecesOf (separator : Char) (s : String) : List String :=
  (cut (· == separator) s.toList).map String.ofList

/-! ## 2. Known beginnings and endings -/

/-- What follows `start`, if the text begins with it. -/
def after? : (start cs : List Char) → Option (List Char)
  | [], cs => some cs
  | _ :: _, [] => none
  | p :: start, c :: cs => if p = c then after? start cs else none

/-- What precedes `ending`, if the text ends with it. -/
def before? (ending cs : List Char) : Option (List Char) :=
  (after? ending.reverse cs.reverse).map List.reverse

/-- A text begins with `start` exactly when it is `start` and what follows. -/
theorem after?_eq_some_iff {start cs rest : List Char} :
    after? start cs = some rest ↔ cs = start ++ rest := by
  induction start generalizing cs with
  | nil => simp [after?]
  | cons p start ih =>
    cases cs with
    | nil => simp [after?]
    | cons c cs => by_cases h : p = c <;> simp [after?, h, ih, eq_comm]

/-- Takes `start` off a string that begins with it. -/
def withoutStart (start s : String) : String :=
  match after? start.toList s.toList with
  | some rest => String.ofList rest
  | none => s

/-- Takes `ending` off a string that ends with it, once. -/
def withoutEnding (ending s : String) : String :=
  match before? ending.toList s.toList with
  | some rest => String.ofList rest
  | none => s

/-! ## 3. Leaving out a part, and replacing a character -/

/-- Leaves out the occurrences of a non-empty `part`, after `skip` more characters of the last
one. -/
def leaveOut (part : List Char) : Nat → List Char → List Char
  | _, [] => []
  | skip + 1, _ :: cs => leaveOut part skip cs
  | 0, c :: cs =>
    if part.isPrefixOf (c :: cs) then leaveOut part (part.length - 1) cs
    else c :: leaveOut part 0 cs

/-- A string without the occurrences of a non-empty part, found from left to right. -/
def withoutPart (part s : String) : String := String.ofList (leaveOut part.toList 0 s.toList)

/-- A string with every `old` turned into `new`. -/
def withReplaced (old new : Char) (s : String) : String :=
  String.ofList (s.toList.map fun c => if c = old then new else c)

end ApiPages.Text
