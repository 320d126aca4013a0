/-
# JSON values

A value of the JSON data format, and its printed form: one member to a line, indented by two
spaces for each level.  The members of an object keep their order.
-/
import ApiPages.Text.Hexadecimal

namespace ApiPages

/-- A JSON value; numbers are integers here. -/
inductive Json where
  | null
  | bool (value : Bool)
  | number (value : Int)
  | string (value : String)
  | array (items : List Json)
  | object (members : List (String × Json))
  deriving Repr, Inhabited

namespace Json

/-! ## 1. Strings -/

/-- A character inside a string. -/
def escapedChar (c : Char) : List Char :=
  match c with
  | '"' => ['\\', '"']
  | '\\' => ['\\', '\\']
  | '\n' => ['\\', 'n']
  | '\r' => ['\\', 'r']
  | '\t' => ['\\', 't']
  | '\x08' => ['\\', 'b']
  | '\x0C' => ['\\', 'f']
  | _ =>
    if c.toNat < 16 then "\\u000".toList ++ Text.hexadecimal c.toNat
    else if c.toNat < 32 then "\\u00".toList ++ Text.hexadecimal c.toNat
    else [c]

/-- A string in double quotes; characters beyond ASCII stand for themselves. -/
def printString (s : String) : String :=
  String.ofList ('"' :: s.toList.flatMap escapedChar ++ ['"'])

/-! ## 2. Values -/

/-- The beginning of a line at a level. -/
def newline (level : Nat) : String := "\n" ++ String.join (List.replicate level "  ")

mutual

/-- **The printed form of a value** that starts on a line of a given level. -/
def print (level : Nat) : Json → String
  | null => "null"
  | bool value => if value then "true" else "false"
  | number value => toString value
  | string value => printString value
  | array [] => "[]"
  | array (item :: rest) =>
    "[" ++ newline (level + 1) ++ item.print (level + 1) ++ printItems (level + 1) rest
      ++ newline level ++ "]"
  | object [] => "\x7b\x7d"
  | object ((key, value) :: rest) =>
    "\x7b" ++ newline (level + 1) ++ printString key ++ ": " ++ value.print (level + 1)
      ++ printMembers (level + 1) rest ++ newline level ++ "\x7d"

/-- The items of an array behind the first. -/
def printItems (level : Nat) : List Json → String
  | [] => ""
  | item :: rest => "," ++ newline level ++ item.print level ++ printItems level rest

/-- The members of an object behind the first. -/
def printMembers (level : Nat) : List (String × Json) → String
  | [] => ""
  | (key, value) :: rest =>
    "," ++ newline level ++ printString key ++ ": " ++ value.print level ++ printMembers level rest

end

/-! ## 3. Views -/

/-- The string that a value is. -/
def string? : Json → Option String
  | string value => some value
  | _ => none

/-- The items of the array that a value is. -/
def items? : Json → Option (List Json)
  | array items => some items
  | _ => none

end Json

end ApiPages
