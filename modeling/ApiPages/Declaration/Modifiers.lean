/-
# Modifiers

A declaration carries a set of modifier keywords.  The set is a word of sixteen bits: the seven
known modifiers have the low bits, in the order in which a declaration writes them; the other bits
mean nothing here but are kept when a stored set is read back.

The stored form of a set is the flag names of its known bits, and then its other bits as one
hexadecimal number, with bars between them: `PUBLIC | STATIC | 0x80`.
-/
import ApiPages.Text.Blank
import ApiPages.Text.Hexadecimal

namespace ApiPages

/-! ## 1. The known modifiers -/

/-- A modifier keyword of a declaration. -/
inductive Modifier where
  | publicAccess
  | protectedAccess
  | privateAccess
  | abstract
  | static
  | final
  | synchronized
  deriving Repr, DecidableEq

namespace Modifier

/-- All modifiers, in declaration order. -/
def all : List Modifier :=
  [publicAccess, protectedAccess, privateAccess, abstract, static, final, synchronized]

/-- The word that stands for a modifier in a declaration. -/
def keyword : Modifier → String
  | publicAccess => "public"
  | protectedAccess => "protected"
  | privateAccess => "private"
  | abstract => "abstract"
  | static => "static"
  | final => "final"
  | synchronized => "synchronized"

/-- The name of a modifier in the stored form of a set. -/
def flagName : Modifier → String
  | publicAccess => "PUBLIC"
  | protectedAccess => "PROTECTED"
  | privateAccess => "PRIVATE"
  | abstract => "ABSTRACT"
  | static => "STATIC"
  | final => "FINAL"
  | synchronized => "SYNCHRONIZED"

/-- The position of a modifier's bit. -/
def index : Modifier → Nat
  | publicAccess => 0
  | protectedAccess => 1
  | privateAccess => 2
  | abstract => 3
  | static => 4
  | final => 5
  | synchronized => 6

/-- The modifier that a word of a declaration stands for. -/
def ofKeyword? (word : String) : Option Modifier := all.find? (·.keyword == word)

/-- The modifier with a given flag name. -/
def ofFlagName? (name : String) : Option Modifier := all.find? (·.flagName == name)

/-- **A keyword stands for its modifier**, and so does a flag name. -/
theorem ofKeyword?_keyword (m : Modifier) : ofKeyword? m.keyword = some m := by
  cases m <;> decide

theorem ofFlagName?_flagName (m : Modifier) : ofFlagName? m.flagName = some m := by
  cases m <;> decide

theorem mem_all (m : Modifier) : m ∈ all := by cases m <;> decide

theorem index_lt (m : Modifier) : m.index < 7 := by cases m <;> decide

theorem index_inj {m n : Modifier} : m.index = n.index ↔ m = n := by
  cases m <;> cases n <;> decide

end Modifier

/-! ## 2. Sets of modifiers -/

/-- A set of modifiers, with the bits of no modifier that it may carry. -/
structure Modifiers where
  bits : BitVec 16
  deriving Repr, DecidableEq

namespace Modifiers

/-- No modifiers. -/
def empty : Modifiers := ⟨0#16⟩

instance : Inhabited Modifiers := ⟨empty⟩

/-- Whether a modifier belongs to the set. -/
def has (s : Modifiers) (m : Modifier) : Bool := s.bits.getLsbD m.index

/-- The modifiers of either set. -/
def union (s t : Modifiers) : Modifiers := ⟨s.bits ||| t.bits⟩

/-- The set of one modifier. -/
def single (m : Modifier) : Modifiers := ⟨BitVec.twoPow 16 m.index⟩

/-- The set with a modifier put in. -/
def insert (s : Modifiers) (m : Modifier) : Modifiers := s.union (single m)

/-- The set with a modifier taken out. -/
def erase (s : Modifiers) (m : Modifier) : Modifiers := ⟨s.bits &&& ~~~(single m).bits⟩

/-- The set of the modifiers of a list. -/
def ofList (ms : List Modifier) : Modifiers := ms.foldl insert empty

/-- The modifiers of the set, in declaration order. -/
def toList (s : Modifiers) : List Modifier := Modifier.all.filter s.has

/-- The keywords of the set, as a declaration writes them. -/
def display (s : Modifiers) : String := " ".intercalate (s.toList.map Modifier.keyword)

/-- The bits that belong to no modifier. -/
def otherBits (s : Modifiers) : BitVec 16 := s.bits &&& 0xFF80#16

/-! How the operations act on membership. -/

theorem has_empty (m : Modifier) : empty.has m = false := by
  simp [has, empty]

theorem has_union (s t : Modifiers) (m : Modifier) :
    (s.union t).has m = (s.has m || t.has m) := by
  simp [has, union]

theorem has_single (m n : Modifier) : (single m).has n = decide (m = n) := by
  have h := m.index_lt
  simp only [has, single, BitVec.getLsbD_twoPow, ← Modifier.index_inj]
  simp [show m.index < 16 by omega]

theorem has_insert (s : Modifiers) (m n : Modifier) :
    (s.insert m).has n = (s.has n || decide (m = n)) := by
  rw [insert, has_union, has_single]

theorem has_erase (s : Modifiers) (m n : Modifier) :
    (s.erase m).has n = (s.has n && !decide (m = n)) := by
  have h := n.index_lt
  have hs := has_single m n
  simp only [has] at hs
  simp only [has, erase, BitVec.getLsbD_and, BitVec.getLsbD_not, hs]
  simp [show n.index < 16 by omega]

/-! ## 3. The stored form -/

/-- The stored form of a set: flag names, then the other bits, if any, in hexadecimal. -/
def render (s : Modifiers) : String :=
  let others := if s.otherBits = 0#16 then []
    else ["0x" ++ String.ofList (Text.hexadecimal s.otherBits.toNat)]
  " | ".intercalate (s.toList.map Modifier.flagName ++ others)

/-- The bits that a number in hexadecimal digits stands for, which may have a plus sign before it;
none without a digit, at any other character, and beyond sixteen bits. -/
def hexBits? (cs : List Char) : Option (BitVec 16) :=
  let digits := match cs with
    | '+' :: rest => rest
    | _ => cs
  match Text.number? 16 Text.hexValue? digits with
  | some value => if value < 65536 then some (BitVec.ofNat 16 value) else none
  | none => none

/-- One part of a stored form: a flag name, or a number after `0x`. -/
def readPart? (part : List Char) : Option Modifiers :=
  match Text.after? ['0', 'x'] part with
  | some digits => (hexBits? digits).map Modifiers.mk
  | none => (Modifier.ofFlagName? (String.ofList part)).map single

/-- **Reads a stored form.**  A blank text is the empty set; otherwise every part between two bars
must, without the blanks around it, be a flag name or a number. -/
def read? (s : String) : Option Modifiers :=
  if (Text.trim s.toList).isEmpty then some empty
  else do
    let parts ← (Text.cut (· == '|') s.toList).mapM fun part => readPart? (Text.trim part)
    return parts.foldl union empty

end Modifiers

end ApiPages
