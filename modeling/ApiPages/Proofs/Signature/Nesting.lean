/-
# Nesting of tokens

Counting over a sequence of tokens, without reading it: how many argument lists are open behind it
(`nest?`), which commas stand in no list (`outerCommas`), and the parts that they divide the
sequence into (`outerParts`).  Where the brackets of the sequence are balanced, they are so in
each part (`balanced_of_mem_outerParts`).
-/
import ApiPages.Signature.Token
import Mathlib.Data.List.Basic

namespace ApiPages.Signature

/-! ## 1. Kinds of tokens -/

namespace Token

/-- Whether a token is the given mark. -/
def isMark (m : Mark) : Token → Bool
  | mark n => n = m
  | _ => false

theorem isMark_iff {t : Token} {m : Mark} : t.isMark m = true ↔ t = .mark m := by
  cases t <;> simp [isMark]

@[simp] theorem isMark_mark (m n : Mark) : (mark n).isMark m = decide (n = m) := rfl

@[simp] theorem isMark_word (m : Mark) (w : String) : (word w).isMark m = false := rfl

@[simp] theorem isMark_anchor (m : Mark) (e : Element) : (anchor e).isMark m = false := rfl

@[simp] theorem isMark_lineBreak (m : Mark) : lineBreak.isMark m = false := rfl

/-- Whether a token is a line break. -/
def isLineBreak : Token → Bool
  | lineBreak => true
  | _ => false

@[simp] theorem isLineBreak_lineBreak : lineBreak.isLineBreak = true := rfl

@[simp] theorem isLineBreak_mark (m : Mark) : (mark m).isLineBreak = false := rfl

@[simp] theorem isLineBreak_word (w : String) : (word w).isLineBreak = false := rfl

@[simp] theorem isLineBreak_anchor (e : Element) : (anchor e).isLineBreak = false := rfl

/-- Whether a token is a parenthesis. -/
def isParenthesis (t : Token) : Bool := t.isMark .openParameters || t.isMark .closeParameters

/-- The number of open lists behind a token, if `d` are open before it; none if it closes a list and
none is open. -/
def nest? (d : Nat) : Token → Option Nat
  | mark .openList => some (d + 1)
  | mark .closeList => if d = 0 then none else some (d - 1)
  | _ => some d

end Token

/-! ## 2. Open lists -/

/-- The number of open lists behind a sequence of tokens, if `d` are open before it; none if a
list is closed that is not open. -/
def nest? (d : Nat) (ts : List Token) : Option Nat := ts.foldlM Token.nest? d

/-- **The brackets of the sequence are balanced.** -/
def Balanced (ts : List Token) : Prop := nest? 0 ts = some 0

@[simp] theorem nest?_nil (d : Nat) : nest? d [] = some d := rfl

theorem nest?_cons (d : Nat) (t : Token) (ts : List Token) :
    nest? d (t :: ts) = (t.nest? d).bind fun e => nest? e ts := rfl

theorem nest?_append {d e : Nat} {ts : List Token} (h : nest? d ts = some e) (us : List Token) :
    nest? d (ts ++ us) = nest? e us := by
  rw [nest?, List.foldlM_append, ← nest?, h]
  rfl

/-! ## 3. Commas in no list -/

/-- The number of commas that stand in no list, if `d` lists are open before the sequence. -/
def outerCommas (d : Nat) : List Token → Nat
  | [] => 0
  | t :: ts => (if d = 0 ∧ t.isMark .comma then 1 else 0) + outerCommas ((t.nest? d).getD 0) ts

/-- The parts of a sequence between the commas that stand in no list; before it `d` lists are
open, and the tokens `part` of the first part have been gone through. -/
def outerPartsFrom (d : Nat) (part : List Token) : List Token → List (List Token)
  | [] => [part]
  | t :: ts =>
    if d = 0 ∧ t.isMark .comma then part :: outerPartsFrom 0 [] ts
    else outerPartsFrom ((t.nest? d).getD 0) (part ++ [t]) ts

/-- The parts of a sequence between the commas that stand in no list. -/
def outerParts (ts : List Token) : List (List Token) := outerPartsFrom 0 [] ts

theorem outerCommas_append {d e : Nat} {ts : List Token} (h : nest? d ts = some e)
    (us : List Token) : outerCommas d (ts ++ us) = outerCommas d ts + outerCommas e us := by
  induction ts generalizing d with
  | nil =>
    obtain rfl : d = e := by simpa using h
    simp [outerCommas]
  | cons t ts ih =>
    rw [nest?_cons] at h
    obtain ⟨d', hd', h⟩ := Option.bind_eq_some_iff.mp h
    simp [outerCommas, hd', ih h, Nat.add_assoc]

/-- **In each part the brackets are balanced**, if they are in the whole sequence. -/
theorem balanced_of_mem_outerPartsFrom {d : Nat} {part ts : List Token}
    (hpart : nest? 0 part = some d) (h : nest? d ts = some 0) :
    ∀ p ∈ outerPartsFrom d part ts, Balanced p := by
  induction ts generalizing d part with
  | nil =>
    obtain rfl : d = 0 := by simpa using h
    simpa [outerPartsFrom, Balanced] using hpart
  | cons t ts ih =>
    rw [nest?_cons] at h
    obtain ⟨e, he, h⟩ := Option.bind_eq_some_iff.mp h
    rw [outerPartsFrom]
    split
    · rename_i hcomma
      obtain ⟨rfl, ht⟩ := hcomma
      obtain rfl := Token.isMark_iff.mp ht
      obtain rfl : 0 = e := by simpa [Token.nest?] using he
      simpa [Balanced, hpart] using ih rfl h
    · rw [he, Option.getD_some]
      refine ih ?_ h
      rw [nest?_append hpart, nest?_cons, he]
      rfl

theorem balanced_of_mem_outerParts {ts : List Token} (h : Balanced ts) :
    ∀ p ∈ outerParts ts, Balanced p := balanced_of_mem_outerPartsFrom rfl h

end ApiPages.Signature
