/-
# Labels of domains

A domain is a sequence of labels with dots between them.  To see whether a text is a domain, every
character is replaced by what it stands for and the result is composed (`canonical?`).  Labels
that spell other characters in ASCII are decoded, and must then be canonical as they are.  What
remains are rules for single labels (`isWellFormed`), and one for all labels of a domain with
characters that run from right to left.
-/
import ApiPages.Domain.Direction
import ApiPages.Domain.Joining
import ApiPages.Domain.Mapping
import ApiPages.Domain.Punycode
import ApiPages.Text.Composition

namespace ApiPages.Domain

open Text

/-! ## 1. Canonical texts -/

/-- The ASCII characters that no domain has: controls, and those that mean something in links. -/
def isForbidden (c : Char) : Bool :=
  c.toNat ≤ 32 || c.toNat == 127 || c ∈ "%#/:<>?@[\\]^|".toList

/-- The composed text of what the characters of a text stand for, if a domain can have them. -/
def canonical? (cs : List Char) : Option (List Char) :=
  match cs.mapM image? with
  | some images =>
    let text := composed images.flatten
    if text.any isForbidden then none else some text
  | none => none

/-! ## 2. Single labels -/

/-- The label that an encoded label stands for: it has to have been encoded for a reason, and its
characters have to stand for themselves. -/
def decoded? (code : List Char) : Option (List Char) :=
  if code.getLast?.all (· == '-') || 2000 < code.length || code.any (127 < ·.toNat) then none
  else (Punycode.decode? code).filter fun label => canonical? label == some label

/-- The label that is written as a given text, which announces an encoded label by `xn--`. -/
def label? (text : List Char) : Option (List Char) :=
  match after? "xn--".toList text with
  | some code => decoded? code
  | none => some text

/-- The rules for a label by itself: it starts with no mark, joiners stand where they may, and it
is not too long unless it is ASCII. -/
def isWellFormed (label : List Char) : Bool :=
  !label.head?.any isMark && joinsWell label
    && (label.length ≤ 1000 || label.all (·.toNat < 128))

/-! ## 3. Domains -/

/-- Whether the labels of a domain are legible together. -/
def areLegible (labels : List (List Char)) : Bool :=
  !labels.any (·.any runsRight) || labels.all isLegible

/-- **The labels of a domain**, decoded and in canonical form; none if the text is no domain. -/
def labels? (cs : List Char) : Option (List (List Char)) := do
  let text ← canonical? cs
  let labels ← (cut (· == '.') text).mapM label?
  if labels.all isWellFormed && areLegible labels then some labels else none

end ApiPages.Domain
