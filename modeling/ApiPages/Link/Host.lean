/-
# Hosts of links

A link may name a host, which decides nothing about the page it leads to; but a link whose host
cannot be one is no link at all.  A host is a domain, an address in dotted numbers, or an address
in brackets.  A domain may spell its characters with percent signs.
-/
import ApiPages.Domain.Label
import ApiPages.Text.Percent

namespace ApiPages.Link

open Text

/-! ## 1. Addresses in dotted numbers -/

/-- The value of a decimal digit. -/
def decimalValue? (c : Char) : Option Nat :=
  if '0' ≤ c ∧ c ≤ '9' then some (c.toNat - 48) else none

/-- The value of an octal digit. -/
def octalValue? (c : Char) : Option Nat :=
  if '0' ≤ c ∧ c ≤ '7' then some (c.toNat - 48) else none

/-- A part of a dotted address: decimal, octal after a zero, or hexadecimal after `0x`. -/
def dottedPart? : List Char → Option Nat
  | ['0', 'x'] | ['0', 'X'] => some 0
  | '0' :: 'x' :: digits | '0' :: 'X' :: digits => number? 16 hexValue? digits
  | '0' :: c :: digits => number? 8 octalValue? (c :: digits)
  | digits => number? 10 decimalValue? digits

/-- The parts of a domain that can make a dotted address; one empty label at the end is not
counted. -/
def dottedParts (labels : List (List Char)) : List (List Char) :=
  if 2 ≤ labels.length ∧ labels.getLast? = some [] then labels.dropLast else labels

/-- Whether a domain is to be read as a dotted address: its last part is a number. -/
def endsInNumber (labels : List (List Char)) : Bool :=
  match (dottedParts labels).getLast? with
  | some last => (!last.isEmpty && last.all Char.isDigit) || (dottedPart? last).isSome
  | none => false

/-- A dotted address has at most four parts; each stands for a byte, and the last for all bytes that
are left. -/
def isDottedAddress (labels : List (List Char)) : Bool :=
  match (dottedParts labels).mapM dottedPart? with
  | some values =>
    values.length ≤ 4 && values.dropLast.all (· ≤ 255)
      && values.getLastD 0 < Nat.pow 256 (5 - values.length)
  | none => false

/-! ## 2. Addresses in brackets -/

/-- Four decimal numbers below 256, without leading zeros. -/
def isPlainDotted (cs : List Char) : Bool :=
  let parts := cut (· == '.') cs
  parts.length == 4 && parts.all fun part =>
    (part.head? != some '0' || part.length == 1)
      && (number? 10 decimalValue? part).any (· ≤ 255)

/-- How many groups of sixteen bits a sequence of groups stands for; only the last of the address
may be in dotted numbers, and counts twice. -/
def groupCount? (mayEndDotted : Bool) : List (List Char) → Option Nat
  | [] => some 0
  | group :: rest =>
    if 1 ≤ group.length ∧ group.length ≤ 4 ∧ group.all (fun c => (hexValue? c).isSome) then
      (groupCount? mayEndDotted rest).map (· + 1)
    else if mayEndDotted ∧ rest.isEmpty ∧ isPlainDotted group then some 2
    else none

/-- The groups between colons; no text has no groups. -/
def groups : List Char → List (List Char)
  | [] => []
  | cs => cut (· == ':') cs

/-- The texts around the first double colon. -/
def aroundGap? : List Char → Option (List Char × List Char)
  | ':' :: ':' :: rest => some ([], rest)
  | c :: rest => (aroundGap? rest).map fun (front, back) => (c :: front, back)
  | [] => none

/-- An address of eight groups, of which one run may be left out between two colons. -/
def isGroupedAddress (cs : List Char) : Bool :=
  match aroundGap? cs with
  | none => groupCount? true (groups cs) == some 8
  | some (front, back) =>
    match groupCount? false (groups front), groupCount? true (groups back) with
    | some m, some n => m + n ≤ 7
    | _, _ => false

/-- The text between brackets, if the host is in brackets. -/
def bracketed? : List Char → Option (List Char)
  | '[' :: rest => before? [']'] rest
  | _ => none

/-! ## 3. Hosts -/

/-- The host of a link whose scheme needs one. -/
inductive Host where
  | domain (labels : List (List Char))
  | dottedAddress
  | groupedAddress
  deriving Repr, DecidableEq

namespace Host

/-- The host that the labels of a domain denote. -/
def ofLabels? (labels : List (List Char)) : Option Host :=
  if labels = [[]] then none
  else if !endsInNumber labels then some (domain labels)
  else if isDottedAddress labels then some dottedAddress
  else none

/-- **The host that a text denotes.** -/
def ofText? (text : List Char) : Option Host :=
  match text with
  | '[' :: _ => if (bracketed? text).any isGroupedAddress then some groupedAddress else none
  | _ => ((Percent.decode? text).bind Domain.labels?).bind ofLabels?

/-- The host that is the place where the link is read. -/
def localhost : Host := domain ["localhost".toList]

end Host

/-- The ASCII characters that no host of another link has. -/
def isForbiddenInHost (c : Char) : Bool :=
  c.toNat == 0 || c.toNat == 9 || c.toNat == 10 || c.toNat == 13 || c ∈ " #/:<>?@[\\]^|".toList

/-- A host of a link whose scheme does not say what hosts are. -/
def isOpaqueHost (host : List Char) : Bool :=
  match host with
  | '[' :: _ => (bracketed? host).any isGroupedAddress
  | _ => host.all fun c => !isForbiddenInHost c

/-- A port: at most sixteen bits in decimal digits; it may be empty. -/
def isPort (port : List Char) : Bool :=
  port.isEmpty || (number? 10 decimalValue? port).any (· ≤ 65535)

end ApiPages.Link
