/-
# The path of a link

Links are written for a browser, so they are read as one reads them: relative to the site, with
tabs and line breaks ignored, with or without scheme, host, query and fragment.  Of all that only
the path counts in the end.  Reading a link is a sequence of cuts:

* blanks and controls go at the two ends, tabs and line breaks everywhere (`cleaned`);
* the first `#` starts the fragment, the first `?` before it the query, and both are dropped;
* a scheme decides whether a host has to follow, may follow, or cannot;
* what is left is the path, cut into segments of which `.` and `..` are resolved (`settle`).

For the common schemes a backslash counts as a slash.
-/
import ApiPages.Link.Host

namespace ApiPages.Link

open Text

/-! ## 1. Cleaning and cutting -/

/-- A character that is ignored wherever it stands in a link. -/
def isIgnored (c : Char) : Bool := c == '\t' || c == '\n' || c == '\r'

/-- A control character or a space. -/
def isControlOrSpace (c : Char) : Bool := c.toNat ≤ 32

/-- A link without what is ignored in it. -/
def cleaned (cs : List Char) : List Char :=
  let front := cs.dropWhile isControlOrSpace
  ((front.reverse.dropWhile isControlOrSpace).reverse).filter fun c => !isIgnored c

/-- The part of a link before its query and fragment. -/
def withoutQuery (cs : List Char) : List Char := (cs.takeWhile (· != '#')).takeWhile (· != '?')

/-- A character that a scheme may have after its first. -/
def isSchemeChar (c : Char) : Bool := c.isAlphanum || c == '+' || c == '-' || c == '.'

/-- The scheme of a link in lower case, and what follows its colon. -/
def scheme? (cs : List Char) : Option (List Char × List Char) :=
  match cs with
  | [] => none
  | first :: _ =>
    if first.isAlpha then
      match cs.dropWhile isSchemeChar with
      | ':' :: rest => some ((cs.takeWhile isSchemeChar).map Char.toLower, rest)
      | _ => none
    else none

/-! ## 2. Paths -/

/-- How the path of a link is cut and resolved. -/
inductive PathStyle where
  /-- A backslash counts as a slash. -/
  | common
  /-- As `common`; moreover a drive letter in front is a segment of its own, and empty segments in
  front do not count. -/
  | file
  /-- Only slashes part segments. -/
  | plain
  deriving Repr, DecidableEq

namespace PathStyle

/-- Whether a character parts segments. -/
def isSlash : PathStyle → Char → Bool
  | plain, c => c == '/'
  | _, c => c == '/' || c == '\\'

end PathStyle

/-- A segment that stands for the place where it is. -/
def isSingleDot (segment : List Char) : Bool :=
  segment ∈ [".".toList, "%2e".toList, "%2E".toList]

/-- A segment that stands for the place above. -/
def isDoubleDot (segment : List Char) : Bool :=
  segment.map Char.toLower
    ∈ ["..".toList, ".%2e".toList, "%2e.".toList, "%2e%2e".toList]

/-- A drive letter. -/
def isDrive : List Char → Bool
  | [letter, sign] => letter.isAlpha && (sign == ':' || sign == '|')
  | _ => false

/-- Whether a segment has a drive letter up to its end or a backslash. -/
def startsWithDrive (segment : List Char) : Bool := isDrive (segment.takeWhile (· != '\\'))

/-- The segments that are left one step further up; `kept` has the last one first.  There is nothing
above a drive letter. -/
def stepUp : (kept : List (List Char)) → List (List Char)
  | [] => []
  | segment :: above => if startsWithDrive segment then segment :: above else above

/-- The segments behind which a further one is kept.  In a file path a drive letter in front is
taken off the rest of its segment. -/
def keep (style : PathStyle) (kept : List (List Char)) (segment : List Char) : List (List Char) :=
  match style, kept, segment with
  | .file, [], letter :: ':' :: c :: name =>
    if letter.isAlpha then [c :: name, [letter, ':']] else [segment]
  | _, _, _ => segment :: kept

/-- **Resolves the segments of a path** behind those that are kept already, the last one first.  A
dot segment at the very end leaves an empty segment, so that the path ends with a slash. -/
def settle (style : PathStyle) : (kept rest : List (List Char)) → List (List Char)
  | kept, [] => kept.reverse
  | kept, [last] =>
    if isDoubleDot last then ([] :: stepUp kept).reverse
    else if isSingleDot last then ([] :: kept).reverse
    else (keep style kept last).reverse
  | kept, segment :: rest =>
    if isDoubleDot segment then settle style (stepUp kept) rest
    else if isSingleDot segment then settle style kept rest
    else settle style (keep style kept segment) rest

/-- The path with the segments of a text, which has no slash in front. -/
def pathOf (style : PathStyle) (cs : List Char) : List Char :=
  let settled := settle style [] (cut style.isSlash cs)
  let counted := match style with
    | .file => settled.dropWhile (·.isEmpty)
    | _ => settled
  '/' :: ['/'].intercalate counted

/-- A text without a slash in front. -/
def withoutSlash (style : PathStyle) : List Char → List Char
  | [] => []
  | c :: rest => if style.isSlash c then rest else c :: rest

/-! ## 3. Authorities -/

/-- What precedes and what follows the last `@` of an authority. -/
def cutUserInfo (authority : List Char) : Option (List Char) × List Char :=
  match cut (· == '@') authority with
  | [host] => (none, host)
  | pieces => (some (['@'].intercalate pieces.dropLast), pieces.getLastD [])

/-- The host and, if there is a colon, what follows it in an authority; a colon between brackets
is part of the host. -/
def cutPort : (inBrackets : Bool) → List Char → List Char × Option (List Char)
  | _, [] => ([], none)
  | inBrackets, c :: rest =>
    if c == ':' && !inBrackets then ([], some rest)
    else
      let (host, port) := cutPort ((inBrackets || c == '[') && c != ']') rest
      (c :: host, port)

/-- The path behind an authority of a link that needs a host. -/
def pathAfterHost? (cs : List Char) : Option (List Char) :=
  let isSlash := PathStyle.common.isSlash
  let (host, port) := cutPort false (cutUserInfo (cs.takeWhile fun c => !isSlash c)).2
  if (Host.ofText? host).isSome && port.all isPort then
    some (pathOf .common (withoutSlash .common (cs.dropWhile fun c => !isSlash c)))
  else none

/-- What follows the digits of a port; a backslash may end them where it is no slash. -/
def afterPort? (port : List Char) : Option (List Char) :=
  let rest := port.dropWhile Char.isDigit
  if isPort (port.takeWhile Char.isDigit) && rest.head?.all (· == '\\') then some rest else none

/-- The path behind an authority of a link that can do without a host, but then has no port and no
user either; a lone colon names no user. -/
def pathAfterOpaqueHost? (cs : List Char) : Option (List Char) :=
  let (user, hostPort) := cutUserInfo (cs.takeWhile (· != '/'))
  let (host, port) := cutPort false hostPort
  let hasUser := user.any (· != [':'])
  if !isOpaqueHost host || (host.isEmpty && (hasUser || port.isSome)) then none
  else
    (afterPort? (port.getD [])).map fun rest =>
      match rest ++ cs.dropWhile (· != '/') with
      | [] => []
      | path => pathOf .plain (withoutSlash .plain path)

/-! ## 4. Links -/

/-- The path of a link without scheme, or with the scheme of the site and at most one slash after
it. Two slashes announce a host. -/
def siteRelativePath? (cs : List Char) : Option (List Char) :=
  let isSlash := PathStyle.common.isSlash
  match cs with
  | '/' :: '/' :: rest => pathAfterHost? rest
  | _ =>
    if 2 ≤ (cs.takeWhile isSlash).length then pathAfterHost? (cs.dropWhile isSlash)
    else some (pathOf .common (withoutSlash .common cs))

/-- The path of a link to a file behind two slashes.  There may be a host, or a drive letter in
its place.  Without a host, or with the host where the link is read, the slash in front counts as
an empty segment. -/
def pathAfterFileHost? (cs : List Char) : Option (List Char) :=
  let host := cs.takeWhile fun c => !PathStyle.file.isSlash c
  let path := cs.dropWhile fun c => !PathStyle.file.isSlash c
  if isDrive host then some (pathOf .file cs)
  else if host.isEmpty then some (pathOf .file path)
  else (Host.ofText? host).map fun found =>
    pathOf .file (if found = .localhost then path else withoutSlash .file path)

/-- The path of a link to a file. -/
def filePath? (cs : List Char) : Option (List Char) :=
  if 2 ≤ (cs.takeWhile PathStyle.file.isSlash).length then pathAfterFileHost? (cs.drop 2)
  else some (pathOf .file (withoutSlash .file cs))

/-- The path of a link of an uncommon scheme.  Without a slash in front it is opaque: one text
that has no segments. -/
def plainPath? : List Char → Option (List Char)
  | '/' :: '/' :: rest => pathAfterOpaqueHost? rest
  | '/' :: rest => some (pathOf .plain rest)
  | opaquePath => some opaquePath

/-- The path of a link, still percent-encoded. -/
def encodedPath? (link : List Char) : Option (List Char) :=
  let cs := withoutQuery (cleaned link)
  match scheme? cs with
  | none => siteRelativePath? cs
  | some (scheme, rest) =>
    let isSlash := PathStyle.common.isSlash
    if scheme = "file".toList then filePath? rest
    else if scheme = "https".toList then
      if (rest.takeWhile isSlash).length < 2 then siteRelativePath? rest
      else pathAfterHost? (rest.dropWhile isSlash)
    else if scheme ∈ ["http".toList, "ws".toList, "wss".toList, "ftp".toList] then
      pathAfterHost? (rest.dropWhile isSlash)
    else plainPath? rest

/-- **The path of a link**, with its percent signs decoded; none if the link is malformed. -/
def path? (link : String) : Option String := do
  let encoded ← encodedPath? link.toList
  let path ← Percent.decode? encoded
  return String.ofList path

end ApiPages.Link
