/-
# File trees

The files that the program works on, as one value: a tree of directories with files at its
ends.  Paths are taken relative to its top, and are walked as a file system walks them: through a
component at a time, each of which must be found in a directory.  What lies above the top, or is
reached from the root of the file system, is not there.
-/
import ApiPages.Library
import ApiPages.Site.Path
import ApiPages.Text.Utf8

namespace ApiPages

namespace FileFault

/-- There is no such file. -/
def noSuchFile : FileFault := ⟨"No such file or directory (os error 2)", true⟩

/-- A path goes on behind something that is no directory. -/
def notADirectory : FileFault := ⟨"Not a directory (os error 20)", false⟩

/-- A directory where a file is wanted. -/
def isADirectory : FileFault := ⟨"Is a directory (os error 21)", false⟩

/-- A name of more than 255 bytes, or a path of more than 4095. -/
def nameTooLong : FileFault := ⟨"File name too long (os error 36)", false⟩

/-- A file that is no text. -/
def notText : FileFault := ⟨"stream did not contain valid UTF-8", false⟩

end FileFault

/-- A file, or a directory with named entries. -/
inductive FileTree where
  | file (content : List UInt8)
  | directory (entries : List (String × FileTree))
  deriving Repr

namespace FileTree

/-- A directory without entries. -/
def empty : FileTree := directory []

instance : Inhabited FileTree := ⟨empty⟩

/-- The entries of a directory; a file has none. -/
def entries : FileTree → List (String × FileTree)
  | file _ => []
  | directory entries => entries

/-- Whether the tree is a directory. -/
def isDirectory : FileTree → Bool
  | file _ => false
  | directory _ => true

/-- What is reached through a sequence of names. -/
def get? (t : FileTree) : List String → Option FileTree
  | [] => some t
  | name :: rest => (t.entries.lookup name).bind (·.get? rest)

/-- The tree with something put at the end of a sequence of names; directories are made on the
way. -/
def put (t : FileTree) (content : FileTree) : List String → FileTree
  | [] => content
  | name :: rest =>
    let below := ((t.entries.lookup name).getD empty).put content rest
    directory ((name, below) :: t.entries.filter (·.1 != name))

/-! ## 1. Paths -/

/-- A name that no file can have. -/
def isTooLong (name : String) : Bool := 255 < name.utf8ByteSize

/-- Whether a path starts at the root of the file system. -/
def isAbsolute (path : String) : Bool := path.toList.head? = some '/'

/-- What is wrong with an absolute path that is to lead to a file. -/
def faultOfAbsolute (path : String) : FileFault :=
  match Site.segments path with
  | [] => .isADirectory
  | name :: _ => if isTooLong name then .nameTooLong else .noSuchFile

/-- One component of a path, from the directory with the names `here`. -/
def enter (t : FileTree) (here : List String) (component : String) :
    Except FileFault (List String) :=
  match t.get? here with
  | some (directory entries) =>
    if component = "" ∨ component = "." then .ok here
    else if component = ".." then
      if here.isEmpty then .error .noSuchFile else .ok here.dropLast
    else if isTooLong component then .error .nameTooLong
    else if (entries.lookup component).isSome then .ok (here ++ [component])
    else .error .noSuchFile
  | some (file _) => .error .notADirectory
  | none => .error .noSuchFile

/-- The names of the directory or file that a path leads to. -/
def walk (t : FileTree) (path : String) : Except FileFault (List String) :=
  if 4095 < path.utf8ByteSize then .error .nameTooLong
  else if path = "" then .error .noSuchFile
  else if isAbsolute path then .error (faultOfAbsolute path)
  else (Text.piecesOf '/' path).foldlM t.enter []

/-! ## 2. Reading and writing -/

/-- **The text of the file at a path.** -/
def read (t : FileTree) (path : String) : Except FileFault String := do
  let names ← t.walk path
  match t.get? names with
  | some (file content) =>
    match Text.Utf8.decode? content with
    | some text => return String.ofList text
    | none => .error .notText
  | some (directory _) => .error .isADirectory
  | none => .error .noSuchFile

/-- **The tree after a text has been written to the file at a path.**  The file need not be there,
but the directory that it is in has to. -/
def write (t : FileTree) (path text : String) : Except FileFault FileTree := do
  let trailing := path.toList.reverse.takeWhile (· == '/')
  let pieces := Text.piecesOf '/' (String.ofList (path.toList.take (path.length - trailing.length)))
  if 4095 < path.utf8ByteSize then .error .nameTooLong
  if isAbsolute path then .error (faultOfAbsolute path)
  let here ← pieces.dropLast.foldlM t.enter []
  let name := pieces.getLastD ""
  match t.get? here with
  | some (directory entries) =>
    let existing := entries.lookup name
    if !trailing.isEmpty || !Site.leadsDown name || existing.any isDirectory then
      .error .isADirectory
    else if isTooLong name then .error .nameTooLong
    else return t.put (file (Text.Utf8.encode text.toList)) (here ++ [name])
  | some (file _) => .error .notADirectory
  | none => .error .noSuchFile

/-- The tree of a list of paths with what is at each: the bytes of a file, or a directory. -/
def ofList (files : List (String × Option (List UInt8))) : FileTree :=
  files.foldl (fun t (path, content) =>
    let names := Site.segments path
    match content with
    | some bytes => t.put (file bytes) names
    | none => if (t.get? names).any isDirectory then t else t.put empty names) empty

/-- The pages of a site that is saved under `root`. -/
def pages (t : FileTree) (root : String) : PageSource := fun path =>
  let name := Site.fileOf root path
  (t.read name).mapError (.unreadable name)

end FileTree

end ApiPages
