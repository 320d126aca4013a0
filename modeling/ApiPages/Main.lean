/-
# The program

Reads the command line, fetches the pages that the library needs, and delivers its
declarations.  The reading itself is a function of the pages; here they are only brought from the
disk.
-/
import ApiPages.CommandLine.Run

namespace ApiPages.Program

/-- The fault with a number of the system, which some accesses give with a minus sign. -/
def faultOfCode (code : UInt32) (details : String) : FileFault :=
  match (if code < 0x80000000 then code else 0 - code).toNat with
  | 2 => .noSuchFile
  | 20 => .notADirectory
  | 21 => .isADirectory
  | number => ⟨details ++ " (os error " ++ toString number ++ ")", false⟩

/-- What the system says about a failed access. -/
def faultOf : IO.Error → FileFault
  | .noFileOrDirectory _ code details | .inappropriateType _ code details
  | .permissionDenied _ code details | .resourceExhausted _ code details
  | .alreadyExists _ code details | .invalidArgument _ code details
  | .otherError code details | .resourceBusy code details
  | .unsupportedOperation code details | .hardwareFault code details => faultOfCode code details
  | other => ⟨toString other, false⟩

/-- The text of a file. -/
def readText (path : String) : IO (Except FileFault String) := do
  try
    let bytes ← IO.FS.readBinFile path
    match Text.Utf8.decode? bytes.toList with
    | some text => return .ok (String.ofList text)
    | none => return .error .notText
  catch fault => return .error (faultOf fault)

/-- The pages at some site paths of a site that is saved under `root`. -/
def fetch (root : String) (paths : List String) :
    IO (List (String × Except Failure String)) :=
  paths.mapM fun path => do
    let file := Site.fileOf root path
    return (path, (← readText file).mapError (.unreadable file))

/-- A source of the pages that have been fetched. -/
def sourceOf (pages : List (String × Except Failure String)) : PageSource := fun path =>
  (pages.lookup path).getD (.error (.unreadable path .noSuchFile))

/-- Reads the library that the settings name. -/
def reconstruct (s : CommandLine.Settings) : IO (Except Failure Library.Reconstruction) := do
  let indexes ← fetch s.root
    ((Library.candidates s.options.layout).map (Library.indexPath s.library))
  let pages ← fetch s.root (Library.pagePaths s.options (sourceOf indexes) s.library)
  return Library.reconstruct s.options (sourceOf (indexes ++ pages)) s.library

/-- Prints an outcome. -/
def display (outcome : CommandLine.Outcome) : IO UInt32 := do
  (← IO.getStdout).putStr outcome.output
  (← IO.getStderr).putStr outcome.errors
  return UInt32.ofNat outcome.exitCode

/-- Delivers what has been read. -/
def deliver : CommandLine.Delivery → IO UInt32
  | .shown outcome => display outcome
  | .saved path text outcome => do
    try
      IO.FS.writeFile path text
      display outcome
    catch fault => display (.failed (faultOf fault).text)

end ApiPages.Program

/-- The program. -/
def main (arguments : List String) : IO UInt32 :=
  match ApiPages.CommandLine.read arguments with
  | .ok settings => do
    ApiPages.Program.deliver (settings.deliver (← ApiPages.Program.reconstruct settings))
  | .error interruption => ApiPages.Program.display (.ofInterruption interruption)
