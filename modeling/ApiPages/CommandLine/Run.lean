/-
# Runs of the program

A run reads a library and delivers its declarations, printed or to a file.  Then it reports how
many there are and which pages failed.  If the library cannot be read, or the file cannot be
written, the run fails with a message and reports nothing.
-/
import ApiPages.CommandLine.Options
import ApiPages.Json.Declaration
import ApiPages.Site.FileTree

namespace ApiPages.CommandLine

/-! ## 1. Outcomes -/

/-- What a run shows: its exit code and what it prints. -/
structure Outcome where
  exitCode : Nat
  output : String := ""
  errors : String := ""
  deriving Repr, DecidableEq

namespace Outcome

/-- A run that fails with a message. -/
def failed (message : String) : Outcome := { exitCode := 1, errors := "error: " ++ message ++ "\n" }

/-- A command line that makes no sense. -/
def usageError : Outcome where
  exitCode := 2
  errors := "error: invalid arguments\n\nUsage: stubdoc [OPTIONS] <ROOT> <LIBRARY>\n"

/-- The answer to a question for the version. -/
def version : Outcome := { exitCode := 0, output := "stubdoc 0.1.0\n" }

/-- The lines that say how the program is used. -/
def helpLines : List String :=
  ["Reconstruct API declarations from saved reference pages", "",
    "Usage: stubdoc [OPTIONS] <ROOT> <LIBRARY>", "",
    "Arguments:",
    "  <ROOT>     Root of the saved site, the directory with reference/",
    "  <LIBRARY>  Dotted name of the library", "",
    "Options:",
    "  -l, --layout <LAYOUT>        android or google; told from the index if absent",
    "  -o, --output <OUTPUT>        Write the declarations to a file",
    "      --fail-fast              Stop at the first page that fails",
    "      --max-generic-depth <N>  Greatest nesting of type arguments",
    "  -v, --verbose                Log more",
    "  -s, --silent                 Report nothing",
    "      --no-color               Print without colors",
    "  -h, --help                   Print help",
    "  -V, --version                Print version"]

/-- The answer to a question for help. -/
def help : Outcome where
  exitCode := 0
  output := String.join (helpLines.map (· ++ "\n"))

/-- The answer to a command line that asks for no run. -/
def ofInterruption : Interruption → Outcome
  | .usageError => usageError
  | .version => version
  | .help => help

end Outcome

/-! ## 2. Deliveries -/

/-- The line of a report that counts. -/
def summary (r : Library.Reconstruction) : String :=
  toString r.count ++ " declarations (" ++ r.layout.name ++ " layout), "
    ++ toString r.failures.length ++ " failed pages\n"

/-- The line of a report for a failed page. -/
def failureLine (failure : Failure) : String :=
  "  [" ++ failure.category.label ++ "] " ++ failure.message ++ "\n"

/-- **The report of a run**: a summary, and a line for each failed page. -/
def report (r : Library.Reconstruction) : String :=
  summary r ++ String.join (r.failures.map failureLine)

/-- The declarations as they are delivered. -/
def stored (r : Library.Reconstruction) : String :=
  (Json.array (ClassDeclaration.allToJson r.declarations)).print 0 ++ "\n"

/-- What is left to do once the library has been read. -/
inductive Delivery where
  /-- Nothing but to show this. -/
  | shown (outcome : Outcome)
  /-- To write a text to a file, and then to show this. -/
  | saved (path text : String) (outcome : Outcome)
  deriving Repr

namespace Settings

/-- How the result of reading the library is delivered. -/
def deliver (s : Settings) (result : Except Failure Library.Reconstruction) : Delivery :=
  match result with
  | .error failure => .shown (.failed failure.message)
  | .ok r =>
    let errors := if s.silent then "" else report r
    match s.output with
    | none => .shown { exitCode := 0, output := stored r, errors }
    | some path => .saved path (stored r) { exitCode := 0, errors }

/-- A run on a file tree, with the tree that it leaves. -/
def run (s : Settings) (t : FileTree) : Outcome × FileTree :=
  match s.deliver (Library.reconstruct s.options (t.pages s.root) s.library) with
  | .shown outcome => (outcome, t)
  | .saved path text outcome =>
    match t.write path text with
    | .ok after => (outcome, after)
    | .error fault => (.failed fault.text, t)

end Settings

/-- **What a command line does** on a file tree. -/
def run (arguments : List String) (t : FileTree) : Outcome × FileTree :=
  match read arguments with
  | .ok settings => settings.run t
  | .error interruption => (.ofInterruption interruption, t)

end ApiPages.CommandLine
