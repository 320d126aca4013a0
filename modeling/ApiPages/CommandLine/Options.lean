/-
# Command lines

What the words of a command line ask for.  There are two operands, the root of the saved site and
the name of the library, and options with and without a value.  The words are taken one by one;
the first one that makes no sense ends the reading, as does a question for the version or for
help.

An option has its value in the same word, behind `=` or directly behind its letter, or in the next
word, which then must not look like an option itself.  Letters of options without a value may
share a word.  No option may be given twice.  Behind `--` every word is an operand.
-/
import ApiPages.Library

namespace ApiPages.CommandLine

/-! ## 1. Options -/

/-- An option that stands alone. -/
inductive Flag where
  | failFast
  | verbose
  | silent
  | noColor
  deriving Repr, DecidableEq

/-- An option with a value. -/
inductive Setting where
  | layout
  | output
  | depth
  deriving Repr, DecidableEq

/-- What an option does. -/
inductive Switch where
  | flag (flag : Flag)
  | setting (setting : Setting)
  | version
  | help
  deriving Repr, DecidableEq

/-- The option with a long name. -/
def ofLongName? : String → Option Switch
  | "layout" => some (.setting .layout)
  | "output" => some (.setting .output)
  | "max-generic-depth" => some (.setting .depth)
  | "fail-fast" => some (.flag .failFast)
  | "verbose" => some (.flag .verbose)
  | "silent" => some (.flag .silent)
  | "no-color" => some (.flag .noColor)
  | "version" => some .version
  | "help" => some .help
  | _ => none

/-- The option with a letter. -/
def ofLetter? : Char → Option Switch
  | 'l' => some (.setting .layout)
  | 'o' => some (.setting .output)
  | 'v' => some (.flag .verbose)
  | 's' => some (.flag .silent)
  | 'V' => some .version
  | 'h' => some .help
  | _ => none

/-- A number below 2^64 in decimal digits, possibly behind a plus sign. -/
def depthOfText? (text : String) : Option Nat :=
  let digits := (Text.after? "+".toList text.toList).getD text.toList
  let value? := fun c : Char => if c.isDigit then some (c.toNat - 48) else none
  (Text.number? 10 value? digits).filter (· < UInt64.size)

/-- Whether an option takes a value. -/
def Setting.accepts : Setting → String → Bool
  | layout, value => (Layout.ofName? value).isSome
  | output, value => value != ""
  | depth, value => (depthOfText? value).isSome

/-! ## 2. Requests -/

/-- What a complete command line asks for. -/
structure Settings where
  /-- The root of the saved site. -/
  root : String
  library : String
  /-- The file that the declarations go to; without one they are printed. -/
  output : Option String
  options : Library.Options
  /-- Whether nothing is to be reported. -/
  silent : Bool
  deriving Repr, DecidableEq

/-- Why the reading of a command line ends early. -/
inductive Interruption where
  | usageError
  | version
  | help
  deriving Repr, DecidableEq

/-- The words that have been read. -/
structure Words where
  operands : List String := []
  flags : List Flag := []
  values : List (Setting × String) := []
  deriving Repr

namespace Words

/-- One operand more: there are two, and the root is not empty. -/
def addOperand (w : Words) (operand : String) : Except Interruption Words :=
  if 2 ≤ w.operands.length ∨ (w.operands = [] ∧ operand = "") then .error .usageError
  else .ok { w with operands := w.operands ++ [operand] }

/-- One flag more, which must not have been given before. -/
def addFlag (w : Words) (flag : Flag) : Except Interruption Words :=
  if flag ∈ w.flags then .error .usageError else .ok { w with flags := flag :: w.flags }

/-- One value more, of an option that must not have been given before. -/
def addValue (w : Words) (setting : Setting) (value : String) : Except Interruption Words :=
  if w.values.any (·.1 = setting) ∨ !setting.accepts value then .error .usageError
  else .ok { w with values := (setting, value) :: w.values }

/-- The letters of one word; the result names the option that still has to get its value. -/
def addLetters (w : Words) : List Char → Except Interruption (Words × Option Setting)
  | [] => .ok (w, none)
  | letter :: rest =>
    match ofLetter? letter with
    | none => .error .usageError
    | some .version => .error .version
    | some .help => .error .help
    | some (.flag flag) =>
      match w.addFlag flag with
      | .ok w => addLetters w rest
      | .error interruption => .error interruption
    | some (.setting setting) =>
      if rest.isEmpty then .ok (w, some setting)
      else do
        let value := (Text.after? ['='] rest).getD rest
        return (← w.addValue setting (String.ofList value), none)

/-- A long name, possibly with a value; the result names the option that still has to get its
value. -/
def addLongName (w : Words) (text : List Char) : Except Interruption (Words × Option Setting) :=
  let name := String.ofList (text.takeWhile (· != '='))
  let value := (Text.after? ['='] (text.dropWhile (· != '='))).map String.ofList
  match ofLongName? name, value with
  | some (.setting setting), some value => return (← w.addValue setting value, none)
  | some (.setting setting), none => .ok (w, some setting)
  | some (.flag flag), none => return (← w.addFlag flag, none)
  | some .version, none => .error .version
  | some .help, none => .error .help
  | _, _ => .error .usageError

/-- Whether a word looks like an option. -/
def looksLikeOption (word : String) : Bool := word.toList.head? == some '-' && word != "-"

/-- Adds all words, where `waiting` is the option that has to get its value from the next one. -/
def addAll (w : Words) : Option Setting → List String → Except Interruption Words
  | none, [] => .ok w
  | some _, [] => .error .usageError
  | some setting, word :: rest =>
    if looksLikeOption word then .error .usageError
    else
      match w.addValue setting word with
      | .ok w => addAll w none rest
      | .error interruption => .error interruption
  | none, word :: rest =>
    if word = "--" then rest.foldlM addOperand w
    else
      let step :=
        match Text.after? "--".toList word.toList with
        | some text => w.addLongName text
        | none =>
          if looksLikeOption word then w.addLetters word.toList.tail
          else (w.addOperand word).map (·, none)
      match step with
      | .ok (w, waiting) => addAll w waiting rest
      | .error interruption => .error interruption

/-- The value of an option, if it was given. -/
def value? (w : Words) (setting : Setting) : Option String :=
  (w.values.find? (·.1 = setting)).map (·.2)

/-- What the words ask for: both operands must be there, and being verbose excludes being silent. -/
def settings (w : Words) : Except Interruption Settings :=
  match w.operands with
  | [root, library] =>
    if Flag.verbose ∈ w.flags ∧ Flag.silent ∈ w.flags then .error .usageError
    else .ok {
      root, library
      output := w.value? .output
      options := {
        layout := (w.value? .layout).bind Layout.ofName?
        limit := (w.value? .depth).bind depthOfText?
        failFast := Flag.failFast ∈ w.flags }
      silent := Flag.silent ∈ w.flags }
  | _ => .error .usageError

end Words

/-- **What a command line asks for.** -/
def read (arguments : List String) : Except Interruption Settings := do
  let words ← Words.addAll {} none arguments
  words.settings

end ApiPages.CommandLine
