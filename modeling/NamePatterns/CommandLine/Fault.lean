import NamePatterns.CommandLine.Layout
import NamePatterns.Text.Quoted

/-!
# Faults of Command Lines

Why a command line is refused, and how that is worded.

## Main definitions

* `CommandLine.UsageError`: Why a command line is refused.
* `CommandLine.UsageError.message`: The wording.
* `CommandLine.Stop`: What ends the reading of a command line.
-/

namespace NamePatterns

namespace CommandLine

/-- The name of an option in reports: all its spellings. -/
def Flag.shown (f : Flag) : String :=
  "/".intercalate f.spellings

/-- Why a command line is refused. -/
inductive UsageError where
  /-- A word that is short for several options. -/
  | ambiguous (word : String) (spellings : List String)
  /-- A value for an option that takes none. -/
  | ignoredValue (flag : Flag) (value : String)
  /-- No value for an option that takes one. -/
  | missingValue (flag : Flag)
  /-- A value that is none of the choices for a subject. -/
  | invalidChoice (subject value : String) (choices : List String)
  /-- No operand where one is needed. -/
  | missingOperand (name : String)
  /-- Words that belong nowhere. -/
  | unrecognized (words : List String)
  /-- No command. -/
  | noCommand
  deriving DecidableEq, Repr

/-- The wording of a fault of an argument. -/
def argumentMessage (subject fault : String) : String :=
  "argument " ++ subject ++ ": " ++ fault

/-- The wording of a usage error. -/
def UsageError.message : UsageError → String
  | ambiguous word spellings =>
    "ambiguous option: " ++ word ++ " could match " ++ ", ".intercalate spellings
  | ignoredValue flag value =>
    argumentMessage flag.shown ("ignored explicit argument " ++ Text.quoted value)
  | missingValue flag => argumentMessage flag.shown "expected one argument"
  | invalidChoice subject value choices =>
    argumentMessage subject ("invalid choice: " ++ Text.quoted value ++ " (choose from "
      ++ ", ".intercalate (choices.map Text.quoted) ++ ")")
  | missingOperand name => "the following arguments are required: " ++ name
  | unrecognized words => "unrecognized arguments: " ++ " ".intercalate words
  | noCommand => "No command provided."

/-- What ends the reading of a command line before anything is done. -/
inductive Stop where
  /-- Help is asked for. -/
  | help (spec : Spec)
  /-- The command line is refused. -/
  | refused (spec : Spec) (error : UsageError)
  deriving DecidableEq, Repr

/-- The report on a refused command line, after the usage. -/
def refusal (s : Spec) (e : UsageError) : String :=
  s.usage ++ s.name ++ ": error: " ++ e.message ++ "\n"

end CommandLine

end NamePatterns
