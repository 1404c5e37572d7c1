import NamePatterns.ErrorClass.Registry
import NamePatterns.Path

/-!
# Faults of Configuration Files

What can fail about a configuration file, how it is worded, and the classes of
errors that it belongs to.

## Main definitions

* `FileFault`: What failed about a file.
* `FileFault.message`: The wording, from the file and the cause.
* `fieldTypeMessage`: The wording for a value of the wrong type.
-/

namespace NamePatterns

/-- What failed about a configuration file. -/
inductive FileFault where
  /-- Turning it into a configuration. -/
  | parse
  /-- Reading it. -/
  | read
  /-- The check of its contents. -/
  | invalid
  deriving DecidableEq, Repr

/-- A file as it is named in reports on contents, which need no file. -/
def shownPath : Option Path → String
  | some p => p.text
  | none => "<text>"

namespace FileFault

/-- The class of errors that a fault belongs to. -/
def errorClass : FileFault → ErrorClass
  | parse => .configParse
  | read => .configRead
  | invalid => .invalidConfig

/-- The wording of a fault of a file, with its cause. -/
def message (path : Option Path) (cause : String) : FileFault → String
  | parse => "Unable to parse " ++ shownPath path ++ ": " ++ cause
  | read => "Unable to read " ++ (path.map Path.text).getD "None" ++ ": " ++ cause
  | invalid => "Invalid pytest configuration in " ++ shownPath path ++ ": " ++ cause

end FileFault

/-- The wording for a key whose value is of the wrong type. -/
def fieldTypeMessage (key : String) : String :=
  key ++ " must be a string or a list of strings"

end NamePatterns
