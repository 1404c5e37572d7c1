import NamePatterns.Config
import NamePatterns.Files

/-!
# Loading Configurations

Configurations in files.

The ending of a file's name, in any case of its letters, tells the format. A
file of another ending and a file that does not exist hold no configuration.
A file that is no valid configuration can count as holding none as well, which
is reported.

A file that is there and cannot be read is an error of its own, of the class
`ErrorClass.configRead`, which counts as no valid configuration. In a tree of
files every file can be read, so this error is left out here: the class has its
place in the hierarchy of classes and its code, and no reading comes to it.

## Main definitions

* `ConfigFormat.ofPath?`: The format that an ending tells.
* `Config.load`: The configuration in a file.
* `Config.loadOrNone`: The same, with none in place of an invalid one.
-/

namespace NamePatterns

/-- The format that the ending of a file tells. -/
def ConfigFormat.ofPath? (p : Path) : Option ConfigFormat :=
  match String.ofList (p.ending.toList.map Text.lowerAscii) with
  | ".ini" => some .ini
  | ".toml" => some .toml
  | _ => none

namespace Config

/-- The configuration in a file, if there is one. -/
def load (fs : Files) (path : Option Path) : Except ConfigError (Option Config) :=
  match path with
  | none => .ok none
  | some p =>
    match ConfigFormat.ofPath? p, fs.read? p with
    | some format, some bytes => (parse (.bytes bytes) format (some p)).map some
    | _, _ => .ok none

/-- The report on a file that counts as holding no configuration. -/
def ignoredRecord (component : Log.Component) (path : Option Path) (format : Option ConfigFormat)
    (e : InvalidConfig) : Log.Record where
  logger := component.logger
  level := Log.Level.warning
  message := "Ignoring unreadable pytest config: " ++ e.message
  fields :=
    [(.component, .text component.name)]
      ++ (path.map fun p => (Log.Field.path, Value.text p.text)).toList
      ++ (format.map fun f => (Log.Field.format, Value.text f.name)).toList

/-- The configuration in a file, if there is a valid one. -/
def loadOrNone (fs : Files) (path : Option Path) : Logged Text.TooManyDigits (Option Config) :=
  match load fs path with
  | .ok c => ⟨[], .ok c⟩
  | .error (.invalid e) =>
    ⟨[ignoredRecord .config path (path.bind ConfigFormat.ofPath?) e], .ok none⟩
  | .error (.tooManyDigits e) => ⟨[], .error e⟩

end Config

end NamePatterns
