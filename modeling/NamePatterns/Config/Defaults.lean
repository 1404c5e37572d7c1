import NamePatterns.Choice

/-!
# Names and Defaults of the Configuration

Where the wildcards stand in configuration files, and which ones hold where
none are given.

## Main definitions

* `NameKind.key`: The key of the wildcards for a kind of names.
* `NameKind.defaultWildcards`: The wildcards that hold where none are given.
* `iniSection`, `tomlTable`: Where the keys stand.
* `defaultFileName`: The file that is read where none is named.
-/

namespace NamePatterns

namespace NameKind

/-- The key of the wildcards for a kind of names. -/
def key : NameKind → String
  | cls => "python_classes"
  | function => "python_functions"

/-- The wildcards that hold where none are given. -/
def defaultWildcards : NameKind → String
  | cls => "Test*"
  | function => "test_*"

/-- Whether dashes in wildcards for a kind of names stand for the start of a
    word. -/
def dashes : NameKind → Bool
  | cls => true
  | function => false

end NameKind

/-- The section of an INI document that the keys stand in. -/
def iniSection : String := "pytest"

/-- The tables of a TOML document that lead to the keys. -/
def tomlTable : List String := ["tool", "pytest", "ini_options"]

/-- The file that is read where none is named. -/
def defaultFileName : String := "pytest.ini"

end NamePatterns
