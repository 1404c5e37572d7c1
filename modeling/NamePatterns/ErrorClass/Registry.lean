import NamePatterns.ErrorClass

/-!
# Error Codes

The classes of errors that the library knows, and the stable codes of its own.

The code of an error is that of the first registered class among its class and
the ancestors of its class. Errors of no registered class share the code of
the most general one.

## Main definitions

* `ErrorClass.registry`: The registered classes with their codes.
* `ErrorClass.code`: The code of a class.
* `ErrorClass.known`: All classes that are known by name.
-/

namespace NamePatterns

namespace ErrorClass

/-- The root of all classes of errors that programs define. -/
def exception : ErrorClass := ⟨"Exception", ["BaseException", "object"]⟩

/-- Errors in values. -/
def value : ErrorClass := ⟨"ValueError", exception.lineage⟩

/-- Errors in the types of values. -/
def type : ErrorClass := ⟨"TypeError", exception.lineage⟩

/-- Keys that are missing. -/
def key : ErrorClass := ⟨"KeyError", "LookupError" :: exception.lineage⟩

/-- Errors of the operating system. -/
def os : ErrorClass := ⟨"OSError", exception.lineage⟩

/-- All errors of the library. -/
def library : ErrorClass := ⟨"PytestImpError", exception.lineage⟩

/-- Data that fails a check. -/
def validation : ErrorClass :=
  ⟨"PytestImpValidationError", library.name :: value.lineage⟩

/-- Data of an unexpected type. -/
def wrongType : ErrorClass :=
  ⟨"PytestImpTypeError", library.name :: type.lineage⟩

/-- Configuration data that fails a check. -/
def configValidation : ErrorClass :=
  ⟨"ConfigValidationError", validation.lineage⟩

/-- A configuration key with a value of the wrong type. -/
def configFieldType : ErrorClass :=
  ⟨"ConfigFieldTypeError", configValidation.lineage⟩

/-- A file that cannot be turned into a configuration. -/
def configParse : ErrorClass :=
  ⟨"ConfigParseError", configValidation.lineage⟩

/-- A configuration file that cannot be read. -/
def configRead : ErrorClass :=
  ⟨"ConfigReadError", configParse.lineage⟩

/-- A configuration file whose contents are malformed. -/
def invalidConfig : ErrorClass :=
  ⟨"InvalidConfigFileError", configParse.lineage⟩

/-- A list of wildcards that is refused. -/
def patternCompile : ErrorClass :=
  ⟨"PatternCompileError", library.lineage⟩

/-- A registered class. -/
structure Registered where
  /-- The class. -/
  cls : ErrorClass
  /-- Where it is listed. -/
  place : String
  /-- Its code. -/
  code : String
  deriving DecidableEq, Repr

/-- The code of the most general class. -/
def generalCode : String := "PI000"

/-- The registered classes with their codes. -/
def registry : List Registered :=
  [⟨library, "pytestimp._internal.exceptions", generalCode⟩,
    ⟨validation, "pytestimp._internal.exceptions", "PI100"⟩,
    ⟨wrongType, "pytestimp._internal.exceptions", "PI101"⟩,
    ⟨configValidation, "pytestimp.config.models", "PI110"⟩,
    ⟨configFieldType, "pytestimp.config.models", "PI111"⟩,
    ⟨configParse, "pytestimp.config.models", "PI112"⟩,
    ⟨configRead, "pytestimp.config.models", "PI113"⟩,
    ⟨invalidConfig, "pytestimp.config.models", "PI114"⟩,
    ⟨patternCompile, "pytestimp.patterns.wildcard_set", "PI200"⟩]

/-- The full name of a registered class. -/
def Registered.fullName (r : Registered) : String :=
  r.place ++ "." ++ r.cls.name

/-- The code registered for a name. -/
def codeOf? (name : String) : Option String :=
  (registry.find? (·.cls.name = name)).map Registered.code

/-- The code of a class. -/
def code (c : ErrorClass) : String :=
  (c.lineage.findSome? codeOf?).getD generalCode

/-- All classes that are known by name. -/
def known : List ErrorClass :=
  registry.map Registered.cls ++ [exception, value, type, key, os]

/-- A class by its name. -/
def ofName? (name : String) : Option ErrorClass :=
  known.find? (·.name = name)

end ErrorClass

end NamePatterns
