import NamePatterns.Config.Fault
import NamePatterns.Config.Options
import NamePatterns.Ini
import NamePatterns.Text.Utf8
import NamePatterns.Toml.Document

/-!
# Configuration Sources

The wildcards in the contents of a configuration file.

Contents are text or bytes, which are read as UTF-8. An INI document is asked
for the two keys of its section. In a TOML document the tables that lead to
the keys may be missing or null, which is like giving no wildcards; anything
else in their place is refused.

Contents are refused for one of five causes, and the report names the file.
The one thing that is not reported in this way is an integer that is too long
to be converted.

## Main definitions

* `Source`: What a configuration file says.
* `Source.parse`: The contents of a file as a source.
* `Source.ofDocument`: A TOML document as a source.
* `InvalidConfig`, `ConfigError`: Why contents are refused.
-/

namespace NamePatterns

/-- The contents of a file. -/
inductive Content where
  /-- Text. -/
  | text (s : String)
  /-- Bytes, not yet decoded. -/
  | bytes (bs : List UInt8)
  deriving DecidableEq, Repr

/-- Why contents are no configuration. -/
inductive InvalidCause where
  /-- They are no INI document. -/
  | ini (file : String) (e : Ini.ParseError)
  /-- They are no TOML document. -/
  | toml (text : String) (e : Toml.ParseError)
  /-- They are not encoded in UTF-8. -/
  | encoding (e : Utf8.DecodeError)
  /-- One of the keys on the way to the options leads to no table. -/
  | notTable (walked : List String)
  /-- The options have values of wrong kinds. -/
  | options (e : OptionsError)

/-- The wording of a cause. -/
def InvalidCause.message : InvalidCause → String
  | ini file e => e.message file
  | toml text e => e.message (Toml.withFeeds text.toList)
  | encoding e => e.message
  | notTable walked => "[" ++ ".".intercalate walked ++ "] must be a TOML table"
  | options e => e.message

/-- A file whose contents are no configuration. -/
structure InvalidConfig where
  /-- The file. -/
  path : Option Path
  /-- What is wrong. -/
  cause : InvalidCause

/-- The wording of the report. -/
def InvalidConfig.message (e : InvalidConfig) : String :=
  FileFault.invalid.message e.path e.cause.message

/-- Why a configuration cannot be had. -/
inductive ConfigError where
  /-- The contents are no configuration. -/
  | invalid (e : InvalidConfig)
  /-- An integer is too long to be converted. -/
  | tooManyDigits (e : Text.TooManyDigits)

/-- The wording of a configuration error. -/
def ConfigError.message : ConfigError → String
  | invalid e => e.message
  | tooManyDigits e => e.message

/-- A refusal of a file for a cause. -/
def ConfigError.because {α : Type} (path : Option Path) (cause : InvalidCause) :
    Except ConfigError α :=
  .error (.invalid ⟨path, cause⟩)

/-- What a configuration file says. -/
inductive Source where
  /-- An INI document. -/
  | ini (document : Ini.Document) (path : Option Path)
  /-- The options of a TOML document, if it has any. -/
  | toml (options : Option Patterns) (path : Option Path)
  deriving DecidableEq, Repr

namespace Source

/-- The format of a source. -/
def format : Source → ConfigFormat
  | ini .. => .ini
  | toml .. => .toml

/-- The file of a source. -/
def path : Source → Option Path
  | ini _ path | toml _ path => path

/-- The value of a key of an INI document, in the section of the options. -/
def value? : Source → String → Option String
  | ini document _, key => document.get? iniSection key
  | toml .., _ => none

/-- The wildcards of a source. -/
def patterns : Source → Patterns
  | ini document _ =>
    ⟨document.get? iniSection NameKind.cls.key, document.get? iniSection NameKind.function.key⟩
  | toml options _ => options.getD {}

/-- The table that keys lead to, if none of them is missing or null; the keys
    walked so far, if one of them leads to something else. -/
def descend (walked : List String) : List String → Table → Except (List String) (Option Table)
  | [], t => .ok (some t)
  | k :: ks, t =>
    match t.find? k with
    | none | some .null => .ok none
    | some (.table inner) => descend (walked ++ [k]) ks inner
    | some _ => .error (walked ++ [k])

/-- A TOML document as a source. -/
def ofDocument (document : Table) (path : Option Path) : Except ConfigError Source :=
  match descend [] tomlTable document with
  | .error walked => ConfigError.because path (.notTable walked)
  | .ok none => .ok (toml none path)
  | .ok (some t) =>
    match Options.ofTable t with
    | .ok options => .ok (toml (some options) path)
    | .error e => ConfigError.because path (.options e)

/-- An INI text as a source. -/
def ofIni (text : String) (path : Option Path) : Except ConfigError Source :=
  match Ini.parse text with
  | .ok document => .ok (ini document path)
  | .error e =>
    let file :=
      match path with
      | some p => p.text
      | none => defaultFileName
    ConfigError.because path (.ini file e)

/-- A TOML text as a source. -/
def ofToml (text : String) (path : Option Path) : Except ConfigError Source :=
  match Toml.parse text.toList with
  | .ok document => ofDocument document path
  | .error (.malformed e) => ConfigError.because path (.toml text e)
  | .error (.tooManyDigits e) => .error (.tooManyDigits e)

/-- The text of contents. -/
def decode (content : Content) (path : Option Path) : Except ConfigError String :=
  match content with
  | .text s => .ok s
  | .bytes bs =>
    match Utf8.decode bs with
    | .ok s => .ok s
    | .error e => ConfigError.because path (.encoding e)

/-- The contents of a file as a source. -/
def parse (content : Content) (format : ConfigFormat) (path : Option Path) :
    Except ConfigError Source := do
  let text ← decode content path
  match format with
  | .ini => ofIni text path
  | .toml => ofToml text path

end Source

end NamePatterns
