import NamePatterns.Text.Integer
import NamePatterns.Text.Lines
import NamePatterns.Text.Quoted

/-!
# Refused Regular Expressions

Why a text is refused as a regular expression, and how that is worded.

Most refusals are faults of syntax, and most of those have a place. A position
counts characters from the start of the text; where the text spans several
lines, line and column are named as well. A few refusals are limits of another
kind: a count or a width that is too large to work with, or a match that does
not make sense.

## Main definitions

* `Fault`: What is wrong with the text.
* `SyntaxError`: A fault and its place.
* `LimitError`: What cannot be worked with.
* `Refusal`: Either of the two.
-/

namespace NamePatterns

namespace Regex

/-- What is wrong with a text that is no regular expression. -/
inductive Fault where
  /-- A backslash before a character that needs none. -/
  | badEscape (token : List Char)
  /-- A backslash at the end. -/
  | escapeAtEnd
  /-- A character set without its end. -/
  | unterminatedSet
  /-- A range whose ends are in the wrong order. -/
  | badRange (low high : List Char)
  /-- A repetition of a repetition. -/
  | multipleRepeat
  /-- A repetition of nothing. -/
  | nothingToRepeat
  /-- A repetition whose least count exceeds its greatest. -/
  | minAboveMax
  /-- A group without its end. -/
  | unterminatedGroup
  /-- A comment without its end. -/
  | unterminatedComment
  /-- The end of a group that was not opened. -/
  | unbalanced
  /-- The end of the text inside the head of a group. -/
  | unexpectedEnd
  /-- A group of no known kind. -/
  | unknownExtension (head : List Char)
  /-- No name where one belongs. -/
  | missingName
  /-- A name without its end. -/
  | unterminatedName (terminator : Char)
  /-- A name that is no identifier. -/
  | badName (name : List Char)
  /-- The name of no group. -/
  | unknownName (name : List Char)
  /-- A second group of one name. -/
  | redefinition (name : List Char) (group former : Nat)
  /-- A reference to a group from inside it. -/
  | openGroup
  /-- A reference inside an assertion on what precedes to a group of its own. -/
  | ownLookBehindGroup
  /-- A condition on group zero. -/
  | badGroupNumber
  /-- A condition on a group that does not exist. -/
  | invalidReference (group : Nat)
  /-- A conditional with a third branch. -/
  | thirdBranch
  /-- Flags for the whole text after its start. -/
  | lateGlobalFlags
  /-- The flag for bytes. -/
  | localeFlag
  /-- Two flags that exclude each other. -/
  | incompatibleFlags
  /-- A flag turned off that can only be turned on. -/
  | typeFlagOff
  /-- A flag for the whole text turned on for a group. -/
  | globalFlagOn
  /-- A flag for the whole text turned off for a group. -/
  | globalFlagOff
  /-- A flag turned on and off. -/
  | flagOnAndOff
  /-- A letter that is no flag. -/
  | unknownFlag
  /-- Something else than a flag, among those turned on. -/
  | flagsOnOpen
  /-- Nothing turned off behind a minus. -/
  | flagMissing
  /-- Something else than a flag, among those turned off. -/
  | flagsOffOpen
  /-- An assertion on what precedes, of no fixed width. -/
  | variableLookBehind
  deriving DecidableEq, Repr

/-- The wording of a fault. -/
def Fault.message : Fault → String
  | .badEscape token => "bad escape " ++ String.ofList token
  | .escapeAtEnd => "bad escape (end of pattern)"
  | .unterminatedSet => "unterminated character set"
  | .badRange low high =>
    "bad character range " ++ String.ofList low ++ "-" ++ String.ofList high
  | .multipleRepeat => "multiple repeat"
  | .nothingToRepeat => "nothing to repeat"
  | .minAboveMax => "min repeat greater than max repeat"
  | .unterminatedGroup => "missing ), unterminated subpattern"
  | .unterminatedComment => "missing ), unterminated comment"
  | .unbalanced => "unbalanced parenthesis"
  | .unexpectedEnd => "unexpected end of pattern"
  | .unknownExtension head => "unknown extension ?" ++ String.ofList head
  | .missingName => "missing group name"
  | .unterminatedName terminator =>
    "missing " ++ String.ofList [terminator] ++ ", unterminated name"
  | .badName name => "bad character in group name " ++ String.ofList (Text.quote name)
  | .unknownName name => "unknown group name " ++ String.ofList (Text.quote name)
  | .redefinition name group former =>
    "redefinition of group name " ++ String.ofList (Text.quote name) ++ " as group "
      ++ toString group ++ "; was group " ++ toString former
  | .openGroup => "cannot refer to an open group"
  | .ownLookBehindGroup => "cannot refer to group defined in the same lookbehind subpattern"
  | .badGroupNumber => "bad group number"
  | .invalidReference group => "invalid group reference " ++ toString group
  | .thirdBranch => "conditional backref with more than two branches"
  | .lateGlobalFlags => "global flags not at the start of the expression"
  | .localeFlag => "bad inline flags: cannot use 'L' flag with a str pattern"
  | .incompatibleFlags => "bad inline flags: flags 'a', 'u' and 'L' are incompatible"
  | .typeFlagOff => "bad inline flags: cannot turn off flags 'a', 'u' and 'L'"
  | .globalFlagOn => "bad inline flags: cannot turn on global flag"
  | .globalFlagOff => "bad inline flags: cannot turn off global flag"
  | .flagOnAndOff => "bad inline flags: flag turned on and off"
  | .unknownFlag => "unknown flag"
  | .flagsOnOpen => "missing -, : or )"
  | .flagMissing => "missing flag"
  | .flagsOffOpen => "missing :"
  | .variableLookBehind => "look-behind requires fixed-width pattern"

/-- A fault and its place, if it has one. -/
structure SyntaxError where
  /-- What is wrong. -/
  fault : Fault
  /-- The position it is reported at. -/
  position : Option Nat
  deriving DecidableEq, Repr

/-- The wording of a syntax error in a text. -/
def SyntaxError.message (text : String) (e : SyntaxError) : String :=
  match e.position with
  | none => e.fault.message
  | some p =>
    let cs := text.toList
    let place := e.fault.message ++ " at position " ++ toString p
    if cs.contains '\n' then
      place ++ " (line " ++ toString (Text.lineOf cs p) ++ ", column "
        ++ toString (Text.columnOf cs p) ++ ")"
    else place

/-- What cannot be worked with, and is no fault of syntax. -/
inductive LimitError where
  /-- A repetition count that is too large. -/
  | repetition
  /-- A repetition count of too many digits. -/
  | digits (e : Text.TooManyDigits)
  /-- An assertion on what precedes whose width cannot be represented. -/
  | lookBehind
  /-- A match in which a group ends before it starts. -/
  | groupOrder
  deriving DecidableEq, Repr

/-- The wording of a limit error. -/
def LimitError.message : LimitError → String
  | .repetition => "the repetition number is too large"
  | .digits e => e.message
  | .lookBehind => "invalid SRE code"
  | .groupOrder =>
    "The span of capturing group is wrong, please report a bug for the re module."

/-- Why a text is refused as a regular expression. -/
inductive Refusal where
  /-- It is malformed. -/
  | malformed (e : SyntaxError)
  /-- It is beyond a limit. -/
  | beyondLimit (e : LimitError)
  deriving DecidableEq, Repr

/-- A refusal for a fault at a position. -/
def Refusal.at (position : Nat) (fault : Fault) : Refusal :=
  .malformed ⟨fault, some position⟩

end Regex

end NamePatterns
