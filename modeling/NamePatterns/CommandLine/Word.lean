import NamePatterns.CommandLine.Fault
import NamePatterns.Text.Integer

/-!
# Words of a Command Line

What each word of a command line is taken for, before any of them is acted on.

A word that starts with a dash and is no lone dash is looked up among the
options. An option may be followed by an equals sign and its value in the same
word. The spelling of a long option may be cut short as long as one option is
left that it can be, and a short option may have its value right behind it. A
number below zero and a word with a space are no options, whatever they start
with. After a word of two dashes all words are plain.

## Main definitions

* `CommandLine.Word`: What a word is taken for.
* `CommandLine.Spec.classify`: What one word is taken for.
* `CommandLine.Spec.words`: What the words of a command line are taken for.

## Theorems

* `CommandLine.Spec.words_text`: The words are kept, and their order.
-/

namespace NamePatterns

namespace CommandLine

/-- What a word is taken for. -/
inductive Word where
  /-- A value or an operand. -/
  | plain (text : String)
  /-- The two dashes after which all words are plain. -/
  | dashes
  /-- An option, in a spelling, with the value that stands in the same word. -/
  | option (text : String) (flag : Flag) (spelling : String) (value : Option String)
  /-- An option that is not known. -/
  | unknown (text : String)
  deriving DecidableEq, Repr

/-- The word of two dashes. -/
def twoDashes : String := "--"

/-- A word as it was written. -/
def Word.text : Word → String
  | plain text | option text .. | unknown text => text
  | dashes => twoDashes

/-- Whether one text starts another one. -/
def startsWith (start text : String) : Bool :=
  start.toList.isPrefixOf text.toList

/-- The part of a word before its first equals sign, and the part after it. -/
def splitValue (word : String) : String × Option String :=
  match word.toList.dropWhile (· != '=') with
  | [] => (word, none)
  | _ :: value => (String.ofList (word.toList.takeWhile (· != '=')), some (String.ofList value))

/-- Whether a word is a number below zero. A line feed may end it. -/
def isNegativeNumber (word : String) : Bool :=
  match word.toList with
  | '-' :: cs =>
    let number := if cs.getLast? = some '\n' then cs.dropLast else cs
    let isDigit (c : Char) : Bool := (Text.digitValue? c).isSome
    match number.dropWhile isDigit with
    | [] => !number.isEmpty
    | '.' :: places => !places.isEmpty && places.all isDigit
    | _ => false
  | _ => false

namespace Spec

/-- The spellings of all options. -/
def spellings (s : Spec) : List (String × Flag) :=
  s.flags.flatMap fun f => f.spellings.map fun spelling => (spelling, f)

/-- The option of an exact spelling. -/
def flag? (s : Spec) (spelling : String) : Option Flag :=
  (s.spellings.find? (·.1 = spelling)).map (·.2)

/-- The options that a word may stand for without spelling one out, each with
    its spelling and its value. -/
def candidates (s : Spec) (word : String) : List (Flag × String × Option String) :=
  match word.toList with
  | '-' :: '-' :: _ =>
    let (start, value) := splitValue word
    (s.spellings.filter fun m => startsWith start m.1).map fun m => (m.2, m.1, value)
  | '-' :: letter :: rest =>
    s.spellings.filterMap fun m =>
      if m.1 = String.ofList ['-', letter] then some (m.2, m.1, some (String.ofList rest))
      else if startsWith word m.1 then some (m.2, m.1, none)
      else none
  | _ => []

/-- What one word is taken for. -/
def classify (s : Spec) (word : String) : Except UsageError Word :=
  if word.length < 2 || !startsWith "-" word then .ok (.plain word)
  else
    let (start, value) := splitValue word
    match s.flag? start with
    | some flag => .ok (.option word flag start value)
    | none =>
      match s.candidates word with
      | [] =>
        .ok (if isNegativeNumber word || word.toList.contains ' ' then .plain word
          else .unknown word)
      | [(flag, spelling, value)] => .ok (.option word flag spelling value)
      | several => .error (.ambiguous word (several.map (·.2.1)))

/-- What the words of a command line are taken for. -/
def words (s : Spec) : List String → Except UsageError (List Word)
  | [] => .ok []
  | w :: ws =>
    if w = twoDashes then .ok (.dashes :: ws.map .plain)
    else
      match s.classify w with
      | .error e => .error e
      | .ok first => (s.words ws).map (first :: ·)

/-- What a word is taken for shows how it was written. -/
theorem classify_text {s : Spec} {word : String} {w : Word} (h : s.classify word = .ok w) :
    w.text = word := by
  unfold classify at h
  split at h
  · cases h; rfl
  · split at h
    rename_i start value _
    split at h
    · cases h; rfl
    · split at h
      · split at h <;> (cases h; rfl)
      · cases h; rfl
      · cases h

/-- The words are kept, and their order. -/
theorem words_text {s : Spec} {argv : List String} {ws : List Word}
    (h : s.words argv = .ok ws) : ws.map Word.text = argv := by
  induction argv generalizing ws with
  | nil => cases h; rfl
  | cons w argv ih =>
    rw [words] at h
    split at h
    next hw =>
      cases h
      have plain : Word.text ∘ Word.plain = id := rfl
      simp [hw, plain, Word.text]
    next =>
      split at h
      next => cases h
      next first hc =>
        cases hr : s.words argv with
        | error e => rw [hr] at h; cases h
        | ok rest =>
          rw [hr] at h
          cases h
          rw [List.map_cons, classify_text hc, ih hr]

end Spec

end CommandLine

end NamePatterns
