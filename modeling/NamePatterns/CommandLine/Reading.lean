import NamePatterns.CommandLine.Word

/-!
# Reading a Command Line

The options and operands on a command line, by the specification of the program
or of a command.

Options are taken in order. One that takes a value has it in its own word, or
is followed by a plain word; letters right behind a short option that takes
none are short options again. Operands are read once: the first stretch of
plain words is taken, and what comes later belongs nowhere. A command takes all
words that follow it, options as well. Two dashes among the words taken are
left out once, for a value as for operands.

These are the rules of the argument parser as of release 3.11.2, which hold up
to release 3.11.8. They have two corners. A value of two dashes is left out
also where it stands in the word of its option, as in `--config=--`, so that
the option is given and has no value (`Spec.take`). Letters behind a short
option that takes nothing are looked up as options before the first one is
acted on, so `-hx` is refused for its second letter and shows no help
(`Spec.unpack`). From release 3.11.9 on both are read differently.

## Main definitions

* `CommandLine.Reading`: What was read.
* `CommandLine.Spec.take`: Taking one option.
* `CommandLine.Spec.read`: Reading by a specification.
-/

namespace NamePatterns

namespace CommandLine

/-- An option that was given, with its value; a value of two dashes is left
    out, and nothing remains. -/
structure Given where
  /-- The option. -/
  flag : Flag
  /-- Its value. -/
  value : Option String
  deriving DecidableEq, Repr

/-- What was read from a command line. -/
structure Reading where
  /-- The options, in order. -/
  given : List Given := []
  /-- The operands, or a command and what follows it. -/
  operands : List String := []
  /-- The words that belong nowhere. -/
  leftover : List String := []
  deriving DecidableEq, Repr

namespace Reading

/-- The reading with options before the others. -/
def give (gs : List Given) (r : Reading) : Reading :=
  { r with given := gs ++ r.given }

/-- The reading with an operand before the others. -/
def operate (text : String) (r : Reading) : Reading :=
  { r with operands := text :: r.operands }

/-- The reading with a word that belongs nowhere before the others. -/
def leave (text : String) (r : Reading) : Reading :=
  { r with leftover := text :: r.leftover }

/-- Whether an option is given. -/
def has (r : Reading) (f : Flag) : Bool :=
  r.given.any (·.flag = f)

/-- The value of an option, if it is given; the last one counts. -/
def value? (r : Reading) (f : Flag) : Option (Option String) :=
  ((r.given.filter (·.flag = f)).getLast?).map Given.value

end Reading

/-- How far the reading of operands has come. -/
inductive Stage where
  /-- None has been read. -/
  | before
  /-- The last word was one. -/
  | inside
  /-- There will be no more. -/
  | after
  deriving DecidableEq, Repr

/-- How far the reading of operands has come when an option follows. -/
def Stage.atOption : Stage → Stage
  | before => before
  | inside | after => after

namespace Spec

/-- Takes one option with the value that stands for it. -/
def take (s : Spec) (f : Flag) (value : Option String) : Except Stop Given :=
  let kept := value.filter (· != twoDashes)
  match f.takes, kept with
  | .help, _ => .error (.help s)
  | .choice choices, some v =>
    if choices.contains v then .ok ⟨f, kept⟩
    else .error (.refused s (.invalidChoice f.shown v choices))
  | _, _ => .ok ⟨f, kept⟩

/-- The options in one word, from an option and the text behind it: the ones
    before the last one, and the last one with its value. -/
def unpack (s : Spec) (f : Flag) (short : Bool) :
    List Char → Except UsageError (List Flag × Flag × Option String)
  | [] => if f.takes.value then .ok ([], f, some "") else .error (.ignoredValue f "")
  | c :: cs =>
    if f.takes.value then .ok ([], f, some (String.ofList (c :: cs)))
    else
      match short, s.flag? (String.ofList ['-', c]) with
      | true, some g =>
        if cs.isEmpty then .ok ([f], g, none)
        else (s.unpack g true cs).map fun (fs, last) => (f :: fs, last)
      | _, _ => .error (.ignoredValue f (String.ofList (c :: cs)))

/-- The options in the word of an option. -/
def optionsIn (s : Spec) (f : Flag) (spelling : String) (value : Option String) :
    Except UsageError (List Flag × Flag × Option String) :=
  match value with
  | none => .ok ([], f, none)
  | some text => s.unpack f (!startsWith twoDashes spelling) text.toList

/-- Takes options in a row, of which only the last one has a value. -/
def takeAll (s : Spec) (fs : List Flag) (last : Flag) (value : Option String) :
    Except Stop (List Given) := do
  let first ← fs.mapM fun f => s.take f none
  return first ++ [← s.take last value]

/-- Reads the words that are left. -/
def readFrom (s : Spec) : Stage → List Word → Except Stop Reading
  | _, [] => .ok {}
  | stage, .unknown text :: ws => (s.readFrom stage.atOption ws).map (·.leave text)
  | stage, .option _ f spelling value :: ws =>
    match s.optionsIn f spelling value with
    | .error e => .error (.refused s e)
    | .ok (fs, last, value) =>
      if last.takes.value && value.isNone then
        match ws with
        | .plain text :: ws => do
          let given ← s.takeAll fs last (some text)
          return (← s.readFrom stage.atOption ws).give given
        | _ => .error (.refused s (.missingValue last))
      else do
        let given ← s.takeAll fs last value
        return (← s.readFrom stage.atOption ws).give given
  | .after, w :: ws => (s.readFrom .after ws).map (·.leave w.text)
  | .inside, w :: ws => (s.readFrom .inside ws).map (·.operate w.text)
  | .before, w :: ws =>
    -- Two dashes with nothing behind them start no operands.
    if w = .dashes && ws.isEmpty then .ok { leftover := [w.text] }
    else if s.operand = .command then .ok { operands := (w :: ws).map Word.text }
    else (s.readFrom .inside ws).map (·.operate w.text)

/-- Reads a command line. -/
def read (s : Spec) (argv : List String) : Except Stop Reading :=
  match s.words argv with
  | .error e => .error (.refused s e)
  | .ok ws =>
    match s.operand with
    | .none => s.readFrom .after ws
    | .command => s.readFrom .before ws
    | .several name _ =>
      match s.readFrom .before ws with
      | .error e => .error e
      | .ok r =>
        if r.operands.isEmpty then .error (.refused s (.missingOperand name))
        else .ok { r with operands := r.operands.erase twoDashes }

end Spec

end CommandLine

end NamePatterns
