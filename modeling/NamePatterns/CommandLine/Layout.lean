import NamePatterns.CommandLine.Spec

/-!
# Help Texts

How the command line is explained to its user.

A usage line shows what can be written, first the options and then, on lines of
their own, the operands. A help text adds what each of them is for, in two
columns; an entry that is too long for the first column has its second column
on the next line. Text is broken at spaces where the next word would not fit.

## Main definitions

* `CommandLine.fill`: Words in lines of a width.
* `CommandLine.hang`: Lines behind a lead.
* `CommandLine.Spec.usage`: The usage of the program or of a command.
* `CommandLine.Spec.help`: Its help text.
-/

namespace NamePatterns

namespace CommandLine

/-- The width of all texts. -/
def textWidth : Nat := 78

/-- The column at which explanations start. -/
def purposeColumn : Nat := 24

/-- A number of spaces. -/
def spaces (n : Nat) : String :=
  String.ofList (List.replicate n ' ')

/-- The words that go on a line that has some, and those that are left for
    further lines. -/
def fillFrom (width : Nat) (line : List String) : List String → List (List String)
  | [] => [line]
  | w :: ws =>
    if (" ".intercalate (line ++ [w])).length ≤ width then fillFrom width (line ++ [w]) ws
    else line :: fillFrom width [w] ws

/-- Words in lines: a line ends only where the next word would not fit. -/
def fill (width : Nat) : List String → List (List String)
  | [] => []
  | w :: ws => fillFrom width [w] ws

/-- Parts in lines of text of a width. -/
def filled (width : Nat) (parts : List String) : List String :=
  (fill width parts).map (" ".intercalate ·)

/-- The words of a text. -/
def wordsOf (text : String) : List String :=
  (Text.words text.toList).map String.ofList

/-- Lines with a lead before the first one, and spaces of its length before the
    others. -/
def hang (lead : String) : List String → List String
  | [] => [lead]
  | line :: lines => (lead ++ line) :: lines.map (spaces lead.length ++ ·)

/-- Choices as they are shown. -/
def shownChoices (choices : List String) : String :=
  "\x7b" ++ ",".intercalate choices ++ "\x7d"

/-- A spelling of an option with what it takes. -/
def Takes.shown (t : Takes) (spelling : String) : String :=
  match t with
  | nothing | help => spelling
  | choice choices => spelling ++ " " ++ shownChoices choices
  | anything placeholder => spelling ++ " " ++ placeholder

/-- An option as a part of a usage. -/
def Flag.usagePart (f : Flag) : String :=
  "[" ++ f.takes.shown (f.spellings.headD "") ++ "]"

/-- An option as an entry of a help text: how it is written, and what it is
    for. -/
def Flag.entry (f : Flag) : String × String :=
  (", ".intercalate (f.spellings.map f.takes.shown),
    match f.otherwise with
    | some value => f.purpose ++ " (default: " ++ value ++ ")"
    | none => f.purpose)

/-- The names of the commands. -/
def commandNames : List String :=
  Command.all.map Command.name

/-- Operands as parts of a usage. -/
def Operand.usageParts : Operand → List String
  | none => []
  | several name _ => [name, "[" ++ name ++ " ...]"]
  | command => [shownChoices commandNames, "..."]

/-- An entry of a help text, behind some spaces. -/
def entryLines (indent : Nat) (entry : String × String) : List String :=
  let written := spaces indent ++ entry.1
  let purpose := filled (textWidth - purposeColumn) (wordsOf entry.2)
  if written.length + 2 ≤ purposeColumn then
    hang (written ++ spaces (purposeColumn - written.length)) purpose
  else written :: purpose.map (spaces purposeColumn ++ ·)

/-- Operands in a help text. -/
def Operand.entries : Operand → List String
  | none => []
  | several name purpose => entryLines 2 (name, purpose)
  | command =>
    (spaces 2 ++ shownChoices commandNames)
      :: Command.all.flatMap fun c => entryLines 4 (c.name, c.purpose)

/-- A part of a help text under a title; nothing if it is empty. -/
def titled (title : String) : List String → List String
  | [] => []
  | lines => "" :: (title ++ ":") :: lines

/-- Lines as a text. -/
def linesText (lines : List String) : String :=
  String.join (lines.map (· ++ "\n"))

namespace Spec

/-- The lines of the usage. -/
def usageLines (s : Spec) : List String :=
  let lead := "usage: " ++ s.name ++ " "
  let width := textWidth - lead.length
  hang lead (filled width (s.flags.map Flag.usagePart) ++ filled width s.operand.usageParts)

/-- The usage. -/
def usage (s : Spec) : String :=
  linesText s.usageLines

/-- The help text. -/
def help (s : Spec) : String :=
  let description :=
    match s.description with
    | some text => "" :: filled textWidth (wordsOf text)
    | none => []
  linesText (s.usageLines ++ description ++ titled "positional arguments" s.operand.entries
    ++ titled "options" (s.flags.flatMap fun f => entryLines 2 f.entry))

end Spec

end CommandLine

end NamePatterns
