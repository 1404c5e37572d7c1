import NamePatterns.Regex.Alternatives
import NamePatterns.Regex.Error
import NamePatterns.Regex.Token
import NamePatterns.Text.Letter

/-!
# Reading Regular Expressions

A text as a regular expression, by an automaton that takes one token after
the other.

The state of the automaton holds the trees read so far on the innermost level
of nesting, the groups around that level, and a mode that says what the next
token continues: a run of items, a repetition that may yet become lazy, a
count in braces, a character set or the head of a group. Since a step looks at
one token only, reading two texts in a row is reading the second from where
the first one ended.

Faults are reported at the first token that reveals them. Conditions on groups
that are never opened and assertions on what precedes are checked last, on the
whole tree.

## Main definitions

* `Parser.State`: The state of the automaton.
* `Parser.step`: What one token does.
* `Parser.finish`: What the end of the text does.
* `Regex.parse`: A text as a regular expression.

## Theorems

* `Parser.run_append`: Reading two texts in a row.
-/

namespace NamePatterns

namespace Regex

namespace Parser

/-- A flag that the head of a group turns on or off. -/
inductive Flag where
  /-- Case is ignored. -/
  | ignoreCase
  /-- Anchors hold at line feeds. -/
  | multiline
  /-- The dot matches line feeds. -/
  | dotAll
  /-- Space and comments are skipped. -/
  | verbose
  /-- Case is known for ASCII letters only. -/
  | ascii
  /-- Case is known for all letters. -/
  | unicode
  /-- Case depends on the surroundings, which is for bytes only. -/
  | locale
  /-- A flag for whole texts. -/
  | template
  deriving DecidableEq, Repr

/-- The flag of a letter. -/
def Flag.ofChar? : Char → Option Flag
  | 'i' => some .ignoreCase
  | 'm' => some .multiline
  | 's' => some .dotAll
  | 'x' => some .verbose
  | 'a' => some .ascii
  | 'u' => some .unicode
  | 'L' => some .locale
  | 't' => some .template
  | _ => none

/-- Whether a flag says for which letters case is known. -/
def Flag.isType : Flag → Bool
  | .ascii | .unicode | .locale => true
  | _ => false

/-- Whether a flag is turned on, off or left alone. -/
def switched (on off : List Flag) (f : Flag) : Option Bool :=
  if off.contains f then some false else if on.contains f then some true else none

/-- The change that flags turned on and off amount to. -/
def flagChange (on off : List Flag) : FlagChange where
  ignoreCase := switched on off .ignoreCase
  multiline := switched on off .multiline
  dotAll := switched on off .dotAll
  asciiOnly :=
    if on.contains .ascii then some true else if on.contains .unicode then some false else none
  verbose := switched on off .verbose

/-- What a name in the head of a group is for. -/
inductive NameUse where
  /-- It names the group. -/
  | define
  /-- It refers to the text of a group. -/
  | refer
  /-- It asks whether a group has matched. -/
  | test
  deriving DecidableEq, Repr

/-- The character that ends a name. -/
def NameUse.terminator : NameUse → Char
  | .define => '>'
  | .refer | .test => ')'

/-- How far the head of a group has been read. -/
inductive Head where
  /-- The parenthesis. -/
  | opened
  /-- The question mark behind it. -/
  | question
  /-- The letter that announces a name. -/
  | extension
  /-- The sign that announces an assertion on what precedes. -/
  | behind
  /-- Part of a comment. -/
  | comment
  /-- Part of a name, reversed, and where it starts. -/
  | name (use : NameUse) (start : Nat) (read : List Char)
  /-- Flags turned on. -/
  | flagsOn (on : List Flag)
  /-- Flags turned on, and a minus. -/
  | minus (on : List Flag)
  /-- Flags turned on and flags turned off. -/
  | flagsOff (on off : List Flag)
  deriving DecidableEq, Repr

/-- How far a character set has been read. -/
inductive SetStage where
  /-- The bracket. -/
  | opened
  /-- Whole items. -/
  | items
  /-- An item that may yet start a range, and where it stands. -/
  | pending (this : Token) (start : Nat)
  /-- The start of a range, where it stands, and the dash. -/
  | ranging (this : Token) (start : Nat)
  deriving DecidableEq, Repr

/-- What the next token continues. -/
inductive Mode where
  /-- A run of items. -/
  | items
  /-- A repetition that may yet become lazy or possessive. -/
  | repeated
  /-- A comment that ends with its line. -/
  | lineComment
  /-- A count in braces: where it starts, its least and its greatest number,
      reversed. -/
  | braces (start : Nat) (low : List Char) (high : Option (List Char))
  /-- A character set: where it starts, whether it is negated, its items,
      reversed, and how far it has been read. -/
  | set (start : Nat) (negated : Bool) (items : List SetItem) (stage : SetStage)
  /-- The head of a group that starts at a place. -/
  | head (start : Nat) (head : Head)
  deriving DecidableEq, Repr

/-- One level of nesting: finished alternatives and the items of the current
    one, both reversed, and whether space is skipped. -/
structure Level where
  /-- The alternatives that are finished, as rows. -/
  done : List (List Regex) := []
  /-- The items of the alternative that is being read. -/
  items : List Regex := []
  /-- Whether space and comments are skipped. -/
  verbose : Bool := false
  deriving DecidableEq, Repr

/-- The row of the alternative that is being read. -/
def Level.row (l : Level) : List Regex :=
  l.items.reverse.flatMap dissolved

/-- The tree of a level that is at its end. -/
def Level.tree (l : Level) : Regex :=
  alternatives (l.row :: l.done).reverse

/-- What a group is for. -/
inductive Kind where
  /-- Its text is remembered. -/
  | capture (group : Nat)
  /-- It changes flags. -/
  | flagged (change : FlagChange)
  /-- It matches in one way only. -/
  | atomic
  /-- It asserts what follows. -/
  | lookAhead (negated : Bool)
  /-- It asserts what precedes, inside no other such group or inside one. -/
  | lookBehind (negated outermost : Bool)
  /-- It chooses by whether a group has matched; the first branch once read. -/
  | conditional (group : Nat) (yes : Option Regex)
  deriving DecidableEq, Repr

/-- A group that is open, and the level around it. -/
structure OpenGroup where
  /-- What the group is for. -/
  kind : Kind
  /-- Where it starts. -/
  start : Nat
  /-- The level around it. -/
  outer : Level
  deriving DecidableEq, Repr

/-- A numbered group: its name if it has one, and its width once closed. -/
structure GroupEntry where
  /-- Its name. -/
  name : Option (List Char)
  /-- Its width, once it is closed. -/
  width : Option Width
  deriving DecidableEq, Repr

/-- The state of the automaton. -/
structure State where
  /-- The position of the next token. -/
  pos : Nat := 0
  /-- What that token continues. -/
  mode : Mode := .items
  /-- The innermost level. -/
  level : Level := {}
  /-- The open groups, the innermost first. -/
  openGroups : List OpenGroup := []
  /-- The numbered groups, from number one on. -/
  groups : List GroupEntry := []
  /-- How many numbers were taken when the outermost assertion on what
      precedes was opened, if one is open; zero counts as taken. -/
  behindLimit : Option Nat := none
  /-- The numbers of groups that conditions ask for, and where. -/
  tested : List (Nat × Nat) := []
  deriving DecidableEq, Repr

/-- The greatest number of groups, which is no valid number of a group. -/
def groupLimit : Nat := 1073741823

/-- A fault at a position. -/
def fail {α : Type} (position : Nat) (fault : Fault) : Except Refusal α :=
  .error (.at position fault)

namespace State

/-- Adds an item to the current alternative. -/
def push (s : State) (r : Regex) : State :=
  { s with mode := .items, level := { s.level with items := r :: s.level.items } }

/-- Adds characters that stand for themselves. -/
def pushLiterals (s : State) (cs : List Char) : State :=
  cs.foldl (fun s c => s.push (.literal c)) s

/-- The number that the next numbered group gets. -/
def nextGroup (s : State) : Nat :=
  s.groups.length + 1

/-- The number of a named group. -/
def groupNamed? (s : State) (name : List Char) : Option Nat :=
  (s.groups.findIdx? (·.name == some name)).map (· + 1)

/-- The width of a numbered group, if it is closed. -/
def closedWidth? (s : State) (group : Nat) : Option Width :=
  match group with
  | 0 => none
  | n + 1 => s.groups[n]?.bind (·.width)

/-- Opens a group whose inside starts with the next item. -/
def enter (s : State) (start : Nat) (kind : Kind) (verbose : Bool) : State :=
  { s with
    mode := .items
    level := { verbose := verbose }
    openGroups := ⟨kind, start, s.level⟩ :: s.openGroups }

/-- Opens a numbered group. -/
def enterCapture (s : State) (start : Nat) (name : Option (List Char)) : State :=
  { s.enter start (.capture s.nextGroup) s.level.verbose with
    groups := s.groups ++ [⟨name, none⟩] }

/-- Opens an assertion on what precedes. -/
def enterLookBehind (s : State) (start : Nat) (negated : Bool) : State :=
  { s.enter start (.lookBehind negated s.behindLimit.isNone) s.level.verbose with
    behindLimit := s.behindLimit <|> some s.nextGroup }

/-- The end of an alternative. -/
def bar (s : State) : Except Refusal State :=
  match s.openGroups with
  | ⟨.conditional group yes, start, outer⟩ :: rest =>
    match yes with
    | none =>
      .ok { s with
        mode := .items
        level := { s.level with items := [] }
        openGroups := ⟨.conditional group (some (seq s.level.row)), start, outer⟩ :: rest }
    | some _ => fail s.pos .thirdBranch
  | _ =>
    .ok { s with
      mode := .items
      level := { s.level with done := s.level.row :: s.level.done, items := [] } }

/-- The end of a group. -/
def close (s : State) : Except Refusal State :=
  match s.openGroups with
  | [] => fail s.pos .unbalanced
  | ⟨kind, _, outer⟩ :: rest =>
    let tree := s.level.tree
    let s := { s with level := outer, openGroups := rest }
    .ok <|
      match kind with
      | .capture group =>
        { s.push (.capture group tree) with
          groups := s.groups.modify (group - 1) ({ · with width := some tree.width }) }
      | .flagged change => s.push (.flagged change tree)
      | .atomic => s.push (.atomic tree)
      | .lookAhead negated => s.push (.lookAhead negated tree)
      | .lookBehind negated outermost =>
        { s.push (.lookBehind negated tree) with
          behindLimit := if outermost then none else s.behindLimit }
      | .conditional group none => s.push (.conditional group tree .empty)
      | .conditional group (some yes) => s.push (.conditional group yes tree)

/-- Repeats the last item; `start` is where the repetition is written. -/
def repeatLast (s : State) (start low : Nat) (high : Option Nat) : Except Refusal State :=
  match s.level.items with
  | [] | .lineStart :: _ | .lineEnd :: _ => fail start .nothingToRepeat
  | .repetition .. :: _ => fail start .multipleRepeat
  | r :: rs =>
    .ok { s with
      mode := .repeated
      level := { s.level with items := .repetition low high .greedy (seq r.dissolved) :: rs } }

/-- Changes how the last repetition chooses among its counts. -/
def setGreed (s : State) (greed : Greed) : State :=
  match s.level.items with
  | .repetition low high _ r :: rs =>
    { s with
      mode := .items
      level := { s.level with items := .repetition low high greed r :: rs } }
  | _ => { s with mode := .items }

/-- Whether a character may not stand behind a backslash. -/
def isRefusedEscape (c : Char) : Bool :=
  c.isAlphanum

/-- Whether a character is space that verbose expressions skip. -/
def isSkipped (c : Char) : Bool :=
  c == ' ' || (9 ≤ c.toNat && c.toNat ≤ 13)

/-- A token where an item may start. -/
def item (s : State) : Token → Except Refusal State
  | .escaped c =>
    if isRefusedEscape c then fail s.pos (.badEscape ['\\', c]) else .ok (s.push (.literal c))
  | .plain c =>
    if c = '|' then s.bar
    else if c = ')' then s.close
    else if s.level.verbose && isSkipped c then .ok { s with mode := .items }
    else if s.level.verbose && c = '#' then .ok { s with mode := .lineComment }
    else if c = '[' then .ok { s with mode := .set s.pos false [] .opened }
    else if c = '(' then .ok { s with mode := .head s.pos .opened }
    else if c = '*' then s.repeatLast s.pos 0 none
    else if c = '+' then s.repeatLast s.pos 1 none
    else if c = '?' then s.repeatLast s.pos 0 (some 1)
    else if c = '\x7b' then .ok { s with mode := .braces s.pos [] none }
    else if c = '.' then .ok (s.push .any)
    else if c = '^' then .ok (s.push .lineStart)
    else if c = '$' then .ok (s.push .lineEnd)
    else .ok (s.push (.literal c))

/-- A number of a repetition in braces; none if nothing was written. -/
def count? (digits : List Char) : Except Refusal (Option Nat) :=
  if digits.isEmpty then .ok none
  else if Text.digitLimit < digits.length then .error (.beyondLimit (.digits ⟨digits.length⟩))
  else
    let n := Text.digitsValue digits
    if countLimit ≤ n then .error (.beyondLimit .repetition) else .ok (some n)

/-- The end of a count in braces. -/
def closeBraces (s : State) (start : Nat) (low : List Char) (high : Option (List Char)) :
    Except Refusal State := do
  let least ← count? low.reverse
  let greatest ← count? (high.getD low).reverse
  match greatest with
  | some n => if n < least.getD 0 then fail (start + 1) .minAboveMax
  | none => pure ()
  s.repeatLast start (least.getD 0) greatest

/-- The characters of a count in braces that turned out to be none. -/
def bracesText (low : List Char) (high : Option (List Char)) : List Char :=
  '\x7b' :: low.reverse ++ (match high with
    | none => []
    | some ds => ',' :: ds.reverse)

/-- A token inside a count in braces. What turns out to be no count stands for
    itself. -/
def braces (s : State) (start : Nat) (low : List Char) (high : Option (List Char)) (t : Token) :
    Except Refusal State :=
  let literal := (s.pushLiterals (bracesText low high)).item t
  match t with
  | .escaped _ => literal
  | .plain c =>
    if c.isDigit then
      .ok { s with
        mode :=
          match high with
          | none => .braces start (c :: low) none
          | some ds => .braces start low (some (c :: ds)) }
    else if c = ',' && high.isNone then .ok { s with mode := .braces start low (some []) }
    else if c = '\x7d' && !(low.isEmpty && high.isNone) then s.closeBraces start low high
    else literal

/-- The item that a finished character set is. Of a single character, the
    character itself or all others. -/
def setTree (negated : Bool) (items : List SetItem) : Regex :=
  match negated, items.eraseDups with
  | false, [.single c] => .literal c
  | true, [.single c] => .anyBut c
  | _, items => .set negated items

/-- A token where an item of a set may start. The bracket that closes a set is
    an item while there is no other. -/
def setNext (s : State) (start : Nat) (negated : Bool) (items : List SetItem) (t : Token) :
    Except Refusal State :=
  if t = .plain ']' && !items.isEmpty then .ok (s.push (setTree negated items.reverse))
  else
    match t with
    | .escaped c =>
      if isRefusedEscape c then fail s.pos (.badEscape ['\\', c])
      else .ok { s with mode := .set start negated items (.pending t s.pos) }
    | .plain _ => .ok { s with mode := .set start negated items (.pending t s.pos) }

/-- A token inside a character set. -/
def set (s : State) (start : Nat) (negated : Bool) (items : List SetItem) (stage : SetStage)
    (t : Token) : Except Refusal State :=
  match stage with
  | .opened =>
    if t = .plain '^' then .ok { s with mode := .set start true items .items }
    else s.setNext start negated items t
  | .items => s.setNext start negated items t
  | .pending this place =>
    if t = .plain '-' then .ok { s with mode := .set start negated items (.ranging this place) }
    else s.setNext start negated (.single this.char :: items) t
  | .ranging this place =>
    if t = .plain ']' then
      .ok (s.push (setTree negated (.single '-' :: .single this.char :: items).reverse))
    else
      match t with
      | .escaped c =>
        if isRefusedEscape c then fail s.pos (.badEscape ['\\', c])
        else if c < this.char then fail place (.badRange this.text t.text)
        else .ok { s with mode := .set start negated (.range this.char c :: items) .items }
      | .plain c =>
        if c < this.char then fail place (.badRange this.text t.text)
        else .ok { s with mode := .set start negated (.range this.char c :: items) .items }

/-- Refuses a reference, from inside an assertion on what precedes, to a group
    that is open or was opened inside it. -/
def checkBehind (s : State) (group : Nat) : Except Refusal Unit :=
  match s.behindLimit with
  | none => .ok ()
  | some limit =>
    if (s.closedWidth? group).isNone then fail (s.pos + 1) .openGroup
    else if limit ≤ group then fail (s.pos + 1) .ownLookBehindGroup
    else .ok ()

/-- A condition on a numbered group. -/
def testNumbered (s : State) (place : Nat) (name : List Char) : Except Refusal (Nat × State) :=
  match Text.integer? name with
  | none => fail place (.badName name)
  | some n =>
    if n < 0 then fail place (.badName name)
    else if n = 0 then fail place .badGroupNumber
    else if (groupLimit : Int) ≤ n then fail place (.invalidReference n.toNat)
    else
      let group := n.toNat
      .ok (group,
        if s.tested.any (·.1 == group) then s
        else { s with tested := s.tested ++ [(group, place)] })

/-- A name that has been read to its end. -/
def closeName (s : State) (start : Nat) (use : NameUse) (place : Nat) (name : List Char) :
    Except Refusal State := do
  match use with
  | .define =>
    if !Text.isIdentifier name then fail place (.badName name)
    match s.groupNamed? name with
    | some former => fail place (.redefinition name s.nextGroup former)
    | none => return s.enterCapture start (some name)
  | .refer =>
    if !Text.isIdentifier name then fail place (.badName name)
    match s.groupNamed? name with
    | none => fail place (.unknownName name)
    | some group =>
      match s.closedWidth? group with
      | none => fail place .openGroup
      | some width =>
        s.checkBehind group
        return s.push (.backref group width)
  | .test =>
    let (group, s) ←
      if Text.isIdentifier name then
        match s.groupNamed? name with
        | none => fail place (.unknownName name)
        | some group => pure (group, s)
      else s.testNumbered place name
    s.checkBehind group
    return s.enter start (.conditional group none) s.level.verbose

/-- A flag to turn on. -/
def addFlag (s : State) (start : Nat) (on : List Flag) (f : Flag) : Except Refusal State :=
  if f = .locale then fail (s.pos + 1) .localeFlag
  else if f.isType && on.any (fun g => g.isType && g != f) then
    fail (s.pos + 1) .incompatibleFlags
  else .ok { s with mode := .head start (.flagsOn (f :: on)) }

/-- A flag to turn off. -/
def dropFlag (s : State) (start : Nat) (on off : List Flag) (f : Flag) : Except Refusal State :=
  if f.isType then fail (s.pos + 1) .typeFlagOff
  else .ok { s with mode := .head start (.flagsOff on (f :: off)) }

/-- Refuses what is no flag: an unknown letter, or the end of the flags in the
    wrong place. -/
def refuseFlag (s : State) (t : Token) (otherwise : Fault) : Except Refusal State :=
  match t with
  | .plain c => fail s.pos (if Text.isLetter c then .unknownFlag else otherwise)
  | .escaped _ => fail s.pos otherwise

/-- Opens a group that changes flags. -/
def enterFlagged (s : State) (start : Nat) (on off : List Flag) : State :=
  s.enter start (.flagged (flagChange on off))
    ((s.level.verbose || on.contains .verbose) && !off.contains .verbose)

/-- A token behind the question mark that opens the head of a group. -/
def question (s : State) (start : Nat) (t : Token) : Except Refusal State :=
  let unknown := fail (start + 1) (.unknownExtension t.text)
  match t with
  | .escaped _ => unknown
  | .plain c =>
    let within (h : Head) : Except Refusal State := .ok { s with mode := .head start h }
    let verbose := s.level.verbose
    if c = 'P' then within .extension
    else if c = ':' then .ok (s.enterFlagged start [] [])
    else if c = '#' then within .comment
    else if c = '=' then .ok (s.enter start (.lookAhead false) verbose)
    else if c = '!' then .ok (s.enter start (.lookAhead true) verbose)
    else if c = '<' then within .behind
    else if c = '(' then within (.name .test (s.pos + 1) [])
    else if c = '>' then .ok (s.enter start .atomic verbose)
    else if c = '-' then within (.minus [])
    else
      match Flag.ofChar? c with
      | some f => s.addFlag start [] f
      | none => unknown

/-- A token inside the head of a group. -/
def head (s : State) (start : Nat) (h : Head) (t : Token) : Except Refusal State :=
  match h with
  | .opened =>
    if t = .plain '?' then .ok { s with mode := .head start .question }
    else (s.enterCapture start none).item t
  | .question => s.question start t
  | .extension =>
    if t = .plain '<' then .ok { s with mode := .head start (.name .define (s.pos + 1) []) }
    else if t = .plain '=' then .ok { s with mode := .head start (.name .refer (s.pos + 1) []) }
    else fail (start + 1) (.unknownExtension ('P' :: t.text))
  | .behind =>
    if t = .plain '=' then .ok (s.enterLookBehind start false)
    else if t = .plain '!' then .ok (s.enterLookBehind start true)
    else fail (start + 1) (.unknownExtension ('<' :: t.text))
  | .comment =>
    if t = .plain ')' then .ok { s with mode := .items } else .ok s
  | .name use place read =>
    if t = .plain use.terminator then
      if read.isEmpty then fail s.pos .missingName
      else s.closeName start use place read.reverse
    else .ok { s with mode := .head start (.name use place (t.text.reverse ++ read)) }
  | .flagsOn on =>
    if t = .plain ')' then fail start .lateGlobalFlags
    else if t = .plain ':' || t = .plain '-' then
      if on.contains .template then fail s.pos .globalFlagOn
      else if t = .plain ':' then .ok (s.enterFlagged start on [])
      else .ok { s with mode := .head start (.minus on) }
    else
      match t, Flag.ofChar? t.char with
      | .plain _, some f => s.addFlag start on f
      | _, _ => s.refuseFlag t .flagsOnOpen
  | .minus on =>
    match t, Flag.ofChar? t.char with
    | .plain _, some f => s.dropFlag start on [] f
    | _, _ => s.refuseFlag t .flagMissing
  | .flagsOff on off =>
    if t = .plain ':' then
      if off.contains .template then fail s.pos .globalFlagOff
      else if on.any off.contains then fail s.pos .flagOnAndOff
      else .ok (s.enterFlagged start on off)
    else
      match t, Flag.ofChar? t.char with
      | .plain _, some f => s.dropFlag start on off f
      | _, _ => s.refuseFlag t .flagsOffOpen

/-- A token behind a repetition. -/
def afterRepetition (s : State) (t : Token) : Except Refusal State :=
  if t = .plain '?' then .ok (s.setGreed .lazy)
  else if t = .plain '+' then .ok (s.setGreed .possessive)
  else s.item t

end State

/-- What one token does, apart from moving on. -/
def act (s : State) (t : Token) : Except Refusal State :=
  match s.mode with
  | .items => s.item t
  | .repeated => s.afterRepetition t
  | .lineComment => .ok (if t = .plain '\n' then { s with mode := .items } else s)
  | .braces start low high => s.braces start low high t
  | .set start negated items stage => s.set start negated items stage t
  | .head start h => s.head start h t

/-- What one token does. -/
def step (s : State) (t : Token) : Except Refusal State :=
  (act s t).map fun s' => { s' with pos := s.pos + t.width }

/-- What a run of tokens does. -/
def run (s : State) (ts : List Token) : Except Refusal State :=
  ts.foldlM step s

/-- Reading two runs in a row is reading the second from where the first one
    ended. -/
theorem run_append (s : State) (ts us : List Token) :
    run s (ts ++ us) = (run s ts).bind fun s' => run s' us :=
  List.foldlM_append

/-- The end of the text inside the head of a group. -/
def endOfHead (s : State) (start : Nat) : Head → Fault × Nat
  | .opened => (.unterminatedGroup, start)
  | .question | .extension | .behind => (.unexpectedEnd, s.pos)
  | .comment => (.unterminatedComment, start)
  | .name use place read =>
    if read.isEmpty then (.missingName, s.pos) else (.unterminatedName use.terminator, place)
  | .flagsOn _ => (.flagsOnOpen, s.pos)
  | .minus _ => (.flagMissing, s.pos)
  | .flagsOff .. => (.flagsOffOpen, s.pos)

/-- The end of the text: the tree, if nothing is open and every group that a
    condition asks for is there. -/
def finish (s : State) : Except Refusal Regex := do
  let s ←
    match s.mode with
    | .items | .repeated | .lineComment => pure s
    | .braces _ low high => pure (s.pushLiterals (State.bracesText low high))
    | .set start .. => fail start .unterminatedSet
    | .head start h =>
      let (fault, position) := endOfHead s start h
      fail position fault
  match s.openGroups with
  | g :: _ => fail g.start .unterminatedGroup
  | [] =>
    match s.tested.find? (s.groups.length < ·.1) with
    | some (group, place) => fail place (.invalidReference group)
    | none => return s.level.tree

end Parser

/-- The widths of the assertions on what precedes, the outer before the inner
    ones. -/
def lookBehindWidths : Regex → List Width
  | empty | literal _ | any | anyBut _ | set .. | lineStart | lineEnd | backref .. => []
  | cat a b | alt a b | conditional _ a b => a.lookBehindWidths ++ b.lookBehindWidths
  | repetition _ _ _ r | capture _ r | flagged _ r | atomic r | lookAhead _ r =>
    r.lookBehindWidths
  | lookBehind _ r => r.width :: r.lookBehindWidths

/-- Checks the assertions on what precedes: each must have one width, and none
    may be too large to represent. -/
def checkLookBehinds (r : Regex) : Except Refusal Unit :=
  let widths := r.lookBehindWidths
  if widths.any (!·.isFixed) then .error (.malformed ⟨.variableLookBehind, none⟩)
  else if widths.any fun w => Nat.pow 2 31 ≤ w.low then .error (.beyondLimit .lookBehind)
  else .ok ()

/-- A text as a regular expression. -/
def parse (cs : List Char) : Except Refusal Regex := do
  match Token.ofChars? cs with
  | none => .error (.at (cs.length - 1) .escapeAtEnd)
  | some ts =>
    let s ← Parser.run {} ts
    let r ← Parser.finish s
    checkLookBehinds r
    return r

end Regex

end NamePatterns
