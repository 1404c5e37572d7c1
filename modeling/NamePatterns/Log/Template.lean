import NamePatterns.Value.Literal

/-!
# Message Templates

Messages with places for values.

A percent sign and a letter stand for the next value: `s` for its plain form,
`r` for its literal and `d` for its integer part. Two percent signs stand for
one. Every value has to be used. One table that is not empty, where it is the
only value, need not be used. A value that is or holds an integer which is too
long to be written fills no place.

## Main definitions

* `Template.fill`: A message with its values.
* `TemplateError`: Why values do not fit a message.
-/

namespace NamePatterns

/-- Why values do not fit a message. -/
inductive TemplateError where
  /-- There are fewer values than places. -/
  | tooFew
  /-- There are more values than places. -/
  | tooMany
  /-- A value of a kind that has no integer part. -/
  | notNumber (kind : String)
  /-- A number that has no integer part. -/
  | notFinite (isInfinite : Bool)
  /-- A letter that stands for nothing. -/
  | unknownLetter (letter : Char) (position : Nat)
  /-- A percent sign at the end. -/
  | incomplete
  /-- A value that cannot be written. -/
  | number (e : Text.WriteError)
  deriving DecidableEq, Repr

/-- The wording of the report. -/
def TemplateError.message : TemplateError → String
  | tooFew => "not enough arguments for format string"
  | tooMany => "not all arguments converted during string formatting"
  | notNumber kind => "%d format: a real number is required, not " ++ kind
  | notFinite true => "cannot convert float infinity to integer"
  | notFinite false => "cannot convert float NaN to integer"
  | unknownLetter letter position =>
    let shown := if ' ' ≤ letter && letter ≤ '~' then letter else '?'
    "unsupported format character '" ++ String.ofList [shown] ++ "' (0x"
      ++ String.ofList (Nat.toDigits 16 letter.toNat) ++ ") at index " ++ toString position
  | incomplete => "incomplete format"
  | number e => e.message

namespace Template

/-- The integer part of a value. -/
def integerPart : Value → Except TemplateError Int
  | .int n => .ok n
  | .bool b => .ok (if b then 1 else 0)
  | .float x =>
    match Decimal.classify x with
    | .notANumber => .error (.notFinite false)
    | .infinite _ => .error (.notFinite true)
    | .naught _ => .ok 0
    | .finite negative magnitude =>
      let (n, d) := Decimal.fraction magnitude.mantissa magnitude.exponent 0
      let whole : Int := (n / d : Nat)
      .ok (if negative then -whole else whole)
  | v => .error (.notNumber v.kindName)

/-- What a letter makes of a value; nothing if it stands for nothing. -/
def shown? (letter : Char) (v : Value) : Option (Except TemplateError String) :=
  if letter = 's' then some (v.plain?.mapError .number)
  else if letter = 'r' then some ((v.plain?.map fun _ => v.literal).mapError .number)
  else if letter = 'd' then
    some ((integerPart v).bind fun n => (Text.ofInteger n).mapError .number)
  else none

/-- Fills the places of a message from a position on. Values may be left over
    only where that is said. -/
def fillFrom (mayLeave : Bool) (position : Nat) :
    List Char → List Value → Except TemplateError (List Char)
  | [], [] => .ok []
  | [], _ :: _ => if mayLeave then .ok [] else .error .tooMany
  | ['%'], _ => .error .incomplete
  | '%' :: '%' :: cs, vs => (fillFrom mayLeave (position + 2) cs vs).map ('%' :: ·)
  | '%' :: _ :: _, [] => .error .tooFew
  | '%' :: letter :: cs, v :: vs =>
    match shown? letter v with
    | none => .error (.unknownLetter letter (position + 1))
    | some (.error e) => .error e
    | some (.ok s) => (fillFrom mayLeave (position + 2) cs vs).map (s.toList ++ ·)
  | c :: cs, vs => (fillFrom mayLeave (position + 1) cs vs).map (c :: ·)

/-- A message with its values. A message without values is taken as it is. -/
def fill (message : String) (values : List Value) : Except TemplateError String :=
  match values with
  | [] => .ok message
  | [.table (m :: ms)] =>
    (fillFrom true 0 message.toList [.table (m :: ms)]).map String.ofList
  | vs => (fillFrom false 0 message.toList vs).map String.ofList

end Template

end NamePatterns
