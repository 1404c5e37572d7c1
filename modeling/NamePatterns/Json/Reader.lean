import NamePatterns.Decimal.Shortest
import NamePatterns.Text.Integer
import NamePatterns.Value

/-!
# JSON Reading

JSON text as a value.

The reader keeps the order of members and tells integers from numbers with a
fraction or a power, so what the writer puts out comes back as it was. It
recurses on a bound that the length of the text supplies: every step into a
value consumes at least one character.

## Main definitions

* `Json.readString`: The rest of a string after its opening quote.
* `Json.readNumber`: A number.
* `Json.readValue`: A value, and the text after it.
* `Json.read?`: A text that is one value.
-/

namespace NamePatterns

namespace Json

/-- Whether a character may stand between the parts of a JSON text. -/
def isSpace (c : Char) : Bool :=
  c == ' ' || c == '\n' || c == '\r' || c == '\t'

/-- A text without the space at its start. -/
def skipSpace (cs : List Char) : List Char :=
  cs.dropWhile isSpace

/-- Four digits in base sixteen at the start of a text. -/
def readUnit? : List Char → Option (Nat × List Char)
  | a :: b :: c :: d :: rest => do
    let a ← Text.hexValue? a
    let b ← Text.hexValue? b
    let c ← Text.hexValue? c
    let d ← Text.hexValue? d
    return (((a * 16 + b) * 16 + c) * 16 + d, rest)
  | _ => none

/-- What follows `\u`: one unit, or the two units of a character beyond the
    first plane. -/
def readEscapedUnit? (cs : List Char) : Option (Char × List Char) := do
  let (high, rest) ← readUnit? cs
  if 0xD800 ≤ high && high < 0xDC00 then
    match rest with
    | '\\' :: 'u' :: rest =>
      let (low, rest) ← readUnit? rest
      if 0xDC00 ≤ low && low < 0xE000 then
        return (Char.ofNat (0x10000 + (high - 0xD800) * 0x400 + (low - 0xDC00)), rest)
      else none
    | _ => none
  else if 0xDC00 ≤ high && high < 0xE000 then none
  else return (Char.ofNat high, rest)

/-- One character of a string, and the text after it; nothing at the closing
    quote and where no string can go on. -/
def readChar? : List Char → Option (Char × List Char)
  | '\\' :: '"' :: rest => some ('"', rest)
  | '\\' :: '\\' :: rest => some ('\\', rest)
  | '\\' :: '/' :: rest => some ('/', rest)
  | '\\' :: 'n' :: rest => some ('\n', rest)
  | '\\' :: 'r' :: rest => some ('\r', rest)
  | '\\' :: 't' :: rest => some ('\t', rest)
  | '\\' :: 'b' :: rest => some ('\x08', rest)
  | '\\' :: 'f' :: rest => some ('\x0c', rest)
  | '\\' :: 'u' :: rest => readEscapedUnit? rest
  | c :: rest => if c == '"' || c == '\\' || c.toNat < 0x20 then none else some (c, rest)
  | [] => none

/-- The rest of a string after its opening quote, and the text after it. -/
def readString : (fuel : Nat) → List Char → Option (List Char × List Char)
  | 0, _ => none
  | _ + 1, '"' :: rest => some ([], rest)
  | fuel + 1, cs => do
    let (c, rest) ← readChar? cs
    let (s, rest) ← readString fuel rest
    return (c :: s, rest)

/-- A digit run at the start of a text, as a number with its length. -/
def readDigits (cs : List Char) : Nat × Nat × List Char :=
  let ds := cs.takeWhile Char.isDigit
  (ds.foldl (fun n d => n * 10 + (d.toNat - '0'.toNat)) 0, ds.length, cs.dropWhile Char.isDigit)

/-- The fraction of a number with its length, if there is one, and the text after it. Behind a
    point there must be a digit. -/
def readFraction : List Char → Option (Option (Nat × Nat) × List Char)
  | '.' :: after =>
    match readDigits after with
    | (_, 0, _) => none
    | (part, size, rest) => some (some (part, size), rest)
  | rest => some (none, rest)

/-- The power of ten of a number, if there is one, and the text after it. There must be a digit
    in it. -/
def readPower : List Char → Option (Option Int × List Char)
  | [] => some (none, [])
  | e :: after =>
    if e == 'e' || e == 'E' then
      let (down, after) :=
        match after with
        | '-' :: after => (true, after)
        | '+' :: after => (false, after)
        | _ => (false, after)
      match readDigits after with
      | (_, 0, _) => none
      | (n, _, rest) => some (some (if down then -(n : Int) else n), rest)
    else some (none, e :: after)

/-- A number without its sign, and the text after it. It starts with a digit, and with a zero
    only if that is all there is in front of a fraction. -/
def readMagnitude (negative : Bool) (cs : List Char) : Option (Value × List Char) := do
  let (whole, size, rest) := readDigits cs
  if size == 0 || (cs.head? == some '0' && size != 1) then none
  let (fraction, rest) ← readFraction rest
  let (power, rest) ← readPower rest
  match fraction, power with
  | none, none => return (.int (if negative then -(whole : Int) else whole), rest)
  | _, _ =>
    let (part, places) := fraction.getD (0, 0)
    let s : Decimal.Scientific := ⟨whole * Nat.pow 10 places + part, power.getD 0 - (places : Int)⟩
    return (.float (Decimal.nearest negative s), rest)

/-- A number, and the text after it. -/
def readNumber : List Char → Option (Value × List Char)
  | '-' :: cs => readMagnitude true cs
  | cs => readMagnitude false cs

mutual

/-- A value at the start of a text, and the text after it. -/
def readValue : (fuel : Nat) → List Char → Option (Value × List Char)
  | 0, _ => none
  | fuel + 1, cs =>
    match cs with
    | 'n' :: 'u' :: 'l' :: 'l' :: rest => some (.null, rest)
    | 't' :: 'r' :: 'u' :: 'e' :: rest => some (.bool true, rest)
    | 'f' :: 'a' :: 'l' :: 's' :: 'e' :: rest => some (.bool false, rest)
    | '"' :: rest => (readString (rest.length + 1) rest).map fun (s, r) =>
        (.text (String.ofList s), r)
    | '[' :: rest =>
      match skipSpace rest with
      | ']' :: rest => some (.list [], rest)
      | rest => do
        let (v, rest) ← readValue fuel rest
        let (vs, rest) ← readItems fuel (skipSpace rest)
        return (.list (v :: vs), rest)
    | '\x7b' :: rest =>
      match skipSpace rest with
      | '\x7d' :: rest => some (.table [], rest)
      | rest => do
        let (m, rest) ← readMember fuel rest
        let (ms, rest) ← readMembers fuel (skipSpace rest)
        return (.table (m :: ms), rest)
    | cs => readNumber cs

/-- The items of a list after the first, up to its end. -/
def readItems : (fuel : Nat) → List Char → Option (List Value × List Char)
  | 0, _ => none
  | fuel + 1, cs =>
    match cs with
    | ']' :: rest => some ([], rest)
    | ',' :: rest => do
      let (v, rest) ← readValue fuel (skipSpace rest)
      let (vs, rest) ← readItems fuel (skipSpace rest)
      return (v :: vs, rest)
    | _ => none

/-- One member of a table. -/
def readMember : (fuel : Nat) → List Char → Option ((String × Value) × List Char)
  | 0, _ => none
  | fuel + 1, cs =>
    match cs with
    | '"' :: rest => do
      let (k, rest) ← readString (rest.length + 1) rest
      match skipSpace rest with
      | ':' :: rest =>
        let (v, rest) ← readValue fuel (skipSpace rest)
        return ((String.ofList k, v), rest)
      | _ => none
    | _ => none

/-- The members of a table after the first, up to its end. -/
def readMembers : (fuel : Nat) → List Char → Option (List (String × Value) × List Char)
  | 0, _ => none
  | fuel + 1, cs =>
    match cs with
    | '\x7d' :: rest => some ([], rest)
    | ',' :: rest => do
      let (m, rest) ← readMember fuel (skipSpace rest)
      let (ms, rest) ← readMembers fuel (skipSpace rest)
      return (m :: ms, rest)
    | _ => none

end

/-- A text that is one value, with space around it. -/
def read? (s : String) : Option Value :=
  let cs := skipSpace s.toList
  match readValue (2 * cs.length + 2) cs with
  | some (v, rest) => if (skipSpace rest).isEmpty then some v else none
  | none => none

end Json

end NamePatterns
