import NamePatterns.Text.Integer

/-!
# UTF-8

Bytes as text, and the first place where they are none.

A character is a first byte and the number of tail bytes it announces. Some
first bytes narrow the range of the tail that follows them, which rules out
overlong forms, surrogates and values beyond the last code point. Decoding
stops at the first character that breaks a rule and reports the bytes that
belong to it: the first byte alone when nothing starts with it, the bytes up
to the wrong tail, or all bytes that are left when the text ends too early.

## Main definitions

* `Fault`, `DecodeError`: What is wrong, and with which bytes.
* `DecodeError.message`: The wording of the report.
* `decode`: Bytes as text.
* `encode`: Text as bytes.
-/

namespace NamePatterns

namespace Utf8

/-- What is wrong with a sequence of bytes. -/
inductive Fault where
  /-- No character starts with this byte. -/
  | start
  /-- A tail byte was announced, and another byte stands there. -/
  | continuation
  /-- The text ends before the announced tail bytes. -/
  | truncated
  deriving DecidableEq, Repr

/-- The first fault of a sequence of bytes. -/
structure DecodeError where
  /-- What is wrong. -/
  fault : Fault
  /-- The first byte of the character at fault. -/
  firstByte : UInt8
  /-- The position of that byte. -/
  position : Nat
  /-- How many bytes belong to the fault. -/
  count : Nat
  deriving DecidableEq, Repr

/-- The wording of a fault. -/
def Fault.reason : Fault → String
  | .start => "invalid start byte"
  | .continuation => "invalid continuation byte"
  | .truncated => "unexpected end of data"

/-- The wording of a decoding error: one byte is shown, several are counted. -/
def DecodeError.message (e : DecodeError) : String :=
  let place :=
    if e.count == 1 then
      "byte 0x" ++ String.ofList (Text.hex 2 e.firstByte.toNat) ++ " in position "
        ++ toString e.position
    else
      "bytes in position " ++ toString e.position ++ "-" ++ toString (e.position + e.count - 1)
  "'utf-8' codec can't decode " ++ place ++ ": " ++ e.fault.reason

/-- What a first byte announces. -/
structure Lead where
  /-- How many tail bytes follow. -/
  tails : Nat
  /-- The bits of the character that the first byte holds. -/
  bits : Nat
  /-- The least value of the next tail byte. -/
  low : Nat := 0x80
  /-- The greatest value of the next tail byte. -/
  high : Nat := 0xBF

/-- What a first byte announces, or nothing if no character starts with it. -/
def lead? (b : Nat) : Option Lead :=
  if b < 0x80 then some ⟨0, b, 0x80, 0xBF⟩
  else if b < 0xC2 then none
  else if b < 0xE0 then some ⟨1, b - 0xC0, 0x80, 0xBF⟩
  else if b == 0xE0 then some ⟨2, 0, 0xA0, 0xBF⟩
  else if b == 0xED then some ⟨2, 0xD, 0x80, 0x9F⟩
  else if b < 0xF0 then some ⟨2, b - 0xE0, 0x80, 0xBF⟩
  else if b == 0xF0 then some ⟨3, 0, 0x90, 0xBF⟩
  else if b < 0xF4 then some ⟨3, b - 0xF0, 0x80, 0xBF⟩
  else if b == 0xF4 then some ⟨3, 4, 0x80, 0x8F⟩
  else none

/-- Reads the announced tail bytes: the code point, or what is wrong and how
    many good tail bytes precede it. -/
def tails : (count : Nat) → (bits low high good : Nat) → List UInt8 → Except (Fault × Nat) Nat
  | 0, bits, _, _, _, _ => .ok bits
  | _ + 1, _, _, _, good, [] => .error (.truncated, good)
  | count + 1, bits, low, high, good, b :: bs =>
    if low ≤ b.toNat && b.toNat ≤ high then
      tails count (bits * 64 + (b.toNat - 0x80)) 0x80 0xBF (good + 1) bs
    else .error (.continuation, good)

/-- Decodes the bytes from a position on. The bytes of a character after its
    first are stepped over by `skip`, since they were read with it. -/
def decodeFrom : (position skip : Nat) → List UInt8 → Except DecodeError (List Char)
  | _, _, [] => .ok []
  | position, skip + 1, _ :: bs => decodeFrom (position + 1) skip bs
  | position, 0, b :: bs =>
    match lead? b.toNat with
    | none => .error ⟨.start, b, position, 1⟩
    | some l =>
      match tails l.tails l.bits l.low l.high 0 bs with
      | .error (fault, good) => .error ⟨fault, b, position, good + 1⟩
      | .ok n => (decodeFrom (position + 1) l.tails bs).map (Char.ofNat n :: ·)

/-- Bytes as text, or their first fault. -/
def decode (bs : List UInt8) : Except DecodeError String :=
  (decodeFrom 0 0 bs).map String.ofList

/-- Text as bytes. -/
def encode (s : String) : List UInt8 :=
  s.toList.flatMap String.utf8EncodeChar

end Utf8

end NamePatterns
