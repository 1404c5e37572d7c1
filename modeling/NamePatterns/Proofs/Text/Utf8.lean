import Mathlib.Tactic.IntervalCases
import NamePatterns.Text.Utf8

/-!
# Decoding Encoded Text

Text that is encoded is decoded to itself.

A character is encoded in one to four bytes. The first one announces as many
tail bytes as follow, and the tail bytes are in the ranges it allows: the ranges
are narrowed only where a smaller form would do, for surrogates, and beyond the
last code point, and no character is there. What decoding makes of the rest does
not depend on where the rest begins.

The bits of a character are cut into groups of six, so each step of decoding
puts a quotient and its remainder together again. The first byte holds what is
left of the bits, and it tells the number of tail bytes by its range. What is
known of the number of a character (`isScalar`) is all that the ranges of the
bytes depend on.

## Theorems

* `Utf8.decodeFrom_cons`: Decoding a character from its first byte and its tail
  bytes.
* `Utf8.decodeFrom_encodeChar`: Decoding an encoded character.
* `Utf8.decode_encode`: Decoding encoded text.
-/

namespace NamePatterns

namespace Utf8

/-- Bytes that are read with a first byte are stepped over. -/
theorem decodeFrom_skip (position : Nat) (follow rest : List UInt8) :
    decodeFrom position follow.length (follow ++ rest)
      = decodeFrom (position + follow.length) 0 rest := by
  induction follow generalizing position with
  | nil => rfl
  | cons b follow ih =>
      -- The byte was read with the first one, and only its place is counted.
      rw [List.length_cons, List.cons_append, decodeFrom, ih]
      congr 1
      omega

/-- A first byte and the tail bytes it announces are one character. -/
theorem decodeFrom_cons {b : UInt8} {l : Lead} {n : Nat} {follow : List UInt8}
    (hlead : lead? b.toNat = some l) (hlength : l.tails = follow.length) (position : Nat)
    (rest : List UInt8)
    (htails : tails l.tails l.bits l.low l.high 0 (follow ++ rest) = .ok n) :
    decodeFrom position 0 (b :: follow ++ rest)
      = (decodeFrom (position + 1 + follow.length) 0 rest).map (Char.ofNat n :: ·) := by
  rw [List.cons_append, decodeFrom]
  simp only [hlead, htails]
  rw [hlength, decodeFrom_skip]

/-- A tail byte in the range that is allowed adds six bits. -/
theorem tails_cons {count bits low high good x : Nat} (rest : List UInt8) (hx : x < 64)
    (hlow : low ≤ x + 0x80) (hhigh : x + 0x80 ≤ high) :
    tails (count + 1) bits low high good (UInt8.ofNat (x + 0x80) :: rest)
      = tails count (bits * 64 + x) 0x80 0xBF (good + 1) rest := by
  have hbyte : (UInt8.ofNat (x + 0x80)).toNat = x + 0x80 :=
    Nat.mod_eq_of_lt (by omega)
  rw [tails, hbyte, Nat.add_sub_cancel]
  simp only [decide_eq_true hlow, decide_eq_true hhigh, Bool.and_true, if_true]

/-- First bytes of characters of two bytes. -/
theorem lead?_two {x : Nat} (hlow : 2 ≤ x) (hhigh : x < 32) :
    lead? (x + 0xC0) = some ⟨1, x, 0x80, 0xBF⟩ := by
  rw [lead?, if_neg (by omega), if_neg (by omega), if_pos (by omega), Nat.add_sub_cancel]

/-- First bytes of characters of three bytes. -/
theorem lead?_three {x : Nat} (hx : x < 16) :
    lead? (x + 0xE0)
      = some ⟨2, x, if x = 0 then 0xA0 else 0x80, if x = 0xD then 0x9F else 0xBF⟩ := by
  -- Two of the first bytes narrow the range of what follows, so all of them are gone through.
  interval_cases x <;> rfl

/-- First bytes of characters of four bytes. -/
theorem lead?_four {x : Nat} (hx : x < 5) :
    lead? (x + 0xF0)
      = some ⟨3, x, if x = 0 then 0x90 else 0x80, if x = 4 then 0x8F else 0xBF⟩ := by
  interval_cases x <;> rfl

/-- The code points of characters: no surrogates, and none beyond the last. -/
theorem isScalar (c : Char) :
    c.val.toNat < 0xD800 ∨ (0xE000 ≤ c.val.toNat ∧ c.val.toNat < 0x110000) := by
  have hvalid := c.valid
  simp only [UInt32.isValidChar, Nat.isValidChar] at hvalid
  omega

/-- An encoded character is decoded to itself. -/
theorem decodeFrom_encodeChar (c : Char) (position : Nat) (rest : List UInt8) :
    ∃ after, decodeFrom position 0 (String.utf8EncodeChar c ++ rest)
      = (decodeFrom after 0 rest).map (c :: ·) := by
  have hscalar := isScalar c
  -- From here on the character is its number, and what is left is arithmetic.
  have hsame : Char.ofNat c.val.toNat = c := Char.ofNat_toNat c
  unfold String.utf8EncodeChar
  generalize c.val.toNat = v at hscalar hsame
  simp only
  -- There is a case for each number of bytes. In each of them the first byte is found by its
  -- range, the tail bytes are added six bits at a time, and the number comes out as it was.
  by_cases hone : v ≤ 0x7F
  · have hbyte : (UInt8.ofNat v).toNat = v := Nat.mod_eq_of_lt (by omega)
    have hlead : lead? (UInt8.ofNat v).toNat = some ⟨0, v, 0x80, 0xBF⟩ := by
      rw [hbyte, lead?, if_pos (by omega)]
    rw [if_pos hone, decodeFrom_cons hlead rfl position rest rfl, hsame]
    exact ⟨_, rfl⟩
  by_cases htwo : v ≤ 0x7FF
  · have hbyte : (UInt8.ofNat (v / 64 % 0x20 + 0xC0)).toNat = v / 64 % 0x20 + 0xC0 :=
      Nat.mod_eq_of_lt (by omega)
    have hlead : lead? (UInt8.ofNat (v / 64 % 0x20 + 0xC0)).toNat
        = some ⟨1, v / 64 % 0x20, 0x80, 0xBF⟩ := by
      rw [hbyte, lead?_two (by omega) (by omega)]
    have htails : tails 1 (v / 64 % 0x20) 0x80 0xBF 0
        ([UInt8.ofNat (v % 0x40 + 0x80)] ++ rest) = .ok v := by
      rw [List.singleton_append, tails_cons _ (by omega) (by omega) (by omega), tails]
      exact congrArg Except.ok (by omega)
    rw [if_neg hone, if_pos htwo, decodeFrom_cons hlead rfl position rest htails, hsame]
    exact ⟨_, rfl⟩
  by_cases hthree : v ≤ 0xFFFF
  · have hbyte : (UInt8.ofNat (v / 4096 % 0x10 + 0xE0)).toNat = v / 4096 % 0x10 + 0xE0 :=
      Nat.mod_eq_of_lt (by omega)
    have hlead := lead?_three (x := v / 4096 % 0x10) (by omega)
    rw [← hbyte] at hlead
    have htails : tails 2 (v / 4096 % 0x10) (if v / 4096 % 0x10 = 0 then 0xA0 else 0x80)
        (if v / 4096 % 0x10 = 0xD then 0x9F else 0xBF) 0
        ([UInt8.ofNat (v / 64 % 0x40 + 0x80), UInt8.ofNat (v % 0x40 + 0x80)] ++ rest)
        = .ok v := by
      -- A number below the range of the first tail byte would have needed fewer bytes, and one
      -- above it would be a surrogate.
      rw [List.cons_append, List.singleton_append,
        tails_cons _ (by omega) (by split <;> omega) (by split <;> omega),
        tails_cons _ (by omega) (by omega) (by omega), tails]
      exact congrArg Except.ok (by omega)
    rw [if_neg hone, if_neg htwo, if_pos hthree, decodeFrom_cons hlead rfl position rest htails,
      hsame]
    exact ⟨_, rfl⟩
  · have hbyte : (UInt8.ofNat (v / 262144 % 0x08 + 0xF0)).toNat = v / 262144 % 0x08 + 0xF0 :=
      Nat.mod_eq_of_lt (by omega)
    have hlead := lead?_four (x := v / 262144 % 0x08) (by omega)
    rw [← hbyte] at hlead
    have htails : tails 3 (v / 262144 % 0x08) (if v / 262144 % 0x08 = 0 then 0x90 else 0x80)
        (if v / 262144 % 0x08 = 4 then 0x8F else 0xBF) 0
        ([UInt8.ofNat (v / 4096 % 0x40 + 0x80), UInt8.ofNat (v / 64 % 0x40 + 0x80),
          UInt8.ofNat (v % 0x40 + 0x80)] ++ rest) = .ok v := by
      -- Here a number above the range would be beyond the last code point.
      rw [List.cons_append, List.cons_append, List.singleton_append,
        tails_cons _ (by omega) (by split <;> omega) (by split <;> omega),
        tails_cons _ (by omega) (by omega) (by omega),
        tails_cons _ (by omega) (by omega) (by omega), tails]
      exact congrArg Except.ok (by omega)
    rw [if_neg hone, if_neg htwo, if_neg hthree, decodeFrom_cons hlead rfl position rest htails,
      hsame]
    exact ⟨_, rfl⟩

/-- Text that is encoded is decoded to itself. -/
theorem decode_encode (s : String) : decode (encode s) = .ok s := by
  -- The place of a byte matters for errors only, so the induction is for every place.
  have hfrom : ∀ (cs : List Char) (position : Nat),
      decodeFrom position 0 (cs.flatMap String.utf8EncodeChar) = .ok cs := by
    intro cs
    induction cs with
    | nil => exact fun position => by rw [List.flatMap_nil, decodeFrom]
    | cons c cs ih =>
        intro position
        obtain ⟨after, hafter⟩ :=
          decodeFrom_encodeChar c position (cs.flatMap String.utf8EncodeChar)
        rw [List.flatMap_cons, hafter, ih]
        rfl
  rw [decode, encode, hfrom, Except.map, String.ofList_toList]

end Utf8

end NamePatterns
