import NamePatterns.Decimal.Shortest

/-!
# Numbers in Print

How floating-point numbers are written.

The digits are the shortest that read back. They are written positionally
while the leading digit stands between the fourth place after the point and
the sixteenth before it, with a `.0` where there is no fraction; beyond that
one digit stands before the point and the power of ten follows, signed and
with at least two digits.

## Main definitions

* `SpecialNames`: What infinities and the missing number are called.
* `layout`: A decimal in its printed form.
* `floatText`: A floating-point number in its printed form.
-/

namespace NamePatterns

namespace Decimal

/-- What infinities and the missing number are called. -/
structure SpecialNames where
  /-- The name of infinity. -/
  infinity : String
  /-- The name of what is not a number. -/
  notANumber : String

/-- A decimal in its printed form. -/
def layout (s : Scientific) : String :=
  let ds := Nat.toDigits 10 s.digits
  let point := (ds.length : Int) + s.exponent
  let chars : List Char :=
    if -4 < point && point ≤ 16 then
      if point ≤ 0 then
        '0' :: '.' :: List.replicate (-point).toNat '0' ++ ds
      else if ds.length ≤ point.toNat then
        ds ++ List.replicate (point.toNat - ds.length) '0' ++ ['.', '0']
      else
        ds.take point.toNat ++ '.' :: ds.drop point.toNat
    else
      let power := point - 1
      let size := Nat.toDigits 10 power.natAbs
      let lead :=
        match ds with
        | [] => []
        | [d] => [d]
        | d :: rest => d :: '.' :: rest
      lead ++ 'e' :: (if power < 0 then '-' else '+')
        :: (if size.length < 2 then '0' :: size else size)
  String.ofList chars

/-- A floating-point number in its printed form. -/
def floatText (names : SpecialNames) (x : Float) : String :=
  let signed (negative : Bool) (s : String) : String := if negative then "-" ++ s else s
  match classify x with
  | .notANumber => names.notANumber
  | .infinite negative => signed negative names.infinity
  | .naught negative => signed negative "0.0"
  | .finite negative magnitude => signed negative (layout (shortest magnitude))

end Decimal

end NamePatterns
