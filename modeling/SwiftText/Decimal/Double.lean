import SwiftText.Decimal.Shortest

/-!
# Double-precision numbers

A double is given by its 64 bits: a sign, an exponent of 11 bits and a fraction of 52.
-/

namespace SwiftText.Decimal

/-- A double-precision number, by its bits. -/
structure Double where
  bits : UInt64

/-- What a double stands for. A finite one is `significand · 2 ^ exponent`; it is at the
`edge` if the doubles just below it are twice as close as those above. -/
inductive Double.Class where
  | nan
  | infinite (negative : Bool)
  | finite (negative : Bool) (significand : Nat) (exponent : Int) (edge : Bool)

/-- What a double stands for, read off its bits. -/
def Double.classify (x : Double) : Double.Class :=
  let n := x.bits.toNat
  let negative := n / Nat.pow 2 63 == 1
  let field : Nat := n / Nat.pow 2 52 % Nat.pow 2 11
  let fraction := n % Nat.pow 2 52
  if field == 2047 then
    if fraction == 0 then .infinite negative else .nan
  else if field == 0 then .finite negative fraction (-1074) false
  else .finite negative (Nat.pow 2 52 + fraction) ((field : Int) - 1075) (fraction == 0 && field != 1)

/-- The reals that are read as `significand · 2 ^ exponent`: up to half the distance to the
neighbours, the ends included when the significand is even. -/
def interval (significand : Nat) (exponent : Int) (edge : Bool) : Interval where
  lower := if edge then 4 * significand - 1 else 4 * significand - 2
  value := 4 * significand
  upper := 4 * significand + 2
  exponent := exponent - 2
  closed := significand % 2 == 0

end SwiftText.Decimal
