import SwiftText.Decimal

/-!
# Shortest decimals

A binary fraction stands for every real that is read as it: an interval around its value. Of the
decimals in that interval the shortest is the one with the fewest digits, and of those the nearest
to the value; an exact tie goes to the even one. Only the two neighbours of the value on each grid
of decimals need to be tried, in exact arithmetic on natural numbers.
-/

namespace SwiftText.Decimal

/-- The decimal `coefficient · 10 ^ exponent`. -/
structure Scientific where
  coefficient : Nat
  exponent : Int

/-- The reals that are read as a binary fraction: those between `lower · 2 ^ exponent` and
`upper · 2 ^ exponent`, the ends included if `closed`. The fraction itself is
`value · 2 ^ exponent`. -/
structure Interval where
  lower : Nat
  value : Nat
  upper : Nat
  exponent : Int
  closed : Bool

/-- The factors `(a, b)` by which the grid `10 ^ t` and the scale `2 ^ q` are compared:
`n · 10 ^ t ≤ x · 2 ^ q` exactly when `n * a ≤ x * b`. -/
def factors (t q : Int) : Nat × Nat :=
  (Nat.pow 10 t.toNat * Nat.pow 2 (-q).toNat, Nat.pow 10 (-t).toNat * Nat.pow 2 q.toNat)

namespace Interval

/-- Whether the decimal `n · 10 ^ t` lies in the interval. -/
def contains (i : Interval) (t : Int) (n : Nat) : Bool :=
  let (a, b) := factors t i.exponent
  if i.closed then i.lower * b ≤ n * a && n * a ≤ i.upper * b
  else i.lower * b < n * a && n * a < i.upper * b

/-- The last point of the grid `10 ^ t` that is not above the value. -/
def floor (i : Interval) (t : Int) : Nat :=
  let (a, b) := factors t i.exponent
  i.value * b / a

/-- The point of the grid `10 ^ t` in the interval that is nearest to the value, if there is one. -/
def nearest? (i : Interval) (t : Int) : Option Nat :=
  let (a, b) := factors t i.exponent
  let below := i.floor t
  let above := below + 1
  match i.contains t below, i.contains t above with
  | false, false => none
  | true, false => some below
  | false, true => some above
  | true, true =>
    let down := i.value * b - below * a
    let up := above * a - i.value * b
    if down < up then some below
    else if up < down then some above
    else some (if below % 2 == 0 then below else above)

/-- The exponent of the power of ten at or below a value that is not zero. -/
def magnitude (i : Interval) : Int :=
  let (den, num) := factors 0 i.exponent
  let num := i.value * num
  let guess : Int := (ofNat num).length - (ofNat den).length
  if den * Nat.pow 10 guess.toNat ≤ num * Nat.pow 10 (-guess).toNat then guess else guess - 1

/-- The most digits that are ever needed. -/
def maxDigits : Nat := 17

/-- The shortest decimal of the interval. -/
def shortest (i : Interval) : Scientific :=
  let top := i.magnitude
  let found := (List.range maxDigits).findSome? fun (k : Nat) =>
    (i.nearest? (top - k)).map fun n => (⟨n, top - k⟩ : Scientific)
  found.getD ⟨i.floor (top + 1 - maxDigits), top + 1 - maxDigits⟩

end Interval

end SwiftText.Decimal
