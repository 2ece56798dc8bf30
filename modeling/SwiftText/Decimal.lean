/-!
# Decimal text of integers

The digits of an integer, most significant first, with a minus sign in front of a negative one.
-/

namespace SwiftText.Decimal

/-- The decimal digits of a natural number; zero has one digit. -/
def ofNat (n : Nat) : List Char := Nat.toDigits 10 n

/-- The decimal text of an integer. -/
def ofInt (n : Int) : List Char :=
  if n < 0 then '-' :: ofNat n.natAbs else ofNat n.natAbs

/-- The most digits that an integer is read or written with. -/
def digitLimit : Nat := 4300

/-- Whether an integer has more digits than can be written. -/
def isTooLong (n : Int) : Bool := digitLimit < (ofNat n.natAbs).length

/-- The lower-case hexadecimal digits of a natural number. -/
def hex (n : Nat) : List Char := Nat.toDigits 16 n

/-- The lower-case hexadecimal digits of a natural number, filled up with zeros to a width. -/
def hexPadded (width n : Nat) : List Char :=
  let digits := hex n
  List.replicate (width - digits.length) '0' ++ digits

end SwiftText.Decimal
