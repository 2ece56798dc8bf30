import SwiftText.Decimal.Double
import SwiftText.Fault

/-!
# Number literals

An integer is written with all its digits. A double is written with the digits of its shortest
decimal: in place when its exponent is at least -4 and below 16, with at least one digit after the
point, else with an exponent of two digits or more. The other doubles have names.
-/

namespace SwiftText.Literal

open Decimal (Double)

/-- The literal of an integer; one with too many digits is a fault. -/
def integer (n : Int) : Except Fault (List Char) :=
  if Decimal.isTooLong n then .error .integerTooLong else .ok (Decimal.ofInt n)

/-- Digits without the zeros at their end. -/
def stripZeros (digits : List Char) : List Char :=
  (digits.reverse.dropWhile (· == '0')).reverse

/-- Digits with a point after the first `point` of them, filled up with zeros. -/
def positional (digits : List Char) (point : Int) : List Char :=
  if point ≤ 0 then
    '0' :: '.' :: List.replicate (-point).toNat '0' ++ digits
  else if digits.length ≤ point.toNat then
    digits ++ List.replicate (point.toNat - digits.length) '0' ++ ['.', '0']
  else digits.take point.toNat ++ '.' :: digits.drop point.toNat

/-- The exponent part of a number. -/
def exponentPart (e : Int) : List Char :=
  let digits := Decimal.ofNat e.natAbs
  'e' :: (if e < 0 then '-' else '+') :: List.replicate (2 - digits.length) '0' ++ digits

/-- Digits with a point after the first one, and an exponent. -/
def exponential (digits : List Char) (e : Int) : List Char :=
  let fraction := match digits.drop 1 with
    | [] => []
    | rest => '.' :: rest
  digits.take 1 ++ fraction ++ exponentPart e

/-- The text of the number with the given digits whose point stands after the first `point`
of them. -/
def layout (digits : List Char) (point : Int) : List Char :=
  if -4 < point ∧ point ≤ 16 then positional digits point else exponential digits (point - 1)

/-- The text of a finite double without its sign. -/
def magnitude (significand : Nat) (exponent : Int) (edge : Bool) : List Char :=
  if significand == 0 then layout ['0'] 1
  else
    let s := (Decimal.interval significand exponent edge).shortest
    let digits := Decimal.ofNat s.coefficient
    layout (stripZeros digits) (digits.length + s.exponent)

/-- The literal of a double. -/
def double (x : Double) : List Char :=
  match x.classify with
  | .nan => "Double.nan".toList
  | .infinite false => "Double.infinity".toList
  | .infinite true => "-Double.infinity".toList
  | .finite false m q edge => magnitude m q edge
  | .finite true m q edge => '-' :: magnitude m q edge

end SwiftText.Literal
