import Mathlib.Tactic.FieldSimp
import SwiftText.Literal.Number
import SwiftText.Proofs.Decimal.Interval
import SwiftText.Proofs.Radix

/-!
# Numerals

The grammar of the numerals that finite doubles are written with, each with the rational number that
it stands for, and the proof that the layout of digits around a point is such a numeral.

* `IsFraction`, `IsExponent`: what may stand after the point, and the text of an exponent.
* `IsNumeral`: numerals in place, for zero and for numbers from `10 ^ -4` to `10 ^ 16`, and numerals
  with an exponent for the others. There is always a point or an exponent.
* `isNumeral_layout`: digits without a zero at either end, laid out around a point, are a numeral of
  the number that they stand for.
-/

namespace SwiftText.Literal

/-! ## The grammar -/

/-- The digits after a point: at least one, and no zero at the end. -/
structure IsFraction (b : List Char) : Prop where
  digits : ∀ c ∈ b, Radix.isDigitOf 10 c = true
  ne_nil : b ≠ []
  noZeros : b.getLast? ≠ some '0'

/-- The number that the digits after a point stand for. -/
def fractionValue (b : List Char) : ℚ := Radix.ofDigits 10 b / 10 ^ b.length

/-- The text of an exponent: its sign, and two digits or more of which the first is zero only if
there are two. -/
inductive IsExponent : List Char → ℤ → Prop
  | intro {digits : List Char} {e : ℤ} (hdigits : ∀ c ∈ digits, Radix.isDigitOf 10 c = true)
      (hvalue : Radix.ofDigits 10 digits = e.natAbs) (hlength : 2 ≤ digits.length)
      (hzero : 2 < digits.length → digits.head? ≠ some '0') :
      IsExponent ('e' :: (if e < 0 then '-' else '+') :: digits) e

/-- The numerals of numbers that are not negative. -/
inductive IsNumeral : List Char → ℚ → Prop
  | whole {n : ℕ} (hn : n < 10 ^ 16) : IsNumeral (Decimal.ofNat n ++ ['.', '0']) n
  | fractional {n : ℕ} {b : List Char} (hb : IsFraction b) (hn : n < 10 ^ 16)
      (hlow : 10 ^ (-4 : ℤ) ≤ n + fractionValue b) :
      IsNumeral (Decimal.ofNat n ++ '.' :: b) (n + fractionValue b)
  | power {n : ℕ} {e : ℤ} {s : List Char} (hn : 0 < n) (hn' : n < 10) (hs : IsExponent s e)
      (he : e < -4 ∨ 16 ≤ e) : IsNumeral (Decimal.ofNat n ++ s) (n * 10 ^ e)
  | scientific {n : ℕ} {b : List Char} {e : ℤ} {s : List Char} (hn : 0 < n) (hn' : n < 10)
      (hb : IsFraction b) (hs : IsExponent s e) (he : e < -4 ∨ 16 ≤ e) :
      IsNumeral (Decimal.ofNat n ++ '.' :: b ++ s) ((n + fractionValue b) * 10 ^ e)

/-! ## Digits -/

theorem isDigitOf_of_mem_ofNat {n : ℕ} : ∀ c ∈ Decimal.ofNat n, Radix.isDigitOf 10 c = true :=
  Radix.isDigitOf_of_mem_toDigits (by decide) (by decide) n

theorem ofNat_ne_nil (n : ℕ) : Decimal.ofNat n ≠ [] := Nat.toDigits_ne_nil

theorem isDigitOf_of_mem_replicate_append (z n : ℕ) :
    ∀ c ∈ List.replicate z '0' ++ Decimal.ofNat n, Radix.isDigitOf 10 c = true := by
  intro c hc
  rcases List.mem_append.1 hc with hc | hc
  · rw [List.eq_of_mem_replicate hc]
    decide
  · exact isDigitOf_of_mem_ofNat c hc

theorem ofDigits_ofNat (n : ℕ) : Radix.ofDigits 10 (Decimal.ofNat n) = n :=
  Radix.ofDigits_toDigits (by decide) (by decide) n

theorem getLast?_ofNat (n : ℕ) : (Decimal.ofNat n).getLast? = some (n % 10).digitChar := by
  rw [Decimal.ofNat, Nat.toDigits_eq_if (by decide)]
  split
  · next h => rw [Nat.mod_eq_of_lt h, List.getLast?_singleton]
  · rw [List.getLast?_append, List.getLast?_singleton, Option.some_or]

/-- The last digit of a number that is no multiple of ten is no zero. -/
theorem getLast?_ofNat_ne {n : ℕ} (h : ¬10 ∣ n) : (Decimal.ofNat n).getLast? ≠ some '0' := by
  have hall : ∀ d < 10, d.digitChar = '0' → d = 0 := by decide
  rw [getLast?_ofNat]
  intro hzero
  exact h (Nat.dvd_of_mod_eq_zero (hall _ (Nat.mod_lt n (by decide)) (Option.some.inj hzero)))

/-- The digits of a number are followed by zeros in its multiples by powers of ten. -/
theorem ofNat_mul_ten_pow {n : ℕ} (hn : 0 < n) (z : ℕ) :
    Decimal.ofNat (n * 10 ^ z) = Decimal.ofNat n ++ List.replicate z '0' := by
  induction z with
  | zero => simp
  | succ z ih =>
    have hpos : 0 < n * 10 ^ z := Nat.mul_pos hn (Nat.pow_pos (by decide))
    rw [Nat.pow_succ, ← Nat.mul_assoc, List.replicate_succ', ← List.append_assoc, ← ih,
      Decimal.ofNat, Nat.toDigits_eq_if (by decide), if_neg (by omega),
      Nat.mul_div_cancel _ (by decide), Nat.mul_mod_left]
    rfl

/-- Zeros are dropped from the end up to a digit that is no zero. -/
theorem stripZeros_append_replicate {s : List Char} (h : s.getLast? ≠ some '0') (z : ℕ) :
    stripZeros (s ++ List.replicate z '0') = s := by
  have hzeros : ∀ c ∈ List.replicate z '0', (c == '0') = true := fun c hc =>
    beq_iff_eq.2 (List.eq_of_mem_replicate hc)
  have hlast : s.reverse.dropWhile (· == '0') = s.reverse := by
    rw [← List.head?_reverse] at h
    cases hs : s.reverse with
    | nil => rfl
    | cons c r =>
      rw [hs, List.head?_cons] at h
      exact List.dropWhile_cons_of_neg (by simpa using h)
  rw [stripZeros, List.reverse_append, List.reverse_replicate, List.dropWhile_append_of_pos hzeros,
    hlast, List.reverse_reverse]

/-! ## Layouts -/

theorem fractionValue_eq (b : List Char) :
    fractionValue b = Radix.ofDigits 10 b * 10 ^ (-(b.length : ℤ)) := by
  rw [fractionValue, zpow_neg, zpow_natCast, div_eq_mul_inv]

theorem fractionValue_nonneg (b : List Char) : 0 ≤ fractionValue b := by
  unfold fractionValue
  positivity

/-- Digits stand for the ones before a point and the ones after it. -/
theorem ofDigits_append_mul_zpow (s t : List Char) :
    (Radix.ofDigits 10 (s ++ t) : ℚ) * 10 ^ (-(t.length : ℤ)) =
      Radix.ofDigits 10 s + fractionValue t := by
  rw [Radix.ofDigits_append, fractionValue, zpow_neg, zpow_natCast]
  push_cast
  field_simp

theorem isExponent_exponentPart (e : ℤ) : IsExponent (exponentPart e) e := by
  have hvalue : Radix.ofDigits 10 (List.replicate (2 - (Decimal.ofNat e.natAbs).length) '0' ++
      Decimal.ofNat e.natAbs) = e.natAbs := by
    rw [Radix.ofDigits_append, Radix.ofDigits_replicate_zero, Nat.zero_mul, Nat.zero_add,
      ofDigits_ofNat]
  refine .intro (isDigitOf_of_mem_replicate_append _ _) hvalue (by simp; omega) fun hlength => ?_
  -- three digits are not filled up with zeros
  have hlong : 2 < (Decimal.ofNat e.natAbs).length := by
    simp at hlength
    omega
  have hpos : 0 < e.natAbs := Nat.pos_of_ne_zero fun hzero => by
    rw [hzero] at hlong
    exact absurd hlong (by decide)
  rw [Nat.sub_eq_zero_of_le hlong.le]
  exact Radix.head?_toDigits_ne_zero hpos

/-- A number with a point stands between the powers of ten around it. -/
theorem bounds_mul_zpow {n : ℕ} (hn : 0 < n) (point : ℤ) :
    (10 : ℚ) ^ (point - 1) ≤ n * 10 ^ (point - (Decimal.ofNat n).length) ∧
      (n : ℚ) * 10 ^ (point - (Decimal.ofNat n).length) < 10 ^ point := by
  have hpos := Decimal.length_ofNat_pos n
  have hlow : (10 : ℚ) ^ ((Decimal.ofNat n).length - 1) ≤ n := by
    exact_mod_cast Decimal.ten_pow_length_le hn
  have hhigh : (n : ℚ) < 10 ^ (Decimal.ofNat n).length := by
    exact_mod_cast Decimal.lt_ten_pow_length n
  constructor
  · calc (10 : ℚ) ^ (point - 1)
        = 10 ^ ((Decimal.ofNat n).length - 1) * 10 ^ (point - (Decimal.ofNat n).length) := by
          rw [← zpow_natCast, ← zpow_add₀ (by norm_num)]
          congr 1
          omega
      _ ≤ n * 10 ^ (point - (Decimal.ofNat n).length) := by gcongr
  · calc (n : ℚ) * 10 ^ (point - (Decimal.ofNat n).length)
        < 10 ^ (Decimal.ofNat n).length * 10 ^ (point - (Decimal.ofNat n).length) := by gcongr
      _ = 10 ^ point := by
          rw [← zpow_natCast, ← zpow_add₀ (by norm_num)]
          congr 1
          omega

/-- The last digits of a number that is no multiple of ten may stand after a point. -/
theorem isFraction_drop {n p : ℕ} (hten : ¬10 ∣ n) (hp : p < (Decimal.ofNat n).length) :
    IsFraction ((Decimal.ofNat n).drop p) where
  digits c hc := isDigitOf_of_mem_ofNat c (List.mem_of_mem_drop hc)
  ne_nil := by
    rw [ne_eq, List.drop_eq_nil_iff, not_le]
    exact hp
  noZeros := by
    rw [List.getLast?_drop, if_neg (not_le.2 hp)]
    exact getLast?_ofNat_ne hten

theorem isFraction_replicate_append {n : ℕ} (hten : ¬10 ∣ n) (z : ℕ) :
    IsFraction (List.replicate z '0' ++ Decimal.ofNat n) where
  digits := isDigitOf_of_mem_replicate_append z n
  ne_nil := List.append_ne_nil_of_right_ne_nil _ (ofNat_ne_nil n)
  noZeros := by
    rw [List.getLast?_append_of_ne_nil _ (ofNat_ne_nil n)]
    exact getLast?_ofNat_ne hten

/-- The first digits of a number are the digits of a number. -/
theorem ofNat_ofDigits_take {n p : ℕ} (hn : 0 < n) (hp : 0 < p) :
    Decimal.ofNat (Radix.ofDigits 10 ((Decimal.ofNat n).take p)) = (Decimal.ofNat n).take p := by
  refine Radix.toDigits_ofDigits (fun c hc => isDigitOf_of_mem_ofNat c (List.mem_of_mem_take hc))
    ?_ ?_
  · rw [ne_eq, List.take_eq_nil_iff, not_or]
    exact ⟨hp.ne', ofNat_ne_nil n⟩
  · rw [List.head?_take, if_neg hp.ne']
    exact Radix.head?_toDigits_ne_zero hn

theorem ofDigits_take_one {n : ℕ} (hn : 0 < n) :
    0 < Radix.ofDigits 10 ((Decimal.ofNat n).take 1) ∧
      Radix.ofDigits 10 ((Decimal.ofNat n).take 1) < 10 := by
  have hfirst := ofNat_ofDigits_take hn Nat.one_pos
  constructor
  · refine Nat.pos_of_ne_zero fun hzero => Radix.head?_toDigits_ne_zero hn ?_
    rw [hzero] at hfirst
    rw [← Decimal.ofNat, ← List.take_append_drop 1 (Decimal.ofNat n), ← hfirst]
    rfl
  · have hlength := congrArg List.length hfirst
    rw [List.length_take] at hlength
    exact (Decimal.length_ofNat_le_iff Nat.one_pos).1 (by omega)

/-- The value of a number with all its digits after the point, and zeros before them. -/
theorem mul_zpow_eq_fractionValue (n : ℕ) {point : ℤ} (hpoint : point ≤ 0) :
    (n : ℚ) * 10 ^ (point - (Decimal.ofNat n).length) =
      fractionValue (List.replicate (-point).toNat '0' ++ Decimal.ofNat n) := by
  rw [fractionValue_eq, Radix.ofDigits_append, Radix.ofDigits_replicate_zero, Nat.zero_mul,
    Nat.zero_add, ofDigits_ofNat, List.length_append, List.length_replicate]
  congr 2
  push_cast
  omega

/-- The value of a number with zeros between its digits and the point. -/
theorem mul_zpow_eq_whole {n : ℕ} {point : ℤ} (hpoint : 0 ≤ point)
    (hlength : (Decimal.ofNat n).length ≤ point.toNat) :
    (n : ℚ) * 10 ^ (point - (Decimal.ofNat n).length) =
      (n * 10 ^ (point.toNat - (Decimal.ofNat n).length) : ℕ) := by
  rw [Nat.cast_mul, Nat.cast_pow, ← zpow_natCast]
  congr 2
  omega

/-- The value of a number before whose last digits there is a point. -/
theorem mul_zpow_eq_take_add_drop {n p : ℕ} (hp : p ≤ (Decimal.ofNat n).length) {point : ℤ}
    (hpoint : point = p) :
    (n : ℚ) * 10 ^ (point - (Decimal.ofNat n).length) =
      Radix.ofDigits 10 ((Decimal.ofNat n).take p) + fractionValue ((Decimal.ofNat n).drop p) := by
  rw [← ofDigits_append_mul_zpow, List.take_append_drop, ofDigits_ofNat, List.length_drop]
  congr 2
  omega

section Layout

variable {n : ℕ} (hn : 0 < n) (hten : ¬10 ∣ n)
include hn hten

theorem isNumeral_positional {point : ℤ} (h : -4 < point) (h' : point ≤ 16) :
    IsNumeral (positional (Decimal.ofNat n) point) (n * 10 ^ (point - (Decimal.ofNat n).length)) := by
  obtain ⟨hlow, hhigh⟩ := bounds_mul_zpow hn point
  have hsmall : (10 : ℚ) ^ (-4 : ℤ) ≤ n * 10 ^ (point - (Decimal.ofNat n).length) :=
    (zpow_le_zpow_right₀ (by norm_num) (by omega)).trans hlow
  have hlarge : (n : ℚ) * 10 ^ (point - (Decimal.ofNat n).length) < 10 ^ 16 := by
    refine hhigh.trans_le ?_
    rw [← zpow_natCast]
    exact zpow_le_zpow_right₀ (by norm_num) h'
  unfold positional
  split
  · next hpoint =>
    have hvalue : (n : ℚ) * 10 ^ (point - (Decimal.ofNat n).length) = (0 : ℕ) +
        fractionValue (List.replicate (-point).toNat '0' ++ Decimal.ofNat n) := by
      rw [mul_zpow_eq_fractionValue n hpoint, Nat.cast_zero, zero_add]
    rw [hvalue] at hsmall ⊢
    exact .fractional (isFraction_replicate_append hten _) (by decide) hsmall
  split
  · next hpoint hlength =>
    rw [mul_zpow_eq_whole (not_le.1 hpoint).le hlength] at hlarge ⊢
    rw [← ofNat_mul_ten_pow hn]
    exact .whole (by exact_mod_cast hlarge)
  · next hpoint hlength =>
    have hvalue := mul_zpow_eq_take_add_drop (n := n) (not_le.1 hlength).le
      (by omega : point = point.toNat)
    rw [hvalue] at hsmall hlarge ⊢
    have hwhole := (le_add_of_nonneg_right (fractionValue_nonneg _)).trans_lt hlarge
    have hnumeral := IsNumeral.fractional (isFraction_drop hten (not_le.1 hlength))
      (by exact_mod_cast hwhole) hsmall
    rwa [ofNat_ofDigits_take hn (by omega)] at hnumeral

theorem isNumeral_exponential {e : ℤ} (h : e < -4 ∨ 16 ≤ e) :
    IsNumeral (exponential (Decimal.ofNat n) e)
      (n * 10 ^ (e + 1 - (Decimal.ofNat n).length)) := by
  have hlength := Decimal.length_ofNat_pos n
  have hexponent := isExponent_exponentPart e
  have hfirst := ofNat_ofDigits_take hn Nat.one_pos
  have hvalue : (n : ℚ) * 10 ^ (e + 1 - (Decimal.ofNat n).length) =
      (Radix.ofDigits 10 ((Decimal.ofNat n).take 1) +
        fractionValue ((Decimal.ofNat n).drop 1)) * 10 ^ e := by
    rw [← mul_zpow_eq_take_add_drop hlength (Nat.cast_one (R := ℤ)).symm, mul_assoc,
      ← zpow_add₀ (by norm_num)]
    congr 2
    omega
  obtain ⟨hpos, hlt⟩ := ofDigits_take_one hn
  rw [hvalue]
  unfold exponential
  split
  · next hdrop =>
    have hnumeral := IsNumeral.power hpos hlt hexponent h
    rw [hfirst] at hnumeral
    rw [hdrop]
    simpa [fractionValue, Radix.ofDigits, Radix.ofValues] using hnumeral
  · next hdrop =>
    have hmore : 1 < (Decimal.ofNat n).length := by
      rw [← not_le, ← List.drop_eq_nil_iff]
      exact hdrop
    have hnumeral := IsNumeral.scientific hpos hlt (isFraction_drop hten hmore) hexponent h
    rwa [hfirst] at hnumeral

/-- **A layout is a numeral** of the number that the digits around the point stand for. -/
theorem isNumeral_layout (point : ℤ) :
    IsNumeral (layout (Decimal.ofNat n) point) (n * 10 ^ (point - (Decimal.ofNat n).length)) := by
  unfold layout
  split
  · next h => exact isNumeral_positional hn hten h.1 h.2
  · next h =>
    have hnumeral := isNumeral_exponential hn hten (e := point - 1) (by omega)
    rwa [sub_add_cancel] at hnumeral

end Layout

end SwiftText.Literal
