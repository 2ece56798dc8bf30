import Mathlib.Algebra.Order.Field.Power
import Mathlib.Tactic.Linarith
import Mathlib.Tactic.NormNum
import Mathlib.Tactic.Positivity
import Mathlib.Tactic.Ring
import Mathlib.Tactic.SplitIfs
import SwiftText.Decimal.Shortest

/-!
# Decimals in an interval

The search for the shortest decimal of an interval compares natural numbers. Here is what the
comparisons say about rational numbers.

* `Scientific.toRat`, `Interval.size`: the numbers that decimals and intervals are about.
* `Interval.Contains`: the numbers in an interval, and `contains_iff`: the decimals in it.
* `floor_le`, `lt_floor_add_one`: the two points of a grid around the value.
* `not_contains_of_nearest?`, `prefers_of_nearest?`: if there is a point of a grid in the interval, one
  is found, and it is preferred to all others: it is nearer to the value, or as near and even.
* `magnitude_spec`: the power of ten at or below the value.
-/

namespace SwiftText.Decimal

/-- The number that a decimal stands for. -/
def Scientific.toRat (d : Scientific) : ℚ := d.coefficient * 10 ^ d.exponent

/-! ## Scales -/

theorem zpow_mul_pow_toNat_neg {a : ℚ} (ha : a ≠ 0) (t : ℤ) :
    a ^ t * a ^ (-t).toNat = a ^ t.toNat := by
  rw [← zpow_natCast, ← zpow_natCast, ← zpow_add₀ ha]
  congr 1
  omega

/-- The points of a grid are points of every finer one. -/
theorem exists_eq_mul_zpow {b : ℕ} (hb : b ≠ 0) {t e : ℤ} (h : t ≤ e) (n : ℕ) :
    ∃ k : ℕ, (n : ℚ) * (b : ℚ) ^ e = k * (b : ℚ) ^ t := by
  obtain ⟨l, rfl⟩ := Int.le.dest h
  refine ⟨n * b ^ l, ?_⟩
  rw [zpow_add₀ (by exact_mod_cast hb), zpow_natCast]
  push_cast
  ring

/-- The factors are what a grid and a scale come to when both are enlarged by the same. -/
theorem exists_factors_eq (t q : ℤ) :
    ∃ s : ℚ, 0 < s ∧ ((factors t q).1 : ℚ) = 10 ^ t * s ∧ ((factors t q).2 : ℚ) = 2 ^ q * s := by
  refine ⟨10 ^ (-t).toNat * 2 ^ (-q).toNat, by positivity, ?_, ?_⟩
  · simp only [factors, Nat.pow_eq, Nat.cast_mul, Nat.cast_pow, Nat.cast_ofNat]
    rw [← mul_assoc, zpow_mul_pow_toNat_neg (by norm_num)]
  · simp only [factors, Nat.pow_eq, Nat.cast_mul, Nat.cast_pow, Nat.cast_ofNat]
    rw [mul_left_comm, zpow_mul_pow_toNat_neg two_ne_zero]

section Factors

variable {t q : ℤ} {n k : ℕ}

theorem mul_factors_le_iff :
    n * (factors t q).1 ≤ k * (factors t q).2 ↔ (n : ℚ) * 10 ^ t ≤ k * 2 ^ q := by
  obtain ⟨s, hs, ha, hb⟩ := exists_factors_eq t q
  rw [← Nat.cast_le (α := ℚ), Nat.cast_mul, Nat.cast_mul, ha, hb, ← mul_assoc, ← mul_assoc,
    mul_le_mul_iff_left₀ hs]

theorem le_mul_factors_iff :
    k * (factors t q).2 ≤ n * (factors t q).1 ↔ (k : ℚ) * 2 ^ q ≤ n * 10 ^ t := by
  obtain ⟨s, hs, ha, hb⟩ := exists_factors_eq t q
  rw [← Nat.cast_le (α := ℚ), Nat.cast_mul, Nat.cast_mul, ha, hb, ← mul_assoc, ← mul_assoc,
    mul_le_mul_iff_left₀ hs]

theorem mul_factors_lt_iff :
    n * (factors t q).1 < k * (factors t q).2 ↔ (n : ℚ) * 10 ^ t < k * 2 ^ q := by
  rw [← not_le, le_mul_factors_iff, not_le]

theorem lt_mul_factors_iff :
    k * (factors t q).2 < n * (factors t q).1 ↔ (k : ℚ) * 2 ^ q < n * 10 ^ t := by
  rw [← not_le, mul_factors_le_iff, not_le]

end Factors

/-! ## Numbers of digits -/

theorem length_ofNat_le_iff {n k : ℕ} (hk : 0 < k) : (ofNat n).length ≤ k ↔ n < 10 ^ k :=
  Nat.length_toDigits_le_iff (by decide) hk

theorem length_ofNat_pos (n : ℕ) : 0 < (ofNat n).length :=
  List.length_pos_of_ne_nil Nat.toDigits_ne_nil

theorem lt_ten_pow_length (n : ℕ) : n < 10 ^ (ofNat n).length :=
  (length_ofNat_le_iff (length_ofNat_pos n)).1 le_rfl

theorem ten_pow_length_le {n : ℕ} (hn : 0 < n) : 10 ^ ((ofNat n).length - 1) ≤ n := by
  rcases Nat.eq_or_lt_of_le (length_ofNat_pos n) with h | h
  · rw [← h]
    exact hn
  · by_contra hlt
    have := (length_ofNat_le_iff (n := n) (k := (ofNat n).length - 1) (by omega)).2
      (Nat.lt_of_not_le hlt)
    omega

/-- The quotient of two numbers lies between the powers of ten that their lengths tell. -/
theorem zpow_length_sub_length {n d : ℕ} (hn : 0 < n) (hd : 0 < d) {r : ℚ} (hr : n = r * d) :
    (10 : ℚ) ^ (((ofNat n).length : ℤ) - (ofNat d).length - 1) ≤ r ∧
      r < 10 ^ (((ofNat n).length : ℤ) - (ofNat d).length + 1) := by
  have hdpos : (0 : ℚ) < d := by exact_mod_cast hd
  have hnlow : (10 : ℚ) ^ ((ofNat n).length - 1) ≤ n := by exact_mod_cast ten_pow_length_le hn
  have hnhigh : (n : ℚ) < 10 ^ (ofNat n).length := by exact_mod_cast lt_ten_pow_length n
  have hdlow : (10 : ℚ) ^ ((ofNat d).length - 1) ≤ d := by exact_mod_cast ten_pow_length_le hd
  have hdhigh : (d : ℚ) < 10 ^ (ofNat d).length := by exact_mod_cast lt_ten_pow_length d
  have hnlength := length_ofNat_pos n
  have hdlength := length_ofNat_pos d
  constructor
  · refine le_of_mul_le_mul_right ?_ hdpos
    calc (10 : ℚ) ^ (((ofNat n).length : ℤ) - (ofNat d).length - 1) * d
        ≤ 10 ^ (((ofNat n).length : ℤ) - (ofNat d).length - 1) * 10 ^ (ofNat d).length := by
          gcongr
      _ = 10 ^ ((ofNat n).length - 1) := by
          rw [← zpow_natCast, ← zpow_natCast, ← zpow_add₀ (by norm_num)]
          congr 1
          omega
      _ ≤ r * d := hr ▸ hnlow
  · refine lt_of_mul_lt_mul_right ?_ hdpos.le
    calc r * d < 10 ^ (ofNat n).length := hr ▸ hnhigh
      _ = 10 ^ (((ofNat n).length : ℤ) - (ofNat d).length + 1) * 10 ^ ((ofNat d).length - 1) := by
          rw [← zpow_natCast, ← zpow_natCast, ← zpow_add₀ (by norm_num)]
          congr 1
          omega
      _ ≤ 10 ^ (((ofNat n).length : ℤ) - (ofNat d).length + 1) * d := by gcongr

namespace Interval

/-! ## The numbers in an interval -/

/-- The value in an interval. -/
def size (i : Interval) : ℚ := i.value * 2 ^ i.exponent

/-- Whether a number is in an interval. -/
def Contains (i : Interval) (r : ℚ) : Prop :=
  if i.closed then i.lower * 2 ^ i.exponent ≤ r ∧ r ≤ i.upper * 2 ^ i.exponent
  else i.lower * 2 ^ i.exponent < r ∧ r < i.upper * 2 ^ i.exponent

/-- An interval around its value, of positive numbers. -/
structure IsAround (i : Interval) : Prop where
  pos : 0 < i.lower
  lower_lt : i.lower < i.value
  lt_upper : i.value < i.upper

variable {i : Interval} {t : ℤ} {n k : ℕ} {r r' x : ℚ}

theorem contains_iff : i.contains t n = true ↔ i.Contains (n * 10 ^ t) := by
  cases hc : i.closed with
  | true => simp [contains, Contains, hc, le_mul_factors_iff, mul_factors_le_iff]
  | false => simp [contains, Contains, hc, lt_mul_factors_iff, mul_factors_lt_iff]

/-- An interval has no gaps. -/
theorem Contains.between (h : i.Contains r) (h' : i.Contains r') (hle : r ≤ x) (hle' : x ≤ r') :
    i.Contains x := by
  unfold Contains at h h' ⊢
  split
  · next hc =>
    rw [if_pos hc] at h h'
    exact ⟨h.1.trans hle, hle'.trans h'.2⟩
  · next hc =>
    rw [if_neg hc] at h h'
    exact ⟨h.1.trans_le hle, hle'.trans_lt h'.2⟩

namespace IsAround

variable (h : i.IsAround)
include h

theorem contains_size : i.Contains i.size := by
  have hpos : (0 : ℚ) < 2 ^ i.exponent := by positivity
  have hlower : (i.lower : ℚ) * 2 ^ i.exponent < i.size :=
    (mul_lt_mul_iff_left₀ hpos).2 (by exact_mod_cast h.lower_lt)
  have hupper : i.size < (i.upper : ℚ) * 2 ^ i.exponent :=
    (mul_lt_mul_iff_left₀ hpos).2 (by exact_mod_cast h.lt_upper)
  unfold Contains
  split
  · exact ⟨hlower.le, hupper.le⟩
  · exact ⟨hlower, hupper⟩

theorem pos_of_contains (hr : i.Contains r) : 0 < r := by
  have hlower : (0 : ℚ) < i.lower * 2 ^ i.exponent :=
    mul_pos (by exact_mod_cast h.pos) (by positivity)
  unfold Contains at hr
  split at hr
  · exact hlower.trans_le hr.1
  · exact hlower.trans hr.1

end IsAround

/-! ## The points of a grid around the value -/

theorem factors_fst_pos (t q : ℤ) : 0 < (factors t q).1 :=
  Nat.mul_pos (Nat.pow_pos (by decide)) (Nat.pow_pos (by decide))

theorem floor_le (i : Interval) (t : ℤ) : i.floor t * 10 ^ t ≤ i.size :=
  mul_factors_le_iff.1 (Nat.div_mul_le_self _ _)

theorem lt_floor_add_one (i : Interval) (t : ℤ) : i.size < (i.floor t + 1 : ℕ) * 10 ^ t := by
  refine lt_mul_factors_iff.1 ?_
  rw [Nat.add_one_mul]
  exact Nat.lt_div_mul_add (factors_fst_pos t i.exponent)

/-- The distance of a number from the value. -/
def distance (i : Interval) (r : ℚ) : ℚ := |r - i.size|

/-- Whether a point of a grid is to be preferred to another one: it is nearer to the value, or it is as
near and even. -/
def Prefers (i : Interval) (t : ℤ) (n k : ℕ) : Prop :=
  i.distance (n * 10 ^ t) < i.distance (k * 10 ^ t) ∨
    i.distance (n * 10 ^ t) = i.distance (k * 10 ^ t) ∧ Even n

theorem distance_floor (i : Interval) (t : ℤ) :
    i.distance (i.floor t * 10 ^ t) = i.size - i.floor t * 10 ^ t := by
  rw [distance, abs_sub_comm]
  exact abs_of_nonneg (sub_nonneg.2 (i.floor_le t))

theorem distance_floor_add_one (i : Interval) (t : ℤ) :
    i.distance ((i.floor t + 1 : ℕ) * 10 ^ t) = (i.floor t + 1 : ℕ) * 10 ^ t - i.size :=
  abs_of_pos (sub_pos.2 (i.lt_floor_add_one t))

/-- Of the points of a grid up to the value the last one is the nearest. -/
theorem distance_floor_lt (hk : k < i.floor t) :
    i.distance (i.floor t * 10 ^ t) < i.distance (k * 10 ^ t) := by
  have hgrid : (0 : ℚ) < 10 ^ t := by positivity
  have hfloor := i.floor_le t
  have hlt : (k : ℚ) * 10 ^ t < i.floor t * 10 ^ t :=
    (mul_lt_mul_iff_left₀ hgrid).2 (by exact_mod_cast hk)
  rw [distance_floor, distance, abs_of_neg (by linarith)]
  linarith

/-- Of the points of a grid above the value the first one is the nearest. -/
theorem distance_floor_add_one_lt (hk : i.floor t + 1 < k) :
    i.distance ((i.floor t + 1 : ℕ) * 10 ^ t) < i.distance (k * 10 ^ t) := by
  have hgrid : (0 : ℚ) < 10 ^ t := by positivity
  have hfloor := i.lt_floor_add_one t
  have hlt : ((i.floor t + 1 : ℕ) : ℚ) * 10 ^ t < k * 10 ^ t :=
    (mul_lt_mul_iff_left₀ hgrid).2 (by exact_mod_cast hk)
  rw [distance_floor_add_one, distance, abs_of_pos (by linarith)]
  linarith

/-! ## The nearest point of a grid -/

/-- The distances of the value from the two points around it, below and above. -/
theorem down_lt_up_iff (i : Interval) (t : ℤ) :
    i.value * (factors t i.exponent).2 - i.floor t * (factors t i.exponent).1 <
        (i.floor t + 1) * (factors t i.exponent).1 - i.value * (factors t i.exponent).2 ↔
      i.distance (i.floor t * 10 ^ t) < i.distance ((i.floor t + 1 : ℕ) * 10 ^ t) := by
  have hle := mul_factors_le_iff.2 (i.floor_le t)
  have hlt := lt_mul_factors_iff.2 (i.lt_floor_add_one t)
  -- twice the value is less than the two points together
  have htwice : i.value * (factors t i.exponent).2 - i.floor t * (factors t i.exponent).1 <
        (i.floor t + 1) * (factors t i.exponent).1 - i.value * (factors t i.exponent).2 ↔
      2 * i.value * (factors t i.exponent).2 <
        (i.floor t + (i.floor t + 1)) * (factors t i.exponent).1 := by
    rw [Nat.mul_assoc, Nat.add_mul (i.floor t) (i.floor t + 1)]
    omega
  rw [htwice, lt_mul_factors_iff, distance_floor, distance_floor_add_one, size]
  push_cast
  constructor <;> intro h <;> linarith

theorem up_lt_down_iff (i : Interval) (t : ℤ) :
    (i.floor t + 1) * (factors t i.exponent).1 - i.value * (factors t i.exponent).2 <
        i.value * (factors t i.exponent).2 - i.floor t * (factors t i.exponent).1 ↔
      i.distance ((i.floor t + 1 : ℕ) * 10 ^ t) < i.distance (i.floor t * 10 ^ t) := by
  have hle := mul_factors_le_iff.2 (i.floor_le t)
  have hlt := lt_mul_factors_iff.2 (i.lt_floor_add_one t)
  have htwice : (i.floor t + 1) * (factors t i.exponent).1 - i.value * (factors t i.exponent).2 <
        i.value * (factors t i.exponent).2 - i.floor t * (factors t i.exponent).1 ↔
      (i.floor t + (i.floor t + 1)) * (factors t i.exponent).1 <
        2 * i.value * (factors t i.exponent).2 := by
    rw [Nat.mul_assoc, Nat.add_mul (i.floor t) (i.floor t + 1)]
    omega
  rw [htwice, mul_factors_lt_iff, distance_floor, distance_floor_add_one, size]
  push_cast
  constructor <;> intro h <;> linarith

/-- **What the search on a grid comes to**: nothing, if neither of the two points around the value is
in the interval, or the one of them that is, or the one that is to be preferred. -/
theorem nearest?_cases (i : Interval) (t : ℤ) :
    (i.nearest? t = none ∧ ¬i.Contains (i.floor t * 10 ^ t) ∧
      ¬i.Contains ((i.floor t + 1 : ℕ) * 10 ^ t)) ∨
    (i.nearest? t = some (i.floor t) ∧ i.Contains (i.floor t * 10 ^ t) ∧
      (i.Contains ((i.floor t + 1 : ℕ) * 10 ^ t) → i.Prefers t (i.floor t) (i.floor t + 1))) ∨
    (i.nearest? t = some (i.floor t + 1) ∧ i.Contains ((i.floor t + 1 : ℕ) * 10 ^ t) ∧
      (i.Contains (i.floor t * 10 ^ t) → i.Prefers t (i.floor t + 1) (i.floor t))) := by
  rw [← contains_iff, ← contains_iff]
  cases hbelow : i.contains t (i.floor t) with
  | false =>
    cases habove : i.contains t (i.floor t + 1) with
    | false => exact Or.inl (by simp [nearest?, hbelow, habove])
    | true => exact Or.inr (Or.inr (by simp [nearest?, hbelow, habove]))
  | true =>
    cases habove : i.contains t (i.floor t + 1) with
    | false => exact Or.inr (Or.inl (by simp [nearest?, hbelow, habove]))
    | true =>
      by_cases hdown : i.distance (i.floor t * 10 ^ t) < i.distance ((i.floor t + 1 : ℕ) * 10 ^ t)
      · refine Or.inr (Or.inl ⟨?_, rfl, fun _ => Or.inl hdown⟩)
        rw [← down_lt_up_iff] at hdown
        simp only [nearest?, hbelow, habove, if_pos hdown]
      by_cases hup : i.distance ((i.floor t + 1 : ℕ) * 10 ^ t) < i.distance (i.floor t * 10 ^ t)
      · refine Or.inr (Or.inr ⟨?_, rfl, fun _ => Or.inl hup⟩)
        rw [← down_lt_up_iff] at hdown
        rw [← up_lt_down_iff] at hup
        simp only [nearest?, hbelow, habove, if_neg hdown, if_pos hup]
      have hequal := le_antisymm (not_lt.1 hup) (not_lt.1 hdown)
      have hnearest : i.nearest? t =
          some (if i.floor t % 2 == 0 then i.floor t else i.floor t + 1) := by
        rw [← down_lt_up_iff] at hdown
        rw [← up_lt_down_iff] at hup
        simp only [nearest?, hbelow, habove, if_neg hdown, if_neg hup]
      rw [hnearest]
      rcases Nat.even_or_odd (i.floor t) with heven | hodd
      · refine Or.inr (Or.inl ⟨?_, rfl, fun _ => Or.inr ⟨hequal, heven⟩⟩)
        rw [Nat.even_iff.1 heven]
        rfl
      · refine Or.inr (Or.inr ⟨?_, rfl, fun _ => Or.inr ⟨hequal.symm, hodd.add_one⟩⟩)
        rw [Nat.odd_iff.1 hodd]
        rfl

theorem Prefers.of_lt {l : ℕ} (h : i.Prefers t n k)
    (hlt : i.distance (k * 10 ^ t) < i.distance (l * 10 ^ t)) : i.Prefers t n l := by
  rcases h with h | h
  · exact Or.inl (h.trans hlt)
  · exact Or.inl (h.1 ▸ hlt)

theorem eq_floor_or_of_nearest? (hn : i.nearest? t = some n) :
    n = i.floor t ∨ n = i.floor t + 1 := by
  rcases i.nearest?_cases t with ⟨heq, -⟩ | ⟨heq, -⟩ | ⟨heq, -⟩
  · rw [heq] at hn
    cases hn
  · exact Or.inl (Option.some.inj (hn.symm.trans heq))
  · exact Or.inr (Option.some.inj (hn.symm.trans heq))

theorem contains_of_nearest? (hn : i.nearest? t = some n) : i.Contains (n * 10 ^ t) := by
  rcases i.nearest?_cases t with ⟨heq, -⟩ | ⟨heq, hmem, -⟩ | ⟨heq, hmem, -⟩
  · rw [heq] at hn
    cases hn
  · obtain rfl := Option.some.inj (heq.symm.trans hn)
    exact hmem
  · obtain rfl := Option.some.inj (heq.symm.trans hn)
    exact hmem

section Around

variable (h : i.IsAround)
include h

/-- If a point of a grid up to the value is in the interval, so is the last one. -/
theorem contains_floor (hk : i.Contains (k * 10 ^ t)) (hle : k ≤ i.floor t) :
    i.Contains (i.floor t * 10 ^ t) := by
  have hgrid : (0 : ℚ) < 10 ^ t := by positivity
  exact hk.between h.contains_size
    ((mul_le_mul_iff_left₀ hgrid).2 (by exact_mod_cast hle)) (i.floor_le t)

/-- If a point of a grid above the value is in the interval, so is the first one. -/
theorem contains_floor_add_one (hk : i.Contains (k * 10 ^ t)) (hlt : i.floor t < k) :
    i.Contains ((i.floor t + 1 : ℕ) * 10 ^ t) := by
  have hgrid : (0 : ℚ) < 10 ^ t := by positivity
  exact h.contains_size.between hk (i.lt_floor_add_one t).le
    ((mul_le_mul_iff_left₀ hgrid).2 (by exact_mod_cast hlt))

/-- **Nothing is found only where there is nothing**: no point of the grid is in the interval. -/
theorem not_contains_of_nearest? (hn : i.nearest? t = none) (k : ℕ) :
    ¬i.Contains (k * 10 ^ t) := by
  intro hk
  rcases i.nearest?_cases t with ⟨-, hbelow, habove⟩ | ⟨heq, -⟩ | ⟨heq, -⟩
  · rcases le_or_gt k (i.floor t) with hle | hlt
    · exact hbelow (contains_floor h hk hle)
    · exact habove (contains_floor_add_one h hk hlt)
  · rw [heq] at hn
    cases hn
  · rw [heq] at hn
    cases hn

/-- **The point that is found is preferred** to all others of the grid in the interval. -/
theorem prefers_of_nearest? (hn : i.nearest? t = some n) (hk : i.Contains (k * 10 ^ t)) :
    k = n ∨ i.Prefers t n k := by
  rcases i.nearest?_cases t with ⟨heq, -⟩ | ⟨heq, -, hother⟩ | ⟨heq, -, hother⟩
  · rw [heq] at hn
    cases hn
  · obtain rfl := Option.some.inj (heq.symm.trans hn)
    rcases le_or_gt k (i.floor t) with hle | hlt
    · exact (Nat.eq_or_lt_of_le hle).imp_right fun hlt => Or.inl (distance_floor_lt hlt)
    · have hprefers := hother (contains_floor_add_one h hk hlt)
      rcases Nat.eq_or_lt_of_le hlt with rfl | hlt
      · exact Or.inr hprefers
      · exact Or.inr (hprefers.of_lt (distance_floor_add_one_lt hlt))
  · obtain rfl := Option.some.inj (heq.symm.trans hn)
    rcases le_or_gt k (i.floor t) with hle | hlt
    · have hprefers := hother (contains_floor h hk hle)
      rcases Nat.eq_or_lt_of_le hle with rfl | hlt
      · exact Or.inr hprefers
      · exact Or.inr (hprefers.of_lt (distance_floor_lt hlt))
    · exact (Nat.eq_or_lt_of_le hlt).imp Eq.symm fun hlt =>
        Or.inl (distance_floor_add_one_lt hlt)

end Around

/-! ## The power of ten at or below the value -/

theorem magnitude_spec (h : 0 < i.value) :
    (10 : ℚ) ^ i.magnitude ≤ i.size ∧ i.size < 10 ^ (i.magnitude + 1) := by
  obtain ⟨s, hs, hden, hnum⟩ := exists_factors_eq 0 i.exponent
  rw [zpow_zero, one_mul] at hden
  have hsize : ((i.value * (factors 0 i.exponent).2 : ℕ) : ℚ) =
      i.size * (factors 0 i.exponent).1 := by
    rw [Nat.cast_mul, hnum, hden, size, mul_assoc]
  have hdenpos := factors_fst_pos 0 i.exponent
  have hnumpos : 0 < i.value * (factors 0 i.exponent).2 :=
    Nat.mul_pos h (Nat.mul_pos (Nat.pow_pos (by decide)) (Nat.pow_pos (by decide)))
  have hlength := zpow_length_sub_length hnumpos hdenpos hsize
  unfold magnitude
  simp only
  generalize i.value * (factors 0 i.exponent).2 = n at hsize hlength
  generalize (factors 0 i.exponent).1 = d at hsize hlength hdenpos
  generalize ((ofNat n).length : ℤ) - (ofNat d).length = guess at hlength
  have hdpos : (0 : ℚ) < d := by exact_mod_cast hdenpos
  have htest : d * Nat.pow 10 guess.toNat ≤ n * Nat.pow 10 (-guess).toNat ↔
      (10 : ℚ) ^ guess ≤ i.size := by
    rw [← Nat.cast_le (α := ℚ), Nat.pow_eq, Nat.pow_eq]
    push_cast
    rw [← zpow_mul_pow_toNat_neg (by norm_num), hsize, ← mul_assoc,
      mul_le_mul_iff_left₀ (by positivity), mul_comm, mul_le_mul_iff_left₀ hdpos]
  split
  · next hle => exact ⟨htest.1 hle, hlength.2⟩
  · next hlt =>
    rw [htest, not_le] at hlt
    exact ⟨hlength.1, by rwa [sub_add_cancel]⟩

end Interval

end SwiftText.Decimal
