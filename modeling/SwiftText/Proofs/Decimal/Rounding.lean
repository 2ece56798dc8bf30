import Mathlib.Algebra.Order.Field.Power
import Mathlib.Tactic.Linarith
import Mathlib.Tactic.NormNum
import Mathlib.Tactic.Positivity
import Mathlib.Tactic.Ring
import SwiftText.Decimal.Double
import SwiftText.Proofs.Decimal.Interval

/-!
# Rounding to doubles

A decimal numeral stands for a rational number, and is read as the double that is nearest to it. Of
two that are equally near it is read as the one with the even significand.

* `IsSize`: the numbers among which the nearest one is sought, which are those of 53 significant bits
  that are no finer than `2 ^ -1074`. Their exponents have no upper bound: what comes to more than the
  largest double is read as infinite, not as the largest double.
* `ReadsAs`: a number is read as `significand · 2 ^ exponent`.
* `Double.IsSignificand`: the significands and exponents of finite doubles.
* `readsAs_iff`: the numbers that are read as a double are those of its interval, which goes halfway
  to its neighbours.
-/

namespace SwiftText.Decimal

/-- The numbers to which other numbers are rounded: the sizes of the finite doubles, and larger ones
without bound. -/
def IsSize (s : ℚ) : Prop := ∃ (m : ℕ) (q : ℤ), m < 2 ^ 53 ∧ -1074 ≤ q ∧ s = m * 2 ^ q

/-- Whether a number is read as `m · 2 ^ q`: no other size is nearer to it, and if another one is as
near, then `m` is even. -/
def ReadsAs (r : ℚ) (m : ℕ) (q : ℤ) : Prop :=
  ∀ s, IsSize s → s ≠ m * 2 ^ q →
    |r - m * 2 ^ q| < |r - s| ∨ |r - m * 2 ^ q| = |r - s| ∧ Even m

/-- The significands and exponents that finite doubles are given by, and whether they are at the
edge. -/
structure Double.IsSignificand (m : ℕ) (q : ℤ) (edge : Bool) : Prop where
  lt : m < 2 ^ 53
  le : -1074 ≤ q
  normal : q ≠ -1074 → 2 ^ 52 ≤ m
  edge_iff : edge = true ↔ m = 2 ^ 52 ∧ q ≠ -1074

theorem Double.isSignificand_of_classify {x : Double} {negative : Bool} {m : ℕ} {q : ℤ} {edge : Bool}
    (h : x.classify = .finite negative m q edge) : Double.IsSignificand m q edge := by
  have hfraction : x.bits.toNat % 2 ^ 52 < 2 ^ 52 := Nat.mod_lt _ (by decide)
  simp only [Double.classify, Nat.pow_eq] at h
  generalize x.bits.toNat % 2 ^ 52 = fraction at h hfraction
  generalize x.bits.toNat / 2 ^ 52 % 2 ^ 11 = field at h
  split at h
  · split at h <;> cases h
  split at h
  · -- the field of the smallest doubles is zero
    cases h
    exact ⟨by omega, le_refl _, fun h => absurd rfl h, by simp⟩
  · next hfield =>
    cases h
    have hpos : field ≠ 0 := by simpa using hfield
    refine ⟨by omega, by omega, fun _ => by omega, ?_⟩
    simp
    omega

/-! ## Nearness -/

theorem sq_sub_sub_sq (r v s : ℚ) :
    (r - v) ^ 2 - (r - s) ^ 2 = (s - v) * (2 * r - (v + s)) := by ring

theorem abs_sub_lt_iff_of_lt {r v s : ℚ} (h : v < s) : |r - v| < |r - s| ↔ r < (v + s) / 2 := by
  have hpos : 0 < s - v := sub_pos.2 h
  rw [← sq_lt_sq, ← sub_neg, sq_sub_sub_sq, mul_neg_iff, or_iff_left fun hr => hpos.not_gt hr.1,
    and_iff_right hpos]
  constructor <;> intro hr <;> linarith

theorem abs_sub_lt_iff_of_gt {r v s : ℚ} (h : s < v) : |r - v| < |r - s| ↔ (v + s) / 2 < r := by
  have hneg : s - v < 0 := sub_neg.2 h
  rw [← sq_lt_sq, ← sub_neg, sq_sub_sub_sq, mul_neg_iff, or_iff_right fun hr => hneg.not_gt hr.1,
    and_iff_right hneg]
  constructor <;> intro hr <;> linarith

theorem abs_sub_eq_iff {r v s : ℚ} (h : v ≠ s) : |r - v| = |r - s| ↔ r = (v + s) / 2 := by
  rw [← sq_eq_sq_iff_abs_eq_abs, ← sub_eq_zero, sq_sub_sub_sq, mul_eq_zero,
    or_iff_right (sub_ne_zero.2 h.symm)]
  constructor <;> intro hr <;> linarith

/-! ## Neighbours -/

/-- The distance from a double to the next smaller one. -/
def Double.gapBelow (q : ℤ) (edge : Bool) : ℚ := if edge then 2 ^ (q - 1) else 2 ^ q

theorem two_zpow_pred (q : ℤ) : (2 : ℚ) ^ (q - 1) = 2 ^ q / 2 := zpow_sub_one₀ two_ne_zero q

theorem Double.gapBelow_true (q : ℤ) : gapBelow q true = 2 ^ q / 2 := two_zpow_pred q

theorem Double.gapBelow_false (q : ℤ) : gapBelow q false = 2 ^ q := rfl

theorem Double.gapBelow_pos (q : ℤ) (edge : Bool) : 0 < gapBelow q edge := by
  unfold gapBelow
  split <;> positivity

theorem Double.gapBelow_le (q : ℤ) (edge : Bool) : gapBelow q edge ≤ 2 ^ q := by
  have hpos : (0 : ℚ) < 2 ^ q := by positivity
  cases edge with
  | true => rw [gapBelow_true]; linarith
  | false => rw [gapBelow_false]

/-- A finer grid has only smaller sizes than those of 53 bits. -/
theorem two_zpow_le_of_lt {q q' : ℤ} (h : q' < q) : (2 : ℚ) ^ q' ≤ 2 ^ q / 2 := by
  rw [← two_zpow_pred]
  exact zpow_le_zpow_right₀ one_le_two (by omega)

namespace Double.IsSignificand

variable {m : ℕ} {q : ℤ} {edge : Bool} (h : IsSignificand m q edge)
include h

theorem isSize_above : IsSize (m * 2 ^ q + 2 ^ q) := by
  by_cases hm : m + 1 < 2 ^ 53
  · exact ⟨m + 1, q, hm, h.le, by push_cast; ring⟩
  · have heq : m = 2 ^ 53 - 1 := by have := h.lt; omega
    refine ⟨2 ^ 52, q + 1, by decide, by have := h.le; omega, ?_⟩
    rw [heq, zpow_add_one₀ two_ne_zero]
    norm_num
    ring

theorem isSize_below (hm : 0 < m) : IsSize (m * 2 ^ q - gapBelow q edge) := by
  cases edge with
  | true =>
    obtain ⟨rfl, hq⟩ := h.edge_iff.1 rfl
    refine ⟨2 ^ 53 - 1, q - 1, by decide, by have := h.le; omega, ?_⟩
    rw [gapBelow_true, two_zpow_pred]
    norm_num
    ring
  | false =>
    obtain ⟨n, rfl⟩ : ∃ n, m = n + 1 := ⟨m - 1, by omega⟩
    refine ⟨n, q, by have := h.lt; omega, h.le, ?_⟩
    rw [gapBelow_false]
    push_cast
    ring

/-- There is no size between a double and the next larger one. -/
theorem add_le_of_lt {s : ℚ} (hs : IsSize s) (hlt : m * 2 ^ q < s) : m * 2 ^ q + 2 ^ q ≤ s := by
  obtain ⟨m', q', hm', hq', rfl⟩ := hs
  have hpos : (0 : ℚ) < 2 ^ q := by positivity
  rcases le_or_gt q q' with hle | hgt
  · obtain ⟨k, hk⟩ := exists_eq_mul_zpow two_ne_zero hle m'
    push_cast at hk
    rw [hk, mul_lt_mul_iff_left₀ hpos, Nat.cast_lt] at hlt
    have hcast : (m : ℚ) + 1 ≤ k := by exact_mod_cast hlt
    rw [hk]
    nlinarith
  · -- a size on a finer grid is smaller
    have hm : (2 : ℚ) ^ 52 ≤ m := by exact_mod_cast h.normal (by omega)
    have hm53 : (m' : ℚ) ≤ 2 ^ 53 := by exact_mod_cast hm'.le
    have hsize : (m' : ℚ) * 2 ^ q' ≤ 2 ^ 53 * (2 ^ q / 2) :=
      mul_le_mul hm53 (two_zpow_le_of_lt hgt) (by positivity) (by positivity)
    nlinarith

/-- There is no size between a double and the next smaller one. -/
theorem le_sub_of_lt {s : ℚ} (hs : IsSize s) (hlt : s < m * 2 ^ q) :
    s ≤ m * 2 ^ q - gapBelow q edge := by
  obtain ⟨m', q', hm', hq', rfl⟩ := hs
  have hpos : (0 : ℚ) < 2 ^ q := by positivity
  rcases le_or_gt q q' with hle | hgt
  · obtain ⟨k, hk⟩ := exists_eq_mul_zpow two_ne_zero hle m'
    push_cast at hk
    rw [hk, mul_lt_mul_iff_left₀ hpos, Nat.cast_lt] at hlt
    have hcast : (k : ℚ) + 1 ≤ m := by exact_mod_cast hlt
    have hgap := gapBelow_le q edge
    rw [hk]
    nlinarith
  · have hm : 2 ^ 52 ≤ m := h.normal (by omega)
    have hm53 : (m' : ℚ) ≤ 2 ^ 53 - 1 := by
      have hle : m' + 1 ≤ 2 ^ 53 := hm'
      have hcast : (m' : ℚ) + 1 ≤ 2 ^ 53 := by exact_mod_cast hle
      linarith
    have hsize : (m' : ℚ) * 2 ^ q' ≤ (2 ^ 53 - 1) * (2 ^ q / 2) :=
      mul_le_mul hm53 (two_zpow_le_of_lt hgt) (by positivity) (by norm_num)
    cases edge with
    | true =>
      have hmq : (2 : ℚ) ^ 52 ≤ m := by exact_mod_cast hm
      rw [gapBelow_true]
      nlinarith
    | false =>
      have hne : m ≠ 2 ^ 52 := fun heq =>
        absurd (h.edge_iff.2 ⟨heq, by omega⟩) (by simp)
      have hmq : (2 : ℚ) ^ 52 + 1 ≤ m := by
        have hsucc : 2 ^ 52 + 1 ≤ m := by omega
        exact_mod_cast hsucc
      rw [gapBelow_false]
      nlinarith

end Double.IsSignificand

/-! ## The interval of a double -/

/-- The size in the interval of a double. -/
theorem size_interval (m : ℕ) (q : ℤ) (edge : Bool) : (interval m q edge).size = m * 2 ^ q := by
  rw [Interval.size, interval, zpow_sub₀ two_ne_zero]
  push_cast
  ring

theorem isAround_interval {m : ℕ} (hm : 0 < m) (q : ℤ) (edge : Bool) :
    (interval m q edge).IsAround := by
  cases edge with
  | true => exact ⟨by simp [interval]; omega, by simp [interval]; omega, by simp [interval]⟩
  | false => exact ⟨by simp [interval]; omega, by simp [interval]; omega, by simp [interval]⟩

/-- The ends of the interval of a double are halfway to its neighbours. -/
theorem lower_interval {m : ℕ} (hm : 0 < m) (q : ℤ) (edge : Bool) :
    ((interval m q edge).lower : ℚ) * 2 ^ (interval m q edge).exponent =
      m * 2 ^ q - Double.gapBelow q edge / 2 := by
  have hscale : (2 : ℚ) ^ (q - 2) = 2 ^ q / 4 := by
    rw [zpow_sub₀ two_ne_zero]
    norm_num
  cases edge with
  | true =>
    simp only [interval, Double.gapBelow_true, if_true, hscale]
    rw [Nat.cast_sub (by omega)]
    push_cast
    ring
  | false =>
    simp only [interval, Double.gapBelow_false, Bool.false_eq_true, if_false, hscale]
    rw [Nat.cast_sub (by omega)]
    push_cast
    ring

theorem upper_interval (m : ℕ) (q : ℤ) (edge : Bool) :
    ((interval m q edge).upper : ℚ) * 2 ^ (interval m q edge).exponent = m * 2 ^ q + 2 ^ q / 2 := by
  rw [interval, zpow_sub₀ two_ne_zero]
  push_cast
  ring

theorem contains_interval_iff {m : ℕ} (hm : 0 < m) {q : ℤ} {edge : Bool} {r : ℚ} :
    (interval m q edge).Contains r ↔
      (m * 2 ^ q - Double.gapBelow q edge / 2 < r ∨
        r = m * 2 ^ q - Double.gapBelow q edge / 2 ∧ Even m) ∧
      (r < m * 2 ^ q + 2 ^ q / 2 ∨ r = m * 2 ^ q + 2 ^ q / 2 ∧ Even m) := by
  rw [Interval.Contains, lower_interval hm, upper_interval]
  rcases Nat.even_or_odd m with heven | hodd
  · rw [if_pos (by simp [interval, Nat.even_iff.1 heven])]
    simp only [heven, and_true, le_iff_lt_or_eq, @eq_comm _ r]
  · rw [if_neg (by simp [interval, Nat.odd_iff.1 hodd])]
    simp only [Nat.not_even_iff_odd.2 hodd, and_false, or_false]

/-- **A number is read as a double exactly if it is in the interval of the double**, which goes halfway
to both neighbours; its ends are in it if the significand is even. -/
theorem Double.IsSignificand.readsAs_iff {m : ℕ} {q : ℤ} {edge : Bool} (h : IsSignificand m q edge)
    (hm : 0 < m) {r : ℚ} : ReadsAs r m q ↔ (interval m q edge).Contains r := by
  have hgap := gapBelow_pos q edge
  have hunit : (0 : ℚ) < 2 ^ q := by positivity
  rw [contains_interval_iff hm]
  constructor
  · intro hr
    -- the two neighbours are no nearer
    have hbelow := hr _ (h.isSize_below hm) (by linarith)
    have habove := hr _ h.isSize_above (by linarith)
    rw [abs_sub_lt_iff_of_gt (by linarith), abs_sub_eq_iff (by linarith)] at hbelow
    rw [abs_sub_lt_iff_of_lt (by linarith), abs_sub_eq_iff (by linarith)] at habove
    constructor
    · rcases hbelow with hlt | ⟨heq, heven⟩
      · exact Or.inl (by linarith)
      · exact Or.inr ⟨by linarith, heven⟩
    · rcases habove with hlt | ⟨heq, heven⟩
      · exact Or.inl (by linarith)
      · exact Or.inr ⟨by linarith, heven⟩
  · rintro ⟨hlower, hupper⟩ s hs hne
    rcases lt_or_gt_of_ne hne with hlt | hgt
    · have hle := h.le_sub_of_lt hs hlt
      rw [abs_sub_lt_iff_of_gt hlt, abs_sub_eq_iff hne.symm]
      rcases hlower with hr | ⟨hr, heven⟩
      · exact Or.inl (by linarith)
      · rcases hle.lt_or_eq with hsmaller | hnext
        · exact Or.inl (by linarith)
        · exact Or.inr ⟨by linarith, heven⟩
    · have hle := h.add_le_of_lt hs hgt
      rw [abs_sub_lt_iff_of_lt hgt, abs_sub_eq_iff hne.symm]
      rcases hupper with hr | ⟨hr, heven⟩
      · exact Or.inl (by linarith)
      · rcases hle.lt_or_eq with hlarger | hnext
        · exact Or.inl (by linarith)
        · exact Or.inr ⟨by linarith, heven⟩

theorem readsAs_zero (q : ℤ) : ReadsAs 0 0 q := by
  intro s _ hne
  simp only [Nat.cast_zero, zero_mul, sub_self, abs_zero, zero_sub, abs_neg, abs_pos] at hne ⊢
  exact Or.inl hne

end SwiftText.Decimal
