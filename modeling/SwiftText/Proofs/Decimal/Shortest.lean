import SwiftText.Proofs.Decimal.Rounding
import SwiftText.Proofs.Radix

/-!
# The shortest decimal that is read as a double

The grids `10 ^ t` are searched from the coarsest one on, which is that of the power of ten at or
below the value. On the grid where the first point is found it is the nearest one, and a decimal
with fewer digits would have been a point of the grid before.

* `IsShortest`: the decimal with which a double is written. It is read as the double, with the fewest
  digits; of the decimals with as many digits none is nearer, and if one of the same grid is as near,
  the decimal is the even one.
* `exists_isFound`: seventeen digits are enough to find a decimal in the interval of a double.
* `IsFound.lt_length`: decimals in the interval have at least as many digits as the one that is found.
* `IsFound.distance_le`: those with as many digits are no nearer.
* `Double.IsSignificand.isShortest`: so what is found is the shortest decimal of a double, when the
  zeros at its end are dropped.
-/

namespace SwiftText.Decimal

/-- The number of digits of a decimal. -/
def Scientific.length (d : Scientific) : ℕ := (ofNat d.coefficient).length

/-- The decimal with which the double of size `m · 2 ^ q` is written. -/
structure IsShortest (d : Scientific) (m : ℕ) (q : ℤ) : Prop where
  readsAs : ReadsAs d.toRat m q
  fewest (d' : Scientific) (h : ReadsAs d'.toRat m q) : d.length ≤ d'.length
  nearest (d' : Scientific) (h : ReadsAs d'.toRat m q) (hlength : d'.length = d.length) :
    |d.toRat - m * 2 ^ q| ≤ |d'.toRat - m * 2 ^ q|
  even (n : ℕ) (h : ReadsAs (n * 10 ^ d.exponent) m q)
    (heq : |d.toRat - m * 2 ^ q| = |(n : ℚ) * 10 ^ d.exponent - m * 2 ^ q|) :
    n = d.coefficient ∨ Even d.coefficient

/-- Zero is written with one digit. -/
theorem isShortest_zero (q : ℤ) : IsShortest ⟨0, 0⟩ 0 q where
  readsAs := by
    rw [Scientific.toRat, Nat.cast_zero, zero_mul]
    exact readsAs_zero q
  fewest d' _ := length_ofNat_pos d'.coefficient
  nearest d' _ _ := by
    simp only [Scientific.toRat, Nat.cast_zero, zero_mul, sub_self, abs_zero]
    exact abs_nonneg _
  even _ _ _ := Or.inr Even.zero

theorem toRat_lt (d : Scientific) : d.toRat < 10 ^ (d.length + d.exponent) := by
  have hlt : (d.coefficient : ℚ) < 10 ^ d.length := by
    exact_mod_cast lt_ten_pow_length d.coefficient
  rw [zpow_add₀ (by norm_num), zpow_natCast]
  exact (mul_lt_mul_iff_left₀ (by positivity)).2 hlt

theorem mul_ten_le_mul_ten_pow_succ (c z : ℕ) : c * 10 ≤ c * 10 ^ (z + 1) := by
  rw [Nat.pow_succ]
  exact Nat.mul_le_mul_left c (Nat.le_mul_of_pos_left 10 (Nat.pow_pos (by decide)))

/-- Zeros at the end of a coefficient are a matter of the exponent. -/
theorem toRat_zeros (c z : ℕ) (t : ℤ) :
    Scientific.toRat ⟨c, t + z⟩ = (c * 10 ^ z : ℕ) * 10 ^ t := by
  rw [Scientific.toRat, zpow_add₀ (by norm_num), zpow_natCast]
  push_cast
  ring

namespace Interval

variable {i : Interval} {t : ℤ} {n k : ℕ}

/-! ## The search -/

theorem findSome?_range_eq_some {α : Type} {f : ℕ → Option α} {n : ℕ} {a : α}
    (h : (List.range n).findSome? f = some a) :
    ∃ k < n, f k = some a ∧ ∀ j < k, f j = none := by
  induction n with
  | zero => cases h
  | succ n ih =>
    rw [List.range_succ, List.findSome?_append] at h
    cases hn : (List.range n).findSome? f with
    | some b =>
      rw [hn, Option.some_or] at h
      obtain ⟨k, hk, hfound, hfirst⟩ := ih (hn.trans h)
      exact ⟨k, Nat.lt_succ_of_lt hk, hfound, hfirst⟩
    | none =>
      rw [hn, Option.none_or, List.findSome?_singleton] at h
      have hnone := List.findSome?_eq_none_iff.1 hn
      exact ⟨n, Nat.lt_succ_self n, h, fun j hj => hnone j (List.mem_range.2 hj)⟩

/-- The point `n` is found on the grid of `k + 1` digits, and nothing on the grids before. -/
structure IsFound (i : Interval) (k n : ℕ) : Prop where
  found : i.nearest? (i.magnitude - k) = some n
  first : ∀ j < k, i.nearest? (i.magnitude - j) = none

/-- A grid that is finer than the interval is wide has a point in it. -/
theorem nearest?_ne_none (h : i.IsAround)
    (hwide : (10 : ℚ) ^ t < (i.upper - i.lower) * 2 ^ i.exponent) : i.nearest? t ≠ none := by
  intro hnone
  have hfloor := i.floor_le t
  have hceil := i.lt_floor_add_one t
  have hsize := h.contains_size
  have hbelow := not_contains_of_nearest? h hnone (i.floor t)
  have habove := not_contains_of_nearest? h hnone (i.floor t + 1)
  push_cast at hceil habove
  unfold Contains at hsize hbelow habove
  split at hsize
  · next hc =>
    rw [if_pos hc, not_and_or, not_le, not_le] at hbelow habove
    rcases hbelow with hbelow | hbelow <;> rcases habove with habove | habove <;> linarith
  · next hc =>
    rw [if_neg hc, not_and_or, not_lt, not_lt] at hbelow habove
    rcases hbelow with hbelow | hbelow <;> rcases habove with habove | habove <;> linarith

/-- **The search finds a decimal** if the interval is wider than the finest grid that is searched. -/
theorem exists_isFound (h : i.IsAround)
    (hwide : (10 : ℚ) ^ (i.magnitude - 16) < (i.upper - i.lower) * 2 ^ i.exponent) :
    ∃ k, i.IsFound k i.shortest.coefficient ∧ i.shortest.exponent = i.magnitude - k := by
  have hlast : i.nearest? (i.magnitude - (16 : ℕ)) ≠ none := nearest?_ne_none h hwide
  cases hfound : (List.range maxDigits).findSome? fun (k : ℕ) =>
      (i.nearest? (i.magnitude - k)).map fun n => (⟨n, i.magnitude - k⟩ : Scientific) with
  | none =>
    have hnone := List.findSome?_eq_none_iff.1 hfound 16 (by decide)
    exact absurd (Option.map_eq_none_iff.1 hnone) hlast
  | some d =>
    have hshortest : i.shortest = d := by
      unfold shortest
      simp only [hfound, Option.getD_some]
    obtain ⟨k, -, hk, hfirst⟩ := findSome?_range_eq_some hfound
    obtain ⟨n, hn, rfl⟩ := Option.map_eq_some_iff.1 hk
    rw [hshortest]
    exact ⟨k, ⟨hn, fun j hj => Option.map_eq_none_iff.1 (hfirst j hj)⟩, rfl⟩

/-! ## Decimals with few digits -/

/-- A decimal of at most `k + 1` digits in the interval is a point of the grid of `k + 1` digits, or
is farther from the value than the power of ten below the value, which is a point of all grids. -/
theorem exists_point_of_length_le (h : i.IsAround) {d : Scientific} (hd : i.Contains d.toRat)
    (hlength : d.length ≤ k + 1) :
    ∃ l : ℕ, i.Contains (l * 10 ^ (i.magnitude - k)) ∧
      i.distance (l * 10 ^ (i.magnitude - k)) ≤ i.distance d.toRat := by
  rcases le_or_gt (i.magnitude - k) d.exponent with hle | hgt
  · obtain ⟨l, hl⟩ := exists_eq_mul_zpow (b := 10) (by decide) hle d.coefficient
    push_cast at hl
    rw [Scientific.toRat, hl] at hd ⊢
    exact ⟨l, hd, le_rfl⟩
  · obtain ⟨hpower, -⟩ := magnitude_spec (h.pos.trans h.lower_lt)
    have hlt : d.toRat < 10 ^ i.magnitude :=
      (toRat_lt d).trans_le (zpow_le_zpow_right₀ (by norm_num) (by omega))
    obtain ⟨l, hl⟩ := exists_eq_mul_zpow (b := 10) (by decide)
      (by omega : i.magnitude - k ≤ i.magnitude) 1
    push_cast at hl
    rw [one_mul] at hl
    refine ⟨l, ?_⟩
    rw [← hl]
    refine ⟨hd.between h.contains_size hlt.le hpower, ?_⟩
    rw [distance, distance, abs_of_nonpos (by linarith), abs_of_neg (by linarith)]
    linarith

namespace IsFound

variable (h : i.IsAround) (hf : i.IsFound k n)
include h hf

/-- **The decimals in the interval have more digits** than the grids where nothing was found. -/
theorem lt_length {d : Scientific} (hd : i.Contains d.toRat) : k < d.length := by
  by_contra hle
  have hpos := length_ofNat_pos d.coefficient
  obtain ⟨j, rfl⟩ : ∃ j, k = j + 1 := ⟨k - 1, by unfold Scientific.length at hle; omega⟩
  obtain ⟨l, hl, -⟩ := exists_point_of_length_le h hd (k := j) (not_lt.1 hle)
  exact not_contains_of_nearest? h (hf.first j (Nat.lt_succ_self j)) l hl

/-- **The decimals in the interval that have as many digits are no nearer.** -/
theorem distance_le {d : Scientific} (hd : i.Contains d.toRat) (hlength : d.length ≤ k + 1) :
    i.distance (n * 10 ^ (i.magnitude - k)) ≤ i.distance d.toRat := by
  obtain ⟨l, hl, hle⟩ := exists_point_of_length_le h hd hlength
  refine le_trans ?_ hle
  rcases prefers_of_nearest? h hf.found hl with rfl | hlt | ⟨heq, -⟩
  · exact le_rfl
  · exact hlt.le
  · exact heq.le

/-- What is found has `k + 1` digits, or is the power of ten above the value. -/
theorem coefficient_bounds : 10 ^ k ≤ n ∧ n ≤ 10 ^ (k + 1) := by
  have hgrid : (0 : ℚ) < 10 ^ (i.magnitude - k) := by positivity
  obtain ⟨hlow, hhigh⟩ := magnitude_spec (h.pos.trans h.lower_lt)
  have hten : ∀ l : ℕ, ((10 ^ l : ℕ) : ℚ) * 10 ^ (i.magnitude - k) = 10 ^ (i.magnitude - k + l) := by
    intro l
    rw [zpow_add₀ (by norm_num), zpow_natCast, mul_comm]
    push_cast
    rfl
  have hfloor : 10 ^ k ≤ i.floor (i.magnitude - k) := by
    rw [← Nat.lt_add_one_iff, ← Nat.cast_lt (α := ℚ), ← mul_lt_mul_iff_left₀ hgrid, hten k,
      sub_add_cancel]
    exact hlow.trans_lt (i.lt_floor_add_one _)
  have hceil : i.floor (i.magnitude - k) < 10 ^ (k + 1) := by
    rw [← Nat.cast_lt (α := ℚ), ← mul_lt_mul_iff_left₀ hgrid, hten (k + 1)]
    refine (i.floor_le _).trans_lt (hhigh.trans_le (le_of_eq ?_))
    congr 1
    push_cast
    ring
  rcases eq_floor_or_of_nearest? hf.found with rfl | rfl <;> omega

end IsFound

section Zeros

variable {c z : ℕ} (h : i.IsAround) (hf : i.IsFound k (c * 10 ^ z)) (hc : ¬10 ∣ c)
include h hf hc

/-- Without the zeros at its end, what is found has at most `k + 1` digits. -/
theorem IsFound.coefficient_lt : c < 10 ^ (k + 1) := by
  obtain ⟨-, hle⟩ := hf.coefficient_bounds h
  have hten : 0 < 10 ^ k := Nat.pow_pos (by decide)
  rw [Nat.pow_succ] at hle ⊢
  cases z with
  | zero =>
    have hne : c ≠ 10 ^ k * 10 := fun heq => hc (heq ▸ Nat.dvd_mul_left _ _)
    omega
  | succ z =>
    have hzeros := mul_ten_le_mul_ten_pow_succ c z
    omega

/-- There are zeros to drop only if the power of ten above the value is found on the first grid. -/
theorem IsFound.eq_one_of_zeros (hz : 0 < z) : c = 1 ∧ z = 1 ∧ k = 0 := by
  obtain ⟨z, rfl⟩ : ∃ z', z = z' + 1 := ⟨z - 1, by omega⟩
  obtain ⟨hle, hle'⟩ := hf.coefficient_bounds h
  have hzeros := mul_ten_le_mul_ten_pow_succ c z
  have hlength : k < (ofNat c).length := by
    refine hf.lt_length h (d := ⟨c, i.magnitude - k + (z + 1 : ℕ)⟩) ?_
    rw [toRat_zeros]
    exact contains_of_nearest? hf.found
  rcases Nat.eq_zero_or_pos k with rfl | hk
  · have hone : c = 1 := by
      have hpos : 0 < c := Nat.pos_of_ne_zero fun hzero => by simp [hzero] at hle
      omega
    subst hone
    refine ⟨rfl, ?_, rfl⟩
    rw [Nat.one_mul] at hle'
    exact Nat.le_antisymm ((Nat.pow_le_pow_iff_right (by decide)).1 hle') hz
  · -- as many digits as the power of ten, and zeros besides, are too many
    have hpower : 10 ^ k ≤ c := by
      rw [← Nat.not_lt, ← length_ofNat_le_iff hk]
      omega
    rw [pow_succ 10 k] at hle'
    have heq : c = 10 ^ k := by omega
    exact absurd (heq ▸ dvd_pow_self 10 hk.ne') hc

/-- **What is found is preferred to its neighbours**, also without the zeros at its end. -/
theorem IsFound.prefers {l : ℕ} (hl : i.Contains (l * 10 ^ (i.magnitude - k + z))) :
    l = c ∨ i.Prefers (i.magnitude - k + z) c l := by
  rcases Nat.eq_zero_or_pos z with rfl | hz
  · have hfound := hf.found
    rw [Nat.pow_zero, Nat.mul_one] at hfound
    rw [Nat.cast_zero, add_zero] at hl ⊢
    exact prefers_of_nearest? h hfound hl
  · obtain ⟨rfl, rfl, rfl⟩ := hf.eq_one_of_zeros h hc hz
    have hpos := h.pos_of_contains hl
    obtain ⟨-, hhigh⟩ := magnitude_spec (h.pos.trans h.lower_lt)
    rw [Nat.cast_zero, sub_zero, Nat.cast_one] at hpos ⊢
    have hgrid : (0 : ℚ) < 10 ^ (i.magnitude + 1) := by positivity
    have hlpos : 0 < l := by exact_mod_cast (mul_pos_iff_of_pos_right hgrid).1 hpos
    refine (Nat.eq_or_lt_of_le hlpos).imp Eq.symm fun hlt => Or.inl ?_
    have htwo : (1 : ℕ) * (10 : ℚ) ^ (i.magnitude + 1) < l * 10 ^ (i.magnitude + 1) :=
      (mul_lt_mul_iff_left₀ hgrid).2 (by exact_mod_cast hlt)
    rw [Nat.cast_one, one_mul] at htwo ⊢
    rw [distance, distance, abs_of_pos (by linarith), abs_of_pos (by linarith)]
    linarith

end Zeros

end Interval

/-! ## Doubles -/

section Doubles

variable {m : ℕ} {q : ℤ} {edge : Bool} (h : Double.IsSignificand m q edge) (hm : 0 < m)
include h hm

/-- Seventeen digits are enough for every double. -/
theorem Double.IsSignificand.wide_interval :
    (10 : ℚ) ^ ((interval m q edge).magnitude - 16) <
      (((interval m q edge).upper : ℚ) - (interval m q edge).lower) *
        2 ^ (interval m q edge).exponent := by
  have haround := isAround_interval hm q edge
  obtain ⟨hpower, -⟩ := Interval.magnitude_spec (haround.pos.trans haround.lower_lt)
  rw [size_interval] at hpower
  have hpos : (0 : ℚ) < 2 ^ q := by positivity
  have hm53 : (m : ℚ) < 2 ^ 53 := by exact_mod_cast h.lt
  rw [sub_mul, upper_interval, lower_interval hm, zpow_sub₀ (by norm_num)]
  cases edge with
  | true =>
    obtain ⟨rfl, -⟩ := h.edge_iff.1 rfl
    rw [Double.gapBelow_true]
    norm_num at hpower ⊢
    linarith
  | false =>
    have hlt : (m : ℚ) * 2 ^ q < 2 ^ 53 * 2 ^ q := (mul_lt_mul_iff_left₀ hpos).2 hm53
    rw [Double.gapBelow_false]
    norm_num at hpower hlt ⊢
    linarith

/-- **What is found is the shortest decimal of a double**, when the zeros at its end are dropped. -/
theorem Double.IsSignificand.isShortest {k c z : ℕ}
    (hf : (interval m q edge).IsFound k (c * 10 ^ z)) (hc : ¬10 ∣ c) :
    IsShortest ⟨c, (interval m q edge).magnitude - k + z⟩ m q := by
  have haround := isAround_interval hm q edge
  have hlength : Scientific.length ⟨c, (interval m q edge).magnitude - k + z⟩ ≤ k + 1 :=
    (length_ofNat_le_iff (Nat.succ_pos k)).2 (hf.coefficient_lt haround hc)
  refine ⟨?_, fun d hd => ?_, fun d hd heq => ?_, fun l hl heq => ?_⟩
  · rw [h.readsAs_iff hm, toRat_zeros]
    exact Interval.contains_of_nearest? hf.found
  · exact hlength.trans (hf.lt_length haround ((h.readsAs_iff hm).1 hd))
  · rw [toRat_zeros, ← size_interval m q edge]
    exact hf.distance_le haround ((h.readsAs_iff hm).1 hd) (heq.trans_le hlength)
  · rw [← size_interval m q edge] at heq
    rcases hf.prefers haround hc ((h.readsAs_iff hm).1 hl) with rfl | hlt | ⟨-, heven⟩
    · exact Or.inl rfl
    · exact absurd heq hlt.ne
    · exact Or.inr heven

end Doubles

end SwiftText.Decimal
