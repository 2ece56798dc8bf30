import Mathlib.Data.List.Chain
import SwiftText.Unicode.CaseMap
import SwiftText.Unicode.Word

/-!
# What lies on the runs of a table

A search that stops early finds a code point on every run of a table that is in order, so the
question whether a table covers a code point does not depend on the search.

* `find?_isSome_iff`: in a table in order, a code point is found exactly if it lies on some run.
* `liesOn`: the same question by a sweep over the whole table, which needs no order.
* `isWord_eq_liesOn`: for the word characters both are the same.
-/

namespace SwiftText.Unicode

namespace Run

/-- The runs of a table start in order. -/
def InOrder {α : Type} (run : α → Run) (table : List α) : Prop :=
  table.Pairwise fun x y => (run x).first ≤ (run y).first

variable {α : Type} {run : α → Run} {table : List α} {n : Nat}

theorem first_le_of_contains {r : Run} (h : r.contains n = true) : r.first ≤ n := by
  simp only [contains, Bool.and_eq_true, decide_eq_true_eq] at h
  exact h.1.1

theorem le_last_of_contains {r : Run} (h : r.contains n = true) : n ≤ r.last := by
  simp only [contains, Bool.and_eq_true, decide_eq_true_eq] at h
  exact h.1.2

theorem contains_of_step_one {r : Run} (hstep : r.step = 1) (h₁ : r.first ≤ n) (h₂ : n ≤ r.last) :
    r.contains n = true := by
  simp [contains, hstep, h₁, h₂, Nat.mod_one]

/-- **In a table in order, the search finds every code point that lies on a run.** -/
theorem find?_isSome_iff (h : InOrder run table) :
    (find? run table n).isSome = true ↔ ∃ x ∈ table, (run x).contains n = true := by
  induction table with
  | nil => simp [find?]
  | cons y rest ih =>
    obtain ⟨hy, hrest⟩ := List.pairwise_cons.1 h
    rw [find?]
    split
    · next hlt =>
      -- All later runs start even later, so none of them holds the code point.
      constructor
      · intro hnone
        cases hnone
      · rintro ⟨x, hx, hn⟩
        have hle := first_le_of_contains hn
        rcases List.mem_cons.1 hx with rfl | hx
        · omega
        · have := hy x hx
          omega
    · split
      · next hn => exact iff_of_true rfl ⟨y, List.mem_cons_self, hn⟩
      · next hn => rw [ih hrest]; simp [hn]

/-! ## The points of a run -/

/-- The code points of a run, one by one. -/
def points (r : Run) : List Nat := List.range' r.first ((r.last - r.first) / r.step + 1) r.step

theorem mem_points_of_contains {r : Run} (h : r.contains n = true) : n ∈ r.points := by
  have hle := first_le_of_contains h
  have hlast := le_last_of_contains h
  simp only [contains, Bool.and_eq_true, beq_iff_eq] at h
  have hn : r.step * ((n - r.first) / r.step) = n - r.first :=
    Nat.mul_div_cancel' (Nat.dvd_of_mod_eq_zero h.2)
  refine List.mem_range'.2 ⟨(n - r.first) / r.step, ?_, by omega⟩
  exact Nat.lt_succ_of_le (Nat.div_le_div_right (by omega))

end Run

/-! ## A sweep over a table -/

/-- Whether a code point lies on some run of a table, asked run by run. -/
def liesOn (table : List Run) (n : Nat) : Bool :=
  table.any fun r => Nat.ble r.first n && (Nat.ble n r.last && r.contains n)

theorem liesOn_iff {table : List Run} {n : Nat} :
    liesOn table n = true ↔ ∃ r ∈ table, r.contains n = true := by
  simp only [liesOn, List.any_eq_true, Bool.and_eq_true, Nat.ble_eq]
  constructor
  · rintro ⟨r, hr, -, -, hn⟩
    exact ⟨r, hr, hn⟩
  · rintro ⟨r, hr, hn⟩
    exact ⟨r, hr, Run.first_le_of_contains hn, Run.le_last_of_contains hn, hn⟩

theorem covers_eq_liesOn {table : List Run} (h : Run.InOrder id table) (c : Char) :
    covers table c = liesOn table c.toNat := by
  rw [Bool.eq_iff_iff, covers, Run.find?_isSome_iff h, liesOn_iff]
  rfl

/-! ## Word characters -/

/-- The runs of the word characters are in order, and no surrogate lies on one. -/
theorem wordRuns_table : (wordRuns.IsChain fun x y => x.first ≤ y.first) ∧
    ∀ r ∈ wordRuns, r.last < 0xD800 ∨ 0xDFFF < r.first ∧ r.last < 0x110000 := by
  decide +kernel

theorem inOrder_wordRuns : Run.InOrder id wordRuns := by
  have trans : Trans (fun x y : Run => x.first ≤ y.first) (fun x y : Run => x.first ≤ y.first)
      (fun x y : Run => x.first ≤ y.first) := ⟨Nat.le_trans⟩
  exact wordRuns_table.1.pairwise

theorem isValidChar_of_liesOn {n : Nat} (h : liesOn wordRuns n = true) : n.isValidChar := by
  obtain ⟨r, hr, hn⟩ := liesOn_iff.1 h
  have hfirst := Run.first_le_of_contains hn
  have hlast := Run.le_last_of_contains hn
  rcases wordRuns_table.2 r hr with h | h
  · exact Or.inl (by omega)
  · exact Or.inr (by omega)

theorem isWord_eq_liesOn (c : Char) : isWord c = liesOn wordRuns c.toNat :=
  covers_eq_liesOn inOrder_wordRuns c

theorem toNat_ofNat {n : Nat} (h : n.isValidChar) : (Char.ofNat n).toNat = n := by
  rw [Char.ofNat, dif_pos h]
  rfl

theorem isWord_ofNat {n : Nat} (h : liesOn wordRuns n = true) : isWord (Char.ofNat n) = true := by
  rw [isWord_eq_liesOn, toNat_ofNat (isValidChar_of_liesOn h)]
  exact h

theorem toNat_bounds_of_isAlpha {c : Char} (h : c.isAlpha = true) :
    0x41 ≤ c.toNat ∧ c.toNat ≤ 0x5A ∨ 0x61 ≤ c.toNat ∧ c.toNat ≤ 0x7A := by
  delta Char.isAlpha Char.isUpper Char.isLower at h
  simpa [UInt32.le_iff_toNat_le] using h

theorem isWord_of_isAlpha {c : Char} (h : c.isAlpha = true) : isWord c = true := by
  have capital : ⟨0x41, 0x5A, 1⟩ ∈ wordRuns := List.mem_of_getElem? (i := 1) rfl
  have small : ⟨0x61, 0x7A, 1⟩ ∈ wordRuns := List.mem_of_getElem? (i := 3) rfl
  rw [isWord_eq_liesOn, liesOn_iff]
  rcases toNat_bounds_of_isAlpha h with ⟨hlow, hhigh⟩ | ⟨hlow, hhigh⟩
  · exact ⟨_, capital, Run.contains_of_step_one rfl hlow hhigh⟩
  · exact ⟨_, small, Run.contains_of_step_one rfl hlow hhigh⟩

end SwiftText.Unicode
