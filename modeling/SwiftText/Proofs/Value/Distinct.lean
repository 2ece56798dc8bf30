import Mathlib.Data.Fin.Tuple.Basic
import Mathlib.Data.List.FinRange
import Mathlib.Data.List.Sort
import SwiftText.Proofs.Value.Equality

/-!
# The first of each class of equal values

Leaving out of a list what equals an earlier item leaves one item of each class of equal ones, the
first, and these stay in order. Here this is said by positions, since equal values need not be the
same: which of them stays is seen only from where it stands.

* `Value.Representatives`: positions of the first items of all classes, in order.
* `Value.firsts`, `Value.distinct_eq_map_firsts`: the positions of the items that stay.
* `Value.representatives_firsts`, `Value.Representatives.eq_firsts`: these positions stand for the
  classes, and no others do.
* `Value.same_iff_of_isKey`: the classes of values that can be looked up.
-/

namespace SwiftText.Value

variable {vs : List Value} {v w : Value}

/-! ## Positions that stand for classes -/

/-- Positions that stand for the classes of equal items of a list, in the order in which the classes
come up in it. -/
structure Representatives (vs : List Value) (is : List (Fin vs.length)) : Prop where
  increasing : is.Pairwise (· < ·)
  /-- Each is the position of the first item of its class. -/
  first : ∀ i ∈ is, ∀ j, vs[j].same vs[i] = true → i ≤ j
  /-- Each class has exactly one. -/
  existsUnique : ∀ k : Fin vs.length, ∃! i, i ∈ is ∧ vs[i].same vs[k] = true

/-- Whether the item at a position equals none before it. -/
def isFirst (vs : List Value) (i : Fin vs.length) : Bool :=
  decide (∀ j < i, vs[j].same vs[i] = false)

/-- The positions of the items that equal none before them, from left to right. -/
def firsts (vs : List Value) : List (Fin vs.length) := (List.finRange vs.length).filter (isFirst vs)

theorem isFirst_iff {i : Fin vs.length} :
    isFirst vs i = true ↔ ∀ j < i, vs[j].same vs[i] = false := decide_eq_true_iff

theorem mem_firsts_iff {i : Fin vs.length} : i ∈ firsts vs ↔ ∀ j < i, vs[j].same vs[i] = false := by
  rw [firsts, List.mem_filter, isFirst_iff]
  exact and_iff_right (List.mem_finRange i)

theorem le_of_mem_firsts {i j : Fin vs.length} (hi : i ∈ firsts vs)
    (h : vs[j].same vs[i] = true) : i ≤ j := by
  by_contra hj
  rw [mem_firsts_iff.1 hi j (not_le.1 hj)] at h
  cases h

section Classes

variable (hvs : ∀ v ∈ vs, v.WellFormed)

include hvs

theorem wellFormed_getElem (i : Fin vs.length) : vs[i].WellFormed := hvs _ (List.getElem_mem _)

/-- Every item has an equal one at one of the positions: the first that equals it. -/
theorem exists_mem_firsts (k : Fin vs.length) : ∃ i ∈ firsts vs, vs[i].same vs[k] = true := by
  have hk : ∃ i : Fin vs.length, vs[i].same vs[k] = true :=
    ⟨k, same_refl (wellFormed_getElem hvs k)⟩
  refine ⟨Fin.find _ hk, mem_firsts_iff.2 fun j hj => ?_, Fin.find_spec hk⟩
  -- an item that equals the first one would be an earlier one that equals item `k`
  refine Bool.eq_false_iff.2 fun hsame => Fin.find_min hk hj ?_
  exact same_trans (wellFormed_getElem hvs j) hsame (Fin.find_spec hk)

/-- **The first items stand for the classes.** -/
theorem representatives_firsts : Representatives vs (firsts vs) where
  increasing := (List.pairwise_lt_finRange _).filter _
  first i hi j h := le_of_mem_firsts hi h
  existsUnique k := by
    obtain ⟨i, hi, hik⟩ := exists_mem_firsts hvs k
    refine ⟨i, ⟨hi, hik⟩, fun j ⟨hj, hjk⟩ => ?_⟩
    have hwf := wellFormed_getElem hvs
    have hij : vs[i].same vs[j] = true :=
      same_trans (hwf i) hik (same_symm (hwf j) (hwf k) hjk)
    exact le_antisymm (le_of_mem_firsts hj hij)
      (le_of_mem_firsts hi (same_symm (hwf i) (hwf j) hij))

/-- No other positions stand for the classes. -/
theorem Representatives.eq_firsts {is : List (Fin vs.length)} (h : Representatives vs is) :
    is = firsts vs := by
  have hother := representatives_firsts hvs
  refine h.increasing.eq_of_mem_iff hother.increasing fun i => ⟨fun hi => ?_, fun hi => ?_⟩
  · refine mem_firsts_iff.2 fun j hj => Bool.eq_false_iff.2 fun hsame => ?_
    exact absurd (h.first i hi j hsame) (not_le.2 hj)
  · -- the one that stands for the class of item `i` is that item, as both come first
    obtain ⟨j, ⟨hj, hji⟩, -⟩ := h.existsUnique i
    have hij := same_symm (wellFormed_getElem hvs j) (wellFormed_getElem hvs i) hji
    rwa [le_antisymm (le_of_mem_firsts hi hji) (h.first j hj i hij)]

end Classes

/-! ## What stays of a list -/

theorem isFirst_cons_zero (v : Value) (vs : List Value) :
    isFirst (v :: vs) (0 : Fin (vs.length + 1)) = true :=
  isFirst_iff.2 fun j hj => absurd hj (Fin.not_lt_zero j)

theorem isFirst_cons_succ (v : Value) (vs : List Value) (i : Fin vs.length) :
    isFirst (v :: vs) i.succ = (!v.same vs[i] && isFirst vs i) := by
  rw [Bool.eq_iff_iff, isFirst_iff, Bool.and_eq_true, isFirst_iff]
  refine Fin.forall_fin_succ.trans ?_
  simp

/-- The first item stays, and of the others those that stay without it and do not equal it. -/
theorem firsts_cons (v : Value) (vs : List Value) :
    firsts (v :: vs) =
      (0 : Fin (vs.length + 1)) :: ((firsts vs).filter fun i => !v.same vs[i]).map Fin.succ := by
  have hfinRange : List.finRange (v :: vs).length = 0 :: (List.finRange vs.length).map Fin.succ :=
    List.finRange_succ
  rw [firsts, hfinRange, List.filter_cons_of_pos (isFirst_cons_zero v vs), List.filter_map, firsts,
    List.filter_filter]
  exact congrArg (fun is => 0 :: is.map Fin.succ)
    (List.filter_congr fun i _ => isFirst_cons_succ v vs i)

/-- **Of a list the first items stay.** -/
theorem distinct_eq_map_firsts (vs : List Value) : distinct vs = (firsts vs).map vs.get := by
  induction vs with
  | nil => rfl
  | cons v vs ih =>
    rw [distinct, ih, firsts_cons, List.map_cons, List.map_map, List.filter_map]
    rfl

theorem mem_of_mem_distinct (h : v ∈ distinct vs) : v ∈ vs := by
  rw [distinct_eq_map_firsts] at h
  obtain ⟨i, -, rfl⟩ := List.mem_map.1 h
  exact List.get_mem vs i

/-! ## Values that can be looked up -/

theorem wellFormed_of_isKey (h : v.isKey = true) : v.WellFormed := by
  cases v with
  | null | bool | int | text => simp
  | list | record => cases h

/-- A value that can be looked up equals itself, and a number or truth value whatever counts as the
same integer. -/
theorem same_iff_of_isKey (h : v.isKey = true) :
    v.same w = true ↔ v = w ∨ ∃ n, v.toInt? = some n ∧ w.toInt? = some n := by
  have hnumber {n : Int} (hn : v.toInt? = some n) :
      v.same w = true ↔ v = w ∨ ∃ n, v.toInt? = some n ∧ w.toInt? = some n := by
    rw [same_iff_toInt? hn]
    constructor
    · exact fun hw => Or.inr ⟨n, hn, hw⟩
    · rintro (rfl | ⟨m, hm, hw⟩)
      · exact hn
      · rwa [← hn, hm]
  cases v with
  | null => simp [same_null_iff, toInt?, @eq_comm _ null]
  | bool b => exact hnumber rfl
  | int n => exact hnumber rfl
  | text s => simp [same_text_iff, toInt?, @eq_comm _ (text s)]
  | list | record => cases h

end SwiftText.Value
