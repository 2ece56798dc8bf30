import SwiftText.Proofs.Literal.Outcome

/-!
# Parts of a datum

What occurs in a datum at any depth, said without a way to walk through it.

* `IsPart`: a datum is made of its items, or of its keys and values, and of what these are made of.
* `mem_leaves_iff`: the leaves of a datum, which are listed in the order in which they are written,
  are its parts that are no containers.
-/

namespace SwiftText.Datum

/-- The parts of a datum, at any depth: the datum itself, and the parts of its items, of its keys and
of its values. -/
inductive IsPart (x : Datum) : Datum → Prop
  | self : IsPart x x
  | item {y : Datum} {items : List Datum} (hy : y ∈ items) (h : IsPart x y) :
      IsPart x (.list items)
  | component {y : Datum} {items : List Datum} (hy : y ∈ items) (h : IsPart x y) :
      IsPart x (.tuple items)
  | key {e : Datum × Datum} {entries : List (Datum × Datum)} (he : e ∈ entries)
      (h : IsPart x e.1) : IsPart x (.dict entries)
  | value {e : Datum × Datum} {entries : List (Datum × Datum)} (he : e ∈ entries)
      (h : IsPart x e.2) : IsPart x (.dict entries)

/-- Whether a datum is an array or a dictionary. -/
def isContainer : Datum → Bool
  | .list _ | .tuple _ | .dict _ => true
  | _ => false

/-! ## Leaves are parts -/

theorem leaves_of_isContainer_eq_false {v : Datum} (h : v.isContainer = false) :
    v.leaves = [v] := by
  cases v with
  | list | tuple | dict => cases h
  | null | bool | int | double | text | tag | foreign => rfl

theorem mem_itemLeaves {x y : Datum} {items : List Datum} (hy : y ∈ items) (h : x ∈ y.leaves) :
    x ∈ itemLeaves items := by
  induction items with
  | nil => cases hy
  | cons v rest ih =>
    rw [itemLeaves, List.mem_append]
    rcases List.mem_cons.1 hy with rfl | hy
    · exact Or.inl h
    · exact Or.inr (ih hy)

theorem mem_entryLeaves {x : Datum} {e : Datum × Datum} {entries : List (Datum × Datum)}
    (he : e ∈ entries) (h : x ∈ e.1.leaves ∨ x ∈ e.2.leaves) : x ∈ entryLeaves entries := by
  induction entries with
  | nil => cases he
  | cons d rest ih =>
    rw [entryLeaves, List.mem_append, List.mem_append, ← or_assoc]
    rcases List.mem_cons.1 he with rfl | he
    · exact Or.inl h
    · exact Or.inr (ih he)

theorem mem_leaves_of_isPart {x v : Datum} (hx : x.isContainer = false) (h : x.IsPart v) :
    x ∈ v.leaves := by
  induction h with
  | self => simp [leaves_of_isContainer_eq_false hx]
  | item hy _ ih => exact mem_itemLeaves hy ih
  | component hy _ ih => exact mem_itemLeaves hy ih
  | key he _ ih => exact mem_entryLeaves he (Or.inl ih)
  | value he _ ih => exact mem_entryLeaves he (Or.inr ih)

mutual

theorem isPart_of_mem_leaves {x : Datum} (v : Datum) (h : x ∈ v.leaves) :
    x.isContainer = false ∧ x.IsPart v := by
  cases v with
  | list items =>
    obtain ⟨hx, y, hy, hpart⟩ := isPart_of_mem_itemLeaves items h
    exact ⟨hx, .item hy hpart⟩
  | tuple items =>
    obtain ⟨hx, y, hy, hpart⟩ := isPart_of_mem_itemLeaves items h
    exact ⟨hx, .component hy hpart⟩
  | dict entries =>
    obtain ⟨hx, e, he, hkey | hvalue⟩ := isPart_of_mem_entryLeaves entries h
    · exact ⟨hx, .key he hkey⟩
    · exact ⟨hx, .value he hvalue⟩
  | null | bool | int | double | text | tag | foreign =>
    rw [List.mem_singleton.1 h]
    exact ⟨rfl, .self⟩

theorem isPart_of_mem_itemLeaves {x : Datum} (items : List Datum) (h : x ∈ itemLeaves items) :
    x.isContainer = false ∧ ∃ y ∈ items, x.IsPart y := by
  cases items with
  | nil => cases h
  | cons v rest =>
    rw [itemLeaves, List.mem_append] at h
    rcases h with h | h
    · exact (isPart_of_mem_leaves v h).imp_right fun hpart => ⟨v, List.mem_cons_self, hpart⟩
    · obtain ⟨hx, y, hy, hpart⟩ := isPart_of_mem_itemLeaves rest h
      exact ⟨hx, y, List.mem_cons_of_mem v hy, hpart⟩

theorem isPart_of_mem_entryLeaves {x : Datum} (entries : List (Datum × Datum))
    (h : x ∈ entryLeaves entries) :
    x.isContainer = false ∧ ∃ e ∈ entries, x.IsPart e.1 ∨ x.IsPart e.2 := by
  cases entries with
  | nil => cases h
  | cons e rest =>
    obtain ⟨k, v⟩ := e
    rw [entryLeaves, List.mem_append, List.mem_append] at h
    rcases h with h | h | h
    · exact (isPart_of_mem_leaves k h).imp_right fun hpart =>
        ⟨(k, v), List.mem_cons_self, Or.inl hpart⟩
    · exact (isPart_of_mem_leaves v h).imp_right fun hpart =>
        ⟨(k, v), List.mem_cons_self, Or.inr hpart⟩
    · obtain ⟨hx, e, he, hpart⟩ := isPart_of_mem_entryLeaves rest h
      exact ⟨hx, e, List.mem_cons_of_mem (k, v) he, hpart⟩

end

/-- **The leaves are the parts that are no containers.** -/
theorem mem_leaves_iff {x v : Datum} : x ∈ v.leaves ↔ x.isContainer = false ∧ x.IsPart v :=
  ⟨isPart_of_mem_leaves v, fun h => mem_leaves_of_isPart h.1 h.2⟩

end SwiftText.Datum
