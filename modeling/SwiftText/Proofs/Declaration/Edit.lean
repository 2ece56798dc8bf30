import SwiftText.Proofs.Declaration.Kind
import SwiftText.Proofs.Session.Write

/-!
# Edits of annotations

Annotations are added at the end of a declaration and deleted by an index, which counts from either
end, so the place of an annotation changes as others go. The first annotation of a kind stays the
first one for as long as it is not deleted itself: nothing can be put before it.

* `Declaration.moved?`, `Declaration.movedBy?`: where an annotation stands after one write, and after
  any number of them.
* `Declaration.Leads`: an annotation stands at a position and has a kind, which none before it has.
  The search finds what leads (`Declaration.leads_iff`).
* `Declaration.Leads.write`, `Declaration.Leads.writeAll`: it goes on leading, wherever it moves.
-/

namespace SwiftText.Declaration

open Annotation

/-- Where the annotation at a position stands after something is written to the declaration; nothing
if it is the one that is deleted. -/
def moved? (d : Declaration) (p : Nat) : Write → Option Nat
  | .deletion index =>
    match position? d.annotations.length index with
    | none => some p
    | some j => if j = p then none else some (if j < p then p - 1 else p)
  | _ => some p

/-- Where the annotation at a position stands after several things are written to the declaration;
nothing if it is deleted on the way. -/
def movedBy? (d : Declaration) (p : Nat) : List Write → Option Nat
  | [] => some p
  | w :: ws => (d.moved? p w).bind fun q => (write w d).movedBy? q ws

/-- Whether an annotation leads its kind from a position: it is of the kind, and none before it is. -/
def Leads (d : Declaration) (k : Value) (p : Nat) (a : Annotation) : Prop :=
  ∃ u v, d.annotations = u ++ a :: v ∧ u.length = p ∧ a.hasKind k = true ∧
    ∀ b ∈ u, b.hasKind k = false

variable {d : Declaration} {k : Value} {p q : Nat} {a : Annotation} {w : Write} {ws : List Write}

theorem movedBy?_append (d : Declaration) (p : Nat) (ws ws' : List Write) :
    d.movedBy? p (ws ++ ws') =
      (d.movedBy? p ws).bind fun q => (d.writeAll ws).movedBy? q ws' := by
  induction ws generalizing d p with
  | nil => rfl
  | cons w ws ih =>
    rw [List.cons_append, movedBy?, movedBy?, Option.bind_assoc]
    exact congrArg _ (funext fun q => ih (write w d) q)

theorem findIdx_hasKind {u : List Annotation} (hu : ∀ b ∈ u, b.hasKind k = false)
    (ha : a.hasKind k = true) (v : List Annotation) :
    (u ++ a :: v).findIdx (hasKind k) = u.length := by
  have hnone : ¬u.findIdx (hasKind k) < u.length := by
    rw [List.findIdx_lt_length]
    simpa using hu
  rw [List.findIdx_append, if_neg hnone, List.findIdx_cons, ha, cond_true, Nat.zero_add]

/-- **The search finds what leads its kind, where it stands.** -/
theorem leads_iff :
    d.Leads k p a ↔
      d.firstOfKind? k = some a ∧ d.annotations.findIdx (hasKind k) = p := by
  rw [Leads, firstOfKind?, List.find?_eq_some_iff_append]
  constructor
  · rintro ⟨u, v, has, rfl, ha, hu⟩
    exact ⟨⟨ha, u, v, has, by simpa using hu⟩, has ▸ findIdx_hasKind hu ha v⟩
  · rintro ⟨⟨ha, u, v, has, hu⟩, rfl⟩
    have hu : ∀ b ∈ u, b.hasKind k = false := by simpa using hu
    exact ⟨u, v, has, (has ▸ findIdx_hasKind hu ha v).symm, ha, hu⟩

theorem Leads.getElem? (h : d.Leads k p a) : d.annotations[p]? = some a := by
  obtain ⟨u, v, has, rfl, -⟩ := h
  rw [has]
  simp

/-! ## Writes -/

theorem annotations_write_deletion {index : Int} {j : Nat}
    (h : position? d.annotations.length index = some j) :
    (write (.deletion index) d).annotations = d.annotations.eraseIdx j := by
  rw [write, unannotate?, h]
  rfl

/-- A deletion at an index that no annotation has changes nothing. -/
theorem write_deletion_eq_self {index : Int}
    (h : position? d.annotations.length index = none) : write (.deletion index) d = d := by
  rw [write, unannotate?, h]
  rfl

/-- A deletion elsewhere, before the annotation that leads or after it. -/
theorem Leads.delete (h : d.Leads k p a) {index : Int} {j : Nat}
    (hj : position? d.annotations.length index = some j) (hne : j ≠ p) :
    (write (.deletion index) d).Leads k (if j < p then p - 1 else p) a := by
  obtain ⟨u, v, has, rfl, ha, hu⟩ := h
  rw [Leads, annotations_write_deletion hj, has]
  by_cases hlt : j < u.length
  · refine ⟨u.eraseIdx j, v, List.eraseIdx_append_of_lt_length hlt _, ?_, ha, ?_⟩
    · rw [if_pos hlt, List.length_eraseIdx_of_lt hlt]
    · exact fun b hb => hu b (List.mem_of_mem_eraseIdx hb)
  · obtain ⟨i, rfl⟩ : ∃ i, j = u.length + (i + 1) := ⟨j - u.length - 1, by omega⟩
    refine ⟨u, v.eraseIdx i, ?_, by rw [if_neg hlt], ha, hu⟩
    rw [List.eraseIdx_append_of_length_le (by omega), Nat.add_sub_cancel_left,
      List.eraseIdx_cons_succ]

/-- **What is written to a declaration leaves an annotation leading, unless it deletes it.** -/
theorem Leads.write (h : d.Leads k p a) (hq : d.moved? p w = some q) :
    (write w d).Leads k q a := by
  cases w with
  | name v =>
    obtain rfl := Option.some.inj hq
    exact h
  | link l target =>
    obtain rfl := Option.some.inj hq
    cases l <;> exact h
  | annotated b =>
    obtain rfl := Option.some.inj hq
    obtain ⟨u, v, has, hlength, ha, hu⟩ := h
    exact ⟨u, v ++ [b], by simp [Declaration.write, annotate, has], hlength, ha, hu⟩
  | deletion index =>
    rw [moved?] at hq
    cases hj : position? d.annotations.length index with
    | none =>
      rw [hj] at hq
      obtain rfl := Option.some.inj hq
      rwa [write_deletion_eq_self hj]
    | some j =>
      rw [hj] at hq
      by_cases hne : j = p
      · simp [hne] at hq
      · simp only [if_neg hne, Option.some.injEq] at hq
        exact hq ▸ h.delete hj hne

/-- **An annotation that leads its kind goes on leading it, wherever it moves.** -/
theorem Leads.writeAll (h : d.Leads k p a) (hq : d.movedBy? p ws = some q) :
    (d.writeAll ws).Leads k q a := by
  induction ws generalizing d p with
  | nil =>
    obtain rfl := Option.some.inj hq
    exact h
  | cons w ws ih =>
    obtain ⟨r, hr, hq⟩ := Option.bind_eq_some_iff.1 hq
    exact ih (h.write hr) hq

end SwiftText.Declaration
