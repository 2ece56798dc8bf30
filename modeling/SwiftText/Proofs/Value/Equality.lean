import Mathlib.Data.List.Forall2
import Mathlib.Data.List.Perm.Subperm
import SwiftText.Proofs.Value.Field

/-!
# Equality of values

Values are equal by content, with one identification: a truth value equals the integer that it
counts as. So equality is coarser than identity, at any depth, and the order of a record's fields
does not matter to it. It is an equivalence all the same, on the values whose records have distinct
keys: a record with two fields of one key would not even equal itself.

* `Value.WellFormed`: values whose records have distinct keys, at any depth.
* `Value.toInt?`: the integer that a truth value or an integer counts as.
* `Value.same_iff_toInt?`, `Value.same_text_iff`, `Value.same_list_iff`, `Value.same_record_iff`:
  what a value of each shape equals.
* `Value.same_refl`, `Value.same_symm`, `Value.same_trans`: equality is an equivalence.
-/

namespace SwiftText.Value

/-- Values whose records have distinct keys, at any depth. -/
inductive WellFormed : Value → Prop where
  | null : WellFormed .null
  | bool (b : Bool) : WellFormed (.bool b)
  | int (n : Int) : WellFormed (.int n)
  | text (s : String) : WellFormed (.text s)
  | list {items : List Value} (hitems : ∀ v ∈ items, WellFormed v) : WellFormed (.list items)
  | record {fields : List (String × Value)} (hkeys : (fields.map Prod.fst).Nodup)
      (hfields : ∀ f ∈ fields, WellFormed f.2) : WellFormed (.record fields)

attribute [simp] WellFormed.null WellFormed.bool WellFormed.int WellFormed.text

@[simp] theorem wellFormed_list_iff {items : List Value} :
    (list items).WellFormed ↔ ∀ v ∈ items, v.WellFormed :=
  ⟨fun h => by cases h; assumption, .list⟩

@[simp] theorem wellFormed_record_iff {fields : List (String × Value)} :
    (record fields).WellFormed ↔
      (fields.map Prod.fst).Nodup ∧ ∀ f ∈ fields, f.2.WellFormed :=
  ⟨fun h => by cases h; exact ⟨‹_›, ‹_›⟩, fun h => .record h.1 h.2⟩

/-! ## What values of each shape equal -/

section Shapes

variable {w : Value}

/-- The integer that a value counts as. -/
def toInt? : Value → Option Int
  | .bool b => some (if b then 1 else 0)
  | .int n => some n
  | _ => none

theorem same_null_iff : same .null w = true ↔ w = .null := by
  cases w <;> simp [same]

/-- Numbers and truth values equal whatever counts as the same integer. -/
theorem same_iff_toInt? {v : Value} {n : Int} (h : v.toInt? = some n) :
    v.same w = true ↔ w.toInt? = some n := by
  cases v with
  | bool b =>
    obtain rfl := Option.some.inj h
    cases b <;> cases w <;> simp [same, toInt?]
  | int m =>
    obtain rfl := Option.some.inj h
    cases w <;> simp [same, toInt?, @eq_comm _ m]
  | _ => cases h

theorem same_text_iff {s : String} : same (.text s) w = true ↔ w = .text s := by
  cases w <;> simp [same, @eq_comm _ s]

theorem same_text_right_iff {v : Value} {s : String} : v.same (.text s) = true ↔ v = .text s := by
  cases v <;> simp [same]

theorem sameItems_iff {xs ys : List Value} :
    sameItems xs ys = true ↔ List.Forall₂ (fun v w => v.same w = true) xs ys := by
  induction xs generalizing ys with
  | nil => cases ys <;> simp [sameItems]
  | cons x xs ih => cases ys <;> simp [sameItems, ih]

theorem sameFields_iff {fs gs : List (String × Value)} :
    sameFields fs gs = true ↔ ∀ f ∈ fs, ∃ w, field? f.1 gs = some w ∧ f.2.same w = true := by
  induction fs with
  | nil => simp [sameFields]
  | cons f fs ih =>
    rw [sameFields, Bool.and_eq_true, ih, List.forall_mem_cons]
    refine and_congr_left fun _ => ?_
    cases field? f.1 gs <;> simp

theorem same_list_iff {xs : List Value} :
    same (.list xs) w = true ↔ ∃ ys, w = .list ys ∧ xs.length = ys.length ∧
      ∀ i (hi : i < xs.length) (hi' : i < ys.length), xs[i].same ys[i] = true := by
  cases w <;> simp [same, sameItems_iff, List.forall₂_iff_get]

theorem same_record_iff {fs : List (String × Value)} :
    same (.record fs) w = true ↔ ∃ gs, w = .record gs ∧ fs.length = gs.length ∧
      ∀ f ∈ fs, ∃ w, field? f.1 gs = some w ∧ f.2.same w = true := by
  cases w <;> simp [same, sameFields_iff]

end Shapes

/-! ## An equivalence -/

variable {u v w : Value}

theorem same_refl (hv : v.WellFormed) : v.same v = true := by
  induction hv with
  | null => exact same_null_iff.2 rfl
  | bool b => exact (same_iff_toInt? rfl).2 rfl
  | int n => exact (same_iff_toInt? rfl).2 rfl
  | text s => exact same_text_iff.2 rfl
  | list _ ih =>
    exact same_list_iff.2 ⟨_, rfl, rfl, fun i hi _ => ih _ (List.getElem_mem hi)⟩
  | record hkeys _ ih =>
    exact same_record_iff.2
      ⟨_, rfl, rfl, fun f hf => ⟨f.2, (field?_eq_some_iff hkeys).2 hf, ih f hf⟩⟩

/-- Fields that all have an equal one among as many others are all that those others equal: as the
keys are distinct on both sides, no key is left over. -/
theorem forall_exists_field? {fs gs : List (String × Value)} (hkeys : (fs.map Prod.fst).Nodup)
    (hkeys' : (gs.map Prod.fst).Nodup) (hlength : fs.length = gs.length)
    (h : ∀ f ∈ fs, ∃ w, field? f.1 gs = some w ∧ f.2.same w = true) :
    ∀ g ∈ gs, ∃ v, (g.1, v) ∈ fs ∧ v.same g.2 = true := by
  have hsubset : fs.map Prod.fst ⊆ gs.map Prod.fst := by
    intro key hkey
    obtain ⟨f, hf, rfl⟩ := List.mem_map.1 hkey
    obtain ⟨w, hw, -⟩ := h f hf
    exact List.mem_map.2 ⟨_, mem_of_field? hw, rfl⟩
  have hperm : (fs.map Prod.fst).Perm (gs.map Prod.fst) :=
    (List.subperm_of_subset hkeys hsubset).perm_of_length_le (by simp [hlength])
  intro g hg
  obtain ⟨f, hf, hfg⟩ := List.mem_map.1 (hperm.mem_iff.2 (List.mem_map_of_mem hg))
  obtain ⟨w, hw, hsame⟩ := h f hf
  rw [hfg, (field?_eq_some_iff hkeys').2 hg] at hw
  obtain rfl := Option.some.inj hw
  exact ⟨f.2, hfg ▸ hf, hsame⟩

theorem same_symm (hv : v.WellFormed) (hw : w.WellFormed) (h : v.same w = true) :
    w.same v = true := by
  induction hv generalizing w with
  | null =>
    obtain rfl := same_null_iff.1 h
    exact h
  | bool b => exact (same_iff_toInt? ((same_iff_toInt? rfl).1 h)).2 rfl
  | int n => exact (same_iff_toInt? ((same_iff_toInt? rfl).1 h)).2 rfl
  | text s =>
    obtain rfl := same_text_iff.1 h
    exact h
  | list _ ih =>
    obtain ⟨ys, rfl, hlength, hitems⟩ := same_list_iff.1 h
    have hys := wellFormed_list_iff.1 hw
    refine same_list_iff.2 ⟨_, rfl, hlength.symm, fun i hi hi' => ?_⟩
    exact ih _ (List.getElem_mem hi') (hys _ (List.getElem_mem hi)) (hitems i hi' hi)
  | record hkeys _ ih =>
    obtain ⟨gs, rfl, hlength, hfields⟩ := same_record_iff.1 h
    obtain ⟨hkeys', hgs⟩ := wellFormed_record_iff.1 hw
    refine same_record_iff.2 ⟨_, rfl, hlength.symm, fun g hg => ?_⟩
    obtain ⟨v, hv, hsame⟩ := forall_exists_field? hkeys hkeys' hlength hfields g hg
    exact ⟨v, (field?_eq_some_iff hkeys).2 hv, ih _ hv (hgs g hg) hsame⟩

theorem same_trans (hu : u.WellFormed) (h : u.same v = true) (h' : v.same w = true) :
    u.same w = true := by
  induction hu generalizing v w with
  | null => rwa [same_null_iff.1 h] at h'
  | bool b => exact (same_iff_toInt? rfl).2 ((same_iff_toInt? ((same_iff_toInt? rfl).1 h)).1 h')
  | int n => exact (same_iff_toInt? rfl).2 ((same_iff_toInt? ((same_iff_toInt? rfl).1 h)).1 h')
  | text s => rwa [same_text_iff.1 h] at h'
  | list _ ih =>
    obtain ⟨ys, rfl, hlength, hitems⟩ := same_list_iff.1 h
    obtain ⟨zs, rfl, hlength', hitems'⟩ := same_list_iff.1 h'
    refine same_list_iff.2 ⟨zs, rfl, hlength.trans hlength', fun i hi hi' => ?_⟩
    have hi'' : i < ys.length := hlength ▸ hi
    exact ih _ (List.getElem_mem hi) (hitems i hi hi'') (hitems' i hi'' hi')
  | record _ _ ih =>
    obtain ⟨gs, rfl, hlength, hfields⟩ := same_record_iff.1 h
    obtain ⟨hs, rfl, hlength', hfields'⟩ := same_record_iff.1 h'
    refine same_record_iff.2 ⟨hs, rfl, hlength.trans hlength', fun f hf => ?_⟩
    obtain ⟨v, hv, hsame⟩ := hfields f hf
    obtain ⟨w, hw, hsame'⟩ := hfields' _ (mem_of_field? hv)
    exact ⟨w, hw, ih f hf hsame hsame'⟩

end SwiftText.Value
