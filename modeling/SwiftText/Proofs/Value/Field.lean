import Mathlib.Data.List.Nodup
import SwiftText.Value

/-!
# Fields of a record

A record is read by the keys of its fields. With distinct keys each field is found under its key, and
the order of the fields does not matter. A field that is put into a record takes the place of the one
of its key.

* `Value.field?_eq_some_iff`, `Value.field?_perm`: reading a record with distinct keys.
* `Value.put`, `Value.field?_put`: what is found after a field is put in. After many, it is the last
  one of the key (`Value.field?_foldl_put`).
-/

namespace SwiftText.Value

variable {fs gs : List (String × Value)} {key : String} {v : Value}

theorem field?_cons (key name : String) (v : Value) (fs : List (String × Value)) :
    field? name ((key, v) :: fs) = if key = name then some v else field? name fs := by
  rw [field?, List.lookup_cons]
  by_cases h : key = name
  · rw [if_pos h, h, beq_self_eq_true]
  · rw [if_neg h, beq_false_of_ne (Ne.symm h), field?]

theorem field?_append (name : String) (fs gs : List (String × Value)) :
    field? name (fs ++ gs) = (field? name fs).or (field? name gs) := List.lookup_append

theorem mem_of_field? (h : field? key fs = some v) : (key, v) ∈ fs := by
  obtain ⟨l₁, l₂, rfl, -⟩ := List.lookup_eq_some_iff.1 h
  simp

theorem field?_eq_none_iff : field? key fs = none ↔ key ∉ fs.map Prod.fst := by
  simp only [field?, List.lookup_eq_none_iff, bne_iff_ne, List.mem_map, not_exists, not_and]
  exact forall₂_congr fun _ _ => ne_comm

/-- With distinct keys, each field is found under its key. -/
theorem field?_eq_some_iff (hkeys : (fs.map Prod.fst).Nodup) :
    field? key fs = some v ↔ (key, v) ∈ fs := by
  refine ⟨mem_of_field?, fun hmem => ?_⟩
  cases h : field? key fs with
  | none => exact absurd (List.mem_map_of_mem hmem) (field?_eq_none_iff.1 h)
  | some w =>
    have hsame := List.inj_on_of_nodup_map hkeys (mem_of_field? h) hmem rfl
    rw [(Prod.mk.inj hsame).2]

/-- The order of fields with distinct keys does not matter. -/
theorem field?_perm (hperm : fs.Perm gs) (hkeys : (fs.map Prod.fst).Nodup) (key : String) :
    field? key fs = field? key gs := by
  have hkeys' : (gs.map Prod.fst).Nodup := (hperm.map _).nodup_iff.1 hkeys
  refine Option.ext fun v => ?_
  rw [field?_eq_some_iff hkeys, field?_eq_some_iff hkeys', hperm.mem_iff]

theorem field?_reverse (hkeys : (fs.map Prod.fst).Nodup) (key : String) :
    field? key fs.reverse = field? key fs :=
  (field?_perm (List.reverse_perm fs).symm hkeys key).symm

/-! ## Putting fields in -/

/-- The fields with one more put in: it takes the place of the field of its key, and stands at the
end if there is none. -/
def put : List (String × Value) → String × Value → List (String × Value)
  | [], g => [g]
  | f :: fs, g => if f.1 = g.1 then g :: fs else f :: put fs g

variable {f g : String × Value}

/-- **What is put in is found, and under other keys what was found before.** -/
theorem field?_put (fs : List (String × Value)) (g : String × Value) (key : String) :
    field? key (put fs g) = if g.1 = key then some g.2 else field? key fs := by
  induction fs with
  | nil => exact field?_cons g.1 key g.2 []
  | cons f fs ih =>
    rw [put]
    by_cases hfg : f.1 = g.1
    · rw [if_pos hfg, field?_cons, field?_cons, hfg]
      split <;> rfl
    · rw [if_neg hfg, field?_cons, field?_cons, ih]
      by_cases hf : f.1 = key
      · rw [if_pos hf, if_neg fun hg => hfg (hf.trans hg.symm), if_pos hf]
      · rw [if_neg hf, if_neg hf]

theorem mem_of_mem_put (h : f ∈ put fs g) : f = g ∨ f ∈ fs := by
  induction fs with
  | nil => exact Or.inl (List.mem_singleton.1 h)
  | cons f' fs ih =>
    rw [put] at h
    split at h
    · exact (List.mem_cons.1 h).imp_right (List.mem_cons_of_mem _)
    · rcases List.mem_cons.1 h with rfl | h
      · exact Or.inr List.mem_cons_self
      · exact (ih h).imp_right (List.mem_cons_of_mem _)

theorem nodup_put (h : (fs.map Prod.fst).Nodup) (g : String × Value) :
    ((put fs g).map Prod.fst).Nodup := by
  induction fs with
  | nil => simp [put]
  | cons f fs ih =>
    obtain ⟨hfresh, hnodup⟩ := List.nodup_cons.1 h
    rw [put]
    by_cases hfg : f.1 = g.1
    · rw [if_pos hfg]
      exact List.nodup_cons.2 ⟨hfg ▸ hfresh, hnodup⟩
    · rw [if_neg hfg]
      refine List.nodup_cons.2 ⟨fun hmem => ?_, ih hnodup⟩
      obtain ⟨f', hf', hkey⟩ := List.mem_map.1 hmem
      rcases mem_of_mem_put hf' with rfl | hf'
      · exact hfg hkey.symm
      · exact hfresh (List.mem_map.2 ⟨f', hf', hkey⟩)

/-- **The last field of a key is the one that is found** after fields are put in one after the
other. -/
theorem field?_foldl_put (gs fs : List (String × Value)) (key : String) :
    field? key (gs.foldl put fs) = (field? key gs.reverse).or (field? key fs) := by
  induction gs generalizing fs with
  | nil => rfl
  | cons g gs ih =>
    rw [List.foldl_cons, ih, List.reverse_cons, field?_append, Option.or_assoc, field?_put,
      field?_cons]
    split <;> rfl

theorem mem_of_mem_foldl_put {gs : List (String × Value)} (h : f ∈ gs.foldl put fs) :
    f ∈ gs ∨ f ∈ fs := by
  induction gs generalizing fs with
  | nil => exact Or.inr h
  | cons g gs ih =>
    rcases ih h with hmem | hmem
    · exact Or.inl (List.mem_cons_of_mem _ hmem)
    · refine (mem_of_mem_put hmem).imp_left ?_
      rintro rfl
      exact List.mem_cons_self

theorem nodup_foldl_put (h : (fs.map Prod.fst).Nodup) (gs : List (String × Value)) :
    ((gs.foldl put fs).map Prod.fst).Nodup := by
  induction gs generalizing fs with
  | nil => exact h
  | cons g gs ih => exact ih (nodup_put h g)

end SwiftText.Value
