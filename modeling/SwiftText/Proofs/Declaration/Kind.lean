import SwiftText.Proofs.Declaration.GivenName
import SwiftText.Proofs.Value.Equality

/-!
# Kinds of annotations

Annotations are searched by their kind. Kinds are compared as values, so a tag and the text that is
its type name are one kind, and values of any other shape can be kinds as well. Equality of
annotations compares kinds and carried values alike, so equal annotations are found in the same
searches, and a renaming one gives the same name as any that equals it.

* `Declaration.firstOfKind?`: the first annotation of a kind. The search for a tag is the case of
  its type name.
* `Annotation.same_refl`, `Annotation.same_symm`, `Annotation.same_trans`: equality of annotations
  is an equivalence.
* `Declaration.rel_firstOfKind?`, `Declaration.explicitName?_congr`: what is found among equal
  annotations.
-/

namespace SwiftText

namespace Annotation

/-- Whether an annotation has a kind. -/
def hasKind (k : Value) (a : Annotation) : Bool := a.kind.same k

/-- Annotations of well-formed values. -/
@[mk_iff wellFormed_iff]
structure WellFormed (a : Annotation) : Prop where
  kind : a.kind.WellFormed
  value : a.value.WellFormed

variable {a b c : Annotation} {k : Value}

/-! ## Equality -/

theorem same_iff :
    a.same b = true ↔ a.kind.same b.kind = true ∧ a.value.same b.value = true := by
  rw [same, Bool.and_eq_true]

theorem same_refl (ha : a.WellFormed) : a.same a = true :=
  same_iff.2 ⟨Value.same_refl ha.kind, Value.same_refl ha.value⟩

theorem same_symm (ha : a.WellFormed) (hb : b.WellFormed) (h : a.same b = true) :
    b.same a = true := by
  obtain ⟨hkind, hvalue⟩ := same_iff.1 h
  exact same_iff.2 ⟨Value.same_symm ha.kind hb.kind hkind, Value.same_symm ha.value hb.value hvalue⟩

theorem same_trans (ha : a.WellFormed) (h : a.same b = true) (h' : b.same c = true) :
    a.same c = true := by
  obtain ⟨hkind, hvalue⟩ := same_iff.1 h
  obtain ⟨hkind', hvalue'⟩ := same_iff.1 h'
  exact same_iff.2 ⟨Value.same_trans ha.kind hkind hkind', Value.same_trans ha.value hvalue hvalue'⟩

/-- A tag is the kind that its type name is, and no other. -/
theorem same_tagged_iff {t : Tag} {v : Value} :
    (tagged t v).same a = true ↔ a.kind = .text t.typeName ∧ v.same a.value = true := by
  rw [same_iff, tagged, Value.same_text_iff]

/-- Equal annotations have the same kinds. -/
theorem hasKind_congr (ha : a.WellFormed) (hb : b.WellFormed) (h : a.same b = true) (k : Value) :
    a.hasKind k = b.hasKind k := by
  obtain ⟨hkind, -⟩ := same_iff.1 h
  have hkind' := Value.same_symm ha.kind hb.kind hkind
  rw [Bool.eq_iff_iff]
  exact ⟨Value.same_trans hb.kind hkind', Value.same_trans ha.kind hkind⟩

theorem text?_eq_some_iff {s : String} : a.text? = some s ↔ a.value = .text s := by
  rw [text?]
  cases a.value <;> simp

/-- Equal annotations carry the same text, or both carry none. -/
theorem text?_congr (h : a.same b = true) : a.text? = b.text? := by
  obtain ⟨-, hvalue⟩ := same_iff.1 h
  refine Option.ext fun s => ?_
  rw [text?_eq_some_iff, text?_eq_some_iff]
  constructor
  · intro ha
    rwa [ha, Value.same_text_iff] at hvalue
  · intro hb
    rwa [hb, Value.same_text_right_iff] at hvalue

end Annotation

namespace Declaration

open Annotation

variable {d : Declaration} {as : List Annotation}

/-- The first annotation of a kind. -/
def firstOfKind? (d : Declaration) (k : Value) : Option Annotation :=
  d.annotations.find? (hasKind k)

theorem firstOfKind?_typeName (d : Declaration) (t : Tag) :
    d.firstOfKind? (.text t.typeName) = d.firstTagged? t := rfl

theorem explicitName?_eq_firstOfKind?_bind (d : Declaration) :
    d.explicitName? = (d.firstOfKind? (.text Tag.rename.typeName)).bind text? :=
  d.explicitName?_eq_find?_bind

/-! ## Equal annotations in place of others -/

/-- **Among equal annotations equal ones are found.** -/
theorem rel_firstOfKind? (h : List.Forall₂ (fun a b => a.same b = true) d.annotations as)
    (hd : ∀ a ∈ d.annotations, a.WellFormed) (has : ∀ a ∈ as, a.WellFormed) (k : Value) :
    Option.Rel (fun a b => a.same b = true) (d.firstOfKind? k)
      (({ d with annotations := as } : Declaration).firstOfKind? k) := by
  simp only [firstOfKind?]
  generalize d.annotations = bs at h hd
  induction h with
  | nil => exact .none
  | @cons b a bs as hsame _ ih =>
    obtain ⟨hb, hbs⟩ := List.forall_mem_cons.1 hd
    obtain ⟨ha, has⟩ := List.forall_mem_cons.1 has
    rw [List.find?_cons, List.find?_cons, hasKind_congr hb ha hsame k]
    cases a.hasKind k with
    | true => exact .some hsame
    | false => exact ih has hbs

/-- **Equal annotations give the same name, or none.** -/
theorem explicitName?_congr (h : List.Forall₂ (fun a b => a.same b = true) d.annotations as)
    (hd : ∀ a ∈ d.annotations, a.WellFormed) (has : ∀ a ∈ as, a.WellFormed) :
    ({ d with annotations := as } : Declaration).explicitName? = d.explicitName? := by
  have hfound := rel_firstOfKind? h hd has (.text Tag.rename.typeName)
  rw [explicitName?_eq_firstOfKind?_bind, explicitName?_eq_firstOfKind?_bind]
  generalize d.firstOfKind? _ = a at hfound ⊢
  generalize firstOfKind? _ _ = b at hfound ⊢
  cases hfound with
  | none => rfl
  | some hsame => exact (text?_congr hsame).symm

end Declaration

end SwiftText
