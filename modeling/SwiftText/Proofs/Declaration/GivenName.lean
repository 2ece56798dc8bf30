import SwiftText.Resolver

/-!
# Renaming annotations

A renaming annotation gives its declaration the text that it carries; one that carries anything else
is malformed and gives nothing. A malformed annotation should count as none, so that the first given
name is found wherever it stands. But the search is for the tag, and what the annotation carries is
looked at only afterwards: a malformed annotation hides all names that come after it.

* `Declaration.givenName?`: the first name that an annotation gives.
* `Declaration.Hidden`: a name is given, but only after a malformed annotation.
* `Declaration.explicitName?_append_cons`: what one more malformed annotation changes.
* `Declaration.explicitName?_eq_givenName?_iff`: the first given name is found exactly if it is not
  hidden.
-/

namespace SwiftText

namespace Annotation

/-- The text that an annotation carries. -/
def text? (a : Annotation) : Option String :=
  match a.value with
  | .text s => some s
  | _ => none

/-- The name that an annotation gives to its declaration. -/
def given? (a : Annotation) : Option String := if a.hasTag .rename then a.text? else none

/-- A malformed annotation is a renaming one that carries no text. -/
structure Malformed (a : Annotation) : Prop where
  hasTag : a.hasTag .rename = true
  text? : a.text? = none

theorem given?_of_hasTag {a : Annotation} (h : a.hasTag .rename = true) : a.given? = a.text? := by
  rw [given?, if_pos h]

theorem given?_of_hasTag_eq_false {a : Annotation} (h : a.hasTag .rename = false) :
    a.given? = none := by
  rw [given?, if_neg (by simp [h])]

end Annotation

namespace Declaration

open Annotation

/-- The first name that an annotation gives. -/
def givenName? (d : Declaration) : Option String := d.annotations.findSome? given?

/-- A name is given, but the first renaming annotation is malformed. -/
def Hidden (d : Declaration) : Prop :=
  ∃ u a v, d.annotations = u ++ a :: v ∧ (∀ b ∈ u, b.hasTag .rename = false) ∧ a.Malformed ∧
    ∃ b ∈ v, b.given? ≠ none

variable {d : Declaration} {u v : List Annotation} {a : Annotation}

/-! ## The search for the tag -/

theorem explicitName?_eq_find?_bind (d : Declaration) :
    d.explicitName? = (d.annotations.find? (hasTag .rename)).bind text? := by
  rw [explicitName?, firstTagged?]
  cases d.annotations.find? (hasTag .rename) with
  | none => rfl
  | some a =>
    obtain ⟨kind, value⟩ := a
    cases value <;> rfl

/-- The annotations up to the first renaming one, if there is one. -/
theorem forall_or_exists_hasTag (as : List Annotation) :
    (∀ b ∈ as, b.hasTag .rename = false) ∨
      ∃ u a v, as = u ++ a :: v ∧ (∀ b ∈ u, b.hasTag .rename = false) ∧
        a.hasTag .rename = true := by
  cases hfind : as.find? (hasTag .rename) with
  | none => exact Or.inl (by simpa using hfind)
  | some a =>
    obtain ⟨ha, u, v, has, hu⟩ := List.find?_eq_some_iff_append.1 hfind
    exact Or.inr ⟨u, a, v, has, by simpa using hu, ha⟩

theorem explicitName?_of_forall (h : ∀ b ∈ d.annotations, b.hasTag .rename = false) :
    d.explicitName? = none := by
  rw [explicitName?_eq_find?_bind, List.find?_eq_none.2 (by simpa using h), Option.bind_none]

theorem explicitName?_of_hasTag (h : d.annotations = u ++ a :: v)
    (hu : ∀ b ∈ u, b.hasTag .rename = false) (ha : a.hasTag .rename = true) :
    d.explicitName? = a.text? := by
  have hfind : d.annotations.find? (hasTag .rename) = some a :=
    List.find?_eq_some_iff_append.2 ⟨ha, u, v, h, by simpa using hu⟩
  rw [explicitName?_eq_find?_bind, hfind, Option.bind_some]

/-! ## The first given name -/

theorem findSome?_given?_of_forall {as : List Annotation}
    (h : ∀ b ∈ as, b.hasTag .rename = false) : as.findSome? given? = none :=
  List.findSome?_eq_none_iff.2 fun b hb => given?_of_hasTag_eq_false (h b hb)

theorem givenName?_of_hasTag (h : d.annotations = u ++ a :: v)
    (hu : ∀ b ∈ u, b.hasTag .rename = false) (ha : a.hasTag .rename = true) :
    d.givenName? = a.text?.or (v.findSome? given?) := by
  rw [givenName?, h, List.findSome?_append, findSome?_given?_of_forall hu, Option.none_or,
    List.findSome?_cons, given?_of_hasTag ha]
  cases a.text? <;> rfl

/-- **The first given name is found unless it is hidden.** -/
theorem explicitName?_eq_givenName?_of_not_hidden (h : ¬d.Hidden) :
    d.explicitName? = d.givenName? := by
  rcases forall_or_exists_hasTag d.annotations with hnone | ⟨u, a, v, has, hu, ha⟩
  · rw [explicitName?_of_forall hnone, givenName?, findSome?_given?_of_forall hnone]
  · rw [explicitName?_of_hasTag has hu ha, givenName?_of_hasTag has hu ha]
    cases htext : a.text? with
    | some s => rfl
    | none =>
      have hv : ∀ b ∈ v, b.given? = none := fun b hb =>
        Classical.byContradiction fun hgiven => h ⟨u, a, v, has, hu, ⟨ha, htext⟩, b, hb, hgiven⟩
      rw [Option.none_or, List.findSome?_eq_none_iff.2 hv]

/-- A hidden name is not found, although it is given. -/
theorem Hidden.explicitName? (h : d.Hidden) : d.explicitName? = none ∧ d.givenName? ≠ none := by
  obtain ⟨u, a, v, has, hu, ha, b, hb, hgiven⟩ := h
  rw [explicitName?_of_hasTag has hu ha.hasTag, givenName?_of_hasTag has hu ha.hasTag, ha.text?,
    Option.none_or]
  exact ⟨rfl, fun hnone => hgiven (List.findSome?_eq_none_iff.1 hnone b hb)⟩

/-! ## One more malformed annotation -/

/-- **A malformed annotation changes nothing after a renaming one, and else hides all names.** -/
theorem explicitName?_append_cons (h : d.annotations = u ++ v) (ha : a.Malformed) :
    ({ d with annotations := u ++ a :: v } : Declaration).explicitName? =
      if u.any (hasTag .rename) then d.explicitName? else none := by
  rcases forall_or_exists_hasTag u with hu | ⟨u₁, b, u₂, rfl, hu, hb⟩
  · rw [explicitName?_of_hasTag rfl hu ha.hasTag, ha.text?, if_neg (by simpa using hu)]
  · have hd : d.annotations = u₁ ++ b :: (u₂ ++ v) := by simpa using h
    rw [explicitName?_of_hasTag hd hu hb, if_pos (by simp [hb])]
    exact explicitName?_of_hasTag (v := u₂ ++ a :: v) (by simp) hu hb

end Declaration

/-! ## Names of declarations -/

namespace Resolver

/-- Only the given name and the name of its own matter for the name of a declaration. -/
theorem nameOf_congr {d e : Declaration} (hname : d.name = e.name)
    (hexplicit : d.explicitName? = e.explicitName?) (o : Options) (isModuleClass : Bool) :
    nameOf o isModuleClass d = nameOf o isModuleClass e := by
  rw [nameOf, nameOf, hname, hexplicit]

theorem nameOf_of_explicitName?_eq_none {d : Declaration} (h : d.explicitName? = none)
    (o : Options) : nameOf o false d = Identifier.ofValue d.name o.leadingDigitPrefix := by
  rw [nameOf, h, if_neg Bool.false_ne_true]

end Resolver

namespace Declaration

open Annotation

/-- **Exactly when malformed annotations count as none.** The first given name is found exactly if
it is not hidden; a declaration with a hidden name has the identifier of its own name. One more
malformed annotation leaves what is found as it is exactly if it stands after a renaming one or
nothing is found anyway. -/
theorem explicitName?_eq_givenName?_iff (d : Declaration) :
    (d.explicitName? = d.givenName? ↔ ¬d.Hidden) ∧
    (d.Hidden → d.explicitName? = none ∧ ∀ o, Resolver.nameOf o false d =
      Identifier.ofValue d.name o.leadingDigitPrefix) ∧
    ∀ u a v, d.annotations = u ++ v → a.Malformed →
      let e : Declaration := { d with annotations := u ++ a :: v }
      (e.explicitName? = d.explicitName? ↔
        (∃ b ∈ u, b.hasTag .rename = true) ∨ d.explicitName? = none) ∧
      ∀ o, Resolver.nameOf o false e =
        if u.any (hasTag .rename) then Resolver.nameOf o false d
        else Identifier.ofValue d.name o.leadingDigitPrefix := by
  refine ⟨⟨fun heq h => ?_, explicitName?_eq_givenName?_of_not_hidden⟩, fun h => ?_, ?_⟩
  · obtain ⟨hnone, hgiven⟩ := h.explicitName?
    exact hgiven (heq ▸ hnone)
  · exact ⟨h.explicitName?.1, Resolver.nameOf_of_explicitName?_eq_none h.explicitName?.1⟩
  · intro u a v h ha e
    have he := explicitName?_append_cons h ha
    cases hu : u.any (hasTag .rename) with
    | true =>
      rw [hu, if_pos rfl] at he
      refine ⟨iff_of_true he (Or.inl (List.any_eq_true.1 hu)), fun o => ?_⟩
      rw [if_pos rfl]
      exact Resolver.nameOf_congr (d := e) (e := d) rfl he o false
    | false =>
      rw [hu, if_neg Bool.false_ne_true] at he
      refine ⟨?_, fun o => ?_⟩
      · rw [he, or_iff_right (by simpa using hu), eq_comm]
      · rw [if_neg Bool.false_ne_true]
        exact Resolver.nameOf_of_explicitName?_eq_none he o

/-- A malformed annotation before the one that gives the name hides it; after it, it does not. -/
theorem explicitName?_eq_givenName?_iff_malformed :
    let bad : Annotation := .tagged .rename (.int 42)
    let good : Annotation := .tagged .rename (.text "Good")
    let d : Declaration := { name := .text "my-prop", annotations := [good] }
    let before : Declaration := { d with annotations := [bad, good] }
    let after : Declaration := { d with annotations := [good, bad] }
    bad.Malformed ∧ before.Hidden ∧ ¬after.Hidden ∧
      before.explicitName? ≠ d.explicitName? ∧ after.explicitName? = d.explicitName? ∧
      Resolver.nameOf {} false before = .ok (.text "myProp") ∧
      Resolver.nameOf {} false after = .ok (.text "Good") := by
  intro bad good d before after
  have hbad : bad.Malformed := ⟨rfl, rfl⟩
  have hhidden : before.Hidden :=
    ⟨[], bad, [good], rfl, by simp, hbad, good, List.mem_singleton.2 rfl, by decide⟩
  obtain ⟨-, -, hinsert⟩ := explicitName?_eq_givenName?_iff d
  obtain ⟨hbefore, -⟩ := hinsert [] bad [good] rfl hbad
  obtain ⟨hafter, hname⟩ := hinsert [good] bad [] rfl hbad
  obtain ⟨-, hfallback, -⟩ := explicitName?_eq_givenName?_iff before
  refine ⟨hbad, hhidden, ?_, ?_, ?_, ?_, (hname {}).trans rfl⟩
  · exact (explicitName?_eq_givenName?_iff after).1.1 rfl
  · exact fun heq => absurd (hbefore.1 heq) (by decide)
  · exact hafter.2 (Or.inl ⟨good, List.mem_singleton.2 rfl, rfl⟩)
  · rw [(hfallback hhidden).2]
    rfl

/-- The name that the second annotation gives is not found, since the first one is malformed. -/
theorem explicitName?_ne_givenName?_malformed :
    let d : Declaration :=
      { annotations := [.tagged .rename (.int 42), .tagged .rename (.text "Good")] }
    d.explicitName? = none ∧ d.givenName? = some "Good" :=
  ⟨rfl, rfl⟩

end Declaration

end SwiftText
