import SwiftText.Proofs.Session.Journal

/-!
# Entries of a journal

All that a step can add to a journal, said once, so that what steps preserve is a matter of a few
cases: a declaration is made or written to, options are made or assigned to, a resolver is made.

* `Journal.Entry`: the cases, with what is known of the objects that the entry refers to.
* `Journal.entry_record`: what a step adds is one of them.
-/

namespace SwiftText

open Registry

/-- What a write gives to a link, if it does. -/
def Declaration.Write.given? (l : Link) : Declaration.Write → Option (Option Nat)
  | .link l' target => if l' = l then some target else none
  | _ => none

/-- Whether a step assigns a link. -/
def Step.setsLink : Step → Bool
  | .enclose .. | .designate .. => true
  | _ => false

namespace Journal

open Declaration

/-- What a step assigns to the options with a handle. -/
def assigned (J : Journal) (C : Nat) : Step → List (String × Value)
  | .assign id key value => if J.options.bound? id = some C then [(key, value)] else []
  | _ => []

/-- What a step can make of a journal. Links are given declarations that exist, and those of a
declaration that exists are given something only by the steps that assign links. -/
inductive Entry (J : Journal) : Step → Journal → Prop where
  | nothing {x : Step} (h : ∀ C, J.assigned C x = []) : Entry J x J
  | declared {x : Step} (h : ∀ C, J.assigned C x = []) (id : String) (d : Declaration)
      (hd : ∀ l t, d.target? l = some t → t < J.declarations.size) :
      Entry J x { J with declarations := J.declarations.made (some id) d }
  | written {x : Step} (h : ∀ C, J.assigned C x = []) (i : Nat) (w : Write)
      (hw : ∀ l t, w.given? l = some (some t) → t < J.declarations.size)
      (hsets : x.setsLink = false → ∀ l, w.given? l = none) :
      Entry J x { J with declarations := J.declarations.written i w }
  | configured (id : String) (entries : Value) (o : Options) :
      Entry J (.configure id entries) { J with options := J.options.made (some id) o }
  | assigned {id : String} {i : Nat} (h : J.options.bound? id = some i) (key : String)
      (value : Value) :
      Entry J (.assign id key value) { J with options := J.options.written i (key, value) }
  | resolverAlone (id : String) :
      Entry J (.makeResolver id none)
        { J with
          options := J.options.made none {}
          resolvers := J.resolvers.made (some id) J.options.size }
  | resolver {name : String} {i : Nat} (h : J.options.bound? name = some i) (id : String) :
      Entry J (.makeResolver id (some name))
        { J with resolvers := J.resolvers.made (some id) i }

variable {J : Journal} {x : Step}

theorem lt_size_of_target? {target : Option String} {t : Nat}
    (h : J.target? target = some (some t)) : t < J.declarations.size := by
  cases target with
  | none => cases h
  | some name =>
    obtain ⟨i, hi, ht⟩ := Option.map_eq_some_iff.1 h
    obtain rfl := Option.some.inj ht
    exact Log.lt_size_of_bound? hi

/-- A write that gives nothing to links. -/
theorem entry_write (J : Journal) (declaration : String) {w : Write}
    (h : ∀ C, J.assigned C x = []) (hw : ∀ l, w.given? l = none) :
    J.Entry x (J.write declaration w) := by
  rw [write]
  cases J.declarations.bound? declaration with
  | none => exact .nothing h
  | some i =>
    refine .written h i w (fun l t ht => ?_) fun _ => hw
    rw [hw l] at ht
    cases ht

theorem entry_link (J : Journal) (declaration : String) (l : Link) (target : Option String)
    (h : ∀ C, J.assigned C x = []) (hsets : x.setsLink = true) :
    J.Entry x (J.link declaration l target) := by
  rw [link]
  cases ht : J.target? target with
  | none => exact .nothing h
  | some t =>
    simp only [write]
    cases J.declarations.bound? declaration with
    | none => exact .nothing h
    | some i =>
      refine .written h i _ (fun l' t' ht' => ?_) (by simp [hsets])
      rw [Write.given?] at ht'
      split at ht'
      · obtain rfl := Option.some.inj ht'
        exact lt_size_of_target? ht
      · cases ht'

theorem entry_declare (J : Journal) (id : String) (sort : DeclarationSort) (name : Value)
    (annotations : List Annotation) (enclosing moduleClass : Option String) :
    J.Entry (.declare id sort name annotations enclosing moduleClass)
      (J.record (.declare id sort name annotations enclosing moduleClass)) := by
  rw [record]
  cases hu : J.target? enclosing with
  | none => exact .nothing fun _ => rfl
  | some u =>
    cases hv : J.target? moduleClass with
    | none => exact .nothing fun _ => rfl
    | some v =>
      refine .declared (fun _ => rfl) id _ fun l t ht => ?_
      cases l with
      | enclosing =>
        obtain rfl : u = some t := ht
        exact lt_size_of_target? hu
      | moduleClass =>
        obtain rfl : v = some t := ht
        exact lt_size_of_target? hv

/-- **All that a step can add to a journal.** -/
theorem entry_record (J : Journal) (x : Step) : J.Entry x (J.record x) := by
  cases x with
  | declare id sort name annotations enclosing moduleClass => exact entry_declare J ..
  | rename declaration name => exact entry_write J declaration (fun _ => rfl) fun _ => rfl
  | enclose declaration target => exact entry_link J declaration _ target (fun _ => rfl) rfl
  | designate declaration target => exact entry_link J declaration _ target (fun _ => rfl) rfl
  | annotate declaration added => exact entry_write J declaration (fun _ => rfl) fun _ => rfl
  | unannotate declaration index => exact entry_write J declaration (fun _ => rfl) fun _ => rfl
  | configure id entries =>
    rw [record]
    cases Options.ofValue entries with
    | error f => exact .nothing fun _ => rfl
    | ok o => exact .configured id entries o
  | assign id key value =>
    rw [record]
    cases h : J.options.bound? id with
    | none => exact .nothing fun C => by rw [Journal.assigned, h, if_neg (by simp)]
    | some i => exact .assigned h key value
  | makeResolver id options =>
    cases options with
    | none => exact .resolverAlone id
    | some name =>
      rw [record]
      cases h : J.options.bound? name with
      | none => exact .nothing fun _ => rfl
      | some i => exact .resolver h id
  | _ => exact .nothing fun _ => rfl

end Journal

end SwiftText
