import SwiftText.Proofs.Declaration.Kind
import SwiftText.Proofs.Session.Naming

/-!
# Equal annotations in a session

The annotations of a declaration can be replaced by equal ones without a change to any name in the
session: an annotation that equals a renaming one gives the same text, character for character, and
one that equals a malformed one is malformed.

* `Session.NamedAlike`: two sessions whose declarations are named from the same data. All replies
  about names are the same in both.
* `Session.namedAlike_relabel`: equal annotations in place of others lead to such a session.
* `equivalence_same_and_names`: equality of annotations is an equivalence that names respect.
-/

namespace SwiftText

open Registry

namespace Session

/-- Two sessions that differ in the annotations of declarations at most, and not in the names that
these give. -/
structure NamedAlike (s s' : Session) : Prop where
  handle? : s'.declarations.handle? = s.declarations.handle?
  get? : ∀ i, Option.Rel (fun d e => d.name = e.name ∧ d.explicitName? = e.explicitName?)
    (s.declarations.get? i) (s'.declarations.get? i)
  isModuleClass : ∀ i, isModuleClass s'.declarations i = isModuleClass s.declarations i
  optionsOf : s'.optionsOf = s.optionsOf
  optionsOr : s'.optionsOr = s.optionsOr

variable {s s' : Session}

namespace NamedAlike

/-- What a name stands for in both sessions. -/
theorem find_cases (h : s.NamedAlike s') (declaration : String) :
    (∃ f, s.declarations.find declaration = .error f ∧
        s'.declarations.find declaration = .error f) ∨
      ∃ i d e, s.declarations.find declaration = .ok (i, d) ∧
        s'.declarations.find declaration = .ok (i, e) ∧
        d.name = e.name ∧ d.explicitName? = e.explicitName? := by
  simp only [find, h.handle?]
  cases s.declarations.handle? declaration with
  | none => exact Or.inl ⟨_, rfl, rfl⟩
  | some i =>
    have hget := h.get? i
    dsimp only
    generalize s.declarations.get? i = d at hget ⊢
    generalize s'.declarations.get? i = e at hget ⊢
    cases hget with
    | none => exact Or.inl ⟨_, rfl, rfl⟩
    | some hsame => exact Or.inr ⟨i, _, _, rfl, rfl, hsame⟩

theorem nameOfHandle_eq (h : s.NamedAlike s') (o : Options) (i : Nat) {d e : Declaration}
    (hname : d.name = e.name) (hexplicit : d.explicitName? = e.explicitName?) :
    Resolver.nameOfHandle o s'.declarations i e = Resolver.nameOfHandle o s.declarations i d := by
  rw [Resolver.nameOfHandle, Resolver.nameOfHandle, h.isModuleClass,
    Resolver.nameOf_congr hname hexplicit]

/-- Each declaration has the same name in both sessions, under any options. -/
theorem nameOf?_eq (h : s.NamedAlike s') (i : Nat) (o : Options) :
    s'.nameOf? i o = s.nameOf? i o := by
  have hget := h.get? i
  rw [nameOf?, nameOf?]
  generalize s.declarations.get? i = d at hget ⊢
  generalize s'.declarations.get? i = e at hget ⊢
  cases hget with
  | none => rfl
  | some hsame => exact congrArg some (h.nameOfHandle_eq o i hsame.1 hsame.2)

theorem nameReply_eq (h : s.NamedAlike s') (declaration : String) (o : Options) :
    s'.nameReply declaration o = s.nameReply declaration o := by
  rw [nameReply, nameReply]
  rcases h.find_cases declaration with ⟨f, hf, hf'⟩ | ⟨i, d, e, hd, he, hname, hexplicit⟩
  · rw [hf, hf']
    rfl
  · rw [hd, he]
    exact h.nameOfHandle_eq o i hname hexplicit

theorem snd_step_explicitName (h : s.NamedAlike s') (declaration : String) :
    (s'.step (.explicitName declaration)).2 = (s.step (.explicitName declaration)).2 := by
  rw [step, attempt, step, attempt]
  rcases h.find_cases declaration with ⟨f, hf, hf'⟩ | ⟨i, d, e, hd, he, -, hexplicit⟩
  · rw [hf, hf']
    rfl
  · rw [hd, he]
    exact congrArg (fun name => Except.ok (optionalText name)) hexplicit.symm

theorem snd_step_nameBy (h : s.NamedAlike s') (declaration resolver : String) :
    (s'.step (.nameBy declaration resolver)).2 = (s.step (.nameBy declaration resolver)).2 := by
  cases ho : s.optionsOf resolver with
  | ok o =>
    have ho' : s'.optionsOf resolver = .ok o := by rw [h.optionsOf, ho]
    rw [Session.snd_step_nameBy ho, Session.snd_step_nameBy ho', h.nameReply_eq]
  | error f =>
    rw [step, attempt, step, attempt, h.optionsOf, ho]
    rcases h.find_cases declaration with ⟨f, hf, hf'⟩ | ⟨i, d, e, hd, he, -⟩
    · rw [hf, hf']
      rfl
    · rw [hd, he]
      rfl

theorem snd_step_nameUnder (h : s.NamedAlike s') (declaration : String) (options : Option String) :
    (s'.step (.nameUnder declaration options)).2 = (s.step (.nameUnder declaration options)).2 := by
  cases ho : s.optionsOr options with
  | ok o =>
    have ho' : s'.optionsOr options = .ok o := by rw [h.optionsOr, ho]
    rw [Session.snd_step_nameUnder ho, Session.snd_step_nameUnder ho', h.nameReply_eq]
  | error f =>
    rw [step, attempt, step, attempt, h.optionsOr, ho]
    rcases h.find_cases declaration with ⟨f, hf, hf'⟩ | ⟨i, d, e, hd, he, -⟩
    · rw [hf, hf']
      rfl
    · rw [hd, he]
      rfl

end NamedAlike

variable {c : Nat} {d : Declaration} {as : List Annotation}

/-- **Annotations that give the same name in place of others change no name.** -/
theorem namedAlike_relabel (hd : s.declarations.get? c = some d)
    (hexplicit : ({ d with annotations := as } : Declaration).explicitName? = d.explicitName?) :
    s.NamedAlike (s.relabel c d.name as) where
  handle? := rfl
  get? i := by
    by_cases hi : c = i
    · subst hi
      rw [get?_relabel_self, hd]
      exact .some ⟨rfl, hexplicit.symm⟩
    · have hget : (s.relabel c d.name as).declarations.get? i = s.declarations.get? i :=
        get?_modify_of_ne _ _ hi
      rw [hget]
      cases s.declarations.get? i with
      | none => exact .none
      | some e => exact .some ⟨rfl, rfl⟩
  isModuleClass := isModuleClass_relabel s c d.name as
  optionsOf := rfl
  optionsOr := rfl

end Session

/-- **Equality of annotations is an equivalence that names respect.** A tag equals the text that is
its type name and nothing else. With equal annotations in place of those of a declaration, the
searches for any kind find equal annotations, or none as before; the name that the annotations give
is the same text, or none as before; and every declaration of the session has the name that it had,
under any options, in all replies about it. -/
theorem equivalence_same_and_names :
    (Equivalence fun a b : { a : Annotation // a.WellFormed } => a.1.same b.1 = true) ∧
    (∀ t v a, Annotation.same (.tagged t v) a = true ↔
      a.kind = .text t.typeName ∧ v.same a.value = true) ∧
    ∀ (d : Declaration) (as : List Annotation),
      (∀ a ∈ d.annotations, a.WellFormed) → (∀ a ∈ as, a.WellFormed) →
      List.Forall₂ (fun a b => a.same b = true) d.annotations as →
      let e : Declaration := { d with annotations := as }
      (∀ k, Option.Rel (fun a b => a.same b = true) (d.firstOfKind? k) (e.firstOfKind? k)) ∧
      (∀ t, Option.Rel (fun a b => a.same b = true) (d.firstTagged? t) (e.firstTagged? t)) ∧
      e.explicitName? = d.explicitName? ∧
      ∀ (s : Session) (c : Nat), s.declarations.get? c = some d →
        let s' := s.relabel c d.name as
        s'.declarations.get? c = some e ∧
        (∀ i o, s'.nameOf? i o = s.nameOf? i o) ∧
        ∀ declaration,
          (s'.step (.explicitName declaration)).2 = (s.step (.explicitName declaration)).2 ∧
          (∀ resolver, (s'.step (.nameBy declaration resolver)).2 =
            (s.step (.nameBy declaration resolver)).2) ∧
          ∀ options, (s'.step (.nameUnder declaration options)).2 =
            (s.step (.nameUnder declaration options)).2 := by
  refine ⟨⟨?refl, ?symm, ?trans⟩, fun _ _ _ => Annotation.same_tagged_iff, ?names⟩
  case refl => exact fun a => Annotation.same_refl a.2
  case symm => exact fun {a b} h => Annotation.same_symm a.2 b.2 h
  case trans => exact fun {a b c} h h' => Annotation.same_trans a.2 h h'
  case names =>
    intro d as hd has h e
    have hfound := Declaration.rel_firstOfKind? h hd has
    have hexplicit : e.explicitName? = d.explicitName? := Declaration.explicitName?_congr h hd has
    refine ⟨hfound, fun t => hfound (.text t.typeName), hexplicit, ?_⟩
    intro s c hc s'
    have halike : s.NamedAlike s' := Session.namedAlike_relabel hc hexplicit
    refine ⟨?_, halike.nameOf?_eq, fun declaration => ⟨?_, ?_, ?_⟩⟩
    · rw [Session.get?_relabel_self, hc]
      rfl
    · exact halike.snd_step_explicitName declaration
    · exact halike.snd_step_nameBy declaration
    · exact halike.snd_step_nameUnder declaration

/-- A property keeps its given name when the tag of the annotation becomes the text that is its type
name; a kind that is a list of a truth value and a record may become one of an integer and a record
in another order. -/
theorem equivalence_same_and_names_nested :
    let kind : Value := .list [.bool true, .record [("a", .int 0), ("b", .null)]]
    let kind' : Value := .list [.int 1, .record [("b", .null), ("a", .bool false)]]
    let d : Declaration :=
      { sort := .property, name := .text "my-prop",
        annotations := [⟨kind, .int 1⟩, .tagged .rename (.text "Good")] }
    let as : List Annotation := [⟨kind', .bool true⟩, ⟨.text "swift.Name", .text "Good"⟩]
    let s := Session.after {} [.declare "p" .property d.name d.annotations none none]
    let s' := s.relabel 0 d.name as
    d.firstOfKind? kind' = some ⟨kind, .int 1⟩ ∧
      (s.step (.nameUnder "p" none)).2 = .ok (.text "Good") ∧
      (s'.step (.nameUnder "p" none)).2 = .ok (.text "Good") ∧
      (s'.step (.explicitName "p")).2 = .ok (.text "Good") := by
  intro kind kind' d as s s'
  obtain ⟨-, -, hnames⟩ := equivalence_same_and_names
  have hd : ∀ a ∈ d.annotations, a.WellFormed := by
    simp [d, kind, Annotation.tagged, Annotation.wellFormed_iff]
  have has : ∀ a ∈ as, a.WellFormed := by simp [as, kind', Annotation.wellFormed_iff]
  obtain ⟨-, -, -, hreplies⟩ := hnames d as hd has (.cons rfl (.cons rfl .nil))
  obtain ⟨-, -, hreply⟩ := hreplies s 0 rfl
  obtain ⟨hexplicit, -, hname⟩ := hreply "p"
  exact ⟨rfl, rfl, (hname none).trans rfl, hexplicit.trans rfl⟩

end SwiftText
