import SwiftText.Session

/-!
# Asking for names

The name of a declaration is asked for by a step, under the options of a resolver or under options
of a name of their own. All these questions come to the same once the options are found.

* `Session.nameReply`: the reply for the declaration of a name under given options. Both questions
  have it (`Session.snd_step_nameBy`, `Session.snd_step_nameUnder`).
* `Session.nameOf?`: the name of the object with a handle, which does not depend on what it is asked
  for by (`Session.nameOf?_eq_nameReply`).
-/

namespace SwiftText.Session

open Registry

/-- The reply to the question for the name of a declaration under given options. -/
def nameReply (s : Session) (declaration : String) (o : Options) : Reply := do
  let (i, d) ← s.declarations.find declaration
  Resolver.nameOfHandle o s.declarations i d

/-- The name of the declaration with a handle under given options, if there is one. -/
def nameOf? (s : Session) (i : Nat) (o : Options) : Option Reply :=
  (s.declarations.get? i).map (Resolver.nameOfHandle o s.declarations i)

variable {s : Session} {o : Options}

theorem snd_step_nameBy {resolver : String} (h : s.optionsOf resolver = .ok o)
    (declaration : String) :
    (s.step (.nameBy declaration resolver)).2 = s.nameReply declaration o := by
  rw [step, attempt, h, nameReply]
  cases s.declarations.find declaration <;> rfl

theorem snd_step_nameUnder {options : Option String} (h : s.optionsOr options = .ok o)
    (declaration : String) :
    (s.step (.nameUnder declaration options)).2 = s.nameReply declaration o := by
  rw [step, attempt, h, nameReply]
  cases s.declarations.find declaration <;> rfl

theorem nameOf?_eq_nameReply {declaration : String} {i : Nat} {d : Declaration}
    (hname : s.declarations.handle? declaration = some i) (hd : s.declarations.get? i = some d) :
    s.nameOf? i o = some (s.nameReply declaration o) := by
  simp only [nameOf?, nameReply, find, hname, hd, Option.map_some]
  rfl

/-! ## Other names and annotations -/

/-- The session with another name and other annotations for a declaration. -/
def relabel (s : Session) (i : Nat) (name : Value) (annotations : List Annotation) : Session :=
  s.change i fun d => { d with name, annotations }

variable {i : Nat} {name : Value} {annotations : List Annotation}

theorem get?_relabel_self (s : Session) (i : Nat) (name : Value) (annotations : List Annotation) :
    (s.relabel i name annotations).declarations.get? i =
      (s.declarations.get? i).map fun d => { d with name, annotations } :=
  get?_modify_self ..

/-- Whether a class is the class of a module does not depend on names and annotations. -/
theorem isModuleClass_relabel (s : Session) (i : Nat) (name : Value)
    (annotations : List Annotation) (c : Nat) :
    isModuleClass (s.relabel i name annotations).declarations c =
      isModuleClass s.declarations c := by
  have hget : ∀ j, ∃ f : Declaration → Declaration,
      (s.relabel i name annotations).declarations.get? j = (s.declarations.get? j).map f ∧
        ∀ d, (f d).sort = d.sort ∧ (f d).enclosing = d.enclosing ∧
          (f d).moduleClass = d.moduleClass := by
    intro j
    by_cases h : i = j
    · subst h
      exact ⟨_, get?_relabel_self .., fun d => ⟨rfl, rfl, rfl⟩⟩
    · refine ⟨id, ?_, fun d => ⟨rfl, rfl, rfl⟩⟩
      rw [Option.map_id]
      exact get?_modify_of_ne _ _ h
  obtain ⟨f, hf, hsame⟩ := hget c
  rw [isModuleClass, isModuleClass, hf]
  cases s.declarations.get? c with
  | none => rfl
  | some d =>
    obtain ⟨hsort, henclosing, -⟩ := hsame d
    simp only [Option.map_some, hsort, henclosing]
    cases d.enclosing with
    | none => rfl
    | some m =>
      obtain ⟨g, hg, hsame'⟩ := hget m
      rw [Option.bind_some, Option.bind_some, hg]
      cases s.declarations.get? m with
      | none => rfl
      | some e =>
        obtain ⟨hsort', -, hmoduleClass⟩ := hsame' e
        simp only [Option.map_some, hsort', hmoduleClass]

theorem explicitName?_rename (d : Declaration) (text : String) :
    ({ d with annotations := [.tagged .rename (.text text)] } : Declaration).explicitName? =
      some text := rfl

/-- **The module classes are the classes that have the name of all module classes, whatever their
own names and annotations are.** -/
theorem isModuleClass_iff_nameOf? (s : Session) (c : Nat) (o : Options) :
    isModuleClass s.declarations c = true ↔ ∀ name annotations,
      (s.relabel c name annotations).nameOf? c o = some (.ok o.moduleTypeName) := by
  have hname : ∀ name annotations, (s.relabel c name annotations).nameOf? c o =
      (s.declarations.get? c).map fun d =>
        Resolver.nameOf o (isModuleClass s.declarations c) { d with name, annotations } := by
    intro name annotations
    rw [nameOf?, get?_relabel_self, Option.map_map, ← isModuleClass_relabel s c name annotations]
    rfl
  constructor
  · intro hclass name annotations
    obtain ⟨d, hd⟩ : ∃ d, s.declarations.get? c = some d := by
      rw [← Option.ne_none_iff_exists']
      intro hnone
      simp [isModuleClass, hnone] at hclass
    rw [hname, hd, hclass]
    rfl
  · intro h
    cases hclass : isModuleClass s.declarations c with
    | true => rfl
    | false =>
      -- a renaming annotation gives the declaration a name of its own
      obtain ⟨text, htext⟩ : ∃ text, o.moduleTypeName ≠ .text text := by
        by_cases hempty : o.moduleTypeName = .text ""
        · exact ⟨"a", by simp [hempty]⟩
        · exact ⟨"", hempty⟩
      have hgiven := h .null [.tagged .rename (.text text)]
      rw [hname, hclass] at hgiven
      obtain ⟨d, -, hd⟩ := Option.map_eq_some_iff.1 hgiven
      rw [Resolver.nameOf, if_neg Bool.false_ne_true,
        explicitName?_rename { d with name := .null }] at hd
      exact absurd (Except.ok.inj hd).symm htext

end SwiftText.Session
