import SwiftText.Proofs.Registry.Log
import SwiftText.Session

/-!
# Journals of sessions

What the steps of a session do, as three logs: of declarations, of options and of resolvers. A
journal finds the objects that the names of a step stand for in its own logs, so it tells what has
been assigned to which object without a session.

* `Journal.record`: a journal after one more step. Steps that only ask leave it as it is, and so do
  steps that use a name which nothing is bound to.
* `Journal.session`: the session that a journal leads to.
* `fst_step_session`: recording a step leads to the session after the step.
* `after_eq_session`: a run leads to the session of its journal.
-/

namespace SwiftText

open Registry

/-! ## What is written to objects -/

/-- The links from a declaration to others. -/
inductive Link where
  | enclosing
  | moduleClass
  deriving DecidableEq

namespace Declaration

/-- Where a link leads. -/
def target? (d : Declaration) : Link → Option Nat
  | .enclosing => d.enclosing
  | .moduleClass => d.moduleClass

/-- What can be written to a declaration. -/
inductive Write where
  | name (v : Value)
  | link (l : Link) (target : Option Nat)
  | annotated (a : Annotation)
  /-- The annotation at an index is deleted, if there is one. -/
  | deletion (index : Int)

/-- A declaration after something is written to it. -/
def write : Write → Declaration → Declaration
  | .name v, d => { d with name := v }
  | .link .enclosing target, d => { d with enclosing := target }
  | .link .moduleClass target, d => { d with moduleClass := target }
  | .annotated a, d => d.annotate a
  | .deletion index, d => (d.unannotate? index).getD d

end Declaration

/-- Options after an entry is assigned to them; an entry that cannot be assigned changes nothing. -/
def Options.write (entry : String × Value) (o : Options) : Options :=
  match o.assign entry.1 entry.2 with
  | .ok p => p
  | .error _ => o

/-- Nothing can be written to a resolver. -/
def Resolver.write (w : Empty) : Nat → Nat := nomatch w

/-! ## Steps that only ask -/

/-- Whether a step only asks. -/
def Step.asks : Step → Bool
  | .alter .. | .compareAnnotations .. | .compareDeclarations .. | .isModuleClass ..
  | .findTagged .. | .explicitName .. | .nameBy .. | .nameUnder .. | .compareOptions ..
  | .enumCase .. => true
  | _ => false

namespace Session

/-- The session and the reply that an attempt leads to; a fault leaves the session as it is. -/
def outcome (s : Session) : Except Fault (Session × Reply) → Session × Reply
  | .ok r => r
  | .error f => (s, .error f)

theorem step_eq_outcome (s : Session) (x : Step) : s.step x = s.outcome (s.attempt x) := by
  rw [step]
  cases s.attempt x <;> rfl

theorem fst_outcome_bind {s : Session} {γ : Type} (r : Except Fault γ)
    {k : γ → Except Fault (Session × Reply)} (h : ∀ a, (s.outcome (k a)).1 = s) :
    (s.outcome (r >>= k)).1 = s := by
  cases r with
  | error f => rfl
  | ok a => exact h a

/-- **A step that only asks leaves the session as it is.** -/
theorem fst_step_of_asks {x : Step} (h : x.asks = true) (s : Session) : (s.step x).1 = s := by
  rw [step_eq_outcome]
  cases x with
  | alter declaration index field =>
    refine fst_outcome_bind _ fun p => ?_
    dsimp only
    split <;> rfl
  | compareAnnotations declaration i j =>
    refine fst_outcome_bind _ fun p => ?_
    dsimp only
    split <;> rfl
  | compareDeclarations a b => exact fst_outcome_bind _ fun p => fst_outcome_bind _ fun q => rfl
  | isModuleClass declaration =>
    refine fst_outcome_bind _ fun p => ?_
    dsimp only
    split <;> rfl
  | findTagged declaration typeName =>
    refine fst_outcome_bind _ fun p => ?_
    dsimp only
    split <;> rfl
  | explicitName declaration => exact fst_outcome_bind _ fun p => rfl
  | nameBy declaration resolver => exact fst_outcome_bind _ fun p => fst_outcome_bind _ fun o => rfl
  | nameUnder declaration options =>
    exact fst_outcome_bind _ fun p => fst_outcome_bind _ fun o => rfl
  | compareOptions a b => exact fst_outcome_bind _ fun p => fst_outcome_bind _ fun q => rfl
  | enumCase resolver raw => exact fst_outcome_bind _ fun o => rfl
  | _ => cases h

end Session

/-! ## Journals -/

/-- What has happened to declarations. -/
abbrev DeclarationLog := Log Declaration Declaration.Write

/-- What has happened to options. -/
abbrev OptionsLog := Log Options (String × Value)

/-- What has happened in a session. -/
structure Journal where
  declarations : DeclarationLog := .empty
  options : OptionsLog := .empty
  /-- The resolvers, each made as the handle of its options. -/
  resolvers : Log Nat Empty := .empty

namespace Journal

/-- The object that an optional name stands for; nothing if the name is not bound. -/
def target? (J : Journal) : Option String → Option (Option Nat)
  | none => some none
  | some name => (J.declarations.bound? name).map some

/-- The journal after something is written to the declaration of a name. -/
def write (J : Journal) (declaration : String) (w : Declaration.Write) : Journal :=
  match J.declarations.bound? declaration with
  | none => J
  | some i => { J with declarations := J.declarations.written i w }

/-- The journal after a link of the declaration of a name is assigned. -/
def link (J : Journal) (declaration : String) (l : Link) (target : Option String) : Journal :=
  match J.target? target with
  | none => J
  | some t => J.write declaration (.link l t)

/-- The journal after a step. -/
def record (J : Journal) : Step → Journal
  | .declare id sort name annotations enclosing moduleClass =>
    match J.target? enclosing, J.target? moduleClass with
    | some enclosing, some moduleClass =>
      let d : Declaration := { sort, name, annotations, enclosing, moduleClass }
      { J with declarations := J.declarations.made (some id) d }
    | _, _ => J
  | .rename declaration name => J.write declaration (.name name)
  | .enclose declaration target => J.link declaration .enclosing target
  | .designate declaration target => J.link declaration .moduleClass target
  | .annotate declaration added => J.write declaration (.annotated added)
  | .unannotate declaration index => J.write declaration (.deletion index)
  | .configure id entries =>
    match Options.ofValue entries with
    | .error _ => J
    | .ok o => { J with options := J.options.made (some id) o }
  | .assign id key value =>
    match J.options.bound? id with
    | none => J
    | some i => { J with options := J.options.written i (key, value) }
  | .makeResolver id none =>
    { J with
      options := J.options.made none {}
      resolvers := J.resolvers.made (some id) J.options.size }
  | .makeResolver id (some name) =>
    match J.options.bound? name with
    | none => J
    | some i => { J with resolvers := J.resolvers.made (some id) i }
  | _ => J

/-- The journal of a run. -/
def ofSteps (steps : List Step) : Journal := steps.foldl record {}

/-- The session that a journal leads to. -/
def session (J : Journal) : Session where
  declarations := J.declarations.replay Declaration.write
  options := J.options.replay Options.write
  resolvers := J.resolvers.replay Resolver.write

/-! ## Names -/

variable {α β : Type} {act : β → α → α} {log : Log α β} {name : String}

theorem find_of_bound?_eq_none (h : log.bound? name = none) :
    (log.replay act).find name = .error (.unbound name) := by
  rw [Registry.find, Log.handle?_replay, h]

theorem find_of_bound?_eq_some {i : Nat} {x : α} (h : log.bound? name = some i)
    (hx : log.content? act i = some x) : (log.replay act).find name = .ok (i, x) := by
  simp only [Registry.find, Log.handle?_replay, h, Log.get?_replay, hx]

/-- What a name stands for, in a journal and in its session. -/
theorem find_cases (act : β → α → α) (log : Log α β) (name : String) :
    (log.bound? name = none ∧ (log.replay act).find name = .error (.unbound name)) ∨
      ∃ i x, log.bound? name = some i ∧ log.content? act i = some x ∧
        (log.replay act).find name = .ok (i, x) := by
  cases h : log.bound? name with
  | none => exact Or.inl ⟨rfl, find_of_bound?_eq_none h⟩
  | some i =>
    obtain ⟨x, hx⟩ := Log.exists_content?_of_lt act (Log.lt_size_of_bound? h)
    exact Or.inr ⟨i, x, rfl, hx, find_of_bound?_eq_some h hx⟩

theorem findHandle?_session (J : Journal) (target : Option String) :
    (∃ f, J.target? target = none ∧ J.session.declarations.findHandle? target = .error f) ∨
      ∃ t, J.target? target = some t ∧ J.session.declarations.findHandle? target = .ok t := by
  cases target with
  | none => exact Or.inr ⟨none, rfl, rfl⟩
  | some name =>
    rcases find_cases Declaration.write J.declarations name with ⟨hb, hf⟩ | ⟨i, d, hb, -, hf⟩
    · refine Or.inl ⟨.unbound name, ?_, ?_⟩
      · rw [target?, hb, Option.map_none]
      · rw [session, findHandle?, hf]
        rfl
    · refine Or.inr ⟨some i, ?_, ?_⟩
      · rw [target?, hb, Option.map_some]
      · rw [session, findHandle?, hf]
        rfl

/-! ## Steps -/

theorem record_of_asks {x : Step} (h : x.asks = true) (J : Journal) : J.record x = J := by
  cases x <;> first | rfl | cases h

theorem declarations_session (J : Journal) :
    J.session.declarations = J.declarations.replay Declaration.write := rfl

theorem options_session (J : Journal) : J.session.options = J.options.replay Options.write := rfl

/-- A step that finds a declaration and changes it in place comes to one entry of the log. -/
theorem fst_outcome_write (J : Journal) (declaration : String) (w : Declaration.Write)
    {k : Nat × Declaration → Except Fault (Session × Reply)}
    (h : ∀ i d, J.declarations.content? Declaration.write i = some d →
      (J.session.outcome (k (i, d))).1 = J.session.change i (Declaration.write w)) :
    (J.session.outcome (J.session.declarations.find declaration >>= k)).1 =
      (J.write declaration w).session := by
  rw [write]
  rcases find_cases Declaration.write J.declarations declaration with
    ⟨hb, hf⟩ | ⟨i, d, hb, hd, hf⟩
  · rw [declarations_session, hf, hb]
    rfl
  · rw [declarations_session, hf, hb]
    exact h i d hd

theorem fst_outcome_link (J : Journal) (declaration : String) (l : Link) (target : Option String)
    {k : Nat × Declaration → Option Nat → Except Fault (Session × Reply)}
    (h : ∀ i d t, (J.session.outcome (k (i, d) t)).1 =
      J.session.change i (Declaration.write (.link l t))) :
    (J.session.outcome (J.session.declarations.find declaration >>= fun p =>
        J.session.declarations.findHandle? target >>= k p)).1 =
      (J.link declaration l target).session := by
  rw [link]
  rcases findHandle?_session J target with ⟨f, ht, hf⟩ | ⟨t, ht, hf⟩
  · rw [hf, ht]
    exact Session.fst_outcome_bind _ fun _ => rfl
  · rw [hf, ht]
    exact fst_outcome_write J declaration _ fun i d _ => h i d t

theorem fst_step_declare (J : Journal) (id : String) (sort : DeclarationSort) (name : Value)
    (annotations : List Annotation) (enclosing moduleClass : Option String) :
    (J.session.step (.declare id sort name annotations enclosing moduleClass)).1 =
      (J.record (.declare id sort name annotations enclosing moduleClass)).session := by
  rw [Session.step_eq_outcome, Session.attempt, record]
  rcases findHandle?_session J enclosing with ⟨f, ht, hf⟩ | ⟨t, ht, hf⟩
  · rw [hf, ht]
    rfl
  · rcases findHandle?_session J moduleClass with ⟨f, hu, hg⟩ | ⟨u, hu, hg⟩
    · rw [hf, ht, hg, hu]
      rfl
    · rw [hf, ht, hg, hu]
      rfl

theorem fst_step_unannotate (J : Journal) (declaration : String) (index : Int) :
    (J.session.step (.unannotate declaration index)).1 =
      (J.record (.unannotate declaration index)).session := by
  rw [Session.step_eq_outcome, Session.attempt, record]
  refine fst_outcome_write J declaration (.deletion index) fun i d hd => ?_
  have hget : J.session.declarations.get? i = some d := by
    rw [declarations_session, Log.get?_replay, hd]
  dsimp only
  cases hdel : d.unannotate? index with
  | none =>
    have hsame : Declaration.write (.deletion index) d = d := by rw [Declaration.write, hdel]; rfl
    rw [Session.change, modify_eq_self hget hsame]
    rfl
  | some d' =>
    have hwrite : Declaration.write (.deletion index) d = d' := by
      rw [Declaration.write, hdel]
      rfl
    rw [Session.change, modify_congr (g := fun _ => d') hget hwrite]
    rfl

theorem fst_step_assign (J : Journal) (id key : String) (value : Value) :
    (J.session.step (.assign id key value)).1 = (J.record (.assign id key value)).session := by
  rw [Session.step_eq_outcome, Session.attempt, record]
  rcases find_cases Options.write J.options id with ⟨hb, hf⟩ | ⟨i, o, hb, ho, hf⟩
  · rw [options_session, hf, hb]
    rfl
  · have hget : J.session.options.get? i = some o := by rw [options_session, Log.get?_replay, ho]
    have hwritten : ({ J with options := J.options.written i (key, value) } : Journal).session =
        { J.session with options := J.session.options.modify i (Options.write (key, value)) } := rfl
    rw [options_session, hf, hb, ← options_session, hwritten]
    dsimp only [bind, Except.bind]
    cases hset : o.assign key value with
    | error f =>
      have hsame : Options.write (key, value) o = o := by rw [Options.write, hset]
      rw [modify_eq_self hget hsame]
      rfl
    | ok p =>
      have hwrite : Options.write (key, value) o = p := by rw [Options.write, hset]
      rw [modify_congr (g := fun _ => p) hget hwrite]
      rfl

theorem fst_step_makeResolver (J : Journal) (id : String) (options : Option String) :
    (J.session.step (.makeResolver id options)).1 =
      (J.record (.makeResolver id options)).session := by
  rw [Session.step_eq_outcome]
  cases options with
  | none =>
    rw [record, ← Log.fresh_replay Options.write]
    rfl
  | some name =>
    rw [Session.attempt, record]
    rcases find_cases Options.write J.options name with ⟨hb, hf⟩ | ⟨i, o, hb, -, hf⟩
    · rw [options_session, hf, hb]
      rfl
    · rw [options_session, hf, hb]
      rfl

/-- **Recording a step leads to the session after the step.** -/
theorem fst_step_session (J : Journal) (x : Step) :
    (J.session.step x).1 = (J.record x).session := by
  by_cases hasks : x.asks = true
  · rw [Session.fst_step_of_asks hasks, record_of_asks hasks]
  · cases x with
    | declare id sort name annotations enclosing moduleClass => exact fst_step_declare J ..
    | rename declaration name =>
      rw [Session.step_eq_outcome]
      exact fst_outcome_write J declaration (.name name) fun _ _ _ => rfl
    | enclose declaration target =>
      rw [Session.step_eq_outcome]
      exact fst_outcome_link J declaration .enclosing target fun _ _ _ => rfl
    | designate declaration target =>
      rw [Session.step_eq_outcome]
      exact fst_outcome_link J declaration .moduleClass target fun _ _ _ => rfl
    | annotate declaration added =>
      rw [Session.step_eq_outcome]
      exact fst_outcome_write J declaration (.annotated added) fun _ _ _ => rfl
    | unannotate declaration index => exact fst_step_unannotate J ..
    | configure id entries =>
      rw [Session.step_eq_outcome, Session.attempt, record]
      cases Options.ofValue entries <;> rfl
    | assign id key value => exact fst_step_assign J ..
    | makeResolver id options => exact fst_step_makeResolver J ..
    | _ => exact absurd rfl hasks

theorem ofSteps_append (before after : List Step) :
    ofSteps (before ++ after) = after.foldl record (ofSteps before) := by
  rw [ofSteps, List.foldl_append, ofSteps]

/-- **A run leads to the session of its journal.** -/
theorem after_eq_session (steps : List Step) :
    Session.after {} steps = (ofSteps steps).session := by
  suffices h : ∀ J : Journal, J.session.after steps = (steps.foldl record J).session from h {}
  induction steps with
  | nil => exact fun J => rfl
  | cons x steps ih =>
    intro J
    rw [Session.after, List.foldl_cons, List.foldl_cons, fst_step_session]
    exact ih (J.record x)

end Journal

end SwiftText
