import SwiftText.Proofs.Session.Entry
import SwiftText.Proofs.Session.Naming

/-!
# Resolvers over runs

A resolver keeps the handle of its options, not what they hold and not their name. So it has the
names that these options give at the time of asking, with all that was assigned to them since, and
no other assignment and no other binding of a name matters to it. The options of a resolver made
without any have no name, so nothing is ever assigned to them.

* `Journal.Reads`: a resolver, its options, and what they hold. Steps keep it up to what they assign
  to these options (`Reads.record`), and so do runs (`Reads.run`).
* `Journal.Alone`: a resolver with options of its own. Steps and runs keep it.
* `nameBy_after`: the replies of resolvers after any run are those under their options.
-/

namespace SwiftText

open Registry

/-- Options after entries are assigned to them, one after the other. -/
def Options.writeAll (o : Options) (entries : List (String × Value)) : Options :=
  entries.foldl (fun o entry => Options.write entry o) o

namespace Journal

/-! ## What steps do to options and resolvers -/

/-- What steps assign to the options with a handle, in order. -/
def assignedTo (C : Nat) : Journal → List Step → List (String × Value)
  | _, [] => []
  | J, x :: steps => J.assigned C x ++ assignedTo C (J.record x) steps

variable {J J' : Journal} {x : Step} {R C : Nat} {o : Options}

/-- Options that exist change by what is assigned to them, and by nothing else. -/
theorem Entry.content?_options (h : J.Entry x J')
    (ho : J.options.content? Options.write C = some o) :
    J'.options.content? Options.write C = some (o.writeAll (J.assigned C x)) := by
  have hne : C ≠ J.options.size := Nat.ne_of_lt (Log.lt_size_of_content? ho)
  cases h with
  | nothing hx => rw [hx C, ho]; rfl
  | declared hx id d hd => rw [hx C, ho]; rfl
  | written hx i w hw hsets => rw [hx C, ho]; rfl
  | configured id entries p => exact (Log.content?_made_of_ne (some id) p hne).trans ho
  | @assigned id i hi key value =>
    rw [Journal.assigned, hi]
    by_cases hC : C = i
    · rw [hC, Log.content?_written_self, ← hC, ho, if_pos rfl]
      rfl
    · rw [Log.content?_written_of_ne _ hC, ho, if_neg fun he => hC (Option.some.inj he).symm]
      rfl
  | resolverAlone id => exact (Log.content?_made_of_ne none {} hne).trans ho
  | resolver hi id => exact ho

/-- **A run changes options that exist by what it assigns to them**, and by nothing else. -/
theorem content?_options_run (ho : J.options.content? Options.write C = some o)
    (steps : List Step) :
    (steps.foldl record J).options.content? Options.write C =
      some (o.writeAll (J.assignedTo C steps)) := by
  induction steps generalizing J o with
  | nil => exact ho
  | cons x steps ih =>
    rw [assignedTo, Options.writeAll, List.foldl_append]
    exact ih ((entry_record J x).content?_options ho)

/-- A resolver keeps its options. -/
theorem Entry.made?_resolvers (h : J.Entry x J') (hR : J.resolvers.made? R = some C) :
    J'.resolvers.made? R = some C := by
  have hne : R ≠ J.resolvers.size := Nat.ne_of_lt (Log.lt_size_of_made? hR)
  cases h with
  | resolverAlone id => exact (Log.made?_made_of_ne (some id) _ hne).trans hR
  | resolver hi id => exact (Log.made?_made_of_ne (some id) _ hne).trans hR
  | _ => exact hR

/-- Options without a name never get one. -/
theorem Entry.bound?_options_ne (h : J.Entry x J') (hC : C < J.options.size)
    (hnone : ∀ name, J.options.bound? name ≠ some C) (name : String) :
    J'.options.bound? name ≠ some C := by
  cases h with
  | configured id entries p => exact Log.bound?_made_ne (some id) p hC (hnone name)
  | resolverAlone id => exact Log.bound?_made_ne none {} hC (hnone name)
  | _ => exact hnone name

/-! ## Resolvers and their options -/

/-- A resolver reads the options with a handle, which hold certain options now. -/
structure Reads (J : Journal) (R C : Nat) (o : Options) : Prop where
  resolver : J.resolvers.made? R = some C
  options : J.options.content? Options.write C = some o

theorem Reads.record (h : J.Reads R C o) (x : Step) :
    (J.record x).Reads R C (o.writeAll (J.assigned C x)) :=
  ⟨(entry_record J x).made?_resolvers h.resolver, (entry_record J x).content?_options h.options⟩

/-- **A resolver reads the same options all through a run**, with what is assigned to them. -/
theorem Reads.run (h : J.Reads R C o) (steps : List Step) :
    (steps.foldl Journal.record J).Reads R C (o.writeAll (J.assignedTo C steps)) where
  resolver := List.foldlRecOn (motive := fun J' : Journal => J'.resolvers.made? R = some C) steps
    Journal.record h.resolver fun J' hR x _ => (entry_record J' x).made?_resolvers hR
  options := content?_options_run h.options steps

/-- A resolver with default options that have no name. -/
structure Alone (J : Journal) (R C : Nat) : Prop extends Reads J R C {} where
  unnamed : ∀ name, J.options.bound? name ≠ some C

theorem Alone.assigned_eq_nil (h : J.Alone R C) (x : Step) : J.assigned C x = [] := by
  cases x with
  | assign id key value => exact if_neg (h.unnamed id)
  | _ => rfl

theorem Alone.record (h : J.Alone R C) (x : Step) : (J.record x).Alone R C := by
  have hreads := h.toReads.record x
  rw [h.assigned_eq_nil x] at hreads
  exact ⟨hreads,
    (entry_record J x).bound?_options_ne (Log.lt_size_of_content? h.options) h.unnamed⟩

/-- **The options of a resolver made without any stay as they are.** -/
theorem Alone.run (h : J.Alone R C) (steps : List Step) :
    (steps.foldl Journal.record J).Alone R C :=
  List.foldlRecOn (motive := fun J' : Journal => J'.Alone R C) steps Journal.record h
    fun _ hJ x _ => hJ.record x

/-- The resolver that is made reads the options of the name that it is made with. -/
theorem reads_record_makeResolver {name : String} (hname : J.options.bound? name = some C)
    (h : J.options.content? Options.write C = some o) (id : String) :
    (J.record (.makeResolver id (some name))).Reads J.resolvers.size C o := by
  simp only [record, hname]
  exact ⟨Log.made?_made_size .., h⟩

/-- The resolver that is made without options has options of its own. -/
theorem alone_record_makeResolver (J : Journal) (id : String) :
    (J.record (.makeResolver id none)).Alone J.resolvers.size J.options.size := by
  refine ⟨⟨Log.made?_made_size .., ?_⟩, fun name => ?_⟩
  · rw [record, Log.content?, Log.made?_made_size, Log.writes_made_size]
    rfl
  · have hbound : (J.record (.makeResolver id none)).options.bound? name = J.options.bound? name :=
      Log.bound?_made_of_ne {} (by simp)
    rw [hbound]
    exact fun hname => absurd (Log.lt_size_of_bound? hname) (Nat.lt_irrefl _)

/-! ## Replies -/

theorem content?_resolvers (log : Log Nat Empty) (R : Nat) :
    log.content? Resolver.write R = log.made? R := by
  rw [Log.content?]
  cases log.writes R with
  | nil => exact Option.map_id'
  | cons w _ => cases w

theorem Reads.get?_options (h : J.Reads R C o) : J.session.options.get? C = some o := by
  rw [options_session, Log.get?_replay, h.options]

theorem Reads.get?_resolvers (h : J.Reads R C o) : J.session.resolvers.get? R = some C := by
  rw [session, Log.get?_replay, content?_resolvers, h.resolver]

/-- A resolver, asked by any name of it, answers under the options that it reads. -/
theorem Reads.snd_step_nameBy (h : J.Reads R C o) {resolver : String}
    (hresolver : J.resolvers.bound? resolver = some R) (declaration : String) :
    (J.session.step (.nameBy declaration resolver)).2 = J.session.nameReply declaration o := by
  have hfind : J.session.resolvers.find resolver = .ok (R, C) :=
    find_of_bound?_eq_some hresolver (by rw [content?_resolvers, h.resolver])
  refine Session.snd_step_nameBy ?_ declaration
  simp only [Session.optionsOf, hfind, bind, Except.bind, h.get?_options]

theorem Reads.snd_step_nameUnder (h : J.Reads R C o) {options : String}
    (hoptions : J.options.bound? options = some C) (declaration : String) :
    (J.session.step (.nameUnder declaration (some options))).2 =
      J.session.nameReply declaration o := by
  have hfind : J.session.options.find options = .ok (C, o) :=
    find_of_bound?_eq_some hoptions h.options
  refine Session.snd_step_nameUnder ?_ declaration
  rw [Session.optionsOr, hfind]
  rfl

theorem ofSteps_append_cons (before after : List Step) (x : Step) :
    ofSteps (before ++ x :: after) = after.foldl record ((ofSteps before).record x) := by
  rw [ofSteps_append, List.foldl_cons]

end Journal

/-- **Resolvers over runs.** A resolver that is made with options keeps them, whatever their name is
bound to later. After any more steps they hold what they held, changed by what was assigned to them,
and under this the resolver answers, exactly as is answered under any name that they have. A
resolver that is made without options answers as under the default ones, whatever is assigned. -/
theorem nameBy_after (before after : List Step) (id : String) :
    let J := Journal.ofSteps before
    let R := J.resolvers.size
    (∀ options C o, J.options.bound? options = some C →
      J.options.content? Options.write C = some o →
      let made := Step.makeResolver id (some options)
      let s := Session.after {} (before ++ made :: after)
      let J' := Journal.ofSteps (before ++ made :: after)
      let now := o.writeAll ((J.record made).assignedTo C after)
      s.resolvers.get? R = some C ∧ s.options.get? C = some now ∧
      (∀ declaration resolver, J'.resolvers.bound? resolver = some R →
        (s.step (.nameBy declaration resolver)).2 = s.nameReply declaration now) ∧
      (∀ declaration options', J'.options.bound? options' = some C →
        (s.step (.nameUnder declaration (some options'))).2 = s.nameReply declaration now)) ∧
    (let made := Step.makeResolver id none
      let s := Session.after {} (before ++ made :: after)
      let J' := Journal.ofSteps (before ++ made :: after)
      ∀ declaration resolver, J'.resolvers.bound? resolver = some R →
        (s.step (.nameBy declaration resolver)).2 = (s.step (.nameUnder declaration none)).2) := by
  dsimp only
  constructor
  · intro options C o hname ho
    have hreads := (Journal.reads_record_makeResolver hname ho id).run after
    rw [← Journal.ofSteps_append_cons] at hreads
    rw [Journal.after_eq_session]
    refine ⟨hreads.get?_resolvers, hreads.get?_options, ?_, ?_⟩
    · intro declaration resolver hresolver
      exact hreads.snd_step_nameBy hresolver declaration
    · intro declaration options' hoptions
      exact hreads.snd_step_nameUnder hoptions declaration
  · intro declaration resolver hresolver
    have halone := (Journal.alone_record_makeResolver (Journal.ofSteps before) id).run after
    rw [← Journal.ofSteps_append_cons] at halone
    rw [Journal.after_eq_session, halone.toReads.snd_step_nameBy hresolver declaration]
    exact (Session.snd_step_nameUnder rfl declaration).symm

/-- A resolver sees what was assigned to its options, and not what was assigned to the options that
their name is bound to later; a resolver without options sees nothing of either. -/
theorem nameBy_after_rebound :
    let before : List Step :=
      [.declare "m" .moduleScope (.text "m") [] none none,
        .declare "c" .classType (.text "c") [] (some "m") none, .designate "m" (some "c"),
        .configure "o" (.record [("module_type_name", .text "A")])]
    let after : List Step :=
      [.assign "o" "module_type_name" (.text "B"), .configure "o" (.record []),
        .assign "o" "module_type_name" (.text "C")]
    let s := Session.after {} (before ++ .makeResolver "r" (some "o") :: after)
    let s' := Session.after {} (before ++ .makeResolver "r" none :: after)
    (s.step (.nameBy "c" "r")).2 = .ok (.text "B") ∧
      (s'.step (.nameBy "c" "r")).2 = .ok (.text "Module") := by
  intro before after s s'
  obtain ⟨hgiven, halone⟩ := nameBy_after before after "r"
  constructor
  · obtain ⟨-, -, hreply, -⟩ := hgiven "o" 0 { moduleTypeName := .text "A" } rfl rfl
    exact (hreply "c" "r" rfl).trans rfl
  · exact (halone "c" "r" rfl).trans rfl

end SwiftText
