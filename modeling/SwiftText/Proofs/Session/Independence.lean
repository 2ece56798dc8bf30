import SwiftText.Proofs.Declaration.GivenName
import SwiftText.Proofs.Session.ModuleClass
import SwiftText.Proofs.Session.Resolver
import SwiftText.Proofs.Session.Write

/-!
# What names depend on

The name of a declaration is read off the declaration itself, two of the options, and for a class
whether its module names it. Nothing else in a session matters: two sessions that agree on these
give the same name, and a run that touches none of them changes no name.

* `Declaration.Alike`, `Options.Alike`, `IsNamedByModule`: what is read. Two sessions that agree on
  it give the same name (`Session.nameOf?_of_alike`).
* `Journal.relabelled`: whether a run renames a declaration or edits its annotations. If not, only
  links are written to it, and it stays alike (`Journal.exists_alike_run`), wherever these lead.
* `Options.naming`: the entries that matter to the names of declarations. Options stay alike under
  all others (`Options.alike_writeAll`).
* `nameOf?_noninterference`: the whole account, for any two sessions and for every run.
-/

namespace SwiftText

open Registry

/-! ## What is read -/

/-- Declarations that differ in their links at most. -/
structure Declaration.Alike (d e : Declaration) : Prop where
  sort : d.sort = e.sort
  name : d.name = e.name
  annotations : d.annotations = e.annotations

theorem Declaration.Alike.refl (d : Declaration) : d.Alike d := ⟨rfl, rfl, rfl⟩

theorem Declaration.Alike.trans {d e f : Declaration} (h : d.Alike e) (h' : e.Alike f) :
    d.Alike f :=
  ⟨h.sort.trans h'.sort, h.name.trans h'.name, h.annotations.trans h'.annotations⟩

/-- Links do not make a declaration look different. -/
theorem Declaration.Alike.writeAll {d : Declaration} {ws : List Declaration.Write}
    (h : ∀ w ∈ ws, ∃ l t, w = .link l t) : d.Alike (d.writeAll ws) := by
  induction ws generalizing d with
  | nil => exact .refl d
  | cons w ws ih =>
    obtain ⟨⟨l, t, rfl⟩, hws⟩ := List.forall_mem_cons.1 h
    have hlink : d.Alike (Declaration.write (.link l t) d) := by cases l <;> exact ⟨rfl, rfl, rfl⟩
    exact hlink.trans (ih hws)

/-- Options under which declarations have the same names. -/
structure Options.Alike (o p : Options) : Prop where
  moduleTypeName : o.moduleTypeName = p.moduleTypeName
  leadingDigitPrefix : o.leadingDigitPrefix = p.leadingDigitPrefix

theorem Options.Alike.refl (o : Options) : o.Alike o := ⟨rfl, rfl⟩

theorem Options.Alike.trans {o p q : Options} (h : o.Alike p) (h' : p.Alike q) : o.Alike q :=
  ⟨h.moduleTypeName.trans h'.moduleTypeName, h.leadingDigitPrefix.trans h'.leadingDigitPrefix⟩

/-- Whether a declaration stands in a module that names it as its class. -/
def IsNamedByModule (ds : Registry Declaration) (c : Nat) : Prop :=
  ∃ d m e, ds.get? c = some d ∧ d.enclosing = some m ∧ ds.get? m = some e ∧
    e.sort = .moduleScope ∧ e.moduleClass = some c

theorem isModuleClass_iff_isNamedByModule {ds : Registry Declaration} {c : Nat} {d : Declaration}
    (hd : ds.get? c = some d) :
    isModuleClass ds c = true ↔ d.sort = .classType ∧ IsNamedByModule ds c := by
  rw [isModuleClass_iff]
  constructor
  · rintro ⟨d', m, e, hd', henclosing, hclass, he, hnamed, hmodule⟩
    obtain rfl : d = d' := Option.some.inj (hd.symm.trans hd')
    exact ⟨hclass, d, m, e, hd, henclosing, he, hmodule, hnamed⟩
  · rintro ⟨hclass, d', m, e, hd', henclosing, he, hmodule, hnamed⟩
    obtain rfl : d = d' := Option.some.inj (hd.symm.trans hd')
    exact ⟨d, m, e, hd, henclosing, hclass, he, hnamed, hmodule⟩

variable {ds ds' : Registry Declaration} {c c' : Nat} {d d' : Declaration} {o o' : Options}

/-- For a class it matters whether it is named by its module, and for anything else it does not. -/
theorem isModuleClass_congr (hd : ds.get? c = some d) (hd' : ds'.get? c' = some d')
    (hsort : d.sort = d'.sort)
    (hnamed : d.sort = .classType → (IsNamedByModule ds c ↔ IsNamedByModule ds' c')) :
    isModuleClass ds c = isModuleClass ds' c' := by
  rw [Bool.eq_iff_iff, isModuleClass_iff_isNamedByModule hd, isModuleClass_iff_isNamedByModule hd',
    ← hsort]
  exact and_congr_right hnamed

theorem Resolver.nameOf_of_alike (hd : d.Alike d') (ho : o.Alike o') (isModuleClass : Bool) :
    nameOf o isModuleClass d = nameOf o' isModuleClass d' := by
  have hexplicit : d.explicitName? = d'.explicitName? := by
    rw [d.explicitName?_eq_find?_bind, d'.explicitName?_eq_find?_bind, hd.annotations]
  rw [nameOf_congr hd.name hexplicit o isModuleClass, nameOf, nameOf, ho.moduleTypeName,
    ho.leadingDigitPrefix]

/-- What a name stands for is bound to it and exists. -/
theorem Registry.of_find_eq_ok {α : Type} {r : Registry α} {name : String} {i : Nat} {x : α}
    (h : r.find name = .ok (i, x)) : r.handle? name = some i ∧ r.get? i = some x := by
  unfold Registry.find at h
  split at h
  · cases h
  · next hname =>
    split at h
    · cases h
    · next hget =>
      obtain ⟨rfl, rfl⟩ := Prod.mk.inj (Except.ok.inj h)
      exact ⟨hname, hget⟩

namespace Session

/-- **Sessions that agree on what the name of a declaration is read off give it the same name.** -/
theorem nameOf?_of_alike {s s' : Session} (hd : s.declarations.get? c = some d)
    (hd' : s'.declarations.get? c' = some d') (halike : d.Alike d') (ho : o.Alike o')
    (hnamed : d.sort = .classType →
      (IsNamedByModule s.declarations c ↔ IsNamedByModule s'.declarations c')) :
    s.nameOf? c o = s'.nameOf? c' o' := by
  rw [nameOf?, nameOf?, hd, hd', Option.map_some, Option.map_some, Resolver.nameOfHandle,
    Resolver.nameOfHandle, isModuleClass_congr hd hd' halike.sort hnamed,
    Resolver.nameOf_of_alike halike ho]

/-- The replies to the questions for a name are the name of the object. -/
theorem nameOf?_eq_snd_step {s : Session} {declaration : String}
    (hfind : s.declarations.find declaration = .ok (c, d)) :
    (∀ options, s.optionsOr options = .ok o →
      s.nameOf? c o = some (s.step (.nameUnder declaration options)).2) ∧
    ∀ resolver, s.optionsOf resolver = .ok o →
      s.nameOf? c o = some (s.step (.nameBy declaration resolver)).2 := by
  have hreply : s.nameOf? c o = some (s.nameReply declaration o) := by
    obtain ⟨hname, hd⟩ := of_find_eq_ok hfind
    exact nameOf?_eq_nameReply hname hd
  exact ⟨fun options ho => by rw [hreply, snd_step_nameUnder ho],
    fun resolver ho => by rw [hreply, snd_step_nameBy ho]⟩

theorem snd_step_enumCase {s : Session} {resolver : String} (h : s.optionsOf resolver = .ok o)
    (raw : Value) : (s.step (.enumCase resolver raw)).2 = Resolver.enumCaseName o raw := by
  rw [step, attempt, h]
  rfl

end Session

/-! ## What runs touch -/

namespace Options

/-- The entries that matter to the names of declarations: two of the options, and all fields at
once. -/
def naming : List String := [Key.moduleTypeName.name, Key.leadingDigitPrefix.name, "__dict__"]

theorem name_mem_naming_iff (key : Key) :
    key.name ∈ naming ↔ key = .moduleTypeName ∨ key = .leadingDigitPrefix := by
  cases key <;> decide

theorem Slot.eq_name_of_ofName {name : String} {key : Key} (h : ofName name = .option key) :
    name = key.name := by
  have hkey : Key.ofName? name = some key := by grind [ofName]
  exact (eq_of_beq (List.find?_some hkey :)).symm

theorem Slot.eq_dict_of_ofName {name : String} (h : ofName name = .fields) : name = "__dict__" := by
  grind [ofName]

theorem alike_set {key : Key} (hmodule : key ≠ .moduleTypeName) (hlead : key ≠ .leadingDigitPrefix)
    (v : Value) : o.Alike (o.set key v) where
  moduleTypeName := (get_set_of_ne o v hmodule.symm).symm
  leadingDigitPrefix := (get_set_of_ne o v hlead.symm).symm

theorem alike_assign {p : Options} {name : String} {v : Value} (h : o.assign name v = .ok p)
    (hname : name ∉ naming) : o.Alike p := by
  unfold assign at h
  split at h
  · next key hslot =>
    obtain rfl := Slot.eq_name_of_ofName hslot
    obtain ⟨hmodule, hlead⟩ := not_or.1 (mt (name_mem_naming_iff key).2 hname)
    obtain rfl := Except.ok.inj h
    exact alike_set hmodule hlead _
  · obtain rfl := Except.ok.inj h
    exact ⟨rfl, rfl⟩
  · next hslot =>
    obtain rfl := Slot.eq_dict_of_ofName hslot
    exact absurd (.tail _ (.tail _ (.head _))) hname
  · cases h
  · cases h
  · cases h
  · obtain rfl := Except.ok.inj h
    exact .refl o

theorem alike_write {entry : String × Value} (h : entry.1 ∉ naming) : o.Alike (write entry o) := by
  rw [write]
  cases hassign : o.assign entry.1 entry.2 with
  | error f => exact .refl o
  | ok p => exact alike_assign hassign h

/-- **Entries that do not matter to names leave options alike.** -/
theorem alike_writeAll {entries : List (String × Value)}
    (h : ∀ entry ∈ entries, entry.1 ∉ naming) :
    o.Alike (o.writeAll entries) := by
  induction entries generalizing o with
  | nil => exact .refl o
  | cons entry entries ih =>
    obtain ⟨hentry, hentries⟩ := List.forall_mem_cons.1 h
    exact (alike_write hentry).trans (ih hentries)

end Options

namespace Journal

/-- Whether a step renames a declaration or edits its annotations. -/
def relabels (J : Journal) (c : Nat) : Step → Bool
  | .rename declaration _ | .annotate declaration _ | .unannotate declaration _ =>
    J.declarations.bound? declaration == some c
  | _ => false

/-- Whether a run renames a declaration or edits its annotations. -/
def relabelled (c : Nat) : Journal → List Step → Bool
  | _, [] => false
  | J, x :: steps => J.relabels c x || relabelled c (J.record x) steps

variable {J : Journal}

/-- A step that does not relabel a declaration writes nothing but links to it. -/
theorem eq_link_of_mem_written {x : Step} (hx : J.relabels c x = false) {w : Declaration.Write}
    (hw : w ∈ J.written c x) : ∃ l t, w = .link l t := by
  obtain ⟨declaration, hwrite, hname⟩ := exists_write?_of_mem_written hw
  cases x with
  | enclose _ target =>
    obtain ⟨t, -, ht⟩ := Option.map_eq_some_iff.1 hwrite
    cases ht
    exact ⟨_, t, rfl⟩
  | designate _ target =>
    obtain ⟨t, -, ht⟩ := Option.map_eq_some_iff.1 hwrite
    cases ht
    exact ⟨_, t, rfl⟩
  | rename _ _ =>
    cases hwrite
    simp [relabels, hname] at hx
  | annotate _ _ =>
    cases hwrite
    simp [relabels, hname] at hx
  | unannotate _ _ =>
    cases hwrite
    simp [relabels, hname] at hx
  | _ => cases hwrite

/-- **A step that neither renames a declaration nor edits its annotations leaves it alike.** -/
theorem exists_alike_record (hd : J.declarations.content? Declaration.write c = some d) {x : Step}
    (hx : J.relabels c x = false) :
    ∃ d', (J.record x).declarations.content? Declaration.write c = some d' ∧ d.Alike d' :=
  ⟨_, content?_declarations_record hd x, .writeAll fun _ => eq_link_of_mem_written hx⟩

theorem exists_alike_run (hd : J.declarations.content? Declaration.write c = some d)
    {steps : List Step} (h : J.relabelled c steps = false) :
    ∃ d', (steps.foldl record J).declarations.content? Declaration.write c = some d' ∧
      d.Alike d' := by
  induction steps generalizing J d with
  | nil => exact ⟨d, hd, .refl d⟩
  | cons x steps ih =>
    obtain ⟨hx, hsteps⟩ := Bool.or_eq_false_iff.1 h
    obtain ⟨e, he, halike⟩ := exists_alike_record hd hx
    obtain ⟨d', hd', halike'⟩ := ih he hsteps
    exact ⟨d', hd', halike.trans halike'⟩

end Journal

/-- **What names depend on.** Two declarations have the same name, in any two sessions and under any
options, if they are of one sort and have the same name of their own and the same annotations, the
options agree on the class name of modules and on the lead before digits, and, for classes, either
both or none are named by their modules; so do the replies to the questions for them. Hence no run
that does not relabel a declaration changes its name, as long as a class stays named by its module,
or not named; nor do entries of the options other than these two. The case name of a label depends
on the label, the name of empty labels and the lead before digits. -/
theorem nameOf?_noninterference :
    (∀ (s s' : Session) (c c' : Nat) (d d' : Declaration) (o o' : Options),
      s.declarations.get? c = some d → s'.declarations.get? c' = some d' → d.Alike d' →
      o.Alike o' →
      (d.sort = .classType →
        (IsNamedByModule s.declarations c ↔ IsNamedByModule s'.declarations c')) →
      ∃ r, s.nameOf? c o = some r ∧ s'.nameOf? c' o' = some r) ∧
    (∀ (s : Session) (declaration : String) (c : Nat) (d : Declaration) (o : Options),
      s.declarations.find declaration = .ok (c, d) →
      (∀ options, s.optionsOr options = .ok o →
        s.nameOf? c o = some (s.step (.nameUnder declaration options)).2) ∧
      ∀ resolver, s.optionsOf resolver = .ok o →
        s.nameOf? c o = some (s.step (.nameBy declaration resolver)).2) ∧
    (∀ (before after : List Step) (c : Nat) (d : Declaration),
      let J := Journal.ofSteps before
      let s := Session.after {} before
      let s' := Session.after {} (before ++ after)
      s.declarations.get? c = some d → J.relabelled c after = false →
      (d.sort = .classType →
        (IsNamedByModule s.declarations c ↔ IsNamedByModule s'.declarations c)) →
      (∀ o, s'.nameOf? c o = s.nameOf? c o) ∧
      ∀ C o, s.options.get? C = some o →
        (∀ entry ∈ J.assignedTo C after, entry.1 ∉ Options.naming) →
        ∃ o', s'.options.get? C = some o' ∧ s'.nameOf? c o' = s.nameOf? c o) ∧
    (∀ (s s' : Session) (resolver resolver' : String) (o o' : Options) (raw : Value),
      s.optionsOf resolver = .ok o → s'.optionsOf resolver' = .ok o' →
      o.emptyEnumCaseName = o'.emptyEnumCaseName → o.leadingDigitPrefix = o'.leadingDigitPrefix →
      (s.step (.enumCase resolver raw)).2 = (s'.step (.enumCase resolver' raw)).2) := by
  refine ⟨?two, fun s declaration c d o hfind => Session.nameOf?_eq_snd_step hfind, ?run, ?label⟩
  case two =>
    intro s s' c c' d d' o o' hd hd' halike ho hnamed
    have hsame := Session.nameOf?_of_alike hd hd' halike ho hnamed
    have hname : s.nameOf? c o = some (Resolver.nameOfHandle o s.declarations c d) := by
      rw [Session.nameOf?, hd, Option.map_some]
    exact ⟨_, hname, hsame.symm.trans hname⟩
  case run =>
    intro before after c d J s s' hd hrelabelled hnamed
    -- both sessions are those of journals, and the second journal goes on from the first
    have hs : s = J.session := Journal.after_eq_session before
    have hs' : s' = (after.foldl Journal.record J).session := by
      rw [← Journal.ofSteps_append]
      exact Journal.after_eq_session _
    rw [hs, Journal.declarations_session, Log.get?_replay] at hd
    obtain ⟨d', hd', halike⟩ := Journal.exists_alike_run hd hrelabelled
    rw [← Log.get?_replay, ← Journal.declarations_session, ← hs] at hd
    rw [← Log.get?_replay, ← Journal.declarations_session, ← hs'] at hd'
    have hname : ∀ {o o' : Options}, o.Alike o' → s'.nameOf? c o' = s.nameOf? c o := fun ho =>
      (Session.nameOf?_of_alike hd hd' halike ho hnamed).symm
    refine ⟨fun o => hname (.refl o), fun C o ho hentries => ?_⟩
    rw [hs, Journal.options_session, Log.get?_replay] at ho
    refine ⟨o.writeAll (J.assignedTo C after), ?_, hname (Options.alike_writeAll hentries)⟩
    rw [hs', Journal.options_session, Log.get?_replay, Journal.content?_options_run ho]
  case label =>
    intro s s' resolver resolver' o o' raw ho ho' hempty hlead
    rw [Session.snd_step_enumCase ho, Session.snd_step_enumCase ho', Resolver.enumCaseName,
      Resolver.enumCaseName, hempty, hlead]

/-- A class that its module names keeps its name while the module is renamed and lets go of it for a
moment, and a property keeps its name when it leaves the module; assigning the banner and the
delimiters changes neither, nor case names. A property of another session has the same name. -/
theorem nameOf?_noninterference_relinked :
    let before : List Step :=
      [.declare "m" .moduleScope (.text "m") [] none none,
        .declare "c" .classType (.text "c") [] (some "m") none, .designate "m" (some "c"),
        .declare "p" .property (.text "my-prop") [] (some "m") none,
        .configure "o" (.record [("module_type_name", .text "A")]), .makeResolver "r" (some "o")]
    let after : List Step :=
      [.rename "m" (.text "n"), .designate "m" none, .enclose "p" none,
        .annotate "m" (.tagged .rename (.text "N")), .designate "m" (some "c"),
        .assign "o" "header_template" .null,
        .assign "o" "use_custom_string_delimiters" (.bool false)]
    let s := Session.after {} before
    let s' := Session.after {} (before ++ after)
    let t := Session.after {} [.declare "q" .property (.text "my-prop") [] none none]
    (s'.step (.nameBy "c" "r")).2 = (s.step (.nameBy "c" "r")).2 ∧
      (s'.step (.nameBy "p" "r")).2 = (s.step (.nameBy "p" "r")).2 ∧
      (∃ r, s.nameOf? 2 {} = some r ∧ t.nameOf? 0 {} = some r) ∧
      ∀ raw, (s.step (.enumCase "r" raw)).2 = (s'.step (.enumCase "r" raw)).2 := by
  intro before after s s' t
  obtain ⟨htwo, hreply, hrun, hlabel⟩ := nameOf?_noninterference
  have hclass : IsNamedByModule s.declarations 1 := ⟨_, _, _, rfl, rfl, rfl, rfl, rfl⟩
  have hclass' : IsNamedByModule s'.declarations 1 := ⟨_, _, _, rfl, rfl, rfl, rfl, rfl⟩
  refine ⟨?_, ?_, ?_, fun raw => hlabel s s' "r" "r" _ _ raw rfl rfl rfl rfl⟩
  · obtain ⟨-, hoptions⟩ := hrun before after 1 _ rfl rfl fun _ => iff_of_true hclass hclass'
    obtain ⟨o', ho', hname⟩ := hoptions 0 _ rfl (by decide)
    cases ho'
    rw [(hreply s' "c" 1 _ _ rfl).2 "r" rfl, (hreply s "c" 1 _ _ rfl).2 "r" rfl] at hname
    exact Option.some.inj hname
  · obtain ⟨-, hoptions⟩ := hrun before after 2 _ rfl rfl fun h => by cases h
    obtain ⟨o', ho', hname⟩ := hoptions 0 _ rfl (by decide)
    cases ho'
    rw [(hreply s' "p" 2 _ _ rfl).2 "r" rfl, (hreply s "p" 2 _ _ rfl).2 "r" rfl] at hname
    exact Option.some.inj hname
  · exact htwo s t 2 0 _ _ {} {} rfl rfl ⟨rfl, rfl, rfl⟩ (.refl _) fun h => by cases h

end SwiftText
