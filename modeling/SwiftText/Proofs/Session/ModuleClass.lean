import SwiftText.Proofs.Session.Entry
import SwiftText.Proofs.Session.Naming

/-!
# Module classes over runs

Two links make a class the class of a module: the class is enclosed by the module, and the module
names the class. Both can be assigned at any time and in any order, so whether they meet is a matter
of what each of them was last given.

* `DeclarationLog.lastGiven`: what a link was last given.
* `DeclarationLog.IsClassOf`: the two links between a class and a module, as they were last given.
* `DeclarationLog.isModuleClass_replay_iff`: a class is a module class exactly if they meet.
* `DeclarationLog.isClassOf_made_iff`: a new declaration is no module class, since links lead to
  declarations that exist.
* `Journal.Entry.isClassOf_iff`: a step that assigns no link makes no module class and spoils none.
* `isModuleClass_after`: the whole account, for every run.
-/

namespace SwiftText

open Registry

/-- The links between a class and its module, as they are. -/
theorem isModuleClass_iff {ds : Registry Declaration} {c : Nat} :
    isModuleClass ds c = true ↔ ∃ d m e,
      ds.get? c = some d ∧ d.enclosing = some m ∧ d.sort = .classType ∧
        ds.get? m = some e ∧ e.moduleClass = some c ∧ e.sort = .moduleScope := by
  rw [isModuleClass]
  cases ds.get? c with
  | none => simp
  | some d =>
    cases hm : d.enclosing with
    | none => simp [hm]
    | some m =>
      cases he : ds.get? m with
      | none => simp [hm, he]
      | some e => simp [hm, he, and_comm, and_left_comm]

/-! ## Links in a log -/

namespace DeclarationLog

open Declaration

/-- The sort of a declaration, which it was made with. -/
def sort? (log : DeclarationLog) (i : Nat) : Option DeclarationSort := (log.made? i).map (·.sort)

/-- What a link of a declaration was last given, by an assignment or when the declaration was
made. -/
def lastGiven (log : DeclarationLog) (l : Link) (i : Nat) : Option Nat :=
  ((log.writes i).findSome? (Write.given? l)).getD ((log.made? i).bind (·.target? l))

/-- Whether a class is enclosed by a module that names it as its class, as the links were last
given. -/
def IsClassOf (log : DeclarationLog) (c m : Nat) : Prop :=
  log.sort? c = some .classType ∧ log.lastGiven .enclosing c = some m ∧
    log.sort? m = some .moduleScope ∧ log.lastGiven .moduleClass m = some c

variable {log : DeclarationLog} {c m i : Nat} {l : Link}

theorem target?_write (w : Write) (d : Declaration) (l : Link) :
    (write w d).target? l = (w.given? l).getD (d.target? l) := by
  cases w with
  | name v => cases l <;> rfl
  | link l' target => cases l <;> cases l' <;> rfl
  | annotated a => cases l <;> rfl
  | deletion index =>
    rw [write, unannotate?]
    cases position? d.annotations.length index <;> cases l <;> rfl

theorem sort_write (w : Write) (d : Declaration) : (write w d).sort = d.sort := by
  cases w with
  | name v => rfl
  | link l' target => cases l' <;> rfl
  | annotated a => rfl
  | deletion index =>
    rw [write, unannotate?]
    cases position? d.annotations.length index <;> rfl

theorem target?_foldr_write (ws : List Write) (d : Declaration) (l : Link) :
    (ws.foldr write d).target? l = (ws.findSome? (Write.given? l)).getD (d.target? l) := by
  induction ws with
  | nil => rfl
  | cons w ws ih =>
    rw [List.foldr_cons, target?_write, ih, List.findSome?_cons]
    cases w.given? l <;> rfl

theorem sort_foldr_write (ws : List Write) (d : Declaration) :
    (ws.foldr write d).sort = d.sort := by
  induction ws with
  | nil => rfl
  | cons w ws ih => rw [List.foldr_cons, sort_write, ih]

/-- **What a declaration holds is its first sort and what its links were last given.** -/
theorem of_content? {d : Declaration} (h : log.content? write i = some d) :
    log.sort? i = some d.sort ∧ ∀ l, log.lastGiven l i = d.target? l := by
  obtain ⟨x, hx, rfl⟩ := Option.map_eq_some_iff.1 h
  refine ⟨by rw [sort?, hx, Option.map_some, sort_foldr_write], fun l => ?_⟩
  rw [lastGiven, hx, Option.bind_some, target?_foldr_write]

theorem exists_content?_of_sort? {sort : DeclarationSort} (h : log.sort? i = some sort) :
    ∃ d, log.content? write i = some d ∧ d.sort = sort := by
  obtain ⟨x, hx, -⟩ := Option.map_eq_some_iff.1 h
  obtain ⟨d, hd⟩ := Log.exists_content?_of_lt write (Log.lt_size_of_made? hx)
  refine ⟨d, hd, ?_⟩
  have hsort := (of_content? hd).1
  rw [h, Option.some.injEq] at hsort
  exact hsort.symm

/-- **A class is a module class exactly if the links between it and a module meet.** -/
theorem isModuleClass_replay_iff :
    isModuleClass (log.replay write) c = true ↔ ∃ m, log.IsClassOf c m := by
  simp only [isModuleClass_iff, Log.get?_replay]
  constructor
  · rintro ⟨d, m, e, hd, henclosing, hclass, he, hnamed, hmodule⟩
    obtain ⟨hdsort, hdlinks⟩ := of_content? hd
    obtain ⟨hesort, helinks⟩ := of_content? he
    refine ⟨m, ?_, ?_, ?_, ?_⟩
    · rw [hdsort, hclass]
    · rw [hdlinks, target?, henclosing]
    · rw [hesort, hmodule]
    · rw [helinks, target?, hnamed]
  · rintro ⟨m, hclass, henclosing, hmodule, hnamed⟩
    obtain ⟨d, hd, hdsort⟩ := exists_content?_of_sort? hclass
    obtain ⟨e, he, hesort⟩ := exists_content?_of_sort? hmodule
    rw [(of_content? hd).2, target?] at henclosing
    rw [(of_content? he).2, target?] at hnamed
    exact ⟨d, m, e, hd, henclosing, hdsort, he, hnamed, hesort⟩

/-- A module has at most one class. -/
theorem IsClassOf.unique {c' : Nat} (h : log.IsClassOf c m) (h' : log.IsClassOf c' m) : c = c' :=
  Option.some.inj (h.2.2.2.symm.trans h'.2.2.2)

/-! ## One more entry -/

theorem sort?_written (i j : Nat) (w : Write) : sort? (log.written j w) i = log.sort? i := rfl

theorem lastGiven_written_self (w : Write) :
    lastGiven (log.written i w) l i = (w.given? l).getD (log.lastGiven l i) := by
  rw [lastGiven, Log.writes_written_self, List.findSome?_cons, Log.made?]
  cases w.given? l <;> rfl

theorem lastGiven_written_of_ne {j : Nat} (w : Write) (h : i ≠ j) :
    lastGiven (log.written j w) l i = log.lastGiven l i := by
  rw [lastGiven, Log.writes_written_of_ne w h, Log.made?, lastGiven]

/-- A write that does not assign a link leaves it as it is. -/
theorem lastGiven_written_of_given?_eq_none {w : Write} (h : w.given? l = none) (i j : Nat) :
    lastGiven (log.written j w) l i = log.lastGiven l i := by
  by_cases hij : i = j
  · rw [hij, lastGiven_written_self, h, Option.getD_none]
  · exact lastGiven_written_of_ne w hij

theorem isClassOf_written_iff {w : Write} (h : ∀ l, w.given? l = none) (j : Nat) :
    IsClassOf (log.written j w) c m ↔ log.IsClassOf c m := by
  simp only [IsClassOf, sort?_written, lastGiven_written_of_given?_eq_none (h _)]

/-- The class that anything but a module names does not matter. -/
theorem isClassOf_written_moduleClass_iff (h : log.sort? i ≠ some .moduleScope)
    (target : Option Nat) :
    IsClassOf (log.written i (.link .moduleClass target)) c m ↔ log.IsClassOf c m := by
  have henclosing : Write.given? .enclosing (.link .moduleClass target) = none := rfl
  simp only [IsClassOf, sort?_written, lastGiven_written_of_given?_eq_none henclosing]
  refine and_congr_right fun _ => and_congr_right fun _ => and_congr_right fun hmodule => ?_
  have hne : m ≠ i := by
    rintro rfl
    exact h hmodule
  rw [lastGiven_written_of_ne _ hne]

/-- Links lead to declarations that exist. -/
def Closed (log : DeclarationLog) : Prop := ∀ i l t, log.lastGiven l i = some t → t < log.size

theorem lastGiven_made_size (name : Option String) (d : Declaration) :
    lastGiven (log.made name d) l log.size = d.target? l := by
  rw [lastGiven, Log.writes_made_size, Log.made?_made_size, List.findSome?_nil, Option.getD_none,
    Option.bind_some]

theorem lastGiven_made_of_ne (name : Option String) (d : Declaration) (h : i ≠ log.size) :
    lastGiven (log.made name d) l i = log.lastGiven l i := by
  rw [lastGiven, Log.writes_made_of_ne name d h, Log.made?_made_of_ne name d h, lastGiven]

theorem sort?_made_of_ne (name : Option String) (d : Declaration) (h : i ≠ log.size) :
    sort? (log.made name d) i = log.sort? i := by
  rw [sort?, Log.made?_made_of_ne name d h, sort?]

/-- No link leads to a declaration that has just been made. -/
theorem lt_size_of_lastGiven_made (hclosed : log.Closed) {name : Option String} {d : Declaration}
    (hd : ∀ l t, d.target? l = some t → t < log.size) {t : Nat}
    (ht : lastGiven (log.made name d) l i = some t) : t < log.size := by
  by_cases h : i = log.size
  · rw [h, lastGiven_made_size] at ht
    exact hd l t ht
  · rw [lastGiven_made_of_ne name d h] at ht
    exact hclosed i l t ht

theorem closed_made (hclosed : log.Closed) (name : Option String) {d : Declaration}
    (hd : ∀ l t, d.target? l = some t → t < log.size) : Closed (log.made name d) :=
  fun _ _ _ ht => Nat.lt_succ_of_lt (lt_size_of_lastGiven_made hclosed hd ht)

theorem closed_written (hclosed : log.Closed) (j : Nat) {w : Write}
    (hw : ∀ l t, w.given? l = some (some t) → t < log.size) : Closed (log.written j w) := by
  intro i l t ht
  by_cases h : i = j
  · rw [h, lastGiven_written_self] at ht
    cases hgiven : w.given? l with
    | none =>
      rw [hgiven, Option.getD_none] at ht
      exact hclosed j l t ht
    | some target =>
      rw [hgiven, Option.getD_some] at ht
      exact hw l t (by rw [hgiven, ht])
  · rw [lastGiven_written_of_ne w h] at ht
    exact hclosed i l t ht

/-- **A new declaration is no module class and no module of one.** -/
theorem isClassOf_made_iff (hclosed : log.Closed) (name : Option String) {d : Declaration}
    (hd : ∀ l t, d.target? l = some t → t < log.size) :
    IsClassOf (log.made name d) c m ↔ log.IsClassOf c m := by
  have hsame : c ≠ log.size → m ≠ log.size →
      (IsClassOf (log.made name d) c m ↔ log.IsClassOf c m) := by
    intro hc hm
    simp only [IsClassOf, sort?_made_of_ne name d hc, sort?_made_of_ne name d hm,
      lastGiven_made_of_ne name d hc, lastGiven_made_of_ne name d hm]
  constructor
  · intro h
    have hm := Nat.ne_of_lt (lt_size_of_lastGiven_made hclosed hd h.2.1)
    have hc := Nat.ne_of_lt (lt_size_of_lastGiven_made hclosed hd h.2.2.2)
    exact (hsame hc hm).1 h
  · intro h
    have hm := Nat.ne_of_lt (hclosed _ _ _ h.2.1)
    have hc := Nat.ne_of_lt (hclosed _ _ _ h.2.2.2)
    exact (hsame hc hm).2 h

end DeclarationLog

/-! ## Steps -/

namespace Journal

open Declaration DeclarationLog

variable {J J' : Journal} {x : Step} {c m : Nat}

theorem Entry.closed (h : J.Entry x J') (hclosed : J.declarations.Closed) :
    J'.declarations.Closed := by
  cases h with
  | declared hx id d hd => exact closed_made hclosed (some id) hd
  | written hx i w hw hsets => exact closed_written hclosed i hw
  | _ => exact hclosed

theorem closed_ofSteps (steps : List Step) : (ofSteps steps).declarations.Closed :=
  List.foldlRecOn (motive := fun J : Journal => J.declarations.Closed) steps record
    (fun _ _ _ h => by cases h) fun J hJ x _ => (entry_record J x).closed hJ

/-- **A step that assigns no link makes no module class and spoils none**, whatever it makes, names
or binds again. -/
theorem Entry.isClassOf_iff (h : J.Entry x J') (hclosed : J.declarations.Closed)
    (hx : x.setsLink = false) : J'.declarations.IsClassOf c m ↔ J.declarations.IsClassOf c m := by
  cases h with
  | declared hassigned id d hd => exact isClassOf_made_iff hclosed (some id) hd
  | written hassigned i w hw hsets => exact isClassOf_written_iff (hsets hx) i
  | _ => exact Iff.rfl

theorem isModuleClass_session_iff :
    isModuleClass J.session.declarations c = true ↔ ∃ m, J.declarations.IsClassOf c m :=
  isModuleClass_replay_iff

/-- A step after which the links meet as before changes no answer. -/
theorem isModuleClass_step_of_forall_iff {x : Step}
    (h : ∀ m, (J.record x).declarations.IsClassOf c m ↔ J.declarations.IsClassOf c m) :
    isModuleClass (J.session.step x).1.declarations c =
      isModuleClass J.session.declarations c := by
  rw [Bool.eq_iff_iff, fst_step_session, isModuleClass_session_iff, isModuleClass_session_iff]
  exact exists_congr h

/-- The class that anything but a module is given does not matter. -/
theorem isClassOf_record_designate_iff {declaration : String} {i : Nat}
    (hname : J.declarations.bound? declaration = some i)
    (hsort : J.declarations.sort? i ≠ some .moduleScope) (target : Option String) :
    (J.record (.designate declaration target)).declarations.IsClassOf c m ↔
      J.declarations.IsClassOf c m := by
  rw [record, link]
  cases J.target? target with
  | none => exact Iff.rfl
  | some t =>
    simp only [write, hname]
    exact isClassOf_written_moduleClass_iff hsort t

theorem snd_step_isModuleClass {declaration : String}
    (hname : J.declarations.bound? declaration = some c)
    (hsort : J.declarations.sort? c = some .classType) :
    (J.session.step (.isModuleClass declaration)).2 =
      .ok (.bool (isModuleClass J.session.declarations c)) := by
  obtain ⟨d, hd, hclass⟩ := exists_content?_of_sort? hsort
  have hfind : J.session.declarations.find declaration = .ok (c, d) :=
    find_of_bound?_eq_some hname hd
  simp only [Session.step, Session.attempt, hfind, bind, Except.bind, hclass, if_true]
  rfl

/-- With any name and annotations, the name that is asked for by a name is that of its object. -/
theorem snd_step_nameUnder_relabel {declaration : String} {options : Option String} {o : Options}
    (hname : J.declarations.bound? declaration = some c) (ho : J.session.optionsOr options = .ok o)
    (name : Value) (annotations : List Annotation) :
    some ((J.session.relabel c name annotations).step (.nameUnder declaration options)).2 =
      (J.session.relabel c name annotations).nameOf? c o := by
  obtain ⟨d, hd⟩ := Log.exists_content?_of_lt Declaration.write (Log.lt_size_of_bound? hname)
  have hhandle : (J.session.relabel c name annotations).declarations.handle? declaration =
      some c := (Log.handle?_replay ..).trans hname
  have hget : (J.session.relabel c name annotations).declarations.get? c =
      some { d with name, annotations } := by
    rw [Session.get?_relabel_self, declarations_session, Log.get?_replay, hd, Option.map_some]
  have hoptions : (J.session.relabel c name annotations).optionsOr options = .ok o := ho
  rw [Session.nameOf?_eq_nameReply hhandle hget, Session.snd_step_nameUnder hoptions]

end Journal

/-- **Module classes over runs.** After any steps, with the links given in any order and any number
of times, a class is a module class exactly if the module that encloses it, as far as it was last
said, is a module that was last given this very class. So each module has at most one class. Steps
that give no links, whatever they make, name or bind again, keep all answers, and so does the class
given to anything but a module. The module classes are those that are named by the options, whatever
their names and annotations are. -/
theorem isModuleClass_after (steps : List Step) :
    let s := Session.after {} steps
    let log := (Journal.ofSteps steps).declarations
    (∀ c, isModuleClass s.declarations c = true ↔ ∃ m, log.IsClassOf c m) ∧
    (∀ declaration c, log.bound? declaration = some c → log.sort? c = some .classType →
      (s.step (.isModuleClass declaration)).2 = .ok (.bool (isModuleClass s.declarations c))) ∧
    (∀ m c c', log.IsClassOf c m → log.IsClassOf c' m → c = c') ∧
    (∀ x : Step, x.setsLink = false → ∀ c,
      isModuleClass (s.step x).1.declarations c = isModuleClass s.declarations c) ∧
    (∀ declaration i target, log.bound? declaration = some i → log.sort? i ≠ some .moduleScope →
      ∀ c, isModuleClass (s.step (.designate declaration target)).1.declarations c =
        isModuleClass s.declarations c) ∧
    (∀ c o, (∃ m, log.IsClassOf c m) ↔ ∀ name annotations,
      (s.relabel c name annotations).nameOf? c o = some (.ok o.moduleTypeName)) ∧
    (∀ declaration c options o name annotations, log.bound? declaration = some c →
      s.optionsOr options = .ok o →
      some ((s.relabel c name annotations).step (.nameUnder declaration options)).2 =
        (s.relabel c name annotations).nameOf? c o) := by
  dsimp only
  rw [Journal.after_eq_session]
  have hclosed := Journal.closed_ofSteps steps
  generalize Journal.ofSteps steps = J at hclosed
  refine ⟨fun c => Journal.isModuleClass_session_iff, ?_, ?_, ?_, ?_, ?_, ?_⟩
  · intro declaration c hname hsort
    exact Journal.snd_step_isModuleClass hname hsort
  · intro m c c' h h'
    exact h.unique h'
  · intro x hx c
    exact Journal.isModuleClass_step_of_forall_iff fun m =>
      (Journal.entry_record J x).isClassOf_iff hclosed hx
  · intro declaration i target hname hsort c
    exact Journal.isModuleClass_step_of_forall_iff fun m =>
      Journal.isClassOf_record_designate_iff hname hsort target
  · intro c o
    rw [← Journal.isModuleClass_session_iff]
    exact Session.isModuleClass_iff_nameOf? J.session c o
  · intro declaration c options o name annotations hname ho
    exact Journal.snd_step_nameUnder_relabel hname ho name annotations

/-- A module that encloses itself keeps its class when the name of the class is bound to another
class with the same content, and the class that this one names changes nothing. -/
theorem isModuleClass_after_rebound :
    let s := Session.after {}
      [.declare "m" .moduleScope (.text "m") [] none none,
        .declare "c" .classType (.text "c") [] (some "m") none, .designate "m" (some "c"),
        .enclose "m" (some "m"), .declare "c" .classType (.text "c") [] (some "m") none]
    isModuleClass s.declarations 1 = true ∧
    (s.step (.isModuleClass "c")).2 = .ok (.bool false) ∧
    isModuleClass (s.step (.designate "c" (some "c"))).1.declarations 1 = true ∧
    ∀ name annotations,
      (s.relabel 1 name annotations).nameOf? 1 {} = some (.ok (.text "Module")) := by
  obtain ⟨hiff, hreply, hunique, -, hdesignate, hname, -⟩ := isModuleClass_after
    [.declare "m" .moduleScope (.text "m") [] none none,
      .declare "c" .classType (.text "c") [] (some "m") none, .designate "m" (some "c"),
      .enclose "m" (some "m"), .declare "c" .classType (.text "c") [] (some "m") none]
  generalize hlog : (Journal.ofSteps _).declarations = log at hiff hreply hunique hdesignate hname
  have hlinks : log.IsClassOf 1 0 := by
    rw [← hlog]
    exact ⟨rfl, rfl, rfl, rfl⟩
  have hclass := (hiff 1).2 ⟨0, hlinks⟩
  have hother : ¬∃ m, log.IsClassOf 2 m := by
    rintro ⟨m, h⟩
    have henclosing : log.lastGiven .enclosing 2 = some 0 := by rw [← hlog]; rfl
    obtain rfl : m = 0 := Option.some.inj (h.2.1.symm.trans henclosing)
    exact absurd (hunique 0 2 1 h hlinks) (by decide)
  refine ⟨hclass, ?_, ?_, (hname 1 {}).1 ⟨0, hlinks⟩⟩
  · rw [hreply "c" 2 (by rw [← hlog]; rfl) (by rw [← hlog]; rfl),
      Bool.eq_false_iff.2 fun h => hother ((hiff 2).1 h)]
  · rw [hdesignate "c" 2 (some "c") (by rw [← hlog]; rfl) (by rw [← hlog]; decide), hclass]

end SwiftText
