import SwiftText.Proofs.Options.Dictionary
import SwiftText.Proofs.Session.Resolver

/-!
# Options over runs

Options are made from a record and then assigned to, entry by entry, under whatever name they have
and among whatever other steps. They hold what the dictionary of all these entries holds, so what is
exported at any moment can be read back. The copy that this makes equals them at that moment, and
goes its own way from there on.

* `Journal.content?_options_configure_run`: what options hold that were made in a run.
* `Journal.record_configure_congr`: records that give the same options are interchangeable.
* `options_after`: what options are after any run, and after any run from a copy of them.
-/

namespace SwiftText

open Registry

namespace Journal

variable {J : Journal} {v w : Value} {o : Options} {C : Nat}

theorem record_configure (h : Options.ofValue v = .ok o) (id : String) :
    J.record (.configure id v) = { J with options := J.options.made (some id) o } := by
  rw [record, h]

theorem record_configure_congr (h : Options.ofValue v = Options.ofValue w) (id : String) :
    J.record (.configure id v) = J.record (.configure id w) := by
  rw [record, record, h]

/-- Options hold what they were made with and what was assigned to them since. -/
theorem content?_options_configure_run (h : Options.ofValue v = .ok o) (id : String)
    (steps : List Step) :
    (steps.foldl record (J.record (.configure id v))).options.content? Options.write
        J.options.size =
      some (o.writeAll ((J.record (.configure id v)).assignedTo J.options.size steps)) := by
  refine content?_options_run ?_ steps
  rw [record_configure h, Log.content?, Log.made?_made_size, Log.writes_made_size]
  rfl

/-- Options that exist are not changed by the making of others, nor by what is assigned to these. -/
theorem content?_options_run_of_configure (ho : J.options.content? Options.write C = some o)
    {p : Options} (h : Options.ofValue v = .ok p) (id : String) (steps : List Step) :
    (steps.foldl record (J.record (.configure id v))).options.content? Options.write C =
      some (o.writeAll ((J.record (.configure id v)).assignedTo C steps)) := by
  refine content?_options_run ?_ steps
  rw [record_configure h]
  exact (Log.content?_made_of_ne (some id) p (Nat.ne_of_lt (Log.lt_size_of_content? ho))).trans ho

theorem bound?_options_configure (h : Options.ofValue v = .ok o) (id : String) :
    (J.record (.configure id v)).options.bound? id = some J.options.size := by
  rw [record_configure h]
  exact Log.bound?_made_self J.options id o

theorem get?_options_session (J : Journal) (C : Nat) :
    J.session.options.get? C = J.options.content? Options.write C := by
  rw [options_session, Log.get?_replay]

/-- The session of a run, from some step on. -/
theorem after_append_cons (before later : List Step) (x : Step) :
    Session.after {} (before ++ x :: later) =
      (later.foldl record ((ofSteps before).record x)).session := by
  rw [after_eq_session, ofSteps_append_cons]

/-- The reply to a comparison of options just made with others. -/
theorem snd_step_compareOptions_configure (ho : J.options.content? Options.write C = some o)
    {p : Options} (h : Options.ofValue v = .ok p) {copy name : String}
    (hname : (J.record (.configure copy v)).options.bound? name = some C) :
    ((J.record (.configure copy v)).session.step (.compareOptions copy name)).2 =
      .ok (.bool (p.same o)) := by
  have hcopy := find_of_bound?_eq_some (bound?_options_configure (J := J) h copy)
    (content?_options_configure_run h copy [])
  have hfind := find_of_bound?_eq_some hname (content?_options_run_of_configure ho h copy [])
  rw [Session.step, Session.attempt, options_session, hcopy, hfind]
  rfl

end Journal

/-- **Options over runs.** Options that are made from a record hold, after any run, what the record
and the run have written to them last, as if the dictionary of the defaults and of all these entries
had been read; so the order of the record does not matter. At every moment their export is read as
options that equal them. What becomes of this copy and of the options themselves in a further run
depends on what is assigned to each of the two, and on nothing else. The values are plain data of any
shape; numbers with a fraction are none of it, since requests carry only integers. -/
theorem options_after (before now : List Step) (id : String) (d d' : List (String × Value)) :
    let J := Journal.ofSteps before
    let C := J.options.size
    let made := Step.configure id (.record d)
    let past := before ++ made :: now
    let writes := (J.record made).assignedTo C now
    let s := Session.after {} past
    d.Perm d' → (Value.record d).WellFormed → (∀ e ∈ writes, e.2.WellFormed) →
    (∀ e ∈ d ++ writes, e.1 ∉ Options.reserved) →
    Session.after {} (before ++ .configure id (.record d') :: now) = s ∧
    ∃ c v, s.options.get? C = some c ∧ c.toValue = .ok v ∧
      (Options.ofValue (.record (Options.merged (d ++ writes))) >>= Options.toValue) = .ok v ∧
      (∀ key : Options.Key,
        c.get key = (Value.field? key.name (d ++ writes).reverse).getD (Options.get {} key)) ∧
      Options.ofValue v = .ok c ∧ c.same c = true ∧
      ∀ copy later,
        let copied := Step.configure copy v
        let K := Journal.ofSteps past
        let C' := K.options.size
        let s' := Session.after {} (past ++ [copied])
        let t := Session.after {} (past ++ copied :: later)
        (∀ name, s'.options.handle? name = some C →
          (s'.step (.compareOptions copy name)).2 = .ok (.bool true)) ∧
        C ≠ C' ∧
        t.options.get? C = some (c.writeAll ((K.record copied).assignedTo C later)) ∧
        t.options.get? C' = some (c.writeAll ((K.record copied).assignedTo C' later)) := by
  intro J C made past writes s hperm hd hvalues hnames
  obtain ⟨hkeys, hfields⟩ := Value.wellFormed_record_iff.1 hd
  have hnamesd : ∀ e ∈ d, e.1 ∉ Options.reserved := fun e he =>
    hnames e (List.mem_append_left writes he)
  have hdict := Options.ne_dict_of_not_mem hnames
  have hpast : Journal.ofSteps past = now.foldl Journal.record (J.record made) :=
    Journal.ofSteps_append_cons before now made
  have hs : s = (Journal.ofSteps past).session := Journal.after_eq_session past
  -- the record and what is written later come to the same as one longer record
  set c := Options.writeAll {} (d ++ writes) with hc
  have hcontent : (Journal.ofSteps past).options.content? Options.write C = some c := by
    rw [hpast, Journal.content?_options_configure_run (Options.ofValue_eq_ok hnamesd), hc,
      Options.writeAll_append]
  have hexport : c.hidingExport = none := Options.hidingExport_writeAll_of_not_mem hnames {}
  have hread : Options.ofValue (.record c.entries) = .ok c := Options.ofValue_entries hexport
  have hsame : c.same c = true := Options.same_writeAll hdict fun e he =>
    (List.mem_append.1 he).elim (hfields e) (hvalues e)
  refine ⟨?reordered, c, .record c.entries, ?found, Options.toValue_eq_ok hexport, ?merged,
    Options.get_writeAll hdict {}, hread, hsame, fun copy later => ?copied⟩
  case reordered =>
    have hreordered := Options.ofValue_perm hperm hkeys hnamesd
    rw [hs, hpast, Journal.record_configure_congr hreordered, Journal.after_append_cons]
  case found => rw [hs, Journal.get?_options_session, hcontent]
  case merged =>
    rw [Options.ofValue_merged hnames, ← hc]
    exact Options.toValue_eq_ok hexport
  case copied =>
    intro copied K C' s' t
    have hs' : s' = (K.record copied).session := Journal.after_append_cons past [] copied
    have ht : t = (later.foldl Journal.record (K.record copied)).session :=
      Journal.after_append_cons past later copied
    refine ⟨fun name hname => ?_, Nat.ne_of_lt (Log.lt_size_of_content? hcontent), ?_, ?_⟩
    · rw [hs', Journal.options_session, Log.handle?_replay] at hname
      rw [hs', Journal.snd_step_compareOptions_configure hcontent hread hname, hsame]
    · rw [ht, Journal.get?_options_session,
        Journal.content?_options_run_of_configure hcontent hread]
    · rw [ht, Journal.get?_options_session, Journal.content?_options_configure_run hread]

/-- Options that were assigned to twice hold the last values, also if their record is turned around.
A copy equals them, under whatever name, and an assignment to it does not change them. -/
theorem options_after_copied :
    let d : List (String × Value) :=
      [("module_type_name", .text "Root"), ("not_an_option", .null),
        ("header_template", .bool true)]
    let now : List Step :=
      [.assign "o" "header_template" (.int 1), .assign "o" "leading_digit_prefix" (.list [.null]),
        .assign "o" "header_template" (.bool false)]
    let made := Step.configure "o" (.record d)
    let held : Options :=
      { moduleTypeName := .text "Root", leadingDigitPrefix := .list [.null],
        headerTemplate := .bool false }
    let copied := Step.configure "copy" (.record held.entries)
    let s' := Session.after {} (made :: now ++ [copied])
    let t := Session.after {}
      (made :: now ++ [copied, .assign "copy" "module_type_name" (.int 0)])
    Session.after {} (.configure "o" (.record d.reverse) :: now) =
        Session.after {} (made :: now) ∧
      (s'.step (.compareOptions "copy" "o")).2 = .ok (.bool true) ∧
      t.options.get? 0 = some held ∧
      t.options.get? 1 = some { held with moduleTypeName := .int 0 } := by
  intro d now made held copied s' t
  let writes : List (String × Value) :=
    [("header_template", .int 1), ("leading_digit_prefix", .list [.null]),
      ("header_template", .bool false)]
  have hvalues : ∀ e ∈ writes, e.2.WellFormed := by simp [writes]
  have hnames : ∀ e ∈ d ++ writes, e.1 ∉ Options.reserved := by decide
  obtain ⟨hreordered, c, v, hc, hv, -, -, -, -, hcopied⟩ :=
    options_after [] now "o" d d.reverse (List.reverse_perm d).symm (by simp [d]) hvalues hnames
  obtain rfl : held = c := Option.some.inj hc
  obtain rfl : Value.record held.entries = v := Except.ok.inj hv
  obtain ⟨hequal, -, ho, hcopy⟩ := hcopied "copy" [.assign "copy" "module_type_name" (.int 0)]
  exact ⟨hreordered, hequal "o" rfl, ho, hcopy⟩

end SwiftText
