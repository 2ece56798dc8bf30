import SwiftText.Proofs.Options.Entry

/-!
# Names that are no options

A record of options may have entries that name no option. They should have no effect, and nearly all
of them have none: whatever their values are and wherever they stand, the options are what they are
without them. The exceptions are the four reserved names. The entry that hides the export makes it
fail; two others make the whole record fail; and the one that sets all fields at once replaces what
was set before it.

* `Options.overwritten`: the defaults, overwritten by the entries that name options.
* `Options.Harmless`: the records whose export is just that (`Options.export_eq_overwritten_iff`).
* `Options.ignored_iff`: the names that have no effect are all but the reserved ones.
-/

namespace SwiftText

namespace Options

open Value

/-- The record of all options in which entries overwrite the defaults. -/
def overwritten (entries : List (String × Value)) : Value :=
  .record (Key.all.map fun key => (key.name, (field? key.name entries).getD (get {} key)))

/-- The entries that name options. -/
def known (entries : List (String × Value)) : List (String × Value) :=
  entries.filter fun e => (Key.ofName? e.1).isSome

/-- The entries whose export is no other than the options among them say: they can all be assigned,
nothing hides the export in the end, and where all fields are set at once, each option that is not
set later gets what was said before. -/
def Harmless (entries : List (String × Value)) : Prop :=
  (∀ e ∈ entries, Settable e) ∧
  ("__dict__" ∉ entries.map Prod.fst ∧ exportName ∉ entries.map Prod.fst ∨
    ∃ u fields v, entries = u ++ ("__dict__", .record fields) :: v ∧
      exportName ∉ fields.map Prod.fst ∧ exportName ∉ v.map Prod.fst ∧
      ∀ key : Key, key.name ∉ v.map Prod.fst →
        (field? key.name fields).getD (get {} key) = (field? key.name u).getD (get {} key))

variable {o : Options} {name : String} {entries u v fields : List (String × Value)}

/-! ## The export of a record -/

theorem mem_all (key : Key) : key ∈ Key.all := by
  cases key <;> decide

theorem toValue_eq_ok_iff {f : Key → Value} :
    o.toValue = .ok (.record (Key.all.map fun key => (key.name, f key))) ↔
      o.hidingExport = none ∧ ∀ key, o.get key = f key := by
  rw [toValue]
  cases o.hidingExport with
  | some v => simp
  | none => simp [Options.entries, List.map_inj_left, mem_all]

/-- Unless all fields are set at once, only the entry that hides the export matters. -/
theorem export_eq_overwritten_iff_of_not_mem (hkeys : (entries.map Prod.fst).Nodup)
    (hsettable : ∀ e ∈ entries, Settable e) (hdict : "__dict__" ∉ entries.map Prod.fst) :
    (ofValue (.record entries) >>= toValue) = .ok (overwritten entries) ↔
      exportName ∉ entries.map Prod.fst := by
  have hne := forall_ne_of_not_mem hdict
  rw [ofValue_record, assignAll_eq_ok hsettable, overwritten]
  refine toValue_eq_ok_iff.trans ?_
  rw [hidingExport_writeAll hne, field?_reverse hkeys, Option.or_eq_none_iff, field?_eq_none_iff]
  simp [get_writeAll hne, field?_reverse hkeys]

/-- Where all fields are set at once, what matters is what they say, and what comes later. -/
theorem export_eq_overwritten_iff_of_dict
    (hkeys : ((u ++ ("__dict__", .record fields) :: v).map Prod.fst).Nodup)
    (hsettable : ∀ e ∈ u ++ ("__dict__", .record fields) :: v, Settable e) :
    (ofValue (.record (u ++ ("__dict__", .record fields) :: v)) >>= toValue) =
        .ok (overwritten (u ++ ("__dict__", .record fields) :: v)) ↔
      exportName ∉ fields.map Prod.fst ∧ exportName ∉ v.map Prod.fst ∧
        ∀ key : Key, key.name ∉ v.map Prod.fst →
          (field? key.name fields).getD (get {} key) = (field? key.name u).getD (get {} key) := by
  rw [List.map_append, List.map_cons] at hkeys
  obtain ⟨-, hkeys', hdisjoint⟩ := List.nodup_append.1 hkeys
  obtain ⟨hdict, hkeysv⟩ := List.nodup_cons.1 hkeys'
  have hnev := forall_ne_of_not_mem hdict
  -- the entries before are gone, and the later ones are written over the fields
  have hwrite : writeAll {} (u ++ ("__dict__", .record fields) :: v) =
      (ofFields fields).writeAll v := by
    rw [writeAll_append, writeAll_cons, write_dict]
  have hfield : ∀ key : Key, field? key.name (u ++ ("__dict__", .record fields) :: v) =
      (field? key.name u).or (field? key.name v) := by
    intro key
    have hne : "__dict__" ≠ key.name := by cases key <;> decide
    rw [field?_append, field?_cons, if_neg hne]
  rw [ofValue_record, assignAll_eq_ok hsettable, overwritten, hwrite]
  refine toValue_eq_ok_iff.trans ?_
  rw [hidingExport_writeAll hnev, hidingExport_ofFields, field?_reverse hkeysv,
    Option.or_eq_none_iff, field?_eq_none_iff, field?_eq_none_iff, and_comm (a := exportName ∉ v.map Prod.fst), and_assoc]
  refine and_congr_right fun _ => and_congr_right fun _ => forall_congr' fun key => ?_
  rw [get_writeAll hnev, field?_reverse hkeysv, get_ofFields, hfield]
  by_cases hmem : key.name ∈ v.map Prod.fst
  · have hnone : field? key.name u = none :=
      field?_eq_none_iff.2 fun hu => hdisjoint _ hu _ (List.mem_cons_of_mem _ hmem) rfl
    obtain ⟨w, hw⟩ := Option.ne_none_iff_exists'.1 (mt field?_eq_none_iff.1 (not_not.2 hmem))
    simp [hnone, hw, hmem]
  · simp [field?_eq_none_iff.2 hmem, hmem]

/-- **The export is what the options say exactly if the entries are harmless.** -/
theorem export_eq_overwritten_iff (hkeys : (entries.map Prod.fst).Nodup) :
    (ofValue (.record entries) >>= toValue) = .ok (overwritten entries) ↔ Harmless entries := by
  by_cases hsettable : ∀ e ∈ entries, Settable e
  · rw [Harmless, and_iff_right hsettable]
    constructor
    · intro h
      by_cases hdict : "__dict__" ∈ entries.map Prod.fst
      · obtain ⟨⟨-, w⟩, he, rfl⟩ := List.mem_map.1 hdict
        obtain ⟨fields, rfl⟩ := (hsettable _ he).dict rfl
        obtain ⟨u, v, rfl⟩ := List.append_of_mem he
        exact Or.inr ⟨u, fields, v, rfl, (export_eq_overwritten_iff_of_dict hkeys hsettable).1 h⟩
      · exact Or.inl
          ⟨hdict, (export_eq_overwritten_iff_of_not_mem hkeys hsettable hdict).1 h⟩
    · rintro (⟨hdict, h⟩ | ⟨u, fields, v, rfl, h⟩)
      · exact (export_eq_overwritten_iff_of_not_mem hkeys hsettable hdict).2 h
      · exact (export_eq_overwritten_iff_of_dict hkeys hsettable).2 h
  · refine iff_of_false (fun h => ?_) fun h => hsettable h.1
    obtain ⟨e, he, hunsettable⟩ : ∃ e ∈ entries, ¬Settable e := by simpa using hsettable
    obtain ⟨f, hf⟩ := assignAll_eq_error he hunsettable {}
    rw [ofValue_record, hf] at h
    cases h

/-! ## Names that are ignored -/

theorem assignAll_append (o : Options) (u v : List (String × Value)) :
    o.assignAll (u ++ v) = o.assignAll u >>= fun p => p.assignAll v := by
  induction u generalizing o with
  | nil => rfl
  | cons e u ih =>
    rw [List.cons_append, assignAll, assignAll, bind_assoc]
    exact congrArg _ (funext fun p => ih p)

/-- **The names that have no effect.** A name of no option is ignored wherever it stands, whatever
its value is, exactly if it is not reserved. -/
theorem ignored_iff (hname : Key.ofName? name = none) :
    (∀ u v value, ofValue (.record (u ++ (name, value) :: v)) = ofValue (.record (u ++ v))) ↔
      name ∉ reserved := by
  constructor
  · intro h hreserved
    have halone := h [] [] .null
    simp only [reserved, List.mem_cons, List.not_mem_nil, or_false] at hreserved
    rcases hreserved with rfl | rfl | rfl | rfl
    · have hexport := congrArg Options.hidingExport (Except.ok.inj halone)
      cases hexport
    · cases halone
    · cases halone
    · cases halone
  · intro hreserved u v value
    simp only [ofValue_record, assignAll_append, assignAll, assign_other hname hreserved]
    rfl

theorem ofValue_known (h : ∀ e ∈ entries, e.1 ∉ reserved) :
    ofValue (.record entries) = ofValue (.record (known entries)) := by
  rw [ofValue_record, ofValue_record]
  generalize ({} : Options) = o
  induction entries generalizing o with
  | nil => rfl
  | cons e entries ih =>
    obtain ⟨he, hentries⟩ := List.forall_mem_cons.1 h
    cases hname : Key.ofName? e.1 with
    | none =>
      rw [known, List.filter_cons_of_neg (by simp [hname]), ← known, assignAll,
        assign_other hname he]
      exact ih hentries o
    | some key =>
      rw [known, List.filter_cons_of_pos (by simp [hname]), ← known, assignAll, assignAll]
      exact congrArg _ (funext fun p => ih hentries p)

theorem harmless_of_forall_not_mem (h : ∀ e ∈ entries, e.1 ∉ reserved) : Harmless entries :=
  ⟨fun e he => settable_of_not_mem (h e he),
    Or.inl ⟨not_mem_map_of_mem_reserved h (by decide), not_mem_map_of_mem_reserved h (by decide)⟩⟩

end Options

theorem Session.replies_configure_congr {v w : Value} (h : Options.ofValue v = Options.ofValue w)
    (s : Session) (id : String) (steps : List Step) :
    s.replies (.configure id v :: steps) = s.replies (.configure id w :: steps) := by
  simp only [replies, step, attempt, h]

namespace Options

/-- **Unknown names in options.** A record comes to the defaults overwritten by the options that it
names exactly if its entries are harmless. A name of no option is ignored, wherever it stands and
whatever its value is, exactly if it is not one of the four reserved ones. Without these a record
always leads to options that can be exported, and in every session all replies are the same as with
the options of the record alone. The values are plain data of any shape; numbers with a fraction are
none of it, since requests carry only integers. -/
theorem unknown_entries (entries : List (String × Value)) (hkeys : (entries.map Prod.fst).Nodup) :
    ((ofValue (.record entries) >>= toValue) = .ok (overwritten entries) ↔ Harmless entries) ∧
    (∀ name, Key.ofName? name = none →
      ((∀ u v value, ofValue (.record (u ++ (name, value) :: v)) = ofValue (.record (u ++ v))) ↔
        name ∉ reserved)) ∧
    ((∀ e ∈ entries, e.1 ∉ reserved) →
      (∃ o, ofValue (.record entries) = .ok o ∧ o.toValue = .ok (overwritten entries)) ∧
      ∀ (s : Session) id steps, s.replies (.configure id (.record entries) :: steps) =
        s.replies (.configure id (.record (known entries)) :: steps)) := by
  refine ⟨export_eq_overwritten_iff hkeys, fun name hname => ignored_iff hname, fun h => ⟨?_, ?_⟩⟩
  · have hexport := (export_eq_overwritten_iff hkeys).2 (harmless_of_forall_not_mem h)
    rw [ofValue_eq_ok h] at hexport
    exact ⟨_, ofValue_eq_ok h, hexport⟩
  · exact fun s id steps => s.replies_configure_congr (ofValue_known h) id steps

/-- An unknown name between two options changes nothing, nor does it when an option is assigned
later. Setting all fields at once is harmless if they say again what was said before. -/
theorem unknown_entries_interspersed :
    let entries : List (String × Value) :=
      [("module_type_name", .text "Root"), ("not_an_option", .int 1),
        ("leading_digit_prefix", .text "N")]
    let options : List (String × Value) :=
      [("module_type_name", .text "Root"), ("leading_digit_prefix", .text "N")]
    let fields : List (String × Value) := [("module_type_name", .text "Root")]
    let again : List (String × Value) := fields ++ [("__dict__", .record fields)]
    (∃ o, ofValue (.record entries) = .ok o ∧ o.toValue = .ok (overwritten entries)) ∧
      (Session.replies {} [.configure "o" (.record entries), .assign "o" "header_template" .null] =
        Session.replies {}
          [.configure "o" (.record options), .assign "o" "header_template" .null]) ∧
      (ofValue (.record again) >>= toValue) = .ok (overwritten again) := by
  intro entries options fields again
  obtain ⟨-, -, hentries⟩ := unknown_entries entries (by decide)
  obtain ⟨hexport, hreplies⟩ := hentries (by decide)
  obtain ⟨hagain, -⟩ := unknown_entries again (by decide)
  refine ⟨hexport, hreplies {} "o" _, hagain.2 ⟨?_, Or.inr ⟨fields, fields, [], rfl, ?_⟩⟩⟩
  · intro e he
    rcases List.mem_append.1 he with he | he
    · obtain rfl := List.mem_singleton.1 he
      exact settable_of_not_mem (by decide)
    · obtain rfl := List.mem_singleton.1 he
      exact settable_record fields
  · exact ⟨by decide, by decide, fun key _ => rfl⟩

/-- An entry with the name of the export hides it. -/
theorem export_ne_overwritten_hidden :
    let entries : List (String × Value) := [("to_dict", .text "x")]
    (ofValue (.record entries) >>= toValue) = .error (.notOperation "str") ∧
      (ofValue (.record entries) >>= toValue) ≠ .ok (overwritten entries) :=
  ⟨rfl, fun h => by cases h⟩

end Options

end SwiftText
