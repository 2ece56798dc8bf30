import SwiftText.Proofs.Session.Resolver
import SwiftText.Proofs.Value.Field

/-!
# Entries of options

What an entry does is a matter of its name. An option is set. Of the other names all but four are
ignored, and these four are the `reserved` ones: one hides the export, one sets all fields at once,
and two cannot be set at all.

* `Options.name_cases`: what a name can be.
* `Options.Settable`: the entries that can be assigned, whatever the options hold
  (`Options.assignAll_eq_ok`, `Options.assignAll_eq_error`).
* `Options.get_writeAll`, `Options.hidingExport_writeAll`, `Options.get_ofFields`: what options hold
  after entries.
* `Options.ofValue_eq_ok`: a record without reserved names gives options.
-/

namespace SwiftText.Options

open Value

/-- The names that mean something without being those of options. -/
def reserved : List String := [exportName, "__dict__", "__class__", "__weakref__"]

theorem eq_name_of_ofName? {name : String} {key : Key} (h : Key.ofName? name = some key) :
    name = key.name := (eq_of_beq (List.find?_some h :)).symm

/-- What a name can be. -/
theorem name_cases (name : String) :
    (∃ key : Key, name = key.name) ∨ name ∈ reserved ∨
      (Key.ofName? name = none ∧ name ∉ reserved) := by
  cases h : Key.ofName? name with
  | none => simp only [true_and]; exact Or.inr (Classical.em _)
  | some key => exact Or.inl ⟨key, eq_name_of_ofName? h⟩

theorem name_injective : Function.Injective Key.name := by
  intro key key' h
  have hsome := congrArg Key.ofName? h
  rwa [ofName?_name, ofName?_name, Option.some_inj] at hsome

theorem name_not_mem_reserved (key : Key) : key.name ∉ reserved := by
  cases key <;> decide

/-! ## One entry -/

variable {o : Options} {name : String} {key : Key} {v : Value} {e : String × Value}
  {entries fields : List (String × Value)}

theorem assign_name (o : Options) (key : Key) (v : Value) :
    o.assign key.name v = .ok (o.set key v) := by
  cases key <;> rfl

theorem assign_other (h : Key.ofName? name = none) (hname : name ∉ reserved) (o : Options)
    (v : Value) : o.assign name v = .ok o := by
  have hslot : Slot.ofName name = .other := by
    simp only [reserved, List.mem_cons, List.not_mem_nil, or_false, not_or] at hname
    simp [Slot.ofName, h, hname]
  simp [assign, hslot]

/-- The entries that can be assigned. -/
structure Settable (e : String × Value) : Prop where
  ne_class : e.1 ≠ "__class__"
  ne_weakref : e.1 ≠ "__weakref__"
  dict : e.1 = "__dict__" → ∃ fields, e.2 = .record fields

theorem settable_of_not_mem (h : e.1 ∉ reserved) : Settable e := by
  simp only [reserved, List.mem_cons, List.not_mem_nil, or_false, not_or] at h
  exact ⟨h.2.2.1, h.2.2.2, fun hdict => absurd hdict h.2.1⟩

theorem settable_record (fields : List (String × Value)) :
    Settable ("__dict__", .record fields) := by
  constructor <;> simp

/-- An entry that can be assigned can be assigned to all options. -/
theorem assign_eq_ok (h : Settable e) (o : Options) : o.assign e.1 e.2 = .ok (write e o) := by
  obtain ⟨name, v⟩ := e
  suffices hok : ∃ p, o.assign name v = .ok p by
    obtain ⟨p, hp⟩ := hok
    rw [write, hp]
  rcases name_cases name with ⟨key, rfl⟩ | hname | ⟨hnone, hname⟩
  · exact ⟨_, assign_name o key v⟩
  · simp only [reserved, List.mem_cons, List.not_mem_nil, or_false] at hname
    rcases hname with rfl | rfl | rfl | rfl
    · exact ⟨_, rfl⟩
    · obtain ⟨fields, rfl⟩ := h.dict rfl
      exact ⟨_, rfl⟩
    · exact absurd rfl h.ne_class
    · exact absurd rfl h.ne_weakref
  · exact ⟨_, assign_other hnone hname o v⟩

/-- An entry that cannot be assigned can be assigned to no options. -/
theorem assign_eq_error (h : ¬Settable e) (o : Options) : ∃ f, o.assign e.1 e.2 = .error f := by
  obtain ⟨name, v⟩ := e
  by_cases hclass : name = "__class__"
  · exact ⟨.notKind v.typeName, by rw [hclass]; rfl⟩
  · by_cases hweakref : name = "__weakref__"
    · exact ⟨.unwritable "__weakref__" "CodeGeneratorConfig", by rw [hweakref]; rfl⟩
    · have hdict : ¬(name = "__dict__" → ∃ fields, v = .record fields) :=
        fun hdict => h ⟨hclass, hweakref, hdict⟩
      rw [Classical.not_imp] at hdict
      obtain ⟨rfl, hrecord⟩ := hdict
      refine ⟨.notFields v.typeName, ?_⟩
      cases v with
      | record fields => exact absurd ⟨fields, rfl⟩ hrecord
      | _ => rfl

/-! ## Many entries -/

theorem writeAll_cons (o : Options) (e : String × Value) (entries : List (String × Value)) :
    o.writeAll (e :: entries) = (write e o).writeAll entries := rfl

theorem writeAll_append (o : Options) (u v : List (String × Value)) :
    o.writeAll (u ++ v) = (o.writeAll u).writeAll v := List.foldl_append

theorem assignAll_eq_ok (h : ∀ e ∈ entries, Settable e) (o : Options) :
    o.assignAll entries = .ok (o.writeAll entries) := by
  induction entries generalizing o with
  | nil => rfl
  | cons e entries ih =>
    obtain ⟨he, hentries⟩ := List.forall_mem_cons.1 h
    rw [assignAll, assign_eq_ok he, writeAll_cons]
    exact ih hentries _

theorem assignAll_eq_error (he : e ∈ entries) (h : ¬Settable e) (o : Options) :
    ∃ f, o.assignAll entries = .error f := by
  induction entries generalizing o with
  | nil => cases he
  | cons e' entries ih =>
    rw [assignAll]
    by_cases hsettable : Settable e'
    · rw [assign_eq_ok hsettable]
      refine ih ((List.mem_cons.1 he).resolve_left ?_) _
      rintro rfl
      exact h hsettable
    · obtain ⟨f, hf⟩ := assign_eq_error hsettable o
      exact ⟨f, by rw [hf]; rfl⟩

/-! ## What options hold after entries -/

theorem ext_get {o p : Options} (h : ∀ key, o.get key = p.get key)
    (hexport : o.hidingExport = p.hidingExport) : o = p := by
  obtain ⟨⟩ := o
  obtain ⟨⟩ := p
  rw [Options.mk.injEq]
  exact ⟨h .moduleTypeName, h .emptyEnumCaseName, h .leadingDigitPrefix, h .headerTemplate,
    h .customStringDelimiters, hexport⟩

theorem write_name (o : Options) (key : Key) (v : Value) :
    write (key.name, v) o = o.set key v := by
  rw [write, assign_name]

theorem write_exportName (o : Options) (v : Value) :
    write (exportName, v) o = { o with hidingExport := some v } := rfl

theorem write_dict (o : Options) (fields : List (String × Value)) :
    write ("__dict__", .record fields) o = ofFields fields := rfl

/-- An entry that names no option, does not hide the export and does not set all fields at once
changes nothing, whether it is ignored or refused. -/
theorem write_eq_self (hname : Key.ofName? name = none) (hexport : name ≠ exportName)
    (hdict : name ≠ "__dict__") (o : Options) (v : Value) : write (name, v) o = o := by
  rw [write]
  by_cases hsettable : Settable (name, v)
  · have hreserved : name ∉ reserved := by
      simp [reserved, hexport, hdict, hsettable.ne_class, hsettable.ne_weakref]
    rw [assign_other hname hreserved]
  · obtain ⟨f, hf⟩ := assign_eq_error hsettable o
    rw [hf]

theorem hidingExport_set (o : Options) (key : Key) (v : Value) :
    (o.set key v).hidingExport = o.hidingExport := by
  cases key <;> rfl

theorem get_write (h : name ≠ "__dict__") (o : Options) (key : Key) (v : Value) :
    (write (name, v) o).get key = if name = key.name then v else o.get key := by
  cases hname : Key.ofName? name with
  | some key' =>
    obtain rfl := eq_name_of_ofName? hname
    rw [write_name]
    by_cases hkey : key' = key
    · rw [hkey, if_pos rfl, get_set_self]
    · rw [if_neg fun hsame => hkey (name_injective hsame), get_set_of_ne o v (Ne.symm hkey)]
  | none =>
    have hne : name ≠ key.name := by
      rintro rfl
      rw [ofName?_name] at hname
      cases hname
    rw [if_neg hne]
    by_cases hexport : name = exportName
    · rw [hexport, write_exportName]
      cases key <;> rfl
    · rw [write_eq_self hname hexport h]

theorem hidingExport_write (h : name ≠ "__dict__") (o : Options) (v : Value) :
    (write (name, v) o).hidingExport = if name = exportName then some v else o.hidingExport := by
  by_cases hexport : name = exportName
  · rw [hexport, write_exportName, if_pos rfl]
  · rw [if_neg hexport]
    cases hname : Key.ofName? name with
    | some key =>
      obtain rfl := eq_name_of_ofName? hname
      rw [write_name, hidingExport_set]
    | none => rw [write_eq_self hname hexport h]

/-- What an entry of one name changes, and no other, holds what the last such entry says, if there
is one. -/
theorem held_writeAll (held : Options → Option Value)
    (hheld : ∀ other ≠ "__dict__", ∀ v o,
      held (write (other, v) o) = if other = name then some v else held o)
    (h : ∀ e ∈ entries, e.1 ≠ "__dict__") (o : Options) :
    held (o.writeAll entries) = (field? name entries.reverse).or (held o) := by
  induction entries generalizing o with
  | nil => rfl
  | cons e entries ih =>
    obtain ⟨hdict, h⟩ := List.forall_mem_cons.1 h
    rw [writeAll_cons, ih h, hheld e.1 hdict, List.reverse_cons, field?_append, Option.or_assoc,
      field?_cons]
    split <;> rfl

/-- **Each option holds what its last entry says, if it has one.** -/
theorem get_writeAll (h : ∀ e ∈ entries, e.1 ≠ "__dict__") (o : Options) (key : Key) :
    (o.writeAll entries).get key = (field? key.name entries.reverse).getD (o.get key) := by
  have hheld : some ((o.writeAll entries).get key) =
      (field? key.name entries.reverse).or (some (o.get key)) :=
    held_writeAll (fun o => some (o.get key))
      (fun other hdict v o => by rw [get_write hdict]; split <;> rfl) h o
  rwa [Option.or_some, Option.some_inj] at hheld

theorem hidingExport_writeAll (h : ∀ e ∈ entries, e.1 ≠ "__dict__") (o : Options) :
    (o.writeAll entries).hidingExport = (field? exportName entries.reverse).or o.hidingExport :=
  held_writeAll hidingExport (fun _ hdict v o => hidingExport_write hdict o v) h o

/-! ## Entries without reserved names -/

theorem not_mem_map_of_mem_reserved (h : ∀ e ∈ entries, e.1 ∉ reserved) (hname : name ∈ reserved) :
    name ∉ entries.map Prod.fst := by
  intro hmem
  obtain ⟨e, he, rfl⟩ := List.mem_map.1 hmem
  exact h e he hname

theorem forall_ne_of_not_mem (h : name ∉ entries.map Prod.fst) : ∀ e ∈ entries, e.1 ≠ name := by
  rintro e he rfl
  exact h (List.mem_map_of_mem he)

theorem ne_dict_of_not_mem (h : ∀ e ∈ entries, e.1 ∉ reserved) :
    ∀ e ∈ entries, e.1 ≠ "__dict__" :=
  forall_ne_of_not_mem (not_mem_map_of_mem_reserved h (by decide))

theorem hidingExport_writeAll_of_not_mem (h : ∀ e ∈ entries, e.1 ∉ reserved) (o : Options) :
    (o.writeAll entries).hidingExport = o.hidingExport := by
  have hnone : field? exportName entries.reverse = none := by
    rw [field?_eq_none_iff, List.map_reverse, List.mem_reverse]
    exact not_mem_map_of_mem_reserved h (by decide)
  rw [hidingExport_writeAll (ne_dict_of_not_mem h), hnone, Option.none_or]

theorem ofValue_record (entries : List (String × Value)) :
    ofValue (.record entries) = assignAll {} entries := rfl

theorem ofValue_eq_ok (h : ∀ e ∈ entries, e.1 ∉ reserved) :
    ofValue (.record entries) = .ok (writeAll {} entries) :=
  assignAll_eq_ok (fun e he => settable_of_not_mem (h e he)) {}

/-! ## All fields at once -/

/-- Options with a field of a record in place of one of them, if the record has it. -/
def withField (fields : List (String × Value)) (o : Options) (key : Key) : Options :=
  match field? key.name fields with
  | some v => o.set key v
  | none => o

theorem ofFields_eq (fields : List (String × Value)) :
    ofFields fields =
      { Key.all.foldl (withField fields) {} with hidingExport := field? exportName fields } := rfl

theorem get_withField (fields : List (String × Value)) (o : Options) (key key' : Key) :
    (o.withField fields key).get key' =
      if key = key' then (field? key'.name fields).getD (o.get key') else o.get key' := by
  rw [withField]
  by_cases hkey : key = key'
  · rw [hkey, if_pos rfl]
    cases field? key'.name fields with
    | none => rfl
    | some v => exact get_set_self o key' v
  · rw [if_neg hkey]
    cases field? key.name fields with
    | none => rfl
    | some v => exact get_set_of_ne o v (Ne.symm hkey)

theorem get_foldl_withField (fields : List (String × Value)) (keys : List Key) (o : Options)
    (key : Key) : (keys.foldl (withField fields) o).get key =
      if key ∈ keys then (field? key.name fields).getD (o.get key) else o.get key := by
  induction keys generalizing o with
  | nil => rfl
  | cons key' keys ih =>
    rw [List.foldl_cons, ih, get_withField]
    by_cases hkey : key' = key
    · cases field? key.name fields <;> simp [hkey]
    · simp [hkey, Ne.symm hkey]

/-- **Each option holds what its field says, if it has one, and else its default.** -/
theorem get_ofFields (fields : List (String × Value)) (key : Key) :
    (ofFields fields).get key = (field? key.name fields).getD (get {} key) := by
  have hmem : key ∈ Key.all := by cases key <;> decide
  have hget := get_foldl_withField fields Key.all {} key
  rw [if_pos hmem] at hget
  rw [ofFields_eq, ← hget]
  cases key <;> rfl

theorem hidingExport_ofFields (fields : List (String × Value)) :
    (ofFields fields).hidingExport = field? exportName fields := rfl

end SwiftText.Options
