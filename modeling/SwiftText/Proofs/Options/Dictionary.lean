import SwiftText.Proofs.Options.Entry
import SwiftText.Proofs.Value.Equality

/-!
# Options as a dictionary

Without reserved names among them, entries make of options what a dictionary makes of them: each
option holds what was written to it last, the other names do not matter, and the order only matters
where an option is written twice. So options are the same as what their own export is read as.

* `Options.merged`: the dictionary of the defaults, overwritten by entries.
* `Options.ofValue_merged`, `Options.ofValue_entries`, `Options.ofValue_perm`: what the dictionary, an
  export, and a record in another order are read as.
* `Options.same_refl`, `Options.same_writeAll`: options equal themselves.
-/

namespace SwiftText.Options

open Value

/-- The fields of the default options with entries put in, one after the other. -/
def merged (entries : List (String × Value)) : List (String × Value) :=
  entries.foldl put (Options.entries {})

variable {o : Options} {e : String × Value} {entries u v : List (String × Value)}

/-! ## The fields of an export -/

theorem field?_entries (o : Options) (key : Key) : field? key.name o.entries = some (o.get key) := by
  cases key <;> rfl

theorem nodup_entries (o : Options) : (o.entries.map Prod.fst).Nodup := by
  have hnames : o.entries.map Prod.fst = Key.all.map Key.name := List.map_map
  rw [hnames]
  decide

theorem not_mem_reserved_of_mem_entries (h : e ∈ o.entries) : e.1 ∉ reserved := by
  obtain ⟨key, -, rfl⟩ := List.mem_map.1 h
  exact name_not_mem_reserved key

theorem not_mem_reserved_of_mem_merged (h : ∀ e ∈ entries, e.1 ∉ reserved)
    (he : e ∈ merged entries) : e.1 ∉ reserved :=
  (mem_of_mem_foldl_put he).elim (h e) not_mem_reserved_of_mem_entries

/-! ## Reading entries -/

/-- Only what is written to each option last matters. -/
theorem writeAll_eq {p : Options} (h : ∀ e ∈ entries, e.1 ∉ reserved)
    (hexport : p.hidingExport = o.hidingExport)
    (hget : ∀ key : Key, (field? key.name entries.reverse).getD (o.get key) = p.get key) :
    o.writeAll entries = p := by
  refine ext_get (fun key => ?_) ?_
  · rw [get_writeAll (ne_dict_of_not_mem h), hget]
  · rw [hidingExport_writeAll_of_not_mem h, hexport]

/-- **Reading the dictionary is writing the entries.** -/
theorem ofValue_merged (h : ∀ e ∈ entries, e.1 ∉ reserved) :
    ofValue (.record (merged entries)) = .ok (writeAll {} entries) := by
  have hmerged : ∀ e ∈ merged entries, e.1 ∉ reserved := fun _ => not_mem_reserved_of_mem_merged h
  rw [ofValue_eq_ok hmerged]
  refine congrArg _ (writeAll_eq hmerged (hidingExport_writeAll_of_not_mem h {}) fun key => ?_)
  rw [merged, field?_reverse (nodup_foldl_put (nodup_entries {}) entries), field?_foldl_put,
    field?_entries, Option.or_some, Option.getD_some, get_writeAll (ne_dict_of_not_mem h)]

theorem toValue_eq_ok (h : o.hidingExport = none) : o.toValue = .ok (.record o.entries) := by
  rw [toValue, h]

/-- **Options are what their export is read as.** -/
theorem ofValue_entries (h : o.hidingExport = none) : ofValue (.record o.entries) = .ok o := by
  have hentries : ∀ e ∈ o.entries, e.1 ∉ reserved := fun _ => not_mem_reserved_of_mem_entries
  rw [ofValue_eq_ok hentries]
  refine congrArg _ (writeAll_eq hentries h fun key => ?_)
  rw [field?_reverse (nodup_entries o), field?_entries, Option.getD_some]

/-- **The order of a record does not matter.** -/
theorem ofValue_perm (hperm : u.Perm v) (hkeys : (u.map Prod.fst).Nodup)
    (h : ∀ e ∈ u, e.1 ∉ reserved) : ofValue (.record u) = ofValue (.record v) := by
  have h' : ∀ e ∈ v, e.1 ∉ reserved := fun e he => h e (hperm.mem_iff.2 he)
  have hkeys' : (v.map Prod.fst).Nodup := (hperm.map _).nodup_iff.1 hkeys
  rw [ofValue_eq_ok h, ofValue_eq_ok h']
  refine congrArg _ (writeAll_eq h (hidingExport_writeAll_of_not_mem h' {}) fun key => ?_)
  rw [field?_reverse hkeys, field?_perm hperm hkeys, get_writeAll (ne_dict_of_not_mem h'),
    field?_reverse hkeys']

/-! ## Equality -/

theorem same_refl (h : ∀ key, (o.get key).WellFormed) : o.same o = true :=
  List.all_eq_true.2 fun key _ => Value.same_refl (h key)

theorem wellFormed_get_default (key : Key) : (get {} key).WellFormed := by
  cases key <;> constructor

theorem same_writeAll (h : ∀ e ∈ entries, e.1 ≠ "__dict__")
    (hvalues : ∀ e ∈ entries, e.2.WellFormed) :
    (writeAll {} entries).same (writeAll {} entries) = true := by
  refine same_refl fun key => ?_
  rw [get_writeAll h]
  cases hfield : field? key.name entries.reverse with
  | none => exact wellFormed_get_default key
  | some v => exact hvalues _ (List.mem_reverse.1 (mem_of_field? hfield))

end SwiftText.Options
