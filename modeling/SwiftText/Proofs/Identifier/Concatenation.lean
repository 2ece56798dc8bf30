import SwiftText.Proofs.Identifier.Keyword

/-!
# Names of two pieces

A run of separators between two pieces of a name leaves no trace but the capital after it. So the
identifier of the name is put together from what the first piece gives and what the second one gives
after any run of separators. Runs at the seam may be longer than the one between the pieces, if a
piece has separators there itself.

* `IsRun`: a run of separators, at least one.
* `stem`: what a piece gives before a run. A reserved word gives itself, without back quotes, since it
  is recognised only where it is the whole name.
* `normalise_append_run`: one pass over the first piece, and one over the second that starts after a
  separator.
* `ofName_append`: the law for identifiers.
-/

namespace SwiftText.Identifier

open Unicode Reserved

/-- A run of separators of names, at least one. -/
structure IsRun (d : List Char) : Prop where
  ne_nil : d ≠ []
  isWord_eq_false : ∀ c ∈ d, isWord c = false

namespace IsRun

variable {d : List Char}

theorem separates (h : IsRun d) : ∀ c ∈ d, separatesNames c = true := fun c hc => by
  rw [separatesNames, h.isWord_eq_false c hc, Bool.not_false]

/-- A name with a run of separators in it is no reserved word. -/
theorem isReserved_append (h : IsRun d) (s t : List Char) : isReserved (s ++ d ++ t) = false := by
  obtain ⟨c, hc⟩ := List.exists_mem_of_ne_nil d h.ne_nil
  have hmem : c ∈ s ++ d ++ t := by simp [hc]
  by_contra hres
  have hword := isWord_of_isReserved (by simpa using hres) hmem
  rw [h.isWord_eq_false c hc] at hword
  cases hword

end IsRun

/-- What a piece gives to the identifier of a name that goes on with a separator. -/
def stem (s : List Char) : List Char := if isReserved s then s else normalise s

theorem stem_eq_scan (s : List Char) : stem s = scan separatesNames false s := by
  unfold stem
  split
  · next h => exact (scan_of_forall_kept (separatesNames_of_isReserved h)).symm
  · next h => exact normalise_eq_scan (by simpa using h)

/-- **The identifier of two pieces**: a run of separators between them only makes the second pass start
after a separator. -/
theorem normalise_append_run {d : List Char} (hd : IsRun d) (s t : List Char) :
    normalise (s ++ d ++ t) = stem s ++ scan separatesNames true t := by
  rw [normalise_eq_scan (hd.isReserved_append s t), stem_eq_scan, List.append_assoc, scan_append,
    scan_separators_append hd.ne_nil hd.separates]

theorem normalise_run_append {d : List Char} (hd : IsRun d) (t : List Char) :
    normalise (d ++ t) = scan separatesNames true t := by
  have hnil : stem [] = [] := by decide
  rw [← List.nil_append d, normalise_append_run hd, hnil, List.nil_append]

/-- **The law of concatenation.** The identifier of two pieces with a run of separators between them
is that of the first piece, or the piece itself if it is a reserved word, followed by that of the
second piece after any run of separators. So neither the separators nor their number matter. -/
theorem ofName_append (a b : String) {d d' : String} (hd : IsRun d.toList) (hd' : IsRun d'.toList) :
    ofName (a ++ d ++ b) = (if isReserved a.toList then a else ofName a) ++ ofName (d' ++ b) ∧
      ofName (a ++ d ++ b) = ofName (a ++ d' ++ b) := by
  have hpieces : ∀ {e : String}, IsRun e.toList →
      (ofName (a ++ e ++ b)).toList = stem a.toList ++ scan separatesNames true b.toList :=
    fun he => by
      rw [toList_ofName_eq, String.toList_append, String.toList_append, normalise_append_run he]
  have hstem : (if isReserved a.toList then a else ofName a).toList = stem a.toList := by
    unfold stem
    split
    · rfl
    · exact toList_ofName_eq a
  constructor
  · apply String.toList_inj.1
    rw [hpieces hd, String.toList_append, hstem, toList_ofName_eq, String.toList_append,
      normalise_run_append hd']
  · apply String.toList_inj.1
    rw [hpieces hd, hpieces hd']

/-- A reserved word before the run, and a second piece that starts with a separator of its own. -/
theorem ofName_append_self :
    IsRun "-".toList ∧ IsRun " .".toList ∧
      ofName ("self" ++ "-" ++ "?ßx") =
        (if isReserved "self".toList then "self" else ofName "self") ++ ofName (" ." ++ "?ßx") ∧
      ofName ("self" ++ "-" ++ "?ßx") = ofName ("self" ++ " ." ++ "?ßx") := by
  have hd : IsRun "-".toList := ⟨by decide, List.forall_mem_singleton.2 (by decide)⟩
  have hd' : IsRun " .".toList :=
    ⟨by decide, List.forall_mem_cons.2 ⟨by decide, List.forall_mem_singleton.2 (by decide)⟩⟩
  exact ⟨hd, hd', ofName_append "self" "?ßx" hd hd'⟩

/-- The reserved word has no back quotes in the longer name, and `ß` becomes two letters. -/
example : ofName ("self" ++ "-" ++ "?ßx") = "selfSSx" := by decide

end SwiftText.Identifier
