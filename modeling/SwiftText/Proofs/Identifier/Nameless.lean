import SwiftText.Proofs.Identifier.EnumCase
import SwiftText.Proofs.Unicode.WordCase

/-!
# Labels without a name of their own

Whether a label takes the given name is decided late: on its joined segments, after a label in all
capitals was put in lower case. Yet it can be read off the label as it stands. Lower-casing keeps the
number of identifier characters, circled capitals and the dotted `İ` included, every identifier
character leaves something in the joined segments, and the low line comes from itself only.

* `Nameless`: the labels without an identifier character, or with the low line alone.
* `nameless_lower`: lower-casing makes no difference.
* `scan_eq_nil_iff`, `scan_eq_lowLine_iff`: what the joined segments tell about the text.
* `labelStem_eq_none_iff`: a label has no name of its own exactly if it is nameless.
* `toList_ofLabel`: the case name of any other label, in one equation.
* `ofLabelValue_emptyName`: a nameless label takes the given name, and no other label looks at it.
-/

namespace SwiftText.Identifier

open Unicode Reserved

variable {s : List Char}

/-- The identifier characters of a label are none at all, or the low line alone. -/
def Nameless (s : List Char) : Prop := s.filter isWord = [] ∨ s.filter isWord = ['_']

instance : DecidablePred Nameless := fun _ => inferInstanceAs (Decidable (_ ∨ _))

/-! ## Lower case -/

theorem filter_isWord_eq_lowLine_iff :
    s.filter isWord = ['_'] ↔ s.countP isWord = 1 ∧ '_' ∈ s := by
  rw [List.countP_eq_length_filter]
  constructor
  · intro h
    have hmem : '_' ∈ s.filter isWord := h ▸ List.mem_singleton_self '_'
    exact ⟨by rw [h, List.length_singleton], List.mem_of_mem_filter hmem⟩
  · rintro ⟨hone, hmem⟩
    obtain ⟨c, hc⟩ := List.length_eq_one_iff.1 hone
    have hlow : '_' ∈ s.filter isWord := List.mem_filter.2 ⟨hmem, rfl⟩
    rw [hc, List.mem_singleton] at hlow
    rw [hc, hlow]

/-- **A label in lower case is nameless exactly if the label is.** -/
theorem nameless_lower : Nameless (lower s) ↔ Nameless s := by
  have hnone : ∀ t : List Char, t.filter isWord = [] ↔ t.countP isWord = 0 := fun t => by
    rw [List.countP_eq_length_filter, List.length_eq_zero_iff]
  rw [Nameless, Nameless, hnone, hnone, filter_isWord_eq_lowLine_iff, filter_isWord_eq_lowLine_iff,
    countP_isWord_lower, lowLine_mem_lower_iff]

theorem nameless_labelText : Nameless (labelText s) ↔ Nameless s := by
  unfold labelText
  split
  · exact nameless_lower
  · exact Iff.rfl

/-! ## The joined segments -/

/-- What the pass over a text makes of an identifier character is never nothing, and it is the low
line only for the low line. -/
theorem scan_word {c : Char} (hc : separatesNames c = false) (after : Bool) (s : List Char) :
    ∃ u, scan separatesNames after (c :: s) = u ++ scan separatesNames false s ∧
      u ≠ [] ∧ (u = ['_'] ↔ c = '_') := by
  cases after with
  | true =>
    refine ⟨_, scan_capitalised hc s, upperChar_ne_nil c, ?_⟩
    constructor
    · intro h
      exact lowLine_mem_upperChar_iff.1 (h ▸ List.mem_singleton_self '_')
    · rintro rfl
      decide
  | false => exact ⟨[c], scan_kept hc s, List.cons_ne_nil c [], by simp⟩

theorem isWord_eq_not_separatesNames (c : Char) : isWord c = !separatesNames c := by
  simp [separatesNames]

/-- **The joined segments are empty exactly if there is no identifier character.** -/
theorem scan_eq_nil_iff (after : Bool) :
    scan separatesNames after s = [] ↔ s.filter isWord = [] := by
  induction s generalizing after with
  | nil => exact iff_of_true rfl rfl
  | cons c s ih =>
    cases hc : separatesNames c with
    | true =>
      rw [scan_separator hc, List.filter_cons_of_neg (by simp [isWord_eq_not_separatesNames, hc])]
      exact ih true
    | false =>
      obtain ⟨u, hu, hne, -⟩ := scan_word hc after s
      rw [hu, List.filter_cons_of_pos (by simp [isWord_eq_not_separatesNames, hc])]
      simp [hne]

/-- **They are the low line exactly if that is the only identifier character.** -/
theorem scan_eq_lowLine_iff (after : Bool) :
    scan separatesNames after s = ['_'] ↔ s.filter isWord = ['_'] := by
  induction s generalizing after with
  | nil => simp [scan]
  | cons c s ih =>
    cases hc : separatesNames c with
    | true =>
      rw [scan_separator hc, List.filter_cons_of_neg (by simp [isWord_eq_not_separatesNames, hc])]
      exact ih true
    | false =>
      obtain ⟨u, hu, hne, hlow⟩ := scan_word hc after s
      rw [hu, List.filter_cons_of_pos (by simp [isWord_eq_not_separatesNames, hc]),
        List.append_eq_singleton_iff, List.cons.injEq, hlow, scan_eq_nil_iff]
      simp [hne]

/-! ## Labels -/

theorem not_nameless_of_mem {c : Char} (hc : c ∈ s) (hword : isWord c = true) (hlow : c ≠ '_') :
    ¬ Nameless s := by
  have hmem : c ∈ s.filter isWord := List.mem_filter.2 ⟨hc, hword⟩
  rintro (h | h)
  · rw [h] at hmem
    cases hmem
  · rw [h, List.mem_singleton] at hmem
    exact hlow hmem

/-- A reserved word is made of letters, and there is one. -/
theorem not_nameless_of_isReserved (h : isReserved s = true) : ¬ Nameless s := by
  have hne : s ≠ [] := by
    rintro rfl
    exact absurd h (by decide)
  obtain ⟨c, hc⟩ := List.exists_mem_of_ne_nil s hne
  have halpha := isAlpha_of_isReserved h hc
  refine not_nameless_of_mem hc (isWord_of_isAlpha halpha) ?_
  rintro rfl
  exact absurd halpha (by decide)

theorem normalise_eq_nil_or_lowLine_iff :
    normalise s = [] ∨ normalise s = ['_'] ↔ Nameless s := by
  cases hres : isReserved s with
  | true =>
    rw [normalise_of_isReserved hres]
    refine iff_of_false ?_ (not_nameless_of_isReserved hres)
    simp [backquoted]
  | false => rw [normalise_eq_scan hres, scan_eq_nil_iff, scan_eq_lowLine_iff, Nameless]

/-- **A label has no name of its own exactly if it is nameless.** -/
theorem labelStem_eq_none_iff {raw : List Char} : labelStem raw = none ↔ Nameless raw := by
  rw [← nameless_labelText, ← normalise_eq_nil_or_lowLine_iff, labelStem_eq]
  split
  · next h => exact iff_of_true rfl h
  · next h => exact iff_of_false (Option.some_ne_none _) h

theorem labelStem_of_not_nameless {raw : List Char} (h : ¬ Nameless raw) :
    labelStem raw = some (normalise (labelText raw)) := by
  have hne := labelStem_eq_none_iff.not.2 h
  rw [labelStem_eq] at hne ⊢
  split at hne
  · exact absurd rfl hne
  · next hname => rw [if_neg hname]

/-- **The case name of a label with a name of its own**: the label, in lower case if it was in all
capitals, between back quotes if it is a reserved word, and otherwise its joined segments with the
first character in lower case, under the lead, checked once more. -/
theorem toList_ofLabel {raw : String} (h : ¬ Nameless raw.toList) (emptyName lead : String) :
    (ofLabel raw emptyName lead).toList =
      if isReserved (labelText raw.toList) then backquoted (labelText raw.toList)
      else escape (withLead lead.toList
        (decapitalise (scan separatesNames false (labelText raw.toList)))) := by
  rw [toList_ofLabel_of_labelStem (labelStem_of_not_nameless h)]
  cases hres : isReserved (labelText raw.toList) with
  | true => simp [normalise_of_isReserved hres, startsQuoted, backquoted]
  | false =>
    have hquote : startsQuoted (normalise (labelText raw.toList)) = false := by
      by_contra hquote
      have hself := (startsQuoted_normalise (by simpa using hquote)).1
      rw [hres] at hself
      cases hself
    rw [hquote, normalise_eq_scan hres, if_neg Bool.false_ne_true, if_neg Bool.false_ne_true]

/-- A label with a name of its own does not look at the given one. -/
theorem ofLabelValue_of_not_nameless {raw : String} (h : ¬ Nameless raw.toList) (emptyName : Value)
    (lead : String) :
    ofLabelValue (.text raw) emptyName (.text lead) = .ok (.text (ofLabel raw "" lead)) := by
  have htext := ofLabelValue_text raw "" lead
  rw [ofLabelValue, labelStem_of_not_nameless h] at htext ⊢
  exact htext

/-- **Exactly when the given name is used**: a nameless label takes it as it is, whatever it is, and
any other label has a case name of its own, which is not blank and the same under every given
name. -/
theorem ofLabelValue_emptyName (raw lead : String) :
    (Nameless raw.toList →
      ∀ emptyName, ofLabelValue (.text raw) emptyName (.text lead) = .ok emptyName) ∧
    (¬ Nameless raw.toList →
      ∃ s, s ≠ "" ∧
        ∀ emptyName, ofLabelValue (.text raw) emptyName (.text lead) = .ok (.text s)) := by
  constructor
  · intro h emptyName
    rw [ofLabelValue, labelStem_eq_none_iff.2 h]
  · intro h
    obtain ⟨hne, -⟩ := ofLabel_of_labelStem (labelStem_of_not_nameless h) "" lead
    refine ⟨_, fun hblank => hne ?_, fun emptyName => ofLabelValue_of_not_nameless h emptyName lead⟩
    rw [hblank, String.toList_empty]

/-- A circled capital is a capital but no identifier character, and two low lines are a name. -/
theorem ofLabelValue_emptyName_circled :
    Nameless "Ⓐ_-".toList ∧
      ofLabelValue (.text "Ⓐ_-") (.bool false) (.text "N") = .ok (.bool false) ∧
      ¬ Nameless "_-_".toList ∧
      ∃ s, s ≠ "" ∧ ∀ emptyName, ofLabelValue (.text "_-_") emptyName (.text "N") = .ok (.text s) := by
  have hcircled : Nameless "Ⓐ_-".toList := by decide +kernel
  have htwo : ¬ Nameless "_-_".toList := by decide
  exact ⟨hcircled, (ofLabelValue_emptyName "Ⓐ_-" "N").1 hcircled _, htwo,
    (ofLabelValue_emptyName "_-_" "N").2 htwo⟩

end SwiftText.Identifier
