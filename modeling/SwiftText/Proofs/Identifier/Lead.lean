import SwiftText.Proofs.Identifier.Nameless
import SwiftText.Proofs.Unicode.Ascii

/-!
# Identifiers under a lead

A lead does the same to names and to labels: it stands in front of an identifier that starts with a
digit, and nothing else changes. For labels this takes an argument, since the lead is put there before
the result is compared with the reserved words. But reserved words have no digits, so a result with a
lead is none, and one without a lead is compared as before; and what stands between back quotes, or
is given for labels without a name, starts with no digit.

* `Led`: an identifier under a lead beside the one without.
* `isReserved_eq_false_of_isDigit`: a text with a digit is no reserved word.
* `escape_withLead`: a lead may as well be put in front of the checked text.
* `toList_ofLabel_lead`: the case name of a label under a lead.
* `led_ofName_ofLabel`: the effect of a lead on names and labels.
-/

namespace SwiftText.Identifier

open Unicode Reserved

variable {s lead : List Char} {c : Char}

/-- One identifier is another one under a lead: the lead stands in front of it if it starts with a
digit, and then the result does not. -/
structure Led (lead plain led : String) : Prop where
  eq_ite : led = if startsWithDigit plain.toList then lead ++ plain else plain
  startsWithDigit_eq_false : startsWithDigit led.toList = false

/-! ## Digits -/

theorem isDigit_eq_false_of_isAlpha (h : c.isAlpha = true) : isDigit c = false := by
  have hbounds := toNat_bounds_of_isAlpha h
  exact forall_ascii (P := fun c => c.isAlpha = true → isDigit c = false) (by decide +kernel)
    (by omega) h

/-- **A text with a digit is no reserved word.** -/
theorem isReserved_eq_false_of_isDigit (hc : c ∈ s) (hdigit : isDigit c = true) :
    isReserved s = false := by
  by_contra hres
  have hletter := isDigit_eq_false_of_isAlpha (isAlpha_of_isReserved (by simpa using hres) hc)
  rw [hdigit] at hletter
  cases hletter

theorem startsWithDigit_iff : startsWithDigit s = true ↔ ∃ c rest, s = c :: rest ∧ isDigit c := by
  cases s with
  | nil => simp [startsWithDigit]
  | cons c rest => simp [startsWithDigit]

theorem startsWithDigit_backquoted (s : List Char) : startsWithDigit (backquoted s) = false := rfl

/-! ## Leads and the check -/

theorem withLead_of_startsWithDigit (h : startsWithDigit s = true) (lead : List Char) :
    withLead lead s = lead ++ s := if_pos h

theorem withLead_of_not_startsWithDigit (h : startsWithDigit s = false) (lead : List Char) :
    withLead lead s = s := if_neg (by simp [h])

theorem withLead_nil (s : List Char) : withLead [] s = s := by simp [withLead]

/-- **A lead may as well be put in front of the checked text.** -/
theorem escape_withLead (lead s : List Char) :
    escape (withLead lead s) = withLead lead (escape s) := by
  cases hdigit : startsWithDigit s with
  | true =>
    obtain ⟨c, rest, rfl, hc⟩ := startsWithDigit_iff.1 hdigit
    have hplain : isReserved (c :: rest) = false :=
      isReserved_eq_false_of_isDigit List.mem_cons_self hc
    have hled : isReserved (lead ++ c :: rest) = false :=
      isReserved_eq_false_of_isDigit (List.mem_append_right lead List.mem_cons_self) hc
    rw [withLead_of_startsWithDigit hdigit, escape, escape, hplain, hled]
    exact (withLead_of_startsWithDigit hdigit lead).symm
  | false =>
    rw [withLead_of_not_startsWithDigit hdigit, withLead_of_not_startsWithDigit]
    unfold escape
    split
    · exact startsWithDigit_backquoted s
    · exact hdigit

/-- With a lead of its own in front, a text starts with no digit. -/
theorem startsWithDigit_withLead (hne : lead ≠ []) (hlead : startsWithDigit lead = false)
    (s : List Char) : startsWithDigit (withLead lead s) = false := by
  cases hdigit : startsWithDigit s with
  | true =>
    rw [withLead_of_startsWithDigit hdigit, startsWithDigit, List.head?_append_of_ne_nil _ hne]
    exact hlead
  | false => rw [withLead_of_not_startsWithDigit hdigit, hdigit]

/-! ## Names and labels -/

theorem toList_ofName_lead (raw lead : String) :
    (ofName raw lead).toList = withLead lead.toList (ofName raw).toList := by
  rw [toList_ofName_eq, ofName, String.toList_ofList]

/-- **The case name of a label under a lead** is the case name without one, under that lead. -/
theorem toList_ofLabel_lead (raw lead : String) {emptyName : String}
    (hempty : startsWithDigit emptyName.toList = false) :
    (ofLabel raw emptyName lead).toList =
      withLead lead.toList (ofLabel raw emptyName).toList := by
  by_cases hname : Nameless raw.toList
  · have hstem := labelStem_eq_none_iff.2 hname
    rw [ofLabel_of_labelStem_eq_none hstem, ofLabel_of_labelStem_eq_none hstem,
      withLead_of_not_startsWithDigit hempty]
  · rw [toList_ofLabel hname, toList_ofLabel hname, String.toList_empty, withLead_nil]
    split
    · rw [withLead_backquoted]
    · exact escape_withLead _ _

theorem led_of_toList {lead plain led : String} (hne : lead ≠ "")
    (hlead : startsWithDigit lead.toList = false)
    (h : led.toList = withLead lead.toList plain.toList) : Led lead plain led where
  eq_ite := by
    rw [← String.toList_inj, h, withLead]
    split
    · rw [String.toList_append]
    · rfl
  startsWithDigit_eq_false := by
    rw [h]
    exact startsWithDigit_withLead (by simpa using hne) hlead _

/-- **The effect of a lead is the same on names and labels.** A lead that starts with no digit is put
in front of an identifier that does, nothing else changes, and the result starts with no digit, if
the name given for labels without one of their own does not either. -/
theorem led_ofName_ofLabel (raw emptyName lead : String) (hne : lead ≠ "")
    (hlead : startsWithDigit lead.toList = false)
    (hempty : startsWithDigit emptyName.toList = false) :
    Led lead (ofName raw) (ofName raw lead) ∧
      Led lead (ofLabel raw emptyName) (ofLabel raw emptyName lead) :=
  ⟨led_of_toList hne hlead (toList_ofName_lead raw lead),
    led_of_toList hne hlead (toList_ofLabel_lead raw lead hempty)⟩

/-- A reserved word may well be a lead. -/
theorem led_ofName_ofLabel_self :
    "self" ≠ "" ∧ startsWithDigit "self".toList = false ∧ startsWithDigit "empty".toList = false ∧
      Led "self" (ofName "2-FAST") (ofName "2-FAST" "self") ∧
      Led "self" (ofLabel "2-FAST" "empty") (ofLabel "2-FAST" "empty" "self") := by
  have hne : "self" ≠ "" := by decide
  have hlead : startsWithDigit "self".toList = false := by decide
  have hempty : startsWithDigit "empty".toList = false := by decide
  exact ⟨hne, hlead, hempty, led_ofName_ofLabel "2-FAST" "empty" "self" hne hlead hempty⟩

/-- It is not put between back quotes then. -/
example : ofName "2-FAST" "self" = "self2FAST" ∧
    ofLabel "2-FAST" "empty" "self" = "self2Fast" := by decide

end SwiftText.Identifier
