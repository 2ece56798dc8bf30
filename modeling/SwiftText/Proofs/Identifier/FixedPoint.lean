import SwiftText.Proofs.Identifier.Adjacent
import SwiftText.Proofs.Unicode.WordCase

/-!
# Names that are their own identifiers

A name without separators is kept as it is, unless it is a reserved word or needs a lead. The other
way round, a name with separators never comes out unchanged. What is dropped with a separator is not
made up for by the letters that a capital may become, for the pass goes on with an identifier
character after a separator, nor by a lead, which is made of identifier characters.

* `isWord_of_head?_scan`: after a separator the pass starts with an identifier character.
* `forall_isWord_of_append_scan_eq`: a name that is equal to its own pass, perhaps behind a lead, has
  no separator.
* `ofValue_eq_self_iff`: exactly which names are their own identifiers.
-/

namespace SwiftText.Identifier

open Unicode Reserved

variable {lead s : List Char}

/-! ## Separators are lost for good -/

/-- After a separator the pass starts with an identifier character, if with any. -/
theorem isWord_of_head?_scan {x : Char} (hx : (scan separatesNames true s).head? = some x) :
    isWord x = true := by
  induction s with
  | nil => cases hx
  | cons c s ih =>
    cases hc : separatesNames c with
    | true =>
      rw [scan_separator hc] at hx
      exact ih hx
    | false =>
      rw [scan_capitalised hc, List.head?_append_of_ne_nil _ (upperChar_ne_nil c)] at hx
      exact isWord_of_head?_upperChar (separates_names.isWord_of_not c hc) hx

/-- **A name that is equal to its own pass behind a lead has no separator.** Up to its first separator
a name is kept, so at the place of that separator there would be a character of the name or of the
lead, or the one that the pass goes on with. -/
theorem forall_isWord_of_append_scan_eq (hlead : ∀ c ∈ lead, isWord c = true)
    (h : lead ++ scan separatesNames false s = s) : ∀ c ∈ s, isWord c = true := by
  cases hfind : s.find? separatesNames with
  | none =>
    intro c hc
    exact separates_names.isWord_of_not c (by simpa using List.find?_eq_none.1 hfind c hc)
  | some d =>
    obtain ⟨hd, u, t, rfl, hu⟩ := List.find?_eq_some_iff_append.1 hfind
    have hkept : ∀ c ∈ u, separatesNames c = false := fun c hc => by simpa using hu c hc
    have hdword : isWord d = false := by simpa [separatesNames] using hd
    -- The pass does not go on with the separator.
    have hnext : ∀ r, scan separatesNames true t ≠ d :: r := by
      intro r hscan
      have hword := isWord_of_head?_scan (s := t) (x := d) (by rw [hscan, List.head?_cons])
      rw [hdword] at hword
      cases hword
    rw [scan_kept_append hkept, scan_separator hd, ← List.append_assoc] at h
    rcases List.append_eq_append_iff.1 h with ⟨v, huv, hscan⟩ | ⟨v, huv, hrest⟩
    · have hlength := congrArg List.length huv
      simp only [List.length_append] at hlength
      have hv : v = [] := List.eq_nil_of_length_eq_zero (by omega)
      rw [hv, List.nil_append] at hscan
      exact absurd hscan (hnext t)
    · cases v with
      | nil => exact absurd hrest.symm (hnext t)
      | cons c v =>
        -- The separator stands in the lead or in what is kept.
        have hmem : d ∈ lead ++ u := by
          rw [huv, (List.cons.inj hrest).1]
          simp
        have hword : isWord d = true := by
          rcases List.mem_append.1 hmem with hd | hd
          · exact hlead d hd
          · exact separates_names.isWord_of_not d (hkept d hd)
        rw [hdword] at hword
        cases hword

/-! ## Names without separators -/

theorem normalise_eq_self (hword : ∀ c ∈ s, isWord c = true) (hres : isReserved s = false) :
    normalise s = s := by
  have hkept : ∀ c ∈ s, separatesNames c = false := fun c hc => by simp [separatesNames, hword c hc]
  rw [normalise_eq_scan hres, scan_of_forall_kept hkept]

theorem backquoted_ne_self (s : List Char) : backquoted s ≠ s := by
  intro h
  have hlength := congrArg List.length h
  simp only [backquoted, List.length_cons, List.length_append, List.length_nil] at hlength
  omega

/-- **Exactly which names are their own identifiers under a lead.** -/
theorem withLead_normalise_eq_self_iff (hlead : ∀ c ∈ lead, isWord c = true) :
    withLead lead (normalise s) = s ↔
      (∀ c ∈ s, isWord c = true) ∧ isReserved s = false ∧
        (lead = [] ∨ startsWithDigit s = false) := by
  constructor
  · intro h
    cases hres : isReserved s with
    | true =>
      rw [normalise_of_isReserved hres, withLead_backquoted] at h
      exact absurd h (backquoted_ne_self s)
    | false =>
      rw [normalise_eq_scan hres, withLead] at h
      split at h
      · have hword := forall_isWord_of_append_scan_eq hlead h
        rw [← normalise_eq_scan hres, normalise_eq_self hword hres] at h
        exact ⟨hword, rfl, Or.inl (List.append_left_eq_self.1 h)⟩
      · next hdigit =>
        have hnil : [] ++ scan separatesNames false s = s := h
        have hword := forall_isWord_of_append_scan_eq (by simp) hnil
        rw [h] at hdigit
        exact ⟨hword, rfl, Or.inr (by simpa using hdigit)⟩
  · rintro ⟨hword, hres, hneeded⟩
    rw [normalise_eq_self hword hres, withLead]
    rcases hneeded with rfl | hdigit
    · simp
    · rw [if_neg (by simp [hdigit])]

/-- **Exactly which names are their own identifiers**, under any lead of identifier characters: those
of identifier characters only that are no reserved word and start with no digit, unless the lead is
empty. -/
theorem ofValue_eq_self_iff (raw lead : String) (hlead : ∀ c ∈ lead.toList, isWord c = true) :
    ofValue (.text raw) (.text lead) = .ok (.text raw) ↔
      (∀ c ∈ raw.toList, isWord c = true) ∧ isReserved raw.toList = false ∧
        (lead = "" ∨ startsWithDigit raw.toList = false) := by
  rw [ofValue_text, Except.ok.injEq, Value.text.injEq, ← String.toList_inj, ofName,
    String.toList_ofList, withLead_normalise_eq_self_iff hlead, String.toList_eq_nil_iff]

/-- The Arabic digit three is an identifier character, so only a name that starts with it is given
the lead. -/
theorem ofValue_eq_self_iff_three :
    (∀ c ∈ "N".toList, isWord c = true) ∧
      ofValue (.text "x٣") (.text "N") = .ok (.text "x٣") ∧
      ofValue (.text "٣x") (.text "N") ≠ .ok (.text "٣x") := by
  have hlead : ∀ c ∈ "N".toList, isWord c = true := List.all_eq_true.1 rfl
  have hword : ∀ c ∈ "x٣".toList, isWord c = true := List.all_eq_true.1 rfl
  refine ⟨hlead, ?_, fun h => ?_⟩
  · exact (ofValue_eq_self_iff "x٣" "N" hlead).2 ⟨hword, by decide, Or.inr (by decide)⟩
  · obtain ⟨-, -, hneeded⟩ := (ofValue_eq_self_iff "٣x" "N" hlead).1 h
    exact absurd hneeded (by decide)

/-- Two separators are dropped and two marks come with the capital, but the name is another one. -/
example : ofName "-\u0308ΐ" = "\u0399\u0308\u0301" := by decide

end SwiftText.Identifier
