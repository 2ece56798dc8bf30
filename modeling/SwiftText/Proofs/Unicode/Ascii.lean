import SwiftText.Proofs.Unicode.CaseMap

/-!
# The characters of ASCII in the tables

For the characters of ASCII the tables say what the usual tests and mappings of ASCII say. So a text
of ASCII is put in lower case character by character, and only a text with letters is all capitals.

* `forall_ascii`: facts about the characters of ASCII, checked code point by code point.
* `lower_of_ascii`: the lower-case form of a text.
* `isAllCapitals_map_toLower`, `map_toLower_eq_self`: when a text is not all capitals.
-/

namespace SwiftText.Unicode

variable {c : Char} {s : List Char}

/-- What holds of the first 128 code points holds of every character of ASCII. -/
theorem forall_ascii {P : Char → Prop} (h : ∀ n < 128, P (Char.ofNat n)) (hc : c.toNat < 128) :
    P c := by
  have hp := h c.toNat hc
  rwa [Char.ofNat_toNat] at hp

theorem lowerChar_of_ascii (h : c.toNat < 128) : lowerChar c = [c.toLower] :=
  forall_ascii (P := fun c => lowerChar c = [c.toLower]) (by decide +kernel) h

/-- No context matters in ASCII. -/
theorem lower_of_ascii (h : ∀ c ∈ s, c.toNat < 128) : lower s = s.map Char.toLower := by
  have hsigma : 'Σ' ∉ s := fun hmem => absurd (h 'Σ' hmem) (by decide)
  rw [lower_eq_flatMap hsigma, List.map_eq_flatMap]
  exact List.flatMap_congr fun c hc => lowerChar_of_ascii (h c hc)

/-! ## Capitals -/

/-- Small letters are no capitals, and all that are none are their own small form. -/
theorem isUppercase_toLower (h : c.toNat < 128) :
    isUppercase c.toLower = false ∧ (isUppercase c = false → c.toLower = c) :=
  forall_ascii (P := fun c => isUppercase c.toLower = false ∧ (isUppercase c = false → c.toLower = c))
    (by decide +kernel) h

theorem isAllCapitals_map_toLower (h : ∀ c ∈ s, c.toNat < 128) :
    isAllCapitals (s.map Char.toLower) = false := by
  have hnone : (s.map Char.toLower).any isUppercase = false := by
    rw [List.any_map, List.any_eq_false]
    intro c hc
    simp [(isUppercase_toLower (h c hc)).1]
  rw [isAllCapitals, hnone, Bool.false_and]

/-- A text without small letters that is not all capitals has no letters at all. -/
theorem map_toLower_eq_self (h : ∀ c ∈ s, c.toNat < 128)
    (hsmall : ∀ c ∈ s, (isLowercase c || isTitlecase c) = false) (hcaps : isAllCapitals s = false) :
    s.map Char.toLower = s := by
  have hother : s.any (fun c => isLowercase c || isTitlecase c) = false :=
    List.any_eq_false.2 fun c hc => by simp [hsmall c hc]
  rw [isAllCapitals, hother, Bool.not_false, Bool.and_true, List.any_eq_false] at hcaps
  conv_rhs => rw [← List.map_id s]
  exact List.map_congr_left fun c hc => (isUppercase_toLower (h c hc)).2 (by simpa using hcaps c hc)

end SwiftText.Unicode
