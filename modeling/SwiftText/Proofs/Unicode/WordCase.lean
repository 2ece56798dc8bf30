import SwiftText.Proofs.Unicode.CaseMap

/-!
# Word characters and their forms

What the case mappings do to word characters and separators beyond keeping them apart. The upper-case
form of a word character may have marks in it, but never at its start. Lower-casing neither brings
word characters about nor loses any: the form of a word character has exactly one, and that of a
separator, of a circled letter for instance, has none.

* `isWord_of_head?_upperChar`: an upper-case form starts with a word character.
* `liesOn_of_liesOn_image`: a run whose reverse keeps to a table brings nothing into it.
* `countP_isWord_lowerChar`, `countP_isWord_lower`: lower-casing keeps the number of word characters.
* `lowLine_mem_lower_iff`: the low line has no letter that becomes it.
-/

namespace SwiftText.Unicode

variable {c x : Char} {s : List Char}

/-- A character that neither table brings about and that is in its own image is in no other one. -/
theorem mem_mapCase_iff {runs : List CaseRun} {expansions : List (Nat × List Nat)}
    (h : produces runs expansions x.toNat = false) (h0 : x ≠ '\x00')
    (hself : x ∈ mapCase runs expansions x) : x ∈ mapCase runs expansions c ↔ c = x := by
  constructor
  · intro hx
    exact (eq_of_mem_mapCase hx h h0).1.symm
  · rintro rfl
    exact hself

/-! ## Upper case -/

/-- The upper-case forms with marks in them start with a letter. -/
theorem markedCapitals_heads :
    ∀ n ∈ markedCapitals, (upperChar (Char.ofNat n)).head?.all isWord = true := by
  decide +kernel

/-- **The upper-case form of a word character starts with one.** -/
theorem isWord_of_head?_upperChar (hc : isWord c = true) (hx : (upperChar c).head? = some x) :
    isWord x = true := by
  by_cases hm : c.toNat ∈ markedCapitals
  · have hhead := markedCapitals_heads _ hm
    rwa [Char.ofNat_toNat, hx, Option.all_some] at hhead
  · exact isWord_of_mem_upperChar hc hm (List.mem_of_head? hx)

/-- No other character has the low line in its upper-case form. -/
theorem lowLine_mem_upperChar_iff : '_' ∈ upperChar c ↔ c = '_' :=
  mem_mapCase_iff rfl (by decide) (by decide)

/-! ## Runs the other way round -/

/-- The run that moves the images of a run back. -/
def CaseRun.reverse (r : CaseRun) : CaseRun :=
  ⟨⟨r.image r.source.first, r.image r.source.last, r.source.step⟩, -r.shift⟩

namespace CaseRun

variable {r : CaseRun} {n : Nat}

theorem reverse_image (h : -r.shift ≤ n) : r.reverse.image (r.image n) = n := by
  simp only [reverse, image]
  omega

theorem contains_reverse (hlow : -r.shift ≤ r.source.first) (h : r.source.contains n = true) :
    r.reverse.source.contains (r.image n) = true := by
  have hfirst := Run.first_le_of_contains h
  have hlast := Run.le_last_of_contains h
  have hoffset : r.image n - r.image r.source.first = n - r.source.first := by
    simp only [image]
    omega
  simp only [Run.contains, Bool.and_eq_true, decide_eq_true_eq, beq_iff_eq] at h ⊢
  rw [reverse, hoffset]
  exact ⟨⟨r.image_mono hfirst, r.image_mono hlast⟩, h.2⟩

end CaseRun

/-- **A run whose reverse keeps to a table brings nothing into it.** -/
theorem liesOn_of_liesOn_image {table : List Run} {r : CaseRun} {n : Nat}
    (h : preserves table r.reverse = true) (hlow : -r.shift ≤ r.source.first)
    (hr : r.source.contains n = true) (hn : liesOn table (r.image n) = true) :
    liesOn table n = true := by
  have hfirst := Run.first_le_of_contains hr
  rw [← r.reverse_image (n := n) (by omega)]
  exact liesOn_image h (CaseRun.contains_reverse hlow hr) hn

/-! ## Lower case -/

/-- The reverses of the lower-case runs keep to the word characters. -/
theorem lowerRuns_reverse_preserve :
    ∀ r ∈ lowerRuns, preserves wordRuns r.reverse = true ∧ -r.shift ≤ r.source.first := by
  decide +kernel

/-- **A word character in a lower-case form comes from one.** -/
theorem isWord_of_isWord_lowerChar (hx : x ∈ lowerChar c) (hword : isWord x = true) :
    isWord c = true := by
  have h0 : x ≠ '\x00' := by
    rintro rfl
    cases hword
  rcases mapCase_cases lowerRuns lowerExpansions c with ⟨r, hr, hrc, heq⟩ | ⟨codes, hcodes, -⟩ | heq
  · rw [lowerChar, heq, List.mem_singleton] at hx
    obtain ⟨hpreserve, hlow⟩ := lowerRuns_reverse_preserve r hr
    have hn : x.toNat = r.image c.toNat := by rw [hx, toNat_ofNat_of_ne (hx ▸ h0)]
    rw [isWord_eq_liesOn, hn] at hword
    rw [isWord_eq_liesOn]
    exact liesOn_of_liesOn_image hpreserve hlow hrc hword
  · -- The only expansion is that of the dotted `İ`, a letter.
    have hexp : ∀ e ∈ lowerExpansions, liesOn wordRuns e.1 = true := by decide
    rw [isWord_eq_liesOn]
    exact hexp _ hcodes
  · rw [lowerChar, heq, List.mem_singleton] at hx
    exact hx ▸ hword

/-- All lower-case forms but that of the dotted `İ` are one character. -/
theorem exists_lowerChar_eq_singleton (hi : c ≠ 'İ') : ∃ x, lowerChar c = [x] := by
  have hexp : ∀ e ∈ lowerExpansions, e.1 = 'İ'.toNat := by decide
  rcases mapCase_cases lowerRuns lowerExpansions c with ⟨r, -, -, heq⟩ | ⟨codes, hcodes, -⟩ | heq
  · exact ⟨_, heq⟩
  · exact absurd (Char.toNat_inj.1 (hexp _ hcodes)) hi
  · exact ⟨_, heq⟩

/-- **A lower-case form has one word character if it is that of one, and none otherwise.** -/
theorem countP_isWord_lowerChar (c : Char) :
    (lowerChar c).countP isWord = if isWord c then 1 else 0 := by
  by_cases hi : c = 'İ'
  · subst hi
    decide
  · obtain ⟨x, hx⟩ := exists_lowerChar_eq_singleton hi
    have hmem : x ∈ lowerChar c := hx ▸ List.mem_singleton_self x
    have hword : isWord x = isWord c := by
      rw [Bool.eq_iff_iff]
      exact ⟨isWord_of_isWord_lowerChar hmem, fun hc => isWord_of_mem_lowerChar hc hi hmem⟩
    rw [hx, List.countP_singleton, hword]

/-- **Lower-casing keeps the number of word characters of a text.** -/
theorem countP_isWord_lower (s : List Char) : (lower s).countP isWord = s.countP isWord := by
  suffices h : ∀ before, (lowerAfter before s).countP isWord = s.countP isWord from h []
  induction s with
  | nil => exact fun _ => rfl
  | cons c s ih =>
    intro before
    -- Both small sigmas are word characters, as is the capital one.
    have himage : ∀ b : Bool, (if c == 'Σ' then if b then ['ς'] else ['σ']
        else lowerChar c).countP isWord = if isWord c then 1 else 0 := by
      intro b
      split
      · next hsigma =>
        rw [beq_iff_eq.1 hsigma]
        cases b <;> decide
      · exact countP_isWord_lowerChar c
    rw [lowerAfter, List.countP_append, ih, himage, List.countP_cons, Nat.add_comm]

/-- **The low line comes from itself only** when a text is put in lower case. -/
theorem lowLine_mem_lower_iff : '_' ∈ lower s ↔ '_' ∈ s := by
  have hform : ∀ c, '_' ∈ lowerChar c ↔ c = '_' := fun c =>
    mem_mapCase_iff rfl (by decide) (by decide)
  have hnone : '_' ∉ lower s ↔ ∀ c ∈ s, '_' ∉ lowerChar c := by
    simpa only [List.forall_mem_ne', ne_eq] using
      forall_mem_lower (P := fun x => x ≠ '_') (by decide) (by decide) s
  rw [← not_iff_not, hnone]
  simp only [hform]
  exact ⟨fun h hmem => h '_' hmem rfl, fun h c hc heq => h (heq ▸ hc)⟩

end SwiftText.Unicode
