import SwiftText.Proofs.Unicode.CaseMap

/-!
# What becomes small letters of ASCII

Lower-casing makes a text of the letters `a` to `z` of more than the letters of ASCII: the Kelvin
sign becomes `k`. A character that is put in upper case before has more ways still, for the dotless
`ı`, the long `ſ`, `ß` and the Latin ligatures have capitals in ASCII.

* `letters?`: the small letters that a character stands for, as a table.
* `isAlpha_or_kelvin_of_lowerChar`: the only characters with a lower-case form in ASCII.
* `mem_latinCapitals_of_upperChar`: the other characters with an upper-case form in ASCII.
* `letters?_eq_some_iff`: the table says exactly which forms are small letters, and which ones.
-/

namespace SwiftText.Unicode

variable {c x : Char}

/-- The Kelvin sign. -/
def kelvin : Char := '\u212A'

/-- The characters outside ASCII whose upper-case form is made of letters of ASCII, and that form in
small letters. -/
def latinCapitals : List (Char × List Char) :=
  [('ß', ['s', 's']), ('ı', ['i']), ('ſ', ['s']), ('ﬀ', ['f', 'f']), ('ﬁ', ['f', 'i']),
   ('ﬂ', ['f', 'l']), ('ﬃ', ['f', 'f', 'i']), ('ﬄ', ['f', 'f', 'l']), ('ﬅ', ['s', 't']),
   ('ﬆ', ['s', 't'])]

/-- The small letters that a character stands for, if it does. The flag tells whether it is put in
upper case before it is put in lower case. -/
def letters? (capital : Bool) (c : Char) : Option (List Char) :=
  if c.isAlpha then some [c.toLower]
  else if c = kelvin then some ['k']
  else if capital then latinCapitals.lookup c
  else none

/-- The form of a character that is put in upper case or left as it is, in lower case. -/
def lowered (capital : Bool) (c : Char) : List Char :=
  (if capital then upperChar c else [c]).flatMap lowerChar

/-! ## The forms of the characters in the table -/

/-- Whether a text is made of the letters from `a` to `z`. -/
def areSmall (s : List Char) : Bool := s.all Char.isLower

/-- The forms of the letters of ASCII, of the Kelvin sign and of the characters in the table. -/
theorem lowered_table :
    (∀ n ∈ List.range' 0x41 26 ++ List.range' 0x61 26, (Char.ofNat n).toLower.isLower = true ∧
      ∀ capital, lowered capital (Char.ofNat n) = [(Char.ofNat n).toLower]) ∧
    (∀ capital, lowered capital kelvin = ['k']) ∧
    ∀ e ∈ latinCapitals, areSmall e.2 = true ∧ lowered true e.1 = e.2 := by
  decide +kernel

theorem mem_letterCodes_of_isAlpha (h : c.isAlpha = true) :
    c.toNat ∈ List.range' 0x41 26 ++ List.range' 0x61 26 := by
  have := toNat_bounds_of_isAlpha h
  simp only [List.mem_append, List.mem_range'_1]
  omega

theorem lowered_of_isAlpha (h : c.isAlpha = true) (capital : Bool) :
    c.toLower.isLower = true ∧ lowered capital c = [c.toLower] := by
  obtain ⟨hlower, hform⟩ := lowered_table.1 _ (mem_letterCodes_of_isAlpha h)
  rw [Char.ofNat_toNat] at hlower hform
  exact ⟨hlower, hform capital⟩

theorem lowered_kelvin (capital : Bool) : lowered capital kelvin = ['k'] :=
  lowered_table.2.1 capital

/-- **The table tells forms in small letters.** -/
theorem lowered_of_letters? {capital : Bool} {u : List Char} (h : letters? capital c = some u) :
    areSmall u = true ∧ lowered capital c = u := by
  unfold letters? at h
  split at h
  · next halpha =>
    obtain rfl := Option.some.inj h
    obtain ⟨hlower, hform⟩ := lowered_of_isAlpha halpha capital
    exact ⟨by simp [areSmall, hlower], hform⟩
  · split at h
    · next hk =>
      obtain rfl := Option.some.inj h
      exact ⟨rfl, by rw [hk, lowered_kelvin]⟩
    · split at h
      · next hcapital =>
        obtain ⟨before, after, htable, -⟩ := List.lookup_eq_some_iff.1 h
        rw [hcapital]
        exact lowered_table.2.2 (c, u) (by simp [htable])
      · cases h

/-! ## No other characters -/

/-- Small letters of ASCII are the lower-case form of such letters and the Kelvin sign only, capital
ones the upper-case form of such letters and the listed characters only. No upper-case form has the
Kelvin sign in it, and no lower-case form a capital letter of ASCII. -/
theorem sources_table :
    (∀ r ∈ lowerRuns, ∀ n ∈ List.range' 0x61 26, r.source.contains (n - r.shift).toNat = true →
      (Char.ofNat (n - r.shift).toNat).isAlpha = true ∨ (n - r.shift).toNat = kelvin.toNat) ∧
    (∀ r ∈ upperRuns, ∀ n ∈ List.range' 0x41 26, r.source.contains (n - r.shift).toNat = true →
      (Char.ofNat (n - r.shift).toNat).isAlpha = true ∨
        (latinCapitals.lookup (Char.ofNat (n - r.shift).toNat)).isSome = true) ∧
    (∀ e ∈ upperExpansions,
      (e.2.all fun n => (Char.ofNat n).isAlpha || Char.ofNat n == kelvin) = true →
        (latinCapitals.lookup (Char.ofNat e.1)).isSome = true) ∧
    produces upperRuns upperExpansions kelvin.toNat = false ∧
    ∀ n ∈ List.range' 0x41 26, produces lowerRuns lowerExpansions n = false ∧
      Char.ofNat n ∉ lowerChar (Char.ofNat n) := by
  decide +kernel

theorem mem_range'_of_isLower (h : c.isLower = true) : c.toNat ∈ List.range' 0x61 26 := by
  have := toNat_bounds_of_isLower h
  simpa using this

/-- **Only letters of ASCII and the Kelvin sign have a lower-case form in small letters.** -/
theorem isAlpha_or_kelvin_of_lowerChar (h : areSmall (lowerChar c) = true) :
    c.isAlpha = true ∨ c = kelvin := by
  obtain ⟨x, u, hu⟩ := List.exists_cons_of_ne_nil (lowerChar_ne_nil c)
  have hx : x ∈ lowerChar c := hu ▸ List.mem_cons_self
  have hlower : x.isLower = true := List.all_eq_true.1 h x hx
  have h0 : x ≠ '\x00' := by
    rintro rfl
    cases hlower
  rcases source_of_mem_mapCase hx h0 with ⟨r, hr, hc, hback⟩ | ⟨codes, hcodes, -, heq⟩ | ⟨rfl, -⟩
  · have htable := sources_table.1 r hr x.toNat (mem_range'_of_isLower hlower)
    rw [hback, Char.ofNat_toNat, Char.toNat_inj] at htable
    exact htable hc
  · -- The only expansion, that of the dotted `İ`, has a mark in it.
    have hmark : ∀ e ∈ lowerExpansions, areSmall (e.2.map Char.ofNat) = false := by decide
    rw [lowerChar, heq, hmark _ hcodes] at h
    cases h
  · refine Or.inl ?_
    delta Char.isAlpha
    rw [hlower, Bool.or_true]

theorem mem_range'_of_isAlpha (h : c.isAlpha = true) (hlower : c.isLower = false) :
    c.toNat ∈ List.range' 0x41 26 := by
  rcases List.mem_append.1 (mem_letterCodes_of_isAlpha h) with hn | hn
  · exact hn
  · have small : ∀ n ∈ List.range' 0x61 26, (Char.ofNat n).isLower = true := by decide
    have := small _ hn
    rw [Char.ofNat_toNat, hlower] at this
    cases this

theorem eq_kelvin_of_mem_upperChar (h : kelvin ∈ upperChar c) : c = kelvin :=
  (eq_of_mem_mapCase h sources_table.2.2.2.1 (by decide)).1.symm

/-- **Only the listed characters have an upper-case form in letters of ASCII**, apart from these
letters themselves and the Kelvin sign, which is its own capital. -/
theorem mem_latinCapitals_of_upperChar (h : ∀ y ∈ upperChar c, y.isAlpha = true ∨ y = kelvin) :
    c.isAlpha = true ∨ c = kelvin ∨ (latinCapitals.lookup c).isSome = true := by
  obtain ⟨y, u, hu⟩ := List.exists_cons_of_ne_nil (upperChar_ne_nil c)
  have hy : y ∈ upperChar c := hu ▸ List.mem_cons_self
  rcases h y hy with halpha | rfl
  · have h0 : y ≠ '\x00' := by
      rintro rfl
      cases halpha
    rcases source_of_mem_mapCase hy h0 with ⟨r, hr, hc, hback⟩ | ⟨codes, hcodes, -, heq⟩ | ⟨rfl, -⟩
    · have hn := mem_range'_of_isAlpha halpha (isLower_of_mem_upperChar hy)
      have htable := sources_table.2.1 r hr y.toNat hn
      rw [hback, Char.ofNat_toNat] at htable
      exact (htable hc).imp_right Or.inr
    · have htable := sources_table.2.2.1 _ hcodes
      rw [Char.ofNat_toNat] at htable
      refine Or.inr (Or.inr (htable (List.all_eq_true.2 fun n hn => ?_)))
      have hmem : Char.ofNat n ∈ upperChar c := by
        rw [upperChar, heq]
        exact List.mem_map_of_mem hn
      simpa using h _ hmem
    · exact Or.inl halpha
  · exact Or.inr (Or.inl (eq_kelvin_of_mem_upperChar hy))

theorem exists_letters?_of_areSmall {capital : Bool} (h : areSmall (lowered capital c) = true) :
    ∃ u, letters? capital c = some u := by
  have hforms : ∀ y ∈ if capital then upperChar c else [c], y.isAlpha = true ∨ y = kelvin := by
    intro y hy
    refine isAlpha_or_kelvin_of_lowerChar (List.all_eq_true.2 fun x hx => ?_)
    exact List.all_eq_true.1 h x (List.mem_flatMap_of_mem hy hx)
  have hc : c.isAlpha = true ∨ c = kelvin ∨ capital = true ∧ (latinCapitals.lookup c).isSome := by
    cases capital with
    | false => exact (hforms c (by simp)).imp_right Or.inl
    | true => simpa using mem_latinCapitals_of_upperChar hforms
  unfold letters?
  split
  · exact ⟨_, rfl⟩
  · next halpha =>
    split
    · exact ⟨_, rfl⟩
    · next hk =>
      obtain ⟨hcapital, hlookup⟩ := (hc.resolve_left halpha).resolve_left hk
      rw [if_pos hcapital]
      exact Option.isSome_iff_exists.1 hlookup

/-- **The table tells exactly the forms in small letters.** -/
theorem letters?_eq_some_iff {capital : Bool} {u : List Char} :
    letters? capital c = some u ↔ areSmall u = true ∧ lowered capital c = u := by
  constructor
  · exact lowered_of_letters?
  · rintro ⟨hsmall, hform⟩
    obtain ⟨v, hv⟩ := exists_letters?_of_areSmall (hform ▸ hsmall)
    rw [hv, ← hform, (lowered_of_letters? hv).2]

/-! ## Capitals in lower case -/

/-- No lower-case form has a letter from `A` to `Z` in it. -/
theorem isLower_of_mem_lowerChar (hx : x ∈ lowerChar c) (halpha : x.isAlpha = true) :
    x.isLower = true := by
  by_contra hlower
  have hn := mem_range'_of_isAlpha halpha (by simpa using hlower)
  obtain ⟨hnot, hself⟩ := sources_table.2.2.2.2 _ hn
  have h0 : x ≠ '\x00' := by
    rintro rfl
    cases halpha
  obtain ⟨rfl, -⟩ := eq_of_mem_mapCase hx hnot h0
  rw [Char.ofNat_toNat] at hself
  exact hself hx

end SwiftText.Unicode
