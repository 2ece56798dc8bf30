import SwiftText.Proofs.Unicode.Run

/-!
# Case mappings and word characters

Which characters a case mapping may bring about, read off its tables run by run. Most letters keep
to the word characters when their case changes. Two kinds do not: the letters of `markedCapitals`
have an upper-case form with combining marks in it, and the capital dotted `İ` has a lower-case form
with one.

* `mapCase_cases`: a character lies on a run, has an expansion, or is its own image.
* `source_of_mem_mapCase`: what a character of an image may come from.
* `eq_of_mem_mapCase`: a character that neither table brings about comes from itself only.
* `liesOn_image`: a run that passes the check `preserves` moves word characters to word characters.
* `isWord_of_mem_upperChar`, `exists_mark_of_mem_markedCapitals`: the letters of the list are exactly
  the word characters whose upper-case form has other characters in it.
* `isWord_of_mem_lowerChar`, `lowerChar_dottedI`: for lower-casing this is `İ` alone.
* `forall_mem_lower`: what holds of the images of all characters holds of a lower-cased text.
-/

namespace SwiftText.Unicode

/-- The code point that a run moves a code point to. -/
def CaseRun.image (r : CaseRun) (n : Nat) : Nat := (n + r.shift).toNat

variable {runs : List CaseRun} {expansions : List (Nat × List Nat)} {c x : Char}

theorem mapCase_cases (runs : List CaseRun) (expansions : List (Nat × List Nat)) (c : Char) :
    (∃ r ∈ runs, r.source.contains c.toNat = true ∧
        mapCase runs expansions c = [Char.ofNat (r.image c.toNat)]) ∨
      (∃ codes, (c.toNat, codes) ∈ expansions ∧ mapCase runs expansions c = codes.map Char.ofNat) ∨
      mapCase runs expansions c = [c] := by
  unfold mapCase
  split
  · next r hr => exact Or.inl ⟨r, Run.mem_of_find? hr, Run.contains_of_find? hr, rfl⟩
  · split
    · next codes hcodes =>
      obtain ⟨before, after, htable, -⟩ := List.lookup_eq_some_iff.1 hcodes
      exact Or.inr (Or.inl ⟨codes, by simp [htable], rfl⟩)
    · exact Or.inr (Or.inr rfl)

theorem mapCase_ne_nil (h : ∀ e ∈ expansions, e.2 ≠ []) (c : Char) :
    mapCase runs expansions c ≠ [] := by
  rcases mapCase_cases runs expansions c with ⟨r, -, -, heq⟩ | ⟨codes, hcodes, heq⟩ | heq
  · simp [heq]
  · simpa [heq] using h _ hcodes
  · simp [heq]

/-! ## Where a character may come from -/

/-- Whether a case mapping brings a code point about by a run or an expansion. -/
def produces (runs : List CaseRun) (expansions : List (Nat × List Nat)) (n : Nat) : Bool :=
  runs.any (fun r => r.source.contains (n - r.shift).toNat) || expansions.any fun e => e.2.contains n

theorem toNat_ofNat_of_ne {n : Nat} (h : Char.ofNat n ≠ '\x00') : (Char.ofNat n).toNat = n := by
  by_cases hn : n.isValidChar
  · exact toNat_ofNat hn
  · exact absurd (by simp [Char.ofNat, hn]; rfl) h

/-- **What an image comes from**: its source is the code point that a run moves to it, or one with
an expansion, or the character itself. -/
theorem source_of_mem_mapCase (hx : x ∈ mapCase runs expansions c) (h0 : x ≠ '\x00') :
    (∃ r ∈ runs, r.source.contains c.toNat = true ∧ (x.toNat - r.shift).toNat = c.toNat) ∨
      (∃ codes, (c.toNat, codes) ∈ expansions ∧ x.toNat ∈ codes ∧
        mapCase runs expansions c = codes.map Char.ofNat) ∨
      x = c ∧ mapCase runs expansions c = [c] := by
  rcases mapCase_cases runs expansions c with ⟨r, hr, hc, heq⟩ | ⟨codes, hcodes, heq⟩ | heq
  · rw [heq, List.mem_singleton] at hx
    have hn : x.toNat = r.image c.toNat := by rw [hx, toNat_ofNat_of_ne (hx ▸ h0)]
    have hpos : x.toNat ≠ 0 := fun h => h0 (Char.toNat_inj.1 h)
    have hback : (x.toNat - r.shift).toNat = c.toNat := by
      unfold CaseRun.image at hn
      omega
    exact Or.inl ⟨r, hr, hc, hback⟩
  · rw [heq] at hx
    obtain ⟨n, hn, rfl⟩ := List.mem_map.1 hx
    exact Or.inr (Or.inl ⟨codes, hcodes, by rwa [toNat_ofNat_of_ne h0], heq⟩)
  · rw [heq, List.mem_singleton] at hx
    exact Or.inr (Or.inr ⟨hx, heq⟩)

/-- **A character that neither table brings about comes from itself only**, and is its own image. -/
theorem eq_of_mem_mapCase (hx : x ∈ mapCase runs expansions c)
    (h : produces runs expansions x.toNat = false) (h0 : x ≠ '\x00') :
    x = c ∧ mapCase runs expansions c = [c] := by
  rw [produces, Bool.or_eq_false_iff, List.any_eq_false, List.any_eq_false] at h
  rcases source_of_mem_mapCase hx h0 with ⟨r, hr, hc, hback⟩ | ⟨codes, hcodes, hn, -⟩ | hself
  · exact absurd (by rwa [hback]) (h.1 r hr)
  · exact absurd (List.contains_iff_mem.2 hn) (h.2 _ hcodes)
  · exact hself

/-! ## Where the word characters go -/

theorem CaseRun.image_mono (r : CaseRun) {m n : Nat} (h : m ≤ n) : r.image m ≤ r.image n := by
  unfold CaseRun.image
  omega

/-- Whether the images of a run lie inside one block of a table. -/
def liesInside (table : List Run) (r : CaseRun) : Bool :=
  table.any fun w => Nat.ble w.first (r.image r.source.first) &&
    (Nat.ble (r.image r.source.last) w.last && Nat.beq w.step 1)

/-- Whether a run lies between the runs of a table. -/
def liesApart (table : List Run) (r : Run) : Bool :=
  table.all fun w => Nat.blt w.last r.first || Nat.blt r.last w.first

/-- Whether a case run keeps to a table: its images lie inside one block, or none of its code points
is in the table, or each single image is. -/
def preserves (table : List Run) (r : CaseRun) : Bool :=
  liesInside table r || liesApart table r.source ||
    r.source.points.all fun n => liesOn table (r.image n)

/-- **A case run that keeps to a table moves what lies on it to what lies on it.** -/
theorem liesOn_image {table : List Run} {r : CaseRun} {n : Nat} (h : preserves table r = true)
    (hr : r.source.contains n = true) (hn : liesOn table n = true) :
    liesOn table (r.image n) = true := by
  simp only [preserves, Bool.or_eq_true] at h
  have hfirst := Run.first_le_of_contains hr
  have hlast := Run.le_last_of_contains hr
  rcases h with (h | h) | h
  · simp only [liesInside, List.any_eq_true, Bool.and_eq_true, Nat.ble_eq, Nat.beq_eq] at h
    obtain ⟨w, hw, hlow, hhigh, hstep⟩ := h
    have h₁ := r.image_mono hfirst
    have h₂ := r.image_mono hlast
    exact liesOn_iff.2 ⟨w, hw, Run.contains_of_step_one hstep (by omega) (by omega)⟩
  · obtain ⟨w, hw, hwn⟩ := liesOn_iff.1 hn
    have hw₁ := Run.first_le_of_contains hwn
    have hw₂ := Run.le_last_of_contains hwn
    have hapart := List.all_eq_true.1 h w hw
    simp only [Bool.or_eq_true, Nat.blt_eq] at hapart
    omega
  · exact List.all_eq_true.1 h n (Run.mem_points_of_contains hr)

theorem isWord_of_mem_mapCase (hruns : ∀ r ∈ runs, preserves wordRuns r = true)
    (hexp : ∀ codes, (c.toNat, codes) ∈ expansions → codes.all (liesOn wordRuns) = true)
    (hc : isWord c = true) (hx : x ∈ mapCase runs expansions c) : isWord x = true := by
  rcases mapCase_cases runs expansions c with ⟨r, hr, hrc, heq⟩ | ⟨codes, hcodes, heq⟩ | heq
  · rw [heq, List.mem_singleton] at hx
    rw [isWord_eq_liesOn] at hc
    rw [hx]
    exact isWord_ofNat (liesOn_image (hruns r hr) hrc hc)
  · rw [heq] at hx
    obtain ⟨n, hn, rfl⟩ := List.mem_map.1 hx
    exact isWord_ofNat (List.all_eq_true.1 (hexp codes hcodes) n hn)
  · rw [heq, List.mem_singleton] at hx
    exact hx ▸ hc

/-! ## Letters that bring in marks -/

/-- The letters whose upper-case form has combining marks in it. -/
def markedCapitals : List Nat :=
  [0x1F0, 0x390, 0x3B0, 0x1E96, 0x1E97, 0x1E98, 0x1E99, 0x1F50, 0x1F52, 0x1F54, 0x1F56, 0x1FB6,
   0x1FB7, 0x1FC6, 0x1FC7, 0x1FD2, 0x1FD3, 0x1FD6, 0x1FD7, 0x1FE2, 0x1FE3, 0x1FE4, 0x1FE6, 0x1FE7,
   0x1FF6, 0x1FF7]

/-- Whether a character separates words, is no back quote and stays when it is put in lower case. -/
def isLastingMark (c : Char) : Bool := !isWord c && c != '\x60' && lowerChar c == [c]

/-- They are small letters, no lower-case form but their own has them, and their upper-case form has
a mark in it. -/
theorem markedCapitals_table : ∀ n ∈ markedCapitals,
    liesOn wordRuns n = true ∧ isLowercase (Char.ofNat n) = true ∧
      produces lowerRuns lowerExpansions n = false ∧
      (upperChar (Char.ofNat n)).any isLastingMark = true := by
  decide +kernel

theorem isWord_of_mem_markedCapitals (hm : c.toNat ∈ markedCapitals) : isWord c = true :=
  (isWord_eq_liesOn c).trans (markedCapitals_table _ hm).1

theorem isLowercase_of_mem_markedCapitals (hm : c.toNat ∈ markedCapitals) :
    isLowercase c = true := by
  have h := (markedCapitals_table _ hm).2.1
  rwa [Char.ofNat_toNat] at h

theorem eq_of_mem_markedCapitals_lowerChar (hm : x.toNat ∈ markedCapitals) (hx : x ∈ lowerChar c) :
    x = c := by
  refine (eq_of_mem_mapCase hx (markedCapitals_table _ hm).2.2.1 ?_).1
  rintro rfl
  exact absurd hm (by decide)

theorem exists_mark_of_mem_markedCapitals (hm : c.toNat ∈ markedCapitals) :
    ∃ x ∈ upperChar c, isWord x = false ∧ x ≠ '\x60' ∧ lowerChar x = [x] := by
  obtain ⟨x, hx, hmark⟩ := List.any_eq_true.1 (markedCapitals_table _ hm).2.2.2
  rw [Char.ofNat_toNat] at hx
  simp only [isLastingMark, Bool.and_eq_true, Bool.not_eq_true', bne_iff_ne, beq_iff_eq] at hmark
  exact ⟨x, hx, hmark.1.1, hmark.1.2, hmark.2⟩

/-! ## Upper case -/

/-- The runs keep word characters, and so do the expansions but for marks. No character but these
themselves has the dotted `İ` or a letter from `a` to `z` in its upper-case form. -/
theorem upper_table :
    (∀ r ∈ upperRuns, preserves wordRuns r = true) ∧
    (∀ e ∈ upperExpansions,
      e.2 ≠ [] ∧ (e.1 ∉ markedCapitals → e.2.all (liesOn wordRuns) = true)) ∧
    ∀ n ∈ 'İ'.toNat :: List.range' 0x61 26, produces upperRuns upperExpansions n = false := by
  decide +kernel

theorem isWord_of_mem_upperChar (hc : isWord c = true) (hm : c.toNat ∉ markedCapitals)
    (hx : x ∈ upperChar c) : isWord x = true :=
  isWord_of_mem_mapCase upper_table.1 (fun _ h => (upper_table.2.1 _ h).2 hm) hc hx

theorem upperChar_ne_nil (c : Char) : upperChar c ≠ [] :=
  mapCase_ne_nil (fun _ h => (upper_table.2.1 _ h).1) c

theorem eq_backquote_of_mem_upperChar (h : '\x60' ∈ upperChar c) : c = '\x60' :=
  (eq_of_mem_mapCase h rfl (by decide)).1.symm

theorem upperChar_dottedI : upperChar 'İ' = ['İ'] := rfl

theorem eq_dottedI_of_mem_upperChar (h : 'İ' ∈ upperChar c) : c = 'İ' :=
  (eq_of_mem_mapCase h (upper_table.2.2 _ List.mem_cons_self) (by decide)).1.symm

theorem toNat_bounds_of_isLower (h : c.isLower = true) : 0x61 ≤ c.toNat ∧ c.toNat < 0x61 + 26 := by
  delta Char.isLower at h
  simp only [Bool.and_eq_true, decide_eq_true_eq, ge_iff_le, UInt32.le_iff_toNat_le,
    Char.toNat_val] at h
  exact ⟨h.1, Nat.lt_succ_of_le h.2⟩

/-- No upper-case form has a letter from `a` to `z` in it. -/
theorem isLower_of_mem_upperChar (hx : x ∈ upperChar c) : x.isLower = false := by
  have hself : ∀ n ∈ List.range' 0x61 26, Char.ofNat n ∉ upperChar (Char.ofNat n) := by decide
  by_contra hlower
  obtain ⟨hlow, hhigh⟩ := toNat_bounds_of_isLower (by simpa using hlower)
  have hn : x.toNat ∈ List.range' 0x61 26 :=
    List.mem_range'.2 ⟨x.toNat - 0x61, by omega, by omega⟩
  have h0 : x ≠ '\x00' := by
    rintro rfl
    exact absurd hlow (by decide)
  obtain ⟨rfl, -⟩ := eq_of_mem_mapCase hx (upper_table.2.2 _ (List.mem_cons_of_mem _ hn)) h0
  have hnot := hself _ hn
  rw [Char.ofNat_toNat] at hnot
  exact hnot hx

/-! ## Lower case -/

theorem lowerRuns_preserve : ∀ r ∈ lowerRuns, preserves wordRuns r = true := by decide +kernel

theorem isWord_of_mem_lowerChar (hc : isWord c = true) (hi : c ≠ 'İ') (hx : x ∈ lowerChar c) :
    isWord x = true := by
  have hexp : ∀ e ∈ lowerExpansions, e.1 = 'İ'.toNat := by decide
  refine isWord_of_mem_mapCase lowerRuns_preserve (fun _ h => ?_) hc hx
  exact absurd (Char.toNat_inj.1 (hexp _ h)) hi

theorem lowerChar_ne_nil (c : Char) : lowerChar c ≠ [] :=
  mapCase_ne_nil (by decide) c

theorem lowerChar_dottedI : lowerChar 'İ' = ['i', '\u0307'] := rfl

theorem eq_backquote_of_mem_lowerChar (h : '\x60' ∈ lowerChar c) : c = '\x60' :=
  (eq_of_mem_mapCase h rfl (by decide)).1.symm

theorem dottedI_not_mem_lowerChar (c : Char) : 'İ' ∉ lowerChar c := by
  have hnot : produces lowerRuns lowerExpansions 'İ'.toNat = false := rfl
  intro h
  obtain ⟨rfl, heq⟩ := eq_of_mem_mapCase h hnot (by decide)
  exact absurd lowerChar_dottedI (by rw [lowerChar, heq]; decide)

theorem lowerChar_sigma : lowerChar 'Σ' = ['σ'] := rfl

/-- **What holds of all images of the characters of a text holds of the lower-cased text**, and the
other way round, if it does not tell the two small sigmas apart. -/
theorem forall_mem_lower_of_iff {P : Char → Prop} (hσ : P 'σ' ↔ P 'ς') (s : List Char) :
    (∀ x ∈ lower s, P x) ↔ ∀ c ∈ s, ∀ x ∈ lowerChar c, P x := by
  suffices h : ∀ before, (∀ x ∈ lowerAfter before s, P x) ↔ ∀ c ∈ s, ∀ x ∈ lowerChar c, P x from
    h []
  induction s with
  | nil => simp [lowerAfter]
  | cons c rest ih =>
    intro before
    simp only [lowerAfter, List.forall_mem_append, List.forall_mem_cons, ih (c :: before)]
    refine and_congr_left fun _ => ?_
    by_cases hc : c = 'Σ'
    · subst hc
      rw [lowerChar_sigma, if_pos (beq_self_eq_true _)]
      split <;> simp [hσ]
    · simp [hc]

theorem forall_mem_lower {P : Char → Prop} (hσ : P 'σ') (hς : P 'ς') (s : List Char) :
    (∀ x ∈ lower s, P x) ↔ ∀ c ∈ s, ∀ x ∈ lowerChar c, P x :=
  forall_mem_lower_of_iff (iff_of_true hσ hς) s

/-- Without a capital sigma the lower-case form is that of the characters one by one. -/
theorem lower_eq_flatMap {s : List Char} (h : 'Σ' ∉ s) : lower s = s.flatMap lowerChar := by
  suffices hafter : ∀ before, lowerAfter before s = s.flatMap lowerChar from hafter []
  induction s with
  | nil => intro before; rfl
  | cons c s ih =>
    intro before
    obtain ⟨hc, hs⟩ := not_or.1 (List.mem_cons.not.1 h)
    rw [lowerAfter, ih hs, if_neg (by simpa using Ne.symm hc), List.flatMap_cons]

theorem forall_mem_lower_isWord (s : List Char) :
    (∀ x ∈ lower s, isWord x = true) ↔ ∀ c ∈ s, ∀ x ∈ lowerChar c, isWord x = true :=
  forall_mem_lower (P := fun x => isWord x = true) rfl rfl s

end SwiftText.Unicode
