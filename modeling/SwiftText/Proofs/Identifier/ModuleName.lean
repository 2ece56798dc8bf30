import SwiftText.Proofs.Identifier.Character
import SwiftText.Proofs.Identifier.Keyword
import SwiftText.Proofs.Unicode.SmallLetter

/-!
# Module names that become reserved words

A path is compared with the reserved words before its separators are dropped and its letters are put
in lower case, and what becomes of it is not compared again. So a path that is no reserved word may
come to a bare one: `Import` and `im.port` both become `import`.

* `spelling?`: the word in small letters that a path spells, read off letter by letter.
* `spelling?_eq_some_iff`: the joined segments in lower case are such a word exactly if the path
  spells it.
* `spelling?_of_dropped`: a path spells the reserved word that is left when its separators are
  dropped and its letters are put in lower case.
* `isReserved_ofModule_iff`: exactly when the identifier of a module is a bare reserved word.
-/

namespace SwiftText.Identifier

open Unicode Reserved

variable {separator : Char → Bool} {s t w : List Char}

/-- The word in small letters that a text spells, separators dropped, if every other character
stands for such letters. The flag tells whether a separator comes right before the text: a character
right after one is put in upper case first. -/
def spelling? (separator : Char → Bool) (after : Bool) : List Char → Option (List Char)
  | [] => some []
  | c :: rest =>
    if separator c then spelling? separator true rest
    else do
      let u ← letters? after c
      let v ← spelling? separator false rest
      return u ++ v

theorem spelling?_separator {c : Char} (h : separator c = true) (after : Bool) (rest : List Char) :
    spelling? separator after (c :: rest) = spelling? separator true rest := by
  rw [spelling?, if_pos h]

theorem spelling?_letter {c : Char} (h : separator c = false) {after : Bool} {rest : List Char} :
    spelling? separator after (c :: rest) = some w ↔
      ∃ u v, letters? after c = some u ∧ spelling? separator false rest = some v ∧ u ++ v = w := by
  simp [spelling?, h, Option.bind_eq_some_iff]

/-! ## Small letters in lower case -/

theorem areSmall_append : areSmall (s ++ t) = true ↔ areSmall s = true ∧ areSmall t = true := by
  simp [areSmall]

/-- A capital sigma has no small letter of ASCII in its place, so context does not matter. -/
theorem lower_eq_flatMap_of_areSmall (h : ∀ c ∈ t, areSmall (lowerChar c) = true) :
    lower t = t.flatMap lowerChar := by
  refine lower_eq_flatMap fun hsigma => ?_
  have hsmall := h 'Σ' hsigma
  rw [lowerChar_sigma] at hsmall
  cases hsmall

theorem areSmall_lower_iff :
    areSmall (lower t) = true ↔ ∀ c ∈ t, areSmall (lowerChar c) = true := by
  simpa only [areSmall, List.all_eq_true] using
    forall_mem_lower_of_iff (P := fun x => x.isLower = true) (by decide) t

theorem areSmall_flatMap_iff :
    areSmall (t.flatMap lowerChar) = true ↔ ∀ c ∈ t, areSmall (lowerChar c) = true := by
  simp only [areSmall, List.all_flatMap, List.all_eq_true]

/-- A reserved word in lower case is made of small letters. -/
theorem areSmall_of_isReserved_lower (h : isReserved (lower t) = true) :
    areSmall (lower t) = true := by
  have hletters : ∀ x ∈ lower t, x.isAlpha = true → x.isLower = true :=
    (forall_mem_lower (P := fun x => x.isAlpha = true → x.isLower = true) (by decide) (by decide)
      t).2 fun _ _ _ => isLower_of_mem_lowerChar
  exact List.all_eq_true.2 fun x hx => hletters x hx (isAlpha_of_isReserved h hx)

/-! ## What a path spells -/

/-- The induction follows the pass, one character at a time. -/
theorem spelling?_eq_some_iff_flatMap (after : Bool) :
    spelling? separator after s = some w ↔
      areSmall w = true ∧ (scan separator after s).flatMap lowerChar = w := by
  induction s generalizing after w with
  | nil =>
    simp only [spelling?, scan, List.flatMap_nil, Option.some.injEq]
    constructor
    · rintro rfl
      exact ⟨rfl, rfl⟩
    · exact fun h => h.2
  | cons c s ih =>
    cases hc : separator c with
    | true => rw [spelling?_separator hc, scan_separator hc, ih]
    | false =>
      have hform : (scan separator after (c :: s)).flatMap lowerChar =
          lowered after c ++ (scan separator false s).flatMap lowerChar := by
        simp [scan, hc, lowered]
      rw [spelling?_letter hc, hform]
      constructor
      · rintro ⟨u, v, hu, hv, rfl⟩
        obtain ⟨husmall, hu⟩ := letters?_eq_some_iff.1 hu
        obtain ⟨hvsmall, hv⟩ := (ih false).1 hv
        exact ⟨areSmall_append.2 ⟨husmall, hvsmall⟩, by rw [hu, hv]⟩
      · rintro ⟨hsmall, rfl⟩
        obtain ⟨husmall, hvsmall⟩ := areSmall_append.1 hsmall
        exact ⟨_, _, letters?_eq_some_iff.2 ⟨husmall, rfl⟩, (ih false).2 ⟨hvsmall, rfl⟩, rfl⟩

/-- **The joined segments in lower case are a word in small letters exactly if the path spells
it.** -/
theorem spelling?_eq_some_iff (after : Bool) :
    spelling? separator after s = some w ↔
      areSmall w = true ∧ lower (scan separator after s) = w := by
  rw [spelling?_eq_some_iff_flatMap]
  refine and_congr_right_iff.2 fun hw => ?_
  constructor
  · rintro rfl
    exact lower_eq_flatMap_of_areSmall (areSmall_flatMap_iff.1 hw)
  · rintro rfl
    exact (lower_eq_flatMap_of_areSmall (areSmall_lower_iff.1 hw)).symm

/-- A character with a lower-case form in small letters stands for the same ones as a capital. -/
theorem letters?_of_areSmall {c : Char} (h : areSmall (lowerChar c) = true) (after : Bool) :
    letters? after c = some (lowerChar c) := by
  have hplain : lowered false c = lowerChar c := by simp [lowered]
  rcases isAlpha_or_kelvin_of_lowerChar h with halpha | rfl
  · rw [← hplain, (lowered_of_isAlpha halpha false).2, letters?, if_pos halpha]
  · rw [← hplain, lowered_kelvin]
    cases after <;> rfl

theorem spelling?_of_areSmall
    (h : ∀ c ∈ s.filter fun c => !separator c, areSmall (lowerChar c) = true) (after : Bool) :
    spelling? separator after s = some ((s.filter fun c => !separator c).flatMap lowerChar) := by
  induction s generalizing after with
  | nil => rfl
  | cons c s ih =>
    cases hc : separator c with
    | true =>
      rw [List.filter_cons_of_neg (by simp [hc])] at h ⊢
      rw [spelling?_separator hc]
      exact ih h true
    | false =>
      rw [List.filter_cons_of_pos (by simp [hc])] at h ⊢
      obtain ⟨hsmall, hrest⟩ := List.forall_mem_cons.1 h
      rw [List.flatMap_cons]
      exact (spelling?_letter hc).2
        ⟨_, _, letters?_of_areSmall hsmall after, ih hrest false, rfl⟩

/-- **A path spells the reserved word that is left of it** when its separators are dropped and its
letters are put in lower case. -/
theorem spelling?_of_dropped (h : isReserved (lower (s.filter fun c => !separator c)) = true)
    (after : Bool) :
    spelling? separator after s = some (lower (s.filter fun c => !separator c)) := by
  have hsmall := areSmall_lower_iff.1 (areSmall_of_isReserved_lower h)
  rw [lower_eq_flatMap_of_areSmall hsmall]
  exact spelling?_of_areSmall hsmall after

/-! ## Bare reserved words -/

/-- A path that is no reserved word comes to the word that it spells. -/
theorem toList_ofModule_of_spelling? {raw : String} (hraw : isReserved raw.toList = false)
    (h : spelling? separatesModules false raw.toList = some w) : (ofModule raw).toList = w := by
  rw [toList_ofModule, hraw, if_neg (by simp)]
  exact ((spelling?_eq_some_iff false).1 h).2

theorem filter_of_isReserved (h : isReserved s = true) :
    s.filter (fun c => !separatesModules c) = s :=
  List.filter_eq_self.2 fun c hc => by simp [separates_modules.not_of_isReserved h hc]

/-- **Exactly when the identifier of a module is a bare reserved word**: the path is no reserved
word itself, and it spells one. In particular, where dropping the separators and lower-casing leaves
a reserved word, the identifier is that word, in back quotes only if the path was a reserved
word. -/
theorem isReserved_ofModule_iff (raw : String) :
    (isReserved (ofModule raw).toList = true ↔
      isReserved raw.toList = false ∧
        ∃ w, spelling? separatesModules false raw.toList = some w ∧ isReserved w = true) ∧
    ∀ w, lower (raw.toList.filter fun c => !separatesModules c) = w → isReserved w = true →
      (ofModule raw).toList = if isReserved raw.toList then backquoted w else w := by
  constructor
  · constructor
    · intro h
      rw [toList_ofModule] at h
      split at h
      · rw [isReserved_backquoted] at h
        cases h
      · next hraw =>
        have hsmall := areSmall_of_isReserved_lower h
        exact ⟨by simpa using hraw, _, (spelling?_eq_some_iff false).2 ⟨hsmall, rfl⟩, h⟩
    · rintro ⟨hraw, w, hspell, hw⟩
      rwa [toList_ofModule_of_spelling? hraw hspell]
  · rintro w rfl hw
    cases hraw : isReserved raw.toList with
    | true => rw [toList_ofModule, hraw, if_pos rfl, if_pos rfl, filter_of_isReserved hraw]
    | false =>
      rw [toList_ofModule_of_spelling? hraw (spelling?_of_dropped hw false), if_neg (by simp)]

/-- Without its dot the path `Im.port` in lower case is a reserved word, and so its identifier. -/
theorem isReserved_ofModule_iff_import :
    lower ("Im.port".toList.filter fun c => !separatesModules c) = "import".toList ∧
      isReserved "import".toList = true ∧ (ofModule "Im.port").toList = "import".toList := by
  have hdropped :
      lower ("Im.port".toList.filter fun c => !separatesModules c) = "import".toList := by decide
  have hw : isReserved "import".toList = true := by decide
  have hraw : isReserved "Im.port".toList = false := by decide
  have h := (isReserved_ofModule_iff "Im.port").2 _ hdropped hw
  rw [hraw, if_neg (by simp)] at h
  exact ⟨hdropped, hw, h⟩

/-- A reserved word in another case is put in lower case after it was not recognised. -/
theorem isReserved_ofModule_capital :
    ofModule "Import" = "import" ∧ isReserved (ofModule "Import").toList = true := by
  decide

end SwiftText.Identifier
