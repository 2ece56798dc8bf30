import SwiftText.Proofs.Identifier.Scan
import SwiftText.Proofs.Reserved
import SwiftText.Proofs.Unicode.CaseMap

/-!
# Names that become reserved words

Only the spelling of a name is compared with the reserved words, before the separators are dropped
and the segments are joined. So the joined name may be a reserved word that is not put between back
quotes, although the name was none. A reserved word has at most one capital, and every segment after
the first one brings in a capital. So there are only two ways for this to happen.

* `Trailed`, `CutOnce`: the two ways to spell a word with separators.
* `trailed_or_cutOnce`: a name whose joined form has at most one capital has one of the two shapes,
  by one induction for each state of the pass.
* `isReserved_ofName_iff`: exactly when the identifier of a name is a bare reserved word.
-/

namespace SwiftText.Identifier

open Unicode Reserved

variable {separator : Char → Bool}

/-- The text is the word and a run of separators. -/
def Trailed (separator : Char → Bool) (s w : List Char) : Prop :=
  ∃ e, (∀ x ∈ e, separator x = true) ∧ s = w ++ e

/-- The text is the word with a run of separators before one letter, which is a capital in the word
only, and perhaps another run at the end. -/
def CutOnce (separator : Char → Bool) (s w : List Char) : Prop :=
  ∃ u d c v e, d ≠ [] ∧ (∀ x ∈ d, separator x = true) ∧ separator c = false ∧
    (∀ x ∈ e, separator x = true) ∧ s = u ++ d ++ c :: v ++ e ∧ w = u ++ upperChar c ++ v

/-! ## One capital, one cut -/

/-- An upper-case form is no small letter. -/
theorem capitals_upperChar (c : Char) : 0 < capitals (upperChar c) := by
  obtain ⟨x, u, hu⟩ := List.exists_cons_of_ne_nil (upperChar_ne_nil c)
  have hx : x.isLower = false := isLower_of_mem_upperChar (c := c) (hu ▸ List.mem_cons_self)
  rw [hu, capitals, List.countP_cons_of_pos (by simp [hx])]
  omega

/-- Right after a separator, only separators leave the result without a capital. -/
theorem separators_of_capitals_eq_zero {s : List Char}
    (h : capitals (scan separator true s) = 0) : ∀ x ∈ s, separator x = true := by
  induction s with
  | nil => simp
  | cons c s ih =>
    cases hc : separator c with
    | true =>
      rw [scan_separator hc] at h
      exact List.forall_mem_cons.2 ⟨hc, ih h⟩
    | false =>
      rw [scan_capitalised hc, capitals_append] at h
      have := capitals_upperChar c
      omega

theorem trailed_of_capitals_eq_zero {s : List Char}
    (h : capitals (scan separator false s) = 0) : Trailed separator s (scan separator false s) := by
  induction s with
  | nil => exact ⟨[], by simp, rfl⟩
  | cons c s ih =>
    cases hc : separator c with
    | true =>
      rw [scan_separator hc] at h ⊢
      have hs := separators_of_capitals_eq_zero h
      rw [scan_of_forall_separator hs]
      exact ⟨c :: s, List.forall_mem_cons.2 ⟨hc, hs⟩, rfl⟩
    | false =>
      rw [scan_kept hc] at h ⊢
      obtain ⟨e, he, hs⟩ := ih (Nat.le_zero.1 (h ▸ capitals_le_cons c _))
      exact ⟨e, he, by rw [List.cons_append, ← hs]⟩

/-- Right after a separator, one capital is that of the first character that is none; what comes
after it is kept. -/
theorem separators_or_cut {s : List Char} (h : capitals (scan separator true s) ≤ 1) :
    (∀ x ∈ s, separator x = true) ∨
      ∃ d c v e, (∀ x ∈ d, separator x = true) ∧ separator c = false ∧
        (∀ x ∈ e, separator x = true) ∧ s = d ++ c :: v ++ e ∧
        scan separator true s = upperChar c ++ v := by
  induction s with
  | nil => exact Or.inl (by simp)
  | cons c s ih =>
    cases hc : separator c with
    | true =>
      rw [scan_separator hc] at h ⊢
      rcases ih h with hs | ⟨d, c', v, e, hd, hc', he, rfl, hscan⟩
      · exact Or.inl (List.forall_mem_cons.2 ⟨hc, hs⟩)
      · exact Or.inr ⟨c :: d, c', v, e, List.forall_mem_cons.2 ⟨hc, hd⟩, hc', he, rfl, hscan⟩
    | false =>
      rw [scan_capitalised hc] at h ⊢
      rw [capitals_append] at h
      have hpos := capitals_upperChar c
      have hzero : capitals (scan separator false s) = 0 := by omega
      obtain ⟨e, he, hs⟩ := trailed_of_capitals_eq_zero hzero
      exact Or.inr ⟨[], c, _, e, by simp, hc, he, by simp [← hs], rfl⟩

/-- **A name whose joined form has at most one capital is cut at one place at most.** -/
theorem trailed_or_cutOnce {s : List Char} (h : capitals (scan separator false s) ≤ 1) :
    Trailed separator s (scan separator false s) ∨ CutOnce separator s (scan separator false s) := by
  induction s with
  | nil => exact Or.inl ⟨[], by simp, rfl⟩
  | cons c s ih =>
    cases hc : separator c with
    | true =>
      rw [scan_separator hc] at h ⊢
      rcases separators_or_cut h with hs | ⟨d, c', v, e, hd, hc', he, hs, hscan⟩
      · rw [scan_of_forall_separator hs]
        exact Or.inl ⟨c :: s, List.forall_mem_cons.2 ⟨hc, hs⟩, rfl⟩
      · refine Or.inr ⟨[], c :: d, c', v, e, List.cons_ne_nil c d, ?_, hc', he, ?_, ?_⟩
        · exact List.forall_mem_cons.2 ⟨hc, hd⟩
        · simp [hs]
        · rw [hscan, List.nil_append]
    | false =>
      rw [scan_kept hc] at h ⊢
      rcases ih ((capitals_le_cons c _).trans h) with
        ⟨e, he, hs⟩ | ⟨u, d, c', v, e, hne, hd, hc', he, hs, hscan⟩
      · exact Or.inl ⟨e, he, by rw [List.cons_append, ← hs]⟩
      · refine Or.inr ⟨c :: u, d, c', v, e, hne, hd, hc', he, ?_, ?_⟩
        · rw [hs]
          rfl
        · rw [hscan]
          rfl

/-! ## What the two shapes are joined to -/

theorem scan_of_trailed {s w : List Char} (hw : ∀ x ∈ w, separator x = false)
    (h : Trailed separator s w) : scan separator false s = w := by
  obtain ⟨e, he, rfl⟩ := h
  rw [scan_kept_append hw, scan_of_forall_separator he, List.append_nil]

theorem scan_of_cutOnce {s w : List Char} (hw : ∀ x ∈ w, separator x = false)
    (h : CutOnce separator s w) : scan separator false s = w := by
  obtain ⟨u, d, c, v, e, hne, hd, hc, he, rfl, rfl⟩ := h
  have hu : ∀ x ∈ u, separator x = false := fun x hx => hw x (by simp [hx])
  have hv : ∀ x ∈ v, separator x = false := fun x hx => hw x (by simp [hx])
  rw [List.append_assoc, List.append_assoc, scan_kept_append hu, scan_separators_append hne hd,
    List.cons_append, scan_capitalised hc, scan_kept_append hv, scan_of_forall_separator he,
    List.append_nil, List.append_assoc]

theorem separatesNames_of_isReserved {w : List Char} (h : isReserved w = true) :
    ∀ x ∈ w, separatesNames x = false := fun x hx => by
  simp [separatesNames, isWord_of_isReserved h hx]

/-! ## Bare reserved words -/

theorem toList_ofName_eq (raw : String) : (ofName raw).toList = normalise raw.toList := by
  simp [ofName, withLead]

/-- What stands between back quotes is no bare word. -/
theorem isReserved_backquoted (s : List Char) : isReserved (backquoted s) = false := by
  by_contra h
  have hquote : ('\x60').isAlpha = true :=
    isAlpha_of_isReserved (s := backquoted s) (by simpa using h) List.mem_cons_self
  exact absurd hquote (by decide)

/-- **Exactly when the identifier of a name is a bare reserved word**: the name is no reserved word
itself, and it is one that is followed by separators or cut once before its capital. -/
theorem isReserved_ofName_iff (raw : String) :
    isReserved (ofName raw).toList = true ↔
      isReserved raw.toList = false ∧ ∃ w, isReserved w = true ∧
        (Trailed separatesNames raw.toList w ∨ CutOnce separatesNames raw.toList w) := by
  rw [toList_ofName_eq]
  constructor
  · intro h
    have hraw : isReserved raw.toList = false := by
      by_contra hraw
      rw [normalise_of_isReserved (by simpa using hraw), isReserved_backquoted] at h
      cases h
    rw [normalise_eq_scan hraw] at h
    exact ⟨hraw, _, h, trailed_or_cutOnce (capitals_of_isReserved h)⟩
  · rintro ⟨hraw, w, hw, h⟩
    have hsep := separatesNames_of_isReserved hw
    have hscan : scan separatesNames false raw.toList = w :=
      h.elim (scan_of_trailed hsep) (scan_of_cutOnce hsep)
    rw [normalise_eq_scan hraw, hscan]
    exact hw

/-- A separator at the end of a reserved word is dropped after the word was not recognised. -/
theorem isReserved_ofName_self : isReserved (ofName "self-").toList = true := by
  decide

end SwiftText.Identifier
