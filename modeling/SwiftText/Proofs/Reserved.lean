import SwiftText.Proofs.Unicode.Run
import SwiftText.Reserved

/-!
# What reserved words look like

* `isAlpha_of_isReserved`: a reserved word is made of the letters of ASCII.
* `capitals_of_isReserved`: at most one of them is a capital.
-/

namespace SwiftText.Reserved

open Unicode

variable {s : List Char}

theorem isReserved_iff : isReserved s = true ↔ ∃ w ∈ words, w.toList = s := by
  rw [isReserved, List.contains_iff_mem]
  constructor
  · intro h
    exact ⟨String.ofList s, h, String.toList_ofList⟩
  · rintro ⟨w, hw, rfl⟩
    rwa [String.ofList_toList]

/-- The number of characters that are no small letters. -/
def capitals (s : List Char) : Nat := s.countP fun c => !c.isLower

theorem capitals_append (s t : List Char) : capitals (s ++ t) = capitals s + capitals t :=
  List.countP_append

theorem capitals_le_cons (c : Char) (s : List Char) : capitals s ≤ capitals (c :: s) := by
  rw [capitals, capitals, List.countP_cons]
  omega

/-- The reserved words are made of letters, of which one at most is no small letter. -/
theorem words_table :
    ∀ w ∈ words, w.toList.all Char.isAlpha = true ∧ capitals w.toList ≤ 1 := by
  decide +kernel

theorem isAlpha_of_isReserved (h : isReserved s = true) {c : Char} (hc : c ∈ s) :
    c.isAlpha = true := by
  obtain ⟨w, hw, rfl⟩ := isReserved_iff.1 h
  exact List.all_eq_true.1 (words_table w hw).1 c hc

theorem capitals_of_isReserved (h : isReserved s = true) : capitals s ≤ 1 := by
  obtain ⟨w, hw, rfl⟩ := isReserved_iff.1 h
  exact (words_table w hw).2

theorem isWord_of_isReserved (h : isReserved s = true) {c : Char} (hc : c ∈ s) :
    isWord c = true :=
  isWord_of_isAlpha (isAlpha_of_isReserved h hc)

end SwiftText.Reserved
