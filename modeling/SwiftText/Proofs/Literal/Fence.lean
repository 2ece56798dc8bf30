import Mathlib.Order.Bounds.Defs
import SwiftText.Proofs.Literal.Quoted

/-!
# The number signs around a string literal

A literal has as many number signs in front as at its end. If a text has a quotation mark or a
backslash and custom delimiters are allowed, there is at least one, and they are the fewest that
nowhere in the text come right after such a mark. Else there are none.

* `HasMarkedRun`: that many number signs come right after a mark of the text. A mark need not be
  followed by exactly that many, so a longer run has all the shorter ones.
* `hasMarkedRun_iff`: the marked runs are those up to the longest one, so one more is the least
  number that is none.
* `leadingPounds_quotedWith`, `trailingPounds_quotedWith`: the number signs of a literal can be
  counted from either end.
* `isLeast_pounds_quoted`: the number signs around the literal of a text, in both modes.
-/

namespace SwiftText.Literal

/-! ## Runs right after a mark -/

/-- Whether this many number signs, or more, come right after a quotation mark or a backslash. -/
def HasMarkedRun (n : Nat) (s : List Char) : Prop :=
  ∃ c, (c = '"' ∨ c = '\\') ∧ c :: List.replicate n '#' <:+: s

theorem isMark_iff {c : Char} : isMark c = true ↔ c = '"' ∨ c = '\\' := by
  simp [isMark]

theorem any_isMark_iff {s : List Char} : s.any isMark = true ↔ '"' ∈ s ∨ '\\' ∈ s := by
  simp only [List.any_eq_true, isMark_iff]
  constructor
  · rintro ⟨c, hc, rfl | rfl⟩
    · exact Or.inl hc
    · exact Or.inr hc
  · rintro (h | h)
    · exact ⟨_, h, Or.inl rfl⟩
    · exact ⟨_, h, Or.inr rfl⟩

theorem replicate_prefix_iff {n : Nat} {s : List Char} :
    List.replicate n '#' <+: s ↔ n ≤ leadingPounds s := by
  induction n generalizing s with
  | zero => simp
  | succ n ih =>
    cases s with
    | nil => simp [leadingPounds]
    | cons c s =>
      rw [List.replicate_succ, List.cons_prefix_cons]
      by_cases hc : c = '#'
      · rw [hc, leadingPounds_pound, ih, Nat.add_le_add_iff_right]
        simp
      · rw [leadingPounds_of_ne hc]
        simp [Ne.symm hc]

theorem not_hasMarkedRun_nil (n : Nat) : ¬HasMarkedRun n [] := by
  rintro ⟨c, -, h⟩
  simp at h

theorem hasMarkedRun_cons_iff {n : Nat} {c : Char} {s : List Char} :
    HasMarkedRun n (c :: s) ↔ isMark c = true ∧ n ≤ leadingPounds s ∨ HasMarkedRun n s := by
  simp only [HasMarkedRun, List.infix_cons_iff, List.cons_prefix_cons, replicate_prefix_iff,
    ← isMark_iff]
  constructor
  · rintro ⟨d, hd, ⟨rfl, h⟩ | h⟩
    · exact Or.inl ⟨hd, h⟩
    · exact Or.inr ⟨d, hd, h⟩
  · rintro (⟨hc, h⟩ | ⟨d, hd, h⟩)
    · exact ⟨c, hc, Or.inl ⟨rfl, h⟩⟩
    · exact ⟨d, hd, Or.inr h⟩

theorem longestPounds_of_any_eq_false {s : List Char} (h : s.any isMark = false) :
    longestPounds s = 0 := by
  induction s with
  | nil => rfl
  | cons c s ih =>
    rw [List.any_cons, Bool.or_eq_false_iff] at h
    rw [longestPounds_cons, if_neg (by simp [h.1]), ih h.2]

/-- **The marked runs are those up to the longest one.** -/
theorem hasMarkedRun_iff {n : Nat} {s : List Char} :
    HasMarkedRun n s ↔ s.any isMark = true ∧ n ≤ longestPounds s := by
  induction s with
  | nil => simpa using not_hasMarkedRun_nil n
  | cons c s ih =>
    rw [hasMarkedRun_cons_iff, ih, List.any_cons, longestPounds_cons]
    cases hc : isMark c with
    | false => simp
    | true =>
      rw [if_pos rfl, Bool.true_or]
      cases hs : s.any isMark with
      | false => simp [longestPounds_of_any_eq_false hs]
      | true => simp only [true_and]; omega

/-- One more than the longest run is the least number that is not that of a marked run. -/
theorem isLeast_longestPounds_succ {s : List Char} (h : s.any isMark = true) :
    IsLeast {n | 1 ≤ n ∧ ¬HasMarkedRun n s} (longestPounds s + 1) := by
  have hrun : ∀ n, HasMarkedRun n s ↔ n ≤ longestPounds s := fun n => by
    rw [hasMarkedRun_iff, h, eq_self, true_and]
  constructor
  · exact ⟨by omega, by rw [hrun]; omega⟩
  · rintro n ⟨-, hn⟩
    rw [hrun] at hn
    omega

/-! ## The number signs of a literal -/

/-- The number of number signs at the end of a text. -/
def trailingPounds (s : List Char) : Nat := leadingPounds s.reverse

theorem leadingPounds_quotedWith (n : Nat) (s : List Char) :
    leadingPounds (quotedWith n s) = n := by
  have hmark : leadingPounds ('"' :: escapeText n s ++ '"' :: List.replicate n '#') = 0 :=
    leadingPounds_of_ne (by decide) _
  rw [quotedWith, List.append_assoc, leadingPounds_fence, hmark, Nat.add_zero]

theorem trailingPounds_quotedWith (n : Nat) (s : List Char) :
    trailingPounds (quotedWith n s) = n := by
  have hreverse : (quotedWith n s).reverse = List.replicate n '#' ++
      '"' :: ((escapeText n s).reverse ++ '"' :: List.replicate n '#') := by
    simp [quotedWith]
  rw [trailingPounds, hreverse, leadingPounds_fence, leadingPounds_of_ne (by decide), Nat.add_zero]

theorem poundCount_eq (custom : Bool) (s : List Char) :
    poundCount custom s =
      if custom = true ∧ ('"' ∈ s ∨ '\\' ∈ s) then longestPounds s + 1 else 0 := by
  simp only [poundCount, Bool.and_eq_true, any_isMark_iff]

/-- **The number signs around a string literal.** As many stand in front as at the end. With a
quotation mark or a backslash in the text, and custom delimiters allowed, they are the fewest, but
at least one, that come nowhere in the text right after such a mark. Else there are none. -/
theorem isLeast_pounds_quoted (custom : Bool) (s : List Char) :
    trailingPounds (quoted custom s) = leadingPounds (quoted custom s) ∧
      if custom = true ∧ ('"' ∈ s ∨ '\\' ∈ s) then
        IsLeast {n | 1 ≤ n ∧ ¬HasMarkedRun n s} (leadingPounds (quoted custom s))
      else leadingPounds (quoted custom s) = 0 := by
  rw [quoted, trailingPounds_quotedWith, leadingPounds_quotedWith, poundCount_eq]
  refine ⟨rfl, ?_⟩
  split
  · next h => exact isLeast_longestPounds_succ (any_isMark_iff.2 h.2)
  · rfl

/-- Two number signs after a backslash ask for three, whatever comes later. -/
example : quoted true "\\##\"#".toList = "###\"\\##\"#\"###".toList := by decide

end SwiftText.Literal
