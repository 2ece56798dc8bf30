import SwiftText.Proofs.Identifier.EnumCase

/-!
# Names by adjacent characters

The identifier of a name can be read off without cutting it into segments: what a character gives is
a matter of the character itself and of the one right before it.

* `contribution`: what a character gives, and `contributions`: what those of a text give, in order.
* `scan_eq_flatten`: the pass over a text joins what its characters give.
* `nonempty_contributions`: identifier characters give something and separators nothing.
* `ofName_eq_contributions`: the identifier of a name is what its characters give, unless it is a
  reserved word.
-/

namespace SwiftText.Identifier

open Unicode Reserved

/-- What a character of a name gives to the identifier, after the character before it, if any: a
separator gives nothing, a character right after one gives its upper-case form, and any other
character gives itself. -/
def contribution (before : Option Char) (c : Char) : List Char :=
  if !isWord c then []
  else if before.any fun b => !isWord b then upperChar c
  else [c]

/-- What the characters of a name give, one by one. -/
def contributions (s : List Char) : List (List Char) :=
  List.zipWith contribution (none :: s.map some) s

/-- **The pass over a text joins what its characters give.** The induction carries the character
before the text, which is all that the flag of the pass depends on. -/
theorem scan_eq_flatten (before : Option Char) (s : List Char) :
    scan separatesNames (before.any separatesNames) s =
      (List.zipWith contribution (before :: s.map some) s).flatten := by
  induction s generalizing before with
  | nil => rfl
  | cons c s ih =>
    rw [List.map_cons, List.zipWith_cons_cons, List.flatten_cons, ← ih (some c), Option.any_some]
    cases hc : separatesNames c with
    | true =>
      have hnothing : contribution before c = [] := if_pos hc
      rw [scan_separator hc, hnothing, List.nil_append]
    | false =>
      have hgiven : contribution before c =
          if before.any separatesNames then upperChar c else [c] :=
        if_neg (by simpa [separatesNames] using hc)
      rw [scan, if_neg (by simp [hc]), hgiven]

theorem contribution_ne_nil_iff (before : Option Char) (c : Char) :
    contribution before c ≠ [] ↔ isWord c = true := by
  rw [contribution]
  cases isWord c with
  | false => simp
  | true =>
    rw [Bool.not_true, if_neg Bool.false_ne_true]
    split
    · exact iff_of_true (upperChar_ne_nil c) rfl
    · exact iff_of_true (List.cons_ne_nil c []) rfl

/-- **Each identifier character gives something, in its place, and each separator nothing.** -/
theorem nonempty_contributions (s : List Char) :
    List.Forall₂ (fun c given => given ≠ [] ↔ isWord c = true) s (contributions s) := by
  suffices h : ∀ before, List.Forall₂ (fun c given => given ≠ [] ↔ isWord c = true) s
      (List.zipWith contribution (before :: s.map some) s) from h none
  induction s with
  | nil => exact fun _ => .nil
  | cons c s ih => exact fun before => .cons (contribution_ne_nil_iff before c) (ih (some c))

/-- The first character is kept or dropped. -/
theorem head?_contributions (s : List Char) :
    (contributions s).head? = s.head?.map fun c => if isWord c then [c] else [] := by
  cases s with
  | nil => rfl
  | cons c s => cases hc : isWord c <;> simp [contributions, contribution, hc]

/-- For texts the identifier of a name is a text. -/
theorem ofValue_text (raw lead : String) :
    ofValue (.text raw) (.text lead) = .ok (.text (ofName raw lead)) := by
  rw [ofValue, applyLead_text, ofName]
  rfl

/-- **The identifier of a name, character by character.** A reserved word is put between back quotes
as it is. Any other name gives what its characters give, in order: each identifier character gives
something, once, and each separator nothing, and the first character never changes its case. -/
theorem ofName_eq_contributions (raw : String) :
    ofValue (.text raw) (.text "") = .ok (.text (ofName raw)) ∧
      (ofName raw).toList =
        (if isReserved raw.toList then backquoted raw.toList
          else (contributions raw.toList).flatten) ∧
      List.Forall₂ (fun c given => given ≠ [] ↔ isWord c = true) raw.toList
        (contributions raw.toList) ∧
      (contributions raw.toList).head? =
        raw.toList.head?.map fun c => if isWord c then [c] else [] := by
  refine ⟨ofValue_text raw "", ?_, nonempty_contributions _, head?_contributions _⟩
  rw [toList_ofName_eq]
  cases hres : isReserved raw.toList with
  | true => rw [if_pos rfl, normalise_of_isReserved hres]
  | false =>
    rw [if_neg Bool.false_ne_true, normalise_eq_scan hres]
    exact scan_eq_flatten none raw.toList

/-- Letters in upper case, and `ß` as two, only right after separators. -/
example : contributions "-a--ßc".toList = [[], ['A'], [], [], ['S', 'S'], ['c']] := by decide

end SwiftText.Identifier
