import SwiftText.Proofs.Decimal.Interval
import SwiftText.Proofs.Literal.Part

/-!
# Data without a literal

Two kinds of leaves have no literal: integers of too many digits, and foreign values. One of them
anywhere in a datum, however deep and also in a key, leaves the whole datum without a literal.

* `Datum.IsFaulty`: the leaves without a literal, and the fault of each.
* `Datum.firstFault?_eq_some_iff`: the first fault is that of a leaf with none before it.
* `render_eq_error_iff`: writing fails with this fault and no other.
-/

namespace SwiftText

/-! ## Leaves without a literal -/

namespace Decimal

/-- An integer is too long to be written if it has more digits than the limit, whatever its sign. -/
theorem isTooLong_iff {n : Int} : isTooLong n = true ↔ Nat.pow 10 digitLimit ≤ n.natAbs := by
  rw [isTooLong, decide_eq_true_iff, ← Nat.not_le, length_ofNat_le_iff (by decide), Nat.not_lt,
    Nat.pow_eq]

end Decimal

namespace Datum

/-- The data without a literal that are no containers, and the fault of writing each: an integer of
more than 4300 digits, and a foreign value, whose type the fault names. -/
inductive IsFaulty : Datum → Fault → Prop
  | tooLong {n : Int} (h : Nat.pow 10 Decimal.digitLimit ≤ n.natAbs) : IsFaulty (.int n) .integerTooLong
  | foreign (typeName : String) : IsFaulty (.foreign typeName) (.unrenderable typeName)

theorem fault?_eq_some_iff {x : Datum} {f : Fault} : x.fault? = some f ↔ x.IsFaulty f := by
  constructor
  · intro h
    cases x with
    | int n =>
      rw [fault?] at h
      split at h
      · next hn =>
        cases h
        exact .tooLong (Decimal.isTooLong_iff.1 hn)
      · cases h
    | foreign typeName =>
      cases h
      exact .foreign typeName
    | null | bool | double | text | tag | list | tuple | dict => cases h
  · rintro (hn | typeName)
    · exact if_pos (Decimal.isTooLong_iff.2 hn)
    · rfl

theorem fault?_eq_none_iff {x : Datum} : x.fault? = none ↔ ∀ f, ¬x.IsFaulty f := by
  simp only [← fault?_eq_some_iff, Option.eq_none_iff_forall_ne_some, ne_eq]

theorem IsFaulty.isContainer {x : Datum} {f : Fault} (h : x.IsFaulty f) :
    x.isContainer = false := by
  cases h <;> rfl

/-- **The first fault** is that of a leaf with none before it. -/
theorem firstFault?_eq_some_iff {v : Datum} {f : Fault} :
    v.firstFault? = some f ↔ ∃ before x after, v.leaves = before ++ x :: after ∧ x.IsFaulty f ∧
      ∀ y ∈ before, ∀ g, ¬y.IsFaulty g := by
  simp only [firstFault?, List.findSome?_eq_some_iff, fault?_eq_some_iff, fault?_eq_none_iff]

/-- There is a first fault if any part is faulty. -/
theorem exists_firstFault?_iff {v : Datum} :
    (∃ f, v.firstFault? = some f) ↔ ∃ (x : Datum) (f : Fault), x.IsPart v ∧ x.IsFaulty f := by
  rw [← Option.isSome_iff_exists, firstFault?, List.findSome?_isSome_iff]
  simp only [mem_leaves_iff, Option.isSome_iff_exists, fault?_eq_some_iff]
  constructor
  · rintro ⟨x, ⟨-, hpart⟩, f, hf⟩
    exact ⟨x, f, hpart, hf⟩
  · rintro ⟨x, f, hpart, hf⟩
    exact ⟨x, ⟨hf.isContainer, hpart⟩, f, hf⟩

end Datum

namespace Literal

/-! ## Failure -/

theorem render_eq_error_iff_firstFault? {custom : Bool} {v : Datum} {f : Fault} :
    render custom v = .error f ↔ v.firstFault? = some f := by
  rw [render_eq]
  cases v.firstFault? with
  | none => simp [settle]
  | some g => simp [settle]

/-- **Writing fails on the first faulty leaf.** It fails exactly if some part of the datum, at any
depth, is an integer of more than 4300 digits or a foreign value. The fault is that of the first such
leaf in the order of writing, each key before its value: a type error that names the type of a foreign
value, or a value error about the digits of an integer. All this is the same in both modes. -/
theorem render_eq_error_iff (v : Datum) (custom : Bool) :
    ((∃ f, render custom v = .error f) ↔ ∃ (x : Datum) (f : Fault), x.IsPart v ∧ x.IsFaulty f) ∧
      (∀ f, render custom v = .error f ↔
        ∃ before x after, v.leaves = before ++ x :: after ∧ x.IsFaulty f ∧
          ∀ y ∈ before, ∀ g, ¬y.IsFaulty g) ∧
      (∀ typeName, (Fault.unrenderable typeName).errorClass = "TypeError" ∧
        (Fault.unrenderable typeName).message? =
          some ("Cannot render value of type " ++ typeName ++ " as a Swift literal")) ∧
      Fault.integerTooLong.errorClass = "ValueError" ∧
      Fault.integerTooLong.message? =
        some ("Exceeds the limit (4300 digits) for integer string conversion; " ++
          "use sys.set_int_max_str_digits() to increase the limit") := by
  simp only [render_eq_error_iff_firstFault?]
  exact ⟨Datum.exists_firstFault?_iff, fun _ => Datum.firstFault?_eq_some_iff,
    fun _ => ⟨rfl, rfl⟩, rfl, rfl⟩

/-- A foreign value in a key comes before all that its value holds. -/
example : render true (.dict [(.tuple [.foreign "set"], .foreign "bytes")]) =
    .error (.unrenderable "set") := by rfl

end Literal

end SwiftText
