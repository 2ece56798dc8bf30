import SwiftText.Literal

/-!
# The outcome of writing a literal

Writing a datum interleaves two things: its text, and the search for a part without a literal. Here
they are taken apart.

* `Datum.leaves` lists the parts of a datum that are no containers, in the order in which the
  literal is written; `Datum.fault?` is the fault of a leaf that has no literal.
* `text` is the literal of a datum all of whose leaves have one.
* `render_eq`: the fault of the first leaf that has one decides the outcome, else the text does.
-/

namespace SwiftText

/-! ## Leaves -/

namespace Datum

mutual

/-- The parts of a datum that are no containers, each key of a dictionary before its value. -/
def leaves : Datum → List Datum
  | .list items => itemLeaves items
  | .tuple items => itemLeaves items
  | .dict entries => entryLeaves entries
  | v => [v]

/-- The leaves of the items of an array, in order. -/
def itemLeaves : List Datum → List Datum
  | [] => []
  | v :: rest => leaves v ++ itemLeaves rest

/-- The leaves of the entries of a dictionary, in order. -/
def entryLeaves : List (Datum × Datum) → List Datum
  | [] => []
  | (k, v) :: rest => leaves k ++ (leaves v ++ entryLeaves rest)

end

/-- The fault of a leaf without a literal: an integer with too many digits, or a value that is
foreign. -/
def fault? : Datum → Option Fault
  | .int n => if Decimal.isTooLong n then some .integerTooLong else none
  | .foreign typeName => some (.unrenderable typeName)
  | _ => none

/-- The fault of the first leaf without a literal. -/
def firstFault? (v : Datum) : Option Fault := v.leaves.findSome? fault?

/-- A datum has a literal if each of its leaves has one. -/
def HasLiteral (v : Datum) : Prop := ∀ x ∈ v.leaves, x.fault? = none

instance (v : Datum) : Decidable v.HasLiteral :=
  inferInstanceAs (Decidable (∀ x ∈ v.leaves, x.fault? = none))

theorem HasLiteral.firstFault? {v : Datum} (h : v.HasLiteral) : v.firstFault? = none :=
  List.findSome?_eq_none_iff.2 h

end Datum

/-! ## Texts -/

namespace Literal

mutual

/-- The literal of a datum that has one. -/
def text (custom : Bool) : Datum → List Char
  | .null => "nil".toList
  | .bool b => if b then "true".toList else "false".toList
  | .int n => Decimal.ofInt n
  | .double x => double x
  | .text s => quoted custom s.toList
  | .tag t => quoted custom t.typeName.toList
  | .list items => bracketed (itemTexts custom items)
  | .tuple items => bracketed (itemTexts custom items)
  | .dict [] => "[:]".toList
  | .dict entries => bracketed (entryTexts custom entries)
  | .foreign _ => []

/-- The literals of the items of an array. -/
def itemTexts (custom : Bool) : List Datum → List (List Char)
  | [] => []
  | v :: rest => text custom v :: itemTexts custom rest

/-- The literals of the entries of a dictionary. -/
def entryTexts (custom : Bool) : List (Datum × Datum) → List (List Char)
  | [] => []
  | (k, v) :: rest => (text custom k ++ ':' :: ' ' :: text custom v) :: entryTexts custom rest

end

theorem text_dict_cons (custom : Bool) (e : Datum × Datum) (rest : List (Datum × Datum)) :
    text custom (.dict (e :: rest)) = bracketed (entryTexts custom (e :: rest)) := by
  rw [text]
  simp

/-- A fault if there is one, else a result. -/
def settle {α : Type} (fault : Option Fault) (result : α) : Except Fault α :=
  match fault with
  | some f => .error f
  | none => .ok result

theorem settle_map {α β : Type} (f : Option Fault) (a : α) (k : α → β) :
    (settle f a).map k = settle f (k a) := by
  cases f <;> rfl

/-- Of two things done one after the other the first one that fails has the fault. -/
theorem settle_bind {α β : Type} {f g : Option Fault} {a : α} {b : β} {k : α → Except Fault β}
    (h : k a = settle g b) : settle f a >>= k = settle (f.or g) b := by
  cases f with
  | none => exact h
  | some f => rfl

theorem settle_bind_pure {α β : Type} (f : Option Fault) (a : α) (k : α → β) :
    (settle f a >>= fun x => pure (k x)) = settle f (k a) := by
  cases f <;> rfl

mutual

/-- **The outcome of writing a datum**: the fault of the first leaf that has one, else the text. -/
theorem render_eq (custom : Bool) (v : Datum) :
    render custom v = settle v.firstFault? (text custom v) := by
  cases v with
  | null => rfl
  | bool b => rfl
  | int n =>
    simp only [render, integer, Datum.firstFault?, Datum.leaves, List.findSome?_singleton,
      Datum.fault?, text]
    split <;> rfl
  | double x => rfl
  | text s => rfl
  | tag t => rfl
  | list items => rw [render, renderItems_eq custom items, settle_map]; rfl
  | tuple items => rw [render, renderItems_eq custom items, settle_map]; rfl
  | dict entries =>
    cases entries with
    | nil => rfl
    | cons e rest =>
      rw [render, renderEntries_eq custom (e :: rest), settle_map]
      · rfl
      · simp
  | foreign typeName => rfl

/-- The outcome of writing the items of an array. -/
theorem renderItems_eq (custom : Bool) (items : List Datum) :
    renderItems custom items =
      settle ((Datum.itemLeaves items).findSome? Datum.fault?) (itemTexts custom items) := by
  cases items with
  | nil => rfl
  | cons v rest =>
    rw [renderItems, render_eq custom v, renderItems_eq custom rest, Datum.itemLeaves,
      List.findSome?_append]
    exact settle_bind (settle_bind_pure _ _ _)

/-- The outcome of writing the entries of a dictionary. -/
theorem renderEntries_eq (custom : Bool) (entries : List (Datum × Datum)) :
    renderEntries custom entries =
      settle ((Datum.entryLeaves entries).findSome? Datum.fault?) (entryTexts custom entries) := by
  cases entries with
  | nil => rfl
  | cons e rest =>
    obtain ⟨k, v⟩ := e
    rw [renderEntries, render_eq custom k, render_eq custom v, renderEntries_eq custom rest,
      Datum.entryLeaves, List.findSome?_append, List.findSome?_append]
    exact settle_bind (settle_bind (settle_bind_pure _ _ _))

end

end Literal

end SwiftText
