import SwiftText.Fault
import SwiftText.Lines

/-!
# Import lists

A list of modules as Swift import statements, one line each and each module once. The first of
several equal entries keeps its place, and the list always ends with a line break.
-/

namespace SwiftText.Imports

/-- The items of a value: those of a list, the characters of a text, the keys of a record. -/
def items : Value → Except Fault (List Value)
  | .list vs => .ok vs
  | .text s => .ok (s.toList.map fun c => .text (String.singleton c))
  | .record fields => .ok (fields.map fun f => .text f.1)
  | v => .error (.noItems v.typeName)

/-- The import statement of an item. -/
def line (item : Value) : List Char := "import ".toList ++ item.display.toList

/-- The import statements of items that are all different. -/
def render (distinct : List Value) : List Char := Lines.join (distinct.map line) ++ ['\n']

/-- The import statements of the items of a list. The first item that cannot be looked up is a
fault, and so is an integer with too many digits. -/
def ofItems (vs : List Value) : Except Fault String :=
  match vs.find? (!·.isKey) with
  | some v => .error (.notKey v.typeName)
  | none =>
    if (Value.distinct vs).all Value.isWritable then
      .ok (String.ofList (render (Value.distinct vs)))
    else .error .integerTooLong

/-- The import statements of the items of a value. -/
def ofValue (v : Value) : Except Fault Value := do
  let vs ← items v
  let s ← ofItems vs
  return .text s

end SwiftText.Imports
