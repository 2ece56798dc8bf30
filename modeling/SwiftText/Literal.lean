import SwiftText.Annotation
import SwiftText.Literal.Number
import SwiftText.Literal.Quoted

/-!
# Literals

The data that a generated file embeds, and its literals: numbers, strings, arrays and dictionaries,
nested as they come. A value without a literal is a fault; of several the first one counts, in the
order in which the literal is written.
-/

namespace SwiftText

/-- Data to be embedded. A tag counts as its type name, and a dictionary keeps the order of its
entries. A value that is `foreign` has no literal, only the name of its type. -/
inductive Datum where
  | null
  | bool (b : Bool)
  | int (n : Int)
  | double (x : Decimal.Double)
  | text (s : String)
  | tag (t : Tag)
  | list (items : List Datum)
  | tuple (items : List Datum)
  | dict (entries : List (Datum × Datum))
  | foreign (typeName : String)

namespace Literal

/-- Parts with a comma and a blank between each and the next. -/
def commaSeparated (parts : List (List Char)) : List Char := [',', ' '].intercalate parts

/-- Parts between brackets. -/
def bracketed (parts : List (List Char)) : List Char := '[' :: commaSeparated parts ++ [']']

mutual

/-- The literal of a datum. -/
def render (custom : Bool) : Datum → Except Fault (List Char)
  | .null => .ok "nil".toList
  | .bool b => .ok (if b then "true".toList else "false".toList)
  | .int n => integer n
  | .double x => .ok (double x)
  | .text s => .ok (quoted custom s.toList)
  | .tag t => .ok (quoted custom t.typeName.toList)
  | .list items => (renderItems custom items).map bracketed
  | .tuple items => (renderItems custom items).map bracketed
  | .dict [] => .ok "[:]".toList
  | .dict entries => (renderEntries custom entries).map bracketed
  | .foreign typeName => .error (.unrenderable typeName)

/-- The literals of the items of an array, in order. -/
def renderItems (custom : Bool) : List Datum → Except Fault (List (List Char))
  | [] => .ok []
  | v :: rest => do
    let part ← render custom v
    let parts ← renderItems custom rest
    return part :: parts

/-- The literals of the entries of a dictionary, in order, each key before its value. -/
def renderEntries (custom : Bool) : List (Datum × Datum) → Except Fault (List (List Char))
  | [] => .ok []
  | (k, v) :: rest => do
    let key ← render custom k
    let value ← render custom v
    let parts ← renderEntries custom rest
    return (key ++ ':' :: ' ' :: value) :: parts

end

/-- The literal of a datum. -/
def ofDatum (custom : Bool) (v : Datum) : Except Fault Value :=
  (render custom v).map fun cs => .text (String.ofList cs)

end Literal

end SwiftText
