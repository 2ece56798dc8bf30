/-!
# Plain values

Names, options and annotation values arrive as plain data: null, truth values, integers, texts,
lists and records. The numbers of a request are integers, so there are none with a fraction here;
doubles only come to be written as literals, and are data of another type. This module has the type,
the name of each shape, truthiness and equality.

Equality is by content, with one identification: a truth value equals the integer 0 or 1 that it
counts as. Two records are equal when they have the same keys with equal values, in any order.
-/

namespace SwiftText

/-- Plain data. The keys of a record are distinct; their order is kept. -/
inductive Value where
  | null
  | bool (b : Bool)
  | int (n : Int)
  | text (s : String)
  | list (items : List Value)
  | record (fields : List (String × Value))
  deriving Inhabited

namespace Value

/-- The name under which messages speak of a value's shape. -/
def typeName : Value → String
  | .null => "NoneType"
  | .bool _ => "bool"
  | .int _ => "int"
  | .text _ => "str"
  | .list _ => "list"
  | .record _ => "dict"

/-- Whether a value counts as true: null, false, zero and everything empty do not. -/
def truthy : Value → Bool
  | .null => false
  | .bool b => b
  | .int n => n != 0
  | .text s => s != ""
  | .list items => !items.isEmpty
  | .record fields => !fields.isEmpty

/-- Whether a value can be looked up by its content: lists and records cannot. -/
def isKey : Value → Bool
  | .list _ | .record _ => false
  | _ => true

/-- The value under a key of a record's fields. -/
def field? (key : String) (fields : List (String × Value)) : Option Value :=
  fields.lookup key

mutual

/-- Equality of values. -/
def same : Value → Value → Bool
  | .null, .null => true
  | .bool a, .bool b => a == b
  | .bool a, .int n => n == (if a then 1 else 0)
  | .int n, .bool a => n == (if a then 1 else 0)
  | .int m, .int n => m == n
  | .text s, .text t => s == t
  | .list xs, .list ys => sameItems xs ys
  | .record fs, .record gs => fs.length == gs.length && sameFields fs gs
  | _, _ => false

/-- Equality of lists, item by item. -/
def sameItems : List Value → List Value → Bool
  | [], [] => true
  | x :: xs, y :: ys => same x y && sameItems xs ys
  | _, _ => false

/-- Whether every field on the left has an equal one on the right. -/
def sameFields : List (String × Value) → List (String × Value) → Bool
  | [], _ => true
  | (key, v) :: rest, gs =>
    (match field? key gs with
      | some w => same v w
      | none => false) && sameFields rest gs

end

/-- The first of each class of equal values, in order. -/
def distinct : List Value → List Value
  | [] => []
  | v :: rest => v :: (distinct rest).filter fun w => !same v w

end Value

end SwiftText
