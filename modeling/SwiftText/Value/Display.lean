import SwiftText.Decimal
import SwiftText.Unicode.Printable
import SwiftText.Value

/-!
# The text of a value

How a value reads inside a text. A text stands for itself at the top; inside a list or a record it
is quoted, with single quotes unless it has a single quote and no double one. Unprintable
characters of a quoted text are shown by number.
-/

namespace SwiftText.Value

/-- A character written as a backslash, a letter for the width, and its number. -/
def byNumber (c : Char) : List Char :=
  if c.toNat < 0x100 then '\\' :: 'x' :: Decimal.hexPadded 2 c.toNat
  else if c.toNat < 0x10000 then '\\' :: 'u' :: Decimal.hexPadded 4 c.toNat
  else '\\' :: 'U' :: Decimal.hexPadded 8 c.toNat

/-- A character of a quoted text, given the quote around it. -/
def quoteChar (quote c : Char) : List Char :=
  if c == quote || c == '\\' then ['\\', c]
  else if c == '\t' then ['\\', 't']
  else if c == '\n' then ['\\', 'n']
  else if c == '\r' then ['\\', 'r']
  else if Unicode.isPrintable c then [c]
  else byNumber c

/-- A text between quotes. -/
def quote (s : String) : String :=
  let chars := s.toList
  let mark := if chars.contains '\x27' && !chars.contains '"' then '"' else '\x27'
  String.ofList (mark :: chars.flatMap (quoteChar mark) ++ [mark])

mutual

/-- The text of a value inside another one. -/
def displayInner : Value → String
  | .null => "None"
  | .bool b => if b then "True" else "False"
  | .int n => String.ofList (Decimal.ofInt n)
  | .text s => quote s
  | .list items => "[" ++ ", ".intercalate (displayItems items) ++ "]"
  | .record fields => "\x7b" ++ ", ".intercalate (displayFields fields) ++ "\x7d"

/-- The texts of the items of a list. -/
def displayItems : List Value → List String
  | [] => []
  | v :: rest => displayInner v :: displayItems rest

/-- The texts of the fields of a record. -/
def displayFields : List (String × Value) → List String
  | [] => []
  | (key, v) :: rest => (quote key ++ ": " ++ displayInner v) :: displayFields rest

end

mutual

/-- Whether a value can be written: an integer with too many digits cannot. -/
def isWritable : Value → Bool
  | .int n => !Decimal.isTooLong n
  | .list items => itemsWritable items
  | .record fields => fieldsWritable fields
  | _ => true

/-- Whether all the items of a list can be written. -/
def itemsWritable : List Value → Bool
  | [] => true
  | v :: rest => isWritable v && itemsWritable rest

/-- Whether all the fields of a record can be written. -/
def fieldsWritable : List (String × Value) → Bool
  | [] => true
  | (_, v) :: rest => isWritable v && fieldsWritable rest

end

/-- The text of a value: a text is its own. -/
def display : Value → String
  | .text s => s
  | v => displayInner v

end SwiftText.Value
