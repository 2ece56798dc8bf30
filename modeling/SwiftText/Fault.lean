import SwiftText.Value.Display

/-!
# Faults

What can go wrong, cause by cause, with the class and the message of the error that each cause is
reported as. A fault of the template engine has the class and the message that the engine gives it.
-/

namespace SwiftText

/-- The causes of failure. A `type` is the name of the shape of the offending value. -/
inductive Fault where
  /-- A list or record stands where a value is looked up by content. -/
  | notKey (type : String)
  /-- A text is cut into pieces, but the value is no text. -/
  | notText (type : String)
  /-- The value has no such member. -/
  | noMember (type member : String)
  /-- A value is put in front of a text. -/
  | cannotPrepend (type : String)
  /-- The items of a value are wanted, but it has none. -/
  | noItems (type : String)
  /-- A value stands where an operation should be. -/
  | notOperation (type : String)
  /-- A value stands where a kind of objects should be. -/
  | notKind (type : String)
  /-- A value stands where all the fields of an object should be. -/
  | notFields (type : String)
  /-- A part of an object that cannot be changed is assigned. -/
  | unwritable (member owner : String)
  /-- Arguments of an operation are absent. -/
  | missingArguments (operation : String) (names : List String)
  /-- A value of this type has no literal. -/
  | unrenderable (type : String)
  /-- An integer has too many digits to be written. -/
  | integerTooLong
  /-- A field of an annotation is assigned. -/
  | frozenField (field : String)
  /-- There is no annotation at the index that is read. -/
  | indexOutOfRange
  /-- There is no annotation at the index that is deleted. -/
  | deletionOutOfRange
  /-- A step uses a name that nothing is bound to. -/
  | unbound (name : String)
  /-- The template engine refuses a template, or fails to render it. -/
  | template (type : String) (message : Option String)

namespace Fault

/-- Names in quotes, listed as in a sentence. -/
def listing : List String → String
  | [] => ""
  | [a] => s!"'{a}'"
  | [a, b] => s!"'{a}' and '{b}'"
  | [a, b, c] => s!"'{a}', '{b}', and '{c}'"
  | a :: rest => s!"'{a}', " ++ listing rest

/-- The class of the error that a fault is reported as. -/
def errorClass : Fault → String
  | .notKey _ | .notText _ | .cannotPrepend _ | .noItems _ | .notOperation _ | .notKind _
  | .notFields _ | .missingArguments _ _ | .unrenderable _ => "TypeError"
  | .noMember _ _ | .unwritable _ _ => "AttributeError"
  | .integerTooLong => "ValueError"
  | .frozenField _ => "FrozenInstanceError"
  | .indexOutOfRange | .deletionOutOfRange => "IndexError"
  | .unbound _ => "KeyError"
  | .template type _ => type

/-- The message of a fault. -/
def message? : Fault → Option String
  | .notKey type => some s!"unhashable type: '{type}'"
  | .notText type => some s!"expected string or bytes-like object, got '{type}'"
  | .noMember type member => some s!"'{type}' object has no attribute '{member}'"
  | .cannotPrepend "list" => some "can only concatenate list (not \"str\") to list"
  | .cannotPrepend type => some s!"unsupported operand type(s) for +: '{type}' and 'str'"
  | .noItems type => some s!"'{type}' object is not iterable"
  | .notOperation type => some s!"'{type}' object is not callable"
  | .notKind type => some s!"__class__ must be set to a class, not '{type}' object"
  | .notFields type => some s!"__dict__ must be set to a dictionary, not a '{type}'"
  | .unwritable member owner =>
    some s!"attribute '{member}' of '{owner}' objects is not writable"
  | .missingArguments operation [name] =>
    some s!"{operation}() missing 1 required positional argument: '{name}'"
  | .missingArguments operation names =>
    some s!"{operation}() missing {names.length} required positional arguments: {listing names}"
  | .unrenderable type => some s!"Cannot render value of type {type} as a Swift literal"
  | .integerTooLong =>
    some (s!"Exceeds the limit ({Decimal.digitLimit} digits) for integer string conversion; " ++
      "use sys.set_int_max_str_digits() to increase the limit")
  | .frozenField field => some s!"cannot assign to field {Value.quote field}"
  | .indexOutOfRange => some "list index out of range"
  | .deletionOutOfRange => some "list assignment index out of range"
  | .unbound name => some (Value.quote name)
  | .template _ message => message

end Fault

end SwiftText
