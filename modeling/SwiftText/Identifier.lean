import SwiftText.Reserved
import SwiftText.Unicode.CaseMap
import SwiftText.Unicode.Digit
import SwiftText.Unicode.Word

/-!
# Identifiers from names

A name is cut at every run of separators, and its segments are joined in camel case: the first one
as it is, each later one with its first character in upper case. A reserved word is put between
back quotes instead. A result that starts with a digit may be given a lead.
-/

namespace SwiftText.Identifier

open Unicode

/-! ## Segments -/

/-- The segments between the runs of separators: the first one and the others. A separator at either
end leaves an empty segment there. -/
def segments (separator : Char → Bool) : List Char → List Char × List (List Char)
  | [] => ([], [])
  | c :: rest =>
    let (first, others) := segments separator rest
    if !separator c then (c :: first, others)
    else if rest.head?.any separator then (first, others)
    else ([], first :: others)

/-- A text with its first character in upper case. -/
def capitalise : List Char → List Char
  | [] => []
  | c :: rest => upperChar c ++ rest

/-- A text with its first character in lower case. -/
def decapitalise : List Char → List Char
  | [] => []
  | c :: rest => lowerChar c ++ rest

/-- The segments of a text, joined in camel case. -/
def camelCase (separator : Char → Bool) (s : List Char) : List Char :=
  let (first, others) := segments separator s
  first ++ others.flatMap capitalise

/-! ## Escaping and leads -/

/-- A text between back quotes. -/
def backquoted (s : List Char) : List Char := '\x60' :: s ++ ['\x60']

/-- A reserved word between back quotes; any other text as it is. -/
def escape (s : List Char) : List Char :=
  if Reserved.isReserved s then backquoted s else s

/-- Whether a text starts with a digit. -/
def startsWithDigit (s : List Char) : Bool := s.head?.any isDigit

/-- A text that starts with a digit, with a lead in front; any other text as it is. -/
def withLead (lead s : List Char) : List Char :=
  if startsWithDigit s then lead ++ s else s

/-- Puts a lead in front of a text that starts with a digit. A lead that counts as false is
none; any other one must be a text if it is needed. -/
def applyLead (lead : Value) (s : List Char) : Except Fault (List Char) :=
  match lead with
  | .text l => .ok (withLead l.toList s)
  | v => if v.truthy && startsWithDigit s then .error (.cannotPrepend v.typeName) else .ok s

/-! ## Names -/

/-- The identifier of a name, without a lead. -/
def normalise (raw : List Char) : List Char :=
  if Reserved.isReserved raw then backquoted raw else camelCase (fun c => !isWord c) raw

/-- The identifier of a name. -/
def ofName (raw : String) (lead : String := "") : String :=
  String.ofList (withLead lead.toList (normalise raw.toList))

/-- The identifier of a name that should be a text, under a lead that should be one. -/
def ofValue (raw lead : Value) : Except Fault Value :=
  match raw with
  | .text s => (applyLead lead (normalise s.toList)).map fun cs => .text (String.ofList cs)
  | v => if v.isKey then .error (.notText v.typeName) else .error (.notKey v.typeName)

end SwiftText.Identifier
