import SwiftText.Identifier

/-!
# Enum case names

The case name of a label. A label in all capitals is lower-cased first, so that `RED` becomes `red`;
then it is treated as a name, and its first character is put in lower case. A label without an
identifier character, and the wildcard `_`, have no name of their own and take a given one.
-/

namespace SwiftText.Identifier

open Unicode

/-- The camel-case name of a label before its first character is lowered, if it has one. -/
def labelStem (raw : List Char) : Option (List Char) :=
  let name := normalise (if isAllCapitals raw then lower raw else raw)
  if name = [] ∨ name = ['_'] then none else some name

/-- Whether a text starts with a back quote. -/
def startsQuoted (s : List Char) : Bool := s.head? == some '\x60'

/-- The case name of a label, if it has one of its own. -/
def enumCase? (lead raw : List Char) : Option (List Char) :=
  (labelStem raw).map fun name =>
    if startsQuoted name then name else escape (withLead lead (decapitalise name))

/-- The case name of a label; one without a name of its own takes the given name as it is. -/
def ofLabel (raw : String) (emptyName : String := "empty") (lead : String := "") : String :=
  match enumCase? lead.toList raw.toList with
  | none => emptyName
  | some cs => String.ofList cs

/-- The case name of a label that should be a text, under a lead that should be one. A label that
counts as false takes the given name. -/
def ofLabelValue (raw emptyName lead : Value) : Except Fault Value :=
  match raw with
  | .text s =>
    match labelStem s.toList with
    | none => .ok emptyName
    | some name =>
      if startsQuoted name then .ok (.text (String.ofList name))
      else (applyLead lead (decapitalise name)).map fun cs => .text (String.ofList (escape cs))
  | v => if v.truthy then .error (.noMember v.typeName "isupper") else .ok emptyName

end SwiftText.Identifier
