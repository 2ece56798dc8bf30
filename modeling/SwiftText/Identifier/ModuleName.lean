import SwiftText.Identifier

/-!
# Module names

A module path becomes one lower-case identifier: dots and low lines separate as well, and the joined
segments are lower-cased as a whole. A reserved word keeps its shape and is put between back quotes
before it is lower-cased.
-/

namespace SwiftText.Identifier

open Unicode

/-- Whether a character separates the segments of a module path. -/
def separatesModules (c : Char) : Bool := !isWord c || c == '_'

/-- A module path with low lines for dots. -/
def flattenPath (raw : List Char) : List Char := raw.map fun c => if c == '.' then '_' else c

/-- The identifier of a module path. -/
def normaliseModule (raw : List Char) : List Char :=
  let name := flattenPath raw
  if Reserved.isReserved name then lower (backquoted name)
  else lower (camelCase separatesModules name)

/-- The identifier of a module. -/
def ofModule (raw : String) : String := String.ofList (normaliseModule raw.toList)

/-- The identifier of a module path that should be a text. -/
def ofModuleValue : Value → Except Fault Value
  | .text s => .ok (.text (ofModule s))
  | v => .error (.noMember v.typeName "replace")

end SwiftText.Identifier
