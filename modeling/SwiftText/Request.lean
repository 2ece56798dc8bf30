import SwiftText.Banner
import SwiftText.DocComment
import SwiftText.Identifier.ModuleName
import SwiftText.Imports
import SwiftText.Literal
import SwiftText.Resolver

/-!
# Requests

The operations of the library as requests, with arguments that come from outside: one that an
operation needs may be absent, which is a fault, and one that it does not need has a default.

A request for a banner needs a template engine.
-/

namespace SwiftText

/-- The operations with their arguments. -/
inductive Request where
  /-- All reserved words, in the order of their code points. -/
  | reservedWords
  | isReservedWord (name : Option Value)
  | normalizeName (raw lead : Option Value)
  | normalizeModuleName (raw : Option Value)
  | normalizeEnumName (raw emptyName lead : Option Value)
  | enumCaseName (raw : Value) (options : Option Value)
  /-- The type name of the tag that a type name has. -/
  | annotationKind (typeName : Value)
  /-- The export of the options that a record gives. -/
  | exportOptions (entries : Value)
  | docComment (text indent : Option Value)
  | headerComment (moduleName : Value) (options : Option Value)
  | imports (items : Option Value)
  /-- The literal of a datum, under options or with the given choice of delimiters. -/
  | renderValue (value : Datum) (options custom : Option Value)
  | swiftString (value : Datum) (options : Option Value)

namespace Request

/-- An argument that an operation needs. -/
def need (operation name : String) : Option Value → Except Fault Value
  | none => .error (.missingArguments operation [name])
  | some v => .ok v

/-- Two arguments that an operation needs. -/
def needBoth (operation name name' : String) :
    Option Value → Option Value → Except Fault (Value × Value)
  | some v, some w => .ok (v, w)
  | none, some _ => .error (.missingArguments operation [name])
  | some _, none => .error (.missingArguments operation [name'])
  | none, none => .error (.missingArguments operation [name, name'])

/-- An argument with a default. -/
def orText (default : String) (v : Option Value) : Value := v.getD (.text default)

/-- Whether string literals may have number signs around them: the options decide, then the choice
that is given; without either they may. -/
def delimiters (options custom : Option Value) : Except Fault Bool :=
  match options, custom with
  | some o, _ => (Options.ofValue o).map (·.custom)
  | none, some v => .ok v.truthy
  | none, none => .ok (Options.custom {})

/-- The answer to a request. -/
def answer (engine : Engine) : Request → Except Fault Value
  | .reservedWords => .ok (.list (Reserved.sortedWords.map .text))
  | .isReservedWord name => do
    let v ← need "is_reserved_word" "name" name
    let b ← Reserved.isReservedValue v
    return .bool b
  | .normalizeName raw lead => do
    let v ← need "normalize_name" "raw" raw
    Identifier.ofValue v (orText "" lead)
  | .normalizeModuleName raw => do
    let v ← need "normalize_module_name" "raw" raw
    Identifier.ofModuleValue v
  | .normalizeEnumName raw emptyName lead => do
    let v ← need "normalize_enum_name" "raw" raw
    Identifier.ofLabelValue v (orText "empty" emptyName) (orText "" lead)
  | .enumCaseName raw options => do
    let o ← Options.ofValue? options
    Resolver.enumCaseName o raw
  | .annotationKind typeName => .ok (.text (Tag.ofTypeName typeName).typeName)
  | .exportOptions entries => do
    let o ← Options.ofValue entries
    o.toValue
  | .docComment text indent => do
    let (t, i) ← needBoth "render_doc_comment" "text" "indent" text indent
    DocComment.ofValue t i
  | .headerComment moduleName options => do
    let o ← Options.ofValue? options
    let banner ← Banner.render engine o moduleName
    return .text banner
  | .imports items => do
    let v ← need "render_imports" "imports" items
    Imports.ofValue v
  | .renderValue value options custom => do
    let d ← delimiters options custom
    Literal.ofDatum d value
  | .swiftString value options => do
    let d ← delimiters options none
    Literal.ofDatum d value

end Request

end SwiftText
