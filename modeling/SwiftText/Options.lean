import SwiftText.Fault

/-!
# Options

The options of a generated file. Their values come from outside and are kept as they are; what an
operation needs of a value it checks when it uses it.

Options are set by entries, each with a name. Names without a meaning are ignored, but a few names
have a meaning although they are no options. One stands for all the fields at once. Another is that
of the export, by which options become a record: its entry takes the place of the export, so that
the options keep working, but can no longer be exported. The last two cannot be set.
-/

namespace SwiftText

/-- The template of the banner of a generated file, unless another one is given. -/
def defaultHeader : String :=
  "// Code generated from Pkl module `\x7b\x7b module_name \x7d\x7d`. DO NOT EDIT."

/-- The options of a generated file, and the entry that hides the export, if there is one. -/
structure Options where
  /-- The name of the class of a module. -/
  moduleTypeName : Value := .text "Module"
  /-- The case name of a label without a name of its own. -/
  emptyEnumCaseName : Value := .text "empty"
  /-- The lead of identifiers that start with a digit. -/
  leadingDigitPrefix : Value := .text ""
  /-- The template of the banner. -/
  headerTemplate : Value := .text defaultHeader
  /-- Whether string literals may have number signs around them. -/
  customStringDelimiters : Value := .bool true
  /-- The entry that hides the export. -/
  hidingExport : Option Value := none

namespace Options

/-- The options that can be set. -/
inductive Key where
  | moduleTypeName
  | emptyEnumCaseName
  | leadingDigitPrefix
  | headerTemplate
  | customStringDelimiters
  deriving DecidableEq

namespace Key

/-- The options in the order of the export. -/
def all : List Key :=
  [moduleTypeName, emptyEnumCaseName, leadingDigitPrefix, headerTemplate, customStringDelimiters]

/-- The name of an option. -/
def name : Key → String
  | moduleTypeName => "module_type_name"
  | emptyEnumCaseName => "empty_enum_case_name"
  | leadingDigitPrefix => "leading_digit_prefix"
  | headerTemplate => "header_template"
  | customStringDelimiters => "use_custom_string_delimiters"

/-- The option of a name. -/
def ofName? (s : String) : Option Key := all.find? fun k => k.name == s

end Key

/-- The name of the export. -/
def exportName : String := "to_dict"

/-- The value of an option. -/
def get (o : Options) : Key → Value
  | .moduleTypeName => o.moduleTypeName
  | .emptyEnumCaseName => o.emptyEnumCaseName
  | .leadingDigitPrefix => o.leadingDigitPrefix
  | .headerTemplate => o.headerTemplate
  | .customStringDelimiters => o.customStringDelimiters

/-- The options with one of them changed. -/
def set (o : Options) (key : Key) (v : Value) : Options :=
  match key with
  | .moduleTypeName => { o with moduleTypeName := v }
  | .emptyEnumCaseName => { o with emptyEnumCaseName := v }
  | .leadingDigitPrefix => { o with leadingDigitPrefix := v }
  | .headerTemplate => { o with headerTemplate := v }
  | .customStringDelimiters => { o with customStringDelimiters := v }

/-- What the names of entries stand for. -/
inductive Slot where
  | option (key : Key)
  /-- The export. -/
  | exported
  /-- All fields at once. -/
  | fields
  /-- The kind of object that options are. -/
  | kind
  /-- The objects that watch the options. -/
  | watchers
  /-- Nothing that matters. -/
  | other
  deriving DecidableEq

/-- What a name stands for. -/
def Slot.ofName (s : String) : Slot :=
  match Key.ofName? s with
  | some key => .option key
  | none =>
    if s == exportName then .exported
    else if s == "__dict__" then .fields
    else if s == "__class__" then .kind
    else if s == "__weakref__" then .watchers
    else .other

/-- The options whose fields are those of a record; an option without a field has its default. -/
def ofFields (fields : List (String × Value)) : Options :=
  let pick := fun (o : Options) (k : Key) =>
    match Value.field? k.name fields with
    | some v => o.set k v
    | none => o
  { Key.all.foldl pick {} with hidingExport := Value.field? exportName fields }

/-- The options after an entry. -/
def assign (o : Options) (name : String) (v : Value) : Except Fault Options :=
  match Slot.ofName name, v with
  | .option key, v => .ok (o.set key v)
  | .exported, v => .ok { o with hidingExport := some v }
  | .fields, .record fields => .ok (ofFields fields)
  | .fields, v => .error (.notFields v.typeName)
  | .kind, v => .error (.notKind v.typeName)
  | .watchers, _ => .error (.unwritable name "CodeGeneratorConfig")
  | .other, _ => .ok o

/-- The options after a list of entries, one after the other. -/
def assignAll (o : Options) : List (String × Value) → Except Fault Options
  | [] => .ok o
  | (name, v) :: rest => do
    let p ← o.assign name v
    p.assignAll rest

/-- The options that a record gives; those that it does not name have their defaults. -/
def ofValue : Value → Except Fault Options
  | .record entries => assignAll {} entries
  | v => .error (.noMember v.typeName "items")

/-- The options that an optional record gives. -/
def ofValue? : Option Value → Except Fault Options
  | none => .ok {}
  | some v => ofValue v

/-- The entries of the export. -/
def entries (o : Options) : List (String × Value) := Key.all.map fun k => (k.name, o.get k)

/-- The export: a record of all options. -/
def toValue (o : Options) : Except Fault Value :=
  match o.hidingExport with
  | some v => .error (.notOperation v.typeName)
  | none => .ok (.record o.entries)

/-- Equality of options, by their values. -/
def same (o p : Options) : Bool := Key.all.all fun k => (o.get k).same (p.get k)

/-- Whether string literals may have number signs around them. -/
def custom (o : Options) : Bool := o.customStringDelimiters.truthy

/-! ## Reading back what was set -/

theorem get_set_self (o : Options) (key : Key) (v : Value) : (o.set key v).get key = v := by
  cases key <;> rfl

theorem get_set_of_ne (o : Options) {key other : Key} (v : Value) (h : other ≠ key) :
    (o.set key v).get other = o.get other := by
  cases key <;> cases other <;> first | rfl | exact absurd rfl h

theorem ofName?_name (key : Key) : Key.ofName? key.name = some key := by
  cases key <;> decide

end Options

end SwiftText
