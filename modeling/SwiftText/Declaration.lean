import SwiftText.Annotation
import SwiftText.Registry

/-!
# Declarations

Declarations of a schema, as far as their names are concerned: a raw name, annotations, the
enclosing declaration, and for a module its class. A class is the *module class* of a module if it
is enclosed by that module and is the very object that the module names as its class.
-/

namespace SwiftText

/-- The position that an index stands for in a list of the given length; a negative index counts
from the end. -/
def position? (length : Nat) (i : Int) : Option Nat :=
  let j := if i < 0 then i + length else i
  if 0 ≤ j ∧ j < length then some j.toNat else none

/-- The sorts of declarations. -/
inductive DeclarationSort where
  | general
  | moduleScope
  | classType
  | property
  | typeAlias
  deriving DecidableEq

/-- The name under which messages speak of a sort of declarations. -/
def DeclarationSort.typeName : DeclarationSort → String
  | .general => "Declaration"
  | .moduleScope => "ModuleDeclaration"
  | .classType => "ClassDeclaration"
  | .property => "PropertyDeclaration"
  | .typeAlias => "TypeAliasDeclaration"

/-- A declaration. Other declarations are referred to by their handles. -/
structure Declaration where
  sort : DeclarationSort := .general
  name : Value := .text ""
  annotations : List Annotation := []
  enclosing : Option Nat := none
  moduleClass : Option Nat := none

namespace Declaration

/-- The first annotation with a tag. -/
def firstTagged? (d : Declaration) (t : Tag) : Option Annotation :=
  d.annotations.find? fun a => a.hasTag t

/-- The name that the first renaming annotation gives, if it carries a text. -/
def explicitName? (d : Declaration) : Option String :=
  match d.firstTagged? .rename with
  | some ⟨_, .text s⟩ => some s
  | _ => none

/-- The annotation at an index. -/
def at? (d : Declaration) (i : Int) : Option Annotation :=
  (position? d.annotations.length i).bind fun j => d.annotations[j]?

/-- The declaration with one more annotation at the end. -/
def annotate (d : Declaration) (a : Annotation) : Declaration :=
  { d with annotations := d.annotations ++ [a] }

/-- The declaration without the annotation at an index. -/
def unannotate? (d : Declaration) (i : Int) : Option Declaration :=
  (position? d.annotations.length i).map fun j =>
    { d with annotations := d.annotations.eraseIdx j }

/-- The annotations of a declaration as records. -/
def annotationValues (d : Declaration) : Value := .list (d.annotations.map (·.toValue))

end Declaration

/-! ## Module classes -/

/-- Whether the declaration with a handle is the class of the module that encloses it. -/
def isModuleClass (ds : Registry Declaration) (i : Nat) : Bool :=
  match ds.get? i with
  | none => false
  | some d =>
    d.sort == .classType &&
      match d.enclosing.bind ds.get? with
      | none => false
      | some m => m.sort == .moduleScope && m.moduleClass == some i

end SwiftText
