import SwiftText.Value

/-!
# Annotations

Declarations carry annotations. One kind of them has a meaning here, and has a tag: it gives the
Swift name of its declaration.
-/

namespace SwiftText

/-- The tags of annotations. -/
inductive Tag where
  /-- Gives the name of the declaration. -/
  | rename
  /-- Has no meaning here. -/
  | other

namespace Tag

/-- The type name that stands for a tag. -/
def typeName : Tag → String
  | .rename => "swift.Name"
  | .other => "other"

/-- The tag of a type name. -/
def ofTypeName : Value → Tag
  | .text s => if s == rename.typeName then .rename else .other
  | _ => .other

end Tag

/-- An annotation: a kind and the value that it carries. A tag is kept as its type name, since a tag
and its bare name count as equal everywhere; any other kind is no tag. -/
structure Annotation where
  kind : Value := .text Tag.other.typeName
  value : Value := .null

namespace Annotation

/-- The annotation with a tag. -/
def tagged (t : Tag) (v : Value) : Annotation := ⟨.text t.typeName, v⟩

/-- Whether an annotation has a tag. -/
def hasTag (t : Tag) (a : Annotation) : Bool := a.kind.same (.text t.typeName)

/-- Equality of annotations. -/
def same (a b : Annotation) : Bool := a.kind.same b.kind && a.value.same b.value

/-- An annotation as a record. -/
def toValue (a : Annotation) : Value := .record [("kind", a.kind), ("value", a.value)]

end Annotation

end SwiftText
