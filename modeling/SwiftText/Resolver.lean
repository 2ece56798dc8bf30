import SwiftText.Declaration
import SwiftText.Identifier.EnumCase
import SwiftText.Options

/-!
# Names of declarations

The Swift name of a declaration: that of all module classes for a module class, else the one that a
renaming annotation gives, else the identifier of the declaration's own name.
-/

namespace SwiftText.Resolver

/-- The name of a declaration, given whether it is a module class. -/
def nameOf (o : Options) (isModuleClass : Bool) (d : Declaration) : Except Fault Value :=
  if isModuleClass then .ok o.moduleTypeName
  else match d.explicitName? with
    | some s => .ok (.text s)
    | none => Identifier.ofValue d.name o.leadingDigitPrefix

/-- The name of the declaration with a handle. -/
def nameOfHandle (o : Options) (ds : Registry Declaration) (i : Nat) (d : Declaration) :
    Except Fault Value :=
  nameOf o (isModuleClass ds i) d

/-- The case name of a label. -/
def enumCaseName (o : Options) (raw : Value) : Except Fault Value :=
  Identifier.ofLabelValue raw o.emptyEnumCaseName o.leadingDigitPrefix

end SwiftText.Resolver
