/-!
# Registries

Objects with an identity, and names bound to them. An object is known by its handle, which it
keeps for ever: two objects with equal content are still two. Binding a name again leaves the
object that it was bound to untouched, as well as whatever refers to that object by its handle.

* `create` makes an object and binds a name to it (`handle?_create_self`); the bindings of other
  names stay (`handle?_create_of_ne`), and so do the objects that exist (`get?_add_of_lt`).
* `modify` changes one object (`get?_modify_self`) and no other (`get?_modify_of_ne`).
-/

namespace SwiftText

/-- Objects in the order of their creation, and names bound to handles, the latest binding first. -/
structure Registry (α : Type) where
  objects : List α := []
  names : List (String × Nat) := []

namespace Registry

variable {α : Type}

/-- The object with a handle. -/
def get? (r : Registry α) (i : Nat) : Option α := r.objects[i]?

/-- The handle that a name is bound to. -/
def handle? (r : Registry α) (name : String) : Option Nat := r.names.lookup name

/-- The handle of the next object. -/
def fresh (r : Registry α) : Nat := r.objects.length

/-- The registry with one more object, which has no name. -/
def add (r : Registry α) (x : α) : Registry α := { r with objects := r.objects ++ [x] }

/-- The registry with one more object, to which a name is bound. -/
def create (r : Registry α) (name : String) (x : α) : Registry α :=
  { r.add x with names := (name, r.fresh) :: r.names }

/-- The registry with the object of a handle changed in place. -/
def modify (r : Registry α) (i : Nat) (f : α → α) : Registry α :=
  { r with objects := r.objects.modify i f }

/-! ## What the operations do to objects and names -/

theorem get?_add_fresh (r : Registry α) (x : α) : (r.add x).get? r.fresh = some x := by
  simp [get?, add, fresh]

theorem get?_add_of_lt (r : Registry α) (x : α) {i : Nat} (h : i < r.fresh) :
    (r.add x).get? i = r.get? i := by
  simp only [get?, add]
  exact List.getElem?_append_left h

theorem handle?_create_self (r : Registry α) (name : String) (x : α) :
    (r.create name x).handle? name = some r.fresh := by
  simp [handle?, create]

theorem handle?_create_of_ne (r : Registry α) {name other : String} (x : α) (h : other ≠ name) :
    (r.create name x).handle? other = r.handle? other := by
  have hne : (other == name) = false := by simpa using h
  simp [handle?, create, List.lookup_cons, hne]

theorem get?_modify_self (r : Registry α) (i : Nat) (f : α → α) :
    (r.modify i f).get? i = (r.get? i).map f := by
  simp [get?, modify]

theorem get?_modify_of_ne (r : Registry α) {i j : Nat} (f : α → α) (h : i ≠ j) :
    (r.modify i f).get? j = r.get? j := by
  simp [get?, modify, h]

end Registry

end SwiftText
