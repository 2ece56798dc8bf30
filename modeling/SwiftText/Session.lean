import SwiftText.Resolver

/-!
# Sessions

A session keeps declarations, options and resolvers under names and works on them step by step. A
step that fails leaves the session usable; the steps after it are carried out all the same. A
resolver reads its options at the time of asking, so it sees every change made to them, and it
keeps them when their name is bound again. A resolver made without options has options of its own,
which nothing else refers to.
-/

namespace SwiftText

/-- The result of a step. -/
abbrev Reply := Except Fault Value

/-- The objects of a session. A resolver is the handle of its options. -/
structure Session where
  declarations : Registry Declaration := {}
  options : Registry Options := {}
  resolvers : Registry Nat := {}

/-- The steps of a session. Objects are referred to by name. -/
inductive Step where
  /-- Makes a declaration. -/
  | declare (id : String) (sort : DeclarationSort) (name : Value) (annotations : List Annotation)
      (enclosing moduleClass : Option String)
  /-- Gives a declaration another name. -/
  | rename (declaration : String) (name : Value)
  /-- Puts a declaration inside another one, or inside none. -/
  | enclose (declaration : String) (target : Option String)
  /-- Names the class of a module, or none. -/
  | designate (declaration : String) (target : Option String)
  /-- Adds an annotation at the end. -/
  | annotate (declaration : String) (added : Annotation)
  /-- Deletes the annotation at an index. -/
  | unannotate (declaration : String) (index : Int)
  /-- Assigns a field of the annotation at an index, which is never allowed. -/
  | alter (declaration : String) (index : Int) (field : String)
  /-- Compares two annotations of a declaration. -/
  | compareAnnotations (declaration : String) (i j : Int)
  /-- Compares two declarations, which are equal only to themselves. -/
  | compareDeclarations (a b : String)
  /-- Asks whether a class is the class of its module. -/
  | isModuleClass (declaration : String)
  /-- Looks for the first annotation of a tag. -/
  | findTagged (declaration : String) (typeName : Value)
  /-- Asks for the name that an annotation gives. -/
  | explicitName (declaration : String)
  /-- Asks a resolver for the name of a declaration. -/
  | nameBy (declaration resolver : String)
  /-- Asks for the name of a declaration under given options, or the default ones. -/
  | nameUnder (declaration : String) (options : Option String)
  /-- Makes options from a record. -/
  | configure (id : String) (entries : Value)
  /-- Assigns an entry of options. -/
  | assign (id : String) (key : String) (value : Value)
  /-- Compares two sets of options. -/
  | compareOptions (a b : String)
  /-- Makes a resolver that reads given options, or default ones of its own. -/
  | makeResolver (id : String) (options : Option String)
  /-- Asks a resolver for the case name of a label. -/
  | enumCase (resolver : String) (raw : Value)

/-- What a name is bound to. -/
def Registry.find {α : Type} (r : Registry α) (name : String) : Except Fault (Nat × α) :=
  match r.handle? name with
  | none => .error (.unbound name)
  | some i =>
    match r.get? i with
    | none => .error (.unbound name)
    | some x => .ok (i, x)

/-- The handle that an optional name is bound to. -/
def Registry.findHandle? {α : Type} (r : Registry α) : Option String → Except Fault (Option Nat)
  | none => .ok none
  | some name => (r.find name).map fun x => some x.1

namespace Session

/-- The session with a declaration changed in place. -/
def change (s : Session) (i : Nat) (f : Declaration → Declaration) : Session :=
  { s with declarations := s.declarations.modify i f }

/-- An optional name as a value. -/
def optionalText : Option String → Value
  | none => .null
  | some s => .text s

/-- The options that a resolver reads. -/
def optionsOf (s : Session) (resolver : String) : Except Fault Options := do
  let (_, handle) ← s.resolvers.find resolver
  match s.options.get? handle with
  | none => .error (.unbound resolver)
  | some o => .ok o

/-- The options of an optional name, or the default ones. -/
def optionsOr (s : Session) : Option String → Except Fault Options
  | none => .ok {}
  | some name => (s.options.find name).map (·.2)

/-- The session after a step and the reply to it. A fault here leaves the session as it is. -/
def attempt (s : Session) : Step → Except Fault (Session × Reply)
  | .declare id sort name annotations enclosing moduleClass => do
    let enclosing ← s.declarations.findHandle? enclosing
    let moduleClass ← s.declarations.findHandle? moduleClass
    let d : Declaration := { sort, name, annotations, enclosing, moduleClass }
    return ({ s with declarations := s.declarations.create id d }, .ok (.text id))
  | .rename declaration name => do
    let (i, _) ← s.declarations.find declaration
    return (s.change i fun d => { d with name }, .ok name)
  | .enclose declaration target => do
    let (i, _) ← s.declarations.find declaration
    let enclosing ← s.declarations.findHandle? target
    return (s.change i fun d => { d with enclosing }, .ok (optionalText target))
  | .designate declaration target => do
    let (i, _) ← s.declarations.find declaration
    let moduleClass ← s.declarations.findHandle? target
    return (s.change i fun d => { d with moduleClass }, .ok (optionalText target))
  | .annotate declaration added => do
    let (i, d) ← s.declarations.find declaration
    return (s.change i fun d => d.annotate added, .ok (d.annotate added).annotationValues)
  | .unannotate declaration index => do
    let (i, d) ← s.declarations.find declaration
    match d.unannotate? index with
    | none => .error .deletionOutOfRange
    | some d => return (s.change i fun _ => d, .ok d.annotationValues)
  | .alter declaration index field => do
    let (_, d) ← s.declarations.find declaration
    match d.at? index with
    | none => .error .indexOutOfRange
    | some _ => .error (.frozenField field)
  | .compareAnnotations declaration i j => do
    let (_, d) ← s.declarations.find declaration
    match d.at? i, d.at? j with
    | some a, some b => return (s, .ok (.bool (a.same b)))
    | _, _ => .error .indexOutOfRange
  | .compareDeclarations a b => do
    let (i, _) ← s.declarations.find a
    let (j, _) ← s.declarations.find b
    return (s, .ok (.bool (i == j)))
  | .isModuleClass declaration => do
    let (i, d) ← s.declarations.find declaration
    if d.sort = .classType then
      return (s, .ok (.bool (SwiftText.isModuleClass s.declarations i)))
    else .error (.noMember d.sort.typeName "is_module_class")
  | .findTagged declaration typeName => do
    let (_, d) ← s.declarations.find declaration
    match d.firstTagged? (Tag.ofTypeName typeName) with
    | none => return (s, .ok .null)
    | some a => return (s, .ok a.toValue)
  | .explicitName declaration => do
    let (_, d) ← s.declarations.find declaration
    return (s, .ok (optionalText d.explicitName?))
  | .nameBy declaration resolver => do
    let (i, d) ← s.declarations.find declaration
    let o ← s.optionsOf resolver
    return (s, Resolver.nameOfHandle o s.declarations i d)
  | .nameUnder declaration options => do
    let (i, d) ← s.declarations.find declaration
    let o ← s.optionsOr options
    return (s, Resolver.nameOfHandle o s.declarations i d)
  | .configure id entries => do
    let o ← Options.ofValue entries
    return ({ s with options := s.options.create id o }, o.toValue)
  | .assign id key value => do
    let (i, o) ← s.options.find id
    let p ← o.assign key value
    return ({ s with options := s.options.modify i fun _ => p }, p.toValue)
  | .compareOptions a b => do
    let (_, o) ← s.options.find a
    let (_, p) ← s.options.find b
    return (s, .ok (.bool (o.same p)))
  | .makeResolver id none =>
    let resolvers := s.resolvers.create id s.options.fresh
    return ({ s with options := s.options.add {}, resolvers }, Options.toValue {})
  | .makeResolver id (some name) => do
    let (i, o) ← s.options.find name
    return ({ s with resolvers := s.resolvers.create id i }, o.toValue)
  | .enumCase resolver raw => do
    let o ← s.optionsOf resolver
    return (s, Resolver.enumCaseName o raw)

/-- The session after a step and the reply to it. -/
def step (s : Session) (x : Step) : Session × Reply :=
  match s.attempt x with
  | .ok r => r
  | .error f => (s, .error f)

/-- The replies to a list of steps, carried out in order. -/
def replies (s : Session) : List Step → List Reply
  | [] => []
  | x :: rest =>
    let (s, r) := s.step x
    r :: replies s rest

/-- The session after a list of steps. -/
def after (s : Session) (steps : List Step) : Session := steps.foldl (fun s x => (s.step x).1) s

end Session

end SwiftText
