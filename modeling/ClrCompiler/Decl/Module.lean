import ClrCompiler.Decl.Basic

/-!
The declarations of one compilation unit, and work on them. A request that fails leaves the unit as
it was at the point of failure. Declarations and names are numbered without end here; that their
numbers fit 32 bits is a condition on the session (`Session.HasRoom`), not a failure of work.
-/

namespace ClrCompiler.Decl

structure Module where
  name : Name
  classes : Array Class
  functions : Array Function
  fields : Array Field
  entries : Array EnumEntry
  properties : Array Property
  topLevel : List ClassRef

def Module.empty (name : Name) : Module := ⟨name, #[], #[], #[], #[], #[], []⟩

namespace Module

def addClass (m : Module) (c : Class) : ClassRef × Module :=
  let ref : ClassRef := ⟨m.classes.size⟩
  let topLevel :=
    match c.parent with
    | .inPackage _ => m.topLevel ++ [ref]
    | _ => m.topLevel
  (ref, { m with classes := m.classes.push c, topLevel := topLevel })

def addFunction (m : Module) (f : Function) : FunctionRef × Module :=
  (⟨m.functions.size⟩, { m with functions := m.functions.push f })

def addField (m : Module) (f : Field) : FieldRef × Module :=
  (⟨m.fields.size⟩, { m with fields := m.fields.push f })

def addEntry (m : Module) (e : EnumEntry) : EntryRef × Module :=
  (⟨m.entries.size⟩, { m with entries := m.entries.push e })

def addProperty (m : Module) (p : Property) : PropertyRef × Module :=
  (⟨m.properties.size⟩, { m with properties := m.properties.push p })

def classRefs (m : Module) : List ClassRef := (List.range m.classes.size).map ClassRef.mk

def class? (m : Module) (ref : ClassRef) : Option Class := m.classes[ref.index]?

def function? (m : Module) (ref : FunctionRef) : Option Function := m.functions[ref.index]?

def field? (m : Module) (ref : FieldRef) : Option Field := m.fields[ref.index]?

def entry? (m : Module) (ref : EntryRef) : Option EnumEntry := m.entries[ref.index]?

def property? (m : Module) (ref : PropertyRef) : Option Property := m.properties[ref.index]?

def setClass (m : Module) (ref : ClassRef) (c : Class) : Module :=
  { m with classes := m.classes.setIfInBounds ref.index c }

def setFunction (m : Module) (ref : FunctionRef) (f : Function) : Module :=
  { m with functions := m.functions.setIfInBounds ref.index f }

def setProperty (m : Module) (ref : PropertyRef) (p : Property) : Module :=
  { m with properties := m.properties.setIfInBounds ref.index p }

end Module

inductive Failure where
  | outOfBounds
  | notInClass (function : FunctionRef) (parent : Parent)
  | notCompanionMember (function : FunctionRef)
  | companionNotNested (companion : ClassRef) (parent : Parent)
  | notFakeOverride (function : FunctionRef)
  deriving DecidableEq

def ClassRef.text (ref : ClassRef) : String := "ClassRef(" ++ toString ref.index ++ ")"

def FunctionRef.text (ref : FunctionRef) : String := "FunctionRef(" ++ toString ref.index ++ ")"

def Parent.text : Parent → String
  | .inPackage package => "Package(FqName(Name(" ++ toString package.name.raw ++ ")))"
  | .inClass owner => "Class(" ++ owner.text ++ ")"
  | .inFunction owner => "Function(" ++ owner.text ++ ")"

def Failure.message : Failure → String
  | .outOfBounds => "index out of bounds"
  | .notInClass function parent =>
    "function " ++ function.text ++ " is not declared in a class: " ++ parent.text
  | .notCompanionMember function =>
    "static counterpart requested for " ++ function.text ++ ", which is not a companion member"
  | .companionNotNested companion parent =>
    "companion " ++ companion.text ++ " is not nested in a class: " ++ parent.text
  | .notFakeOverride function =>
    "DefaultImpls redirection requested for " ++ function.text ++ ", which is not a fake override"

/-- Two functions for one companion member: its static counterpart and the one that callers of the
companion use. -/
structure StaticPair where
  static : FunctionRef
  companion : FunctionRef
  deriving DecidableEq

structure Derived where
  entryFields : List (EntryRef × FieldRef)
  instanceFields : List (ClassRef × FieldRef)
  interfaceCompanionFields : List (ClassRef × FieldRef)
  staticPairs : List (FunctionRef × StaticPair)
  defaultImpls : List (ClassRef × ClassRef)
  redirections : List (FunctionRef × FunctionRef)
  deriving DecidableEq

namespace Derived

def empty : Derived := ⟨[], [], [], [], [], []⟩

def size (d : Derived) : Nat :=
  d.entryFields.length + (d.instanceFields.length + d.interfaceCompanionFields.length)
    + d.staticPairs.length + d.defaultImpls.length + d.redirections.length

def isEmpty (d : Derived) : Bool := d.size == 0

structure Table (κ α : Type) where
  entries : Derived → List (κ × α)
  record : Derived → κ → α → Derived
  entries_record : ∀ d key a, entries (record d key a) = entries d ++ [(key, a)]

namespace Table

def entryFields : Table EntryRef FieldRef where
  entries := Derived.entryFields
  record d ref field := { d with entryFields := d.entryFields ++ [(ref, field)] }
  entries_record _ _ _ := rfl

def instanceFields : Table ClassRef FieldRef where
  entries := Derived.instanceFields
  record d ref field := { d with instanceFields := d.instanceFields ++ [(ref, field)] }
  entries_record _ _ _ := rfl

def interfaceCompanionFields : Table ClassRef FieldRef where
  entries := Derived.interfaceCompanionFields
  record d ref field :=
    { d with interfaceCompanionFields := d.interfaceCompanionFields ++ [(ref, field)] }
  entries_record _ _ _ := rfl

def staticPairs : Table FunctionRef StaticPair where
  entries := Derived.staticPairs
  record d ref pair := { d with staticPairs := d.staticPairs ++ [(ref, pair)] }
  entries_record _ _ _ := rfl

def defaultImpls : Table ClassRef ClassRef where
  entries := Derived.defaultImpls
  record d ref impls := { d with defaultImpls := d.defaultImpls ++ [(ref, impls)] }
  entries_record _ _ _ := rfl

def redirections : Table FunctionRef FunctionRef where
  entries := Derived.redirections
  record d ref bridge := { d with redirections := d.redirections ++ [(ref, bridge)] }
  entries_record _ _ _ := rfl

end Table

end Derived

structure Settings where
  companionVisibility : Bool
  deriving DecidableEq

def Settings.standard : Settings := ⟨true⟩

/-- All that work on a unit reads and changes; `suspendMains` are the file classes whose suspending
`main` was passed over. -/
structure Session where
  names : Interner
  module : Module
  derived : Derived
  settings : Settings
  suspendMains : List ClassRef

abbrev Work := ExceptT Failure (StateM Session)

namespace Work

def ofOption {α : Type} : Option α → Work α
  | some a => pure a
  | none => throw .outOfBounds

def naming {α : Type} (action : Naming α) : Work α :=
  modifyGet fun s => let (a, names) := action.run s.names; (a, { s with names := names })

def intern (text : String) : Work Name := naming (Naming.intern text)

def classOf (ref : ClassRef) : Work Class := do ofOption ((← get).module.class? ref)

def functionOf (ref : FunctionRef) : Work Function := do ofOption ((← get).module.function? ref)

def fieldOf (ref : FieldRef) : Work Field := do ofOption ((← get).module.field? ref)

def entryOf (ref : EntryRef) : Work EnumEntry := do ofOption ((← get).module.entry? ref)

def propertyOf (ref : PropertyRef) : Work Property := do ofOption ((← get).module.property? ref)

def allocate {α : Type} (add : Module → α × Module) : Work α :=
  modifyGet fun s => let (a, module) := add s.module; (a, { s with module := module })

def addClass (c : Class) : Work ClassRef := allocate (·.addClass c)

def addFunction (f : Function) : Work FunctionRef := allocate (·.addFunction f)

def addField (f : Field) : Work FieldRef := allocate (·.addField f)

def addEntry (e : EnumEntry) : Work EntryRef := allocate (·.addEntry e)

def addProperty (p : Property) : Work PropertyRef := allocate (·.addProperty p)

def setClass (ref : ClassRef) (c : Class) : Work Unit :=
  modify fun s => { s with module := s.module.setClass ref c }

def setFunction (ref : FunctionRef) (f : Function) : Work Unit :=
  modify fun s => { s with module := s.module.setFunction ref f }

def setProperty (ref : PropertyRef) (p : Property) : Work Unit :=
  modify fun s => { s with module := s.module.setProperty ref p }

def addMember (ref : ClassRef) (member : Member) : Work Unit := do
  let c ← classOf ref
  setClass ref { c with members := c.members ++ [member] }

def parentClass (ref : FunctionRef) : Work ClassRef := do
  let f ← functionOf ref
  match f.parent.class? with
  | some c => return c
  | none => throw (.notInClass ref f.parent)

def outerClass (ref : ClassRef) : Work (Option ClassRef) := return (← classOf ref).parent.class?

def outerOf (ref : ClassRef) : Work (Option Class) := do
  match ← outerClass ref with
  | some outer => return some (← classOf outer)
  | none => return none

/-- What `table` has for `key`. If it has nothing yet, `make` makes it and it is recorded. -/
def once {κ α : Type} [BEq κ] (table : Derived.Table κ α) (key : κ) (make : Work α) : Work α := do
  match (table.entries (← get).derived).lookup key with
  | some a => return a
  | none =>
    let a ← make
    modify fun s => { s with derived := table.record s.derived key a }
    return a

/-- A name of another interner has no text here. -/
def textOf (n : Name) : Work String := do ofOption ((← get).names.lookup? n)

/-- Like `ClassId.nested`, but both names have to be in the interner. -/
def nested (id : ClassId) (name : Name) : Work ClassId := do
  let outer ← textOf id.relative
  let last ← textOf name
  return ⟨id.package, ← intern (outer ++ "." ++ last), name⟩

def platformName (ref : FunctionRef) : Work Name := do
  let f ← functionOf ref
  match f.property with
  | none => return f.name
  | some propertyRef =>
    let p ← propertyOf propertyRef
    if p.getter = some ref then intern ("get_" ++ (← textOf p.name))
    else if p.setter = some ref then intern ("set_" ++ (← textOf p.name))
    else return f.name

end Work

def Session.start (settings : Settings) (name : String) : Session :=
  let (name, names) := Interner.new.intern name
  ⟨names, .empty name, .empty, settings, []⟩

end ClrCompiler.Decl
