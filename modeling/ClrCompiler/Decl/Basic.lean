import ClrCompiler.Status
import ClrCompiler.TypeRef

/-!
Declarations of a compilation unit. They refer to each other by their position in the unit.
-/

namespace ClrCompiler.Decl

structure ClassRef where
  index : Nat
  deriving DecidableEq

structure FunctionRef where
  index : Nat
  deriving DecidableEq

structure FieldRef where
  index : Nat
  deriving DecidableEq

structure EntryRef where
  index : Nat
  deriving DecidableEq

structure PropertyRef where
  index : Nat
  deriving DecidableEq

inductive Parent where
  | inPackage (package : Package)
  | inClass (owner : ClassRef)
  | inFunction (owner : FunctionRef)
  deriving DecidableEq

def Parent.class? : Parent → Option ClassRef
  | .inClass c => some c
  | .inPackage _ => none
  | .inFunction _ => none

inductive Member where
  | classDecl (ref : ClassRef)
  | function (ref : FunctionRef)
  | field (ref : FieldRef)
  | property (ref : PropertyRef)
  | entry (ref : EntryRef)
  deriving DecidableEq

def Member.function? : Member → Option FunctionRef
  | .function f => some f
  | _ => none

inductive Origin where
  | defined
  | fieldForEnumEntry
  | fieldForObjectInstance
  | interfaceCompanionPrivateInstance
  | staticWrapper
  | defaultImpls
  | superInterfaceMethodBridge
  | generatedMain
  deriving DecidableEq

structure Class where
  id : ClassId
  kind : ClassKind
  status : Status
  parent : Parent
  origin : Origin
  typeParameters : List Name
  annotations : List ClassId
  members : List Member
  deriving DecidableEq

namespace Class

def make (id : ClassId) (kind : ClassKind) (parent : Parent) : Class :=
  ⟨id, kind, .publicFinal, parent, .defined, [], [], []⟩

def name (c : Class) : Name := c.id.short

def isCompanion (c : Class) : Bool := c.status.isCompanion

def isFileClass (c : Class) : Bool := c.status.has .fileClass

def type (c : Class) : TypeRef := .nonNull c.id

def functions (c : Class) : List FunctionRef := c.members.filterMap Member.function?

end Class

inductive ParamKind where
  | dispatch
  | extension
  | regular
  deriving DecidableEq

structure Param where
  name : Name
  type : TypeRef
  kind : ParamKind
  deriving DecidableEq

def Param.isDispatch (p : Param) : Bool := p.kind == .dispatch

inductive Expr where
  | call (target : FunctionRef) (typeArguments : List Name) (arguments : List Expr)
  | field (ref : FieldRef)
  | value (function : FunctionRef) (position : Nat)

inductive Body where
  | expression (value : Expr)
  | block (statements : List Expr)

/-- A function; `property` is the property it is an accessor of, and `attributeOwner` the function
whose derived state it shares. -/
structure Function where
  name : Name
  parent : Parent
  status : Status
  origin : Origin
  returnType : TypeRef
  typeParameters : List Name
  params : List Param
  annotations : List ClassId
  overridden : List FunctionRef
  property : Option PropertyRef
  attributeOwner : Option FunctionRef
  body : Option Body

namespace Function

def make (name : Name) (parent : Parent) (returnType : TypeRef) : Function where
  name := name
  parent := parent
  status := .publicFinal
  origin := .defined
  returnType := returnType
  typeParameters := []
  params := []
  annotations := []
  overridden := []
  property := none
  attributeOwner := none
  body := none

def dispatchReceiver (f : Function) : Option Param := f.params.find? Param.isDispatch

def extensionReceiver (f : Function) : Option Param := f.params.find? (·.kind == .extension)

def nonDispatchParams (f : Function) : List Param := f.params.filter (!·.isDispatch)

def regularParams (f : Function) : List Param := f.params.filter (·.kind == .regular)

def isExternal (f : Function) : Bool := f.status.has .external

def isFakeOverride (f : Function) : Bool := f.status.has .fakeOverride

def isSuspend (f : Function) : Bool := f.status.has .suspend

end Function

structure Field where
  name : Name
  type : TypeRef
  parent : Parent
  status : Status
  origin : Origin
  deriving DecidableEq

namespace Field

def isStatic (f : Field) : Bool := f.status.isStatic

def isFinal (f : Field) : Bool := f.status.has .final

def visibility (f : Field) : Visibility := f.status.visibility

end Field

structure EnumEntry where
  name : Name
  owner : ClassRef
  deriving DecidableEq

structure Property where
  name : Name
  parent : Parent
  getter : Option FunctionRef
  setter : Option FunctionRef
  deriving DecidableEq

end ClrCompiler.Decl
