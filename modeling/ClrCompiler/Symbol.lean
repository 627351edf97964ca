import ClrCompiler.Status
import ClrCompiler.TypeRef

/-!
Symbols: what the compiler knows about a class, its constructors and its functions.
-/

namespace ClrCompiler.Symbol

inductive Origin where
  | library
  | builtIns
  | source
  deriving DecidableEq

structure Parameter where
  name : Name
  type : TypeRef
  deriving DecidableEq

structure Constructor where
  id : CallableId
  owner : ClassId
  status : Status
  parameters : List Parameter
  returnType : TypeRef
  receiver : Option TypeRef
  origin : Origin
  deriving DecidableEq

namespace Constructor

def make (owner : ClassId) (status : Status) (origin : Origin) : Constructor where
  id := .constructorOf owner
  owner := owner
  status := status
  parameters := []
  returnType := .nonNull owner
  receiver := some (.nonNull owner)
  origin := origin

def isStatic (c : Constructor) : Bool := c.receiver.isNone

end Constructor

/-- A function; `owner` is the class it was declared in even if `id` belongs to a package. -/
structure Function where
  id : CallableId
  owner : Option ClassId
  status : Status
  parameters : List Parameter
  returnType : TypeRef
  receiver : Option TypeRef
  annotations : List ClassId
  origin : Origin
  deriving DecidableEq

namespace Function

def name (f : Function) : Name := f.id.name

def isAnnotated (f : Function) (mark : ClassId) : Bool := f.annotations.contains mark

end Function

/-- A class; `companion` is the nested class that holds its static members. -/
structure Class where
  id : ClassId
  kind : ClassKind
  status : Status
  companion : Option ClassId
  constructors : List Constructor
  functions : List Function
  annotations : List ClassId
  origin : Origin
  deriving DecidableEq

namespace Class

def make (id : ClassId) (kind : ClassKind) (status : Status) (origin : Origin) : Class :=
  ⟨id, kind, status, none, [], [], [], origin⟩

def isCompanion (c : Class) : Bool := c.status.isCompanion

def isAnnotated (c : Class) (mark : ClassId) : Bool := c.annotations.contains mark

def functionsNamed (c : Class) (name : Name) : List Function :=
  c.functions.filter (·.name == name)

end Class

end ClrCompiler.Symbol
