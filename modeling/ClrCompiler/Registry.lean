import ClrCompiler.Buckets
import ClrCompiler.Index
import ClrCompiler.Symbol

/-!
The symbol registry: the classes by identity, one for each, the functions by callable identity, and
for each package the identities of both in the order they were first filed.
-/

namespace ClrCompiler

structure Registry where
  index : Index
  classes : List (ClassId × Symbol.Class)
  classIds : Buckets Package ClassId
  functions : Buckets CallableId Symbol.Function
  callableIds : Buckets Package CallableId

namespace Registry

def empty : Registry := ⟨.empty, [], .empty, .empty, .empty⟩

def classifier (r : Registry) (id : ClassId) : Option Symbol.Class := r.classes.lookup id

def contains (r : Registry) (id : ClassId) : Bool := (r.classifier id).isSome

def callables (r : Registry) (id : CallableId) : List Symbol.Function := r.functions.under id

def declare (r : Registry) (names : Registration) : Registry :=
  { r with index := r.index.record names }

def fileFunction (r : Registry) (f : Symbol.Function) : Registry :=
  { r with
    functions := r.functions.file f.id f
    callableIds :=
      if (r.callables f.id).isEmpty then r.callableIds.file f.id.package f.id else r.callableIds }

def fileFunctions (r : Registry) (fs : List Symbol.Function) : Registry := fs.foldl fileFunction r

def insert (r : Registry) (c : Symbol.Class) : Registry :=
  { r with
    classes := r.classes ++ [(c.id, c)]
    classIds := r.classIds.file c.id.package c.id }

/-- The first symbol of an identity is kept. A later one only files its free functions, so that
every published callable has a symbol. -/
def store (r : Registry) (c : Symbol.Class) : Registry :=
  if r.contains c.id then r.fileFunctions (c.functions.filter (·.id.isTopLevel))
  else (r.fileFunctions c.functions).insert c

def apply (r : Registry) (symbols : List Symbol.Class) (names : Registration) : Registry :=
  symbols.foldl store (r.declare names)

def freeFunctions (r : Registry) (package : Package) (name : Name) : List Symbol.Function :=
  r.callables (.topLevel package name)

def members (r : Registry) (owner : ClassId) (name : Name) : List Symbol.Function :=
  r.callables (.member owner name)

def classesIn (r : Registry) (package : Package) : List ClassId := r.classIds.under package

def callablesIn (r : Registry) (package : Package) : List CallableId := r.callableIds.under package

def listing (r : Registry) : List Symbol.Class :=
  (Name.ascending (r.classIds.keys.map Package.name)).flatMap fun name =>
    (r.classesIn ⟨name⟩).filterMap r.classifier

def classCount (r : Registry) : Nat := r.classes.length

def callableCount (r : Registry) : Nat := r.functions.size

end Registry

end ClrCompiler
