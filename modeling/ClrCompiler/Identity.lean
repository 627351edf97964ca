import ClrCompiler.Name
import ClrCompiler.Text.Split

/-!
Identities of packages, classes and callables. They consist of names only, so comparing two of them
never looks at a text; showing one does.
-/

namespace ClrCompiler

structure Package where
  name : Name
  deriving DecidableEq

namespace Package

def root : Package := ⟨.empty⟩
def kotlin : Package := ⟨.kotlin⟩
def kotlinCollections : Package := ⟨.kotlinCollections⟩
def kotlinClr : Package := ⟨.kotlinClr⟩
def kotlinInternal : Package := ⟨.kotlinInternal⟩

def isRoot (p : Package) : Bool := p.name.isEmpty

def parse (text : String) : Naming Package := return ⟨← Naming.intern text⟩

def ofSegments (segments : List String) : Naming Package := parse (String.intercalate "." segments)

def text (names : Interner) (p : Package) : String := names.text p.name

end Package

/-- A class: its package, its dotted path inside the package and the last part of that path. -/
structure ClassId where
  package : Package
  relative : Name
  short : Name
  deriving DecidableEq

namespace ClassId

def topLevel (package : Package) (name : Name) : ClassId := ⟨package, name, name⟩

def nested (id : ClassId) (name : Name) : Naming ClassId := do
  let names ← get
  let relative ← Naming.intern (names.text id.relative ++ "." ++ names.text name)
  return ⟨id.package, relative, name⟩

def isNested (id : ClassId) : Bool := id.relative != id.short

def outer (id : ClassId) : Naming (Option ClassId) :=
  if id.isNested then do
    let names ← get
    match Text.beforeLastDot? (names.text id.relative) with
    | none => return none
    | some path =>
      let relative ← Naming.intern path
      let short ← Naming.intern (Text.afterLastDot path)
      return some ⟨id.package, relative, short⟩
  else
    return none

def text (names : Interner) (id : ClassId) : String :=
  if id.package.isRoot then names.text id.relative
  else id.package.text names ++ "/" ++ names.text id.relative

def order (a b : ClassId) : Ordering :=
  (compare a.package.name.raw b.package.name.raw).then
    ((compare a.relative.raw b.relative.raw).then (compare a.short.raw b.short.raw))

end ClassId

structure CallableId where
  package : Package
  owner : Option ClassId
  name : Name
  deriving DecidableEq

namespace CallableId

def topLevel (package : Package) (name : Name) : CallableId := ⟨package, none, name⟩

def member (owner : ClassId) (name : Name) : CallableId := ⟨owner.package, some owner, name⟩

def constructorOf (owner : ClassId) : CallableId := member owner .init

def isTopLevel (id : CallableId) : Bool := id.owner.isNone

def text (names : Interner) (id : CallableId) : String :=
  match id.owner with
  | some owner => owner.text names ++ "." ++ names.text id.name
  | none =>
    if id.package.isRoot then names.text id.name
    else id.package.text names ++ "/" ++ names.text id.name

def ownerOrder : Option ClassId → Option ClassId → Ordering
  | none, none => .eq
  | none, some _ => .lt
  | some _, none => .gt
  | some a, some b => a.order b

def order (a b : CallableId) : Ordering :=
  (compare a.package.name.raw b.package.name.raw).then
    ((ownerOrder a.owner b.owner).then (compare a.name.raw b.name.raw))

end CallableId

end ClrCompiler
