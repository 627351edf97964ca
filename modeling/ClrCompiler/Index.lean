import ClrCompiler.Identity

/-!
The name index: which packages exist, which top-level classes and callables they declare, and in
which package a short class name was first used.
-/

namespace ClrCompiler

structure Registration where
  package : Package
  classes : List ClassId
  callables : List CallableId

def addNew {α : Type} [DecidableEq α] (xs : List α) (x : α) : List α :=
  if x ∈ xs then xs else xs ++ [x]

structure Index where
  packages : List Package
  classNames : List (Package × Name)
  callableNames : List (Package × Name)
  /-- Short class names with the package that used them first. -/
  shortNames : List (Name × Package)
  deriving DecidableEq

namespace Index

def empty : Index := ⟨[], [], [], []⟩

def packageOfShortName (index : Index) (name : Name) : Option Package :=
  index.shortNames.lookup name

def addShortName (index : Index) (name : Name) (package : Package) : Index :=
  match index.packageOfShortName name with
  | some _ => index
  | none => { index with shortNames := index.shortNames ++ [(name, package)] }

def addPackage (index : Index) (package : Package) : Index :=
  { index with packages := addNew index.packages package }

def addClassName (index : Index) (entry : Package × Name) : Index :=
  { index with classNames := addNew index.classNames entry }

def addCallableName (index : Index) (entry : Package × Name) : Index :=
  { index with callableNames := addNew index.callableNames entry }

/-- Publishes a class; a nested class only leaves its short name. -/
def recordClass (index : Index) (id : ClassId) : Index :=
  let index := index.addShortName id.short id.package
  if id.isNested then index else index.addClassName (id.package, id.short)

/-- Publishes a callable; members are found through their class. -/
def recordCallable (index : Index) (id : CallableId) : Index :=
  if id.isTopLevel then index.addCallableName (id.package, id.name) else index

def record (index : Index) (r : Registration) : Index :=
  r.callables.foldl recordCallable (r.classes.foldl recordClass (index.addPackage r.package))

def extend (index other : Index) : Index :=
  let index := other.packages.foldl addPackage index
  let index := other.classNames.foldl addClassName index
  let index := other.callableNames.foldl addCallableName index
  other.shortNames.foldl (fun i entry => i.addShortName entry.1 entry.2) index

def hasPackage (index : Index) (package : Package) : Bool := decide (package ∈ index.packages)

def packageNames (index : Index) : List Name :=
  Name.ascending (index.packages.map Package.name)

def namesIn (entries : List (Package × Name)) (package : Package) : List Name :=
  (entries.filter (·.1 == package)).map (·.2)

def classNamesIn (index : Index) (package : Package) : List Name :=
  Name.ascending (namesIn index.classNames package)

def callableNamesIn (index : Index) (package : Package) : List Name :=
  Name.ascending (namesIn index.callableNames package)

def hasTopLevelClass (index : Index) (package : Package) (name : Name) : Bool :=
  decide ((package, name) ∈ index.classNames)

end Index

end ClrCompiler
