import ClrCompiler.Builtins
import ClrCompiler.Library

/-!
Providers answer questions about symbols. In a chain the first provider that knows a class wins,
while callables and name sets are collected from all of them.
-/

namespace ClrCompiler

/-- A source of symbols; `actualizing` serves built-in ones for the classes its sources mark. -/
inductive Provider where
  | registry (symbols : Registry)
  | builtins
  | library (symbols : Library)
  | chain (members : List Provider)
  | actualizing (sources : List Provider)

namespace Provider

def markedWithin (lookup : ClassId → Naming (Option Symbol.Class)) : Nat → ClassId → Naming Bool
  | 0, _ => return false
  | steps + 1, id => do
    let found ← lookup id
    if found.any (·.isAnnotated Standard.actualizeByBuiltins) then
      return true
    else
      match ← id.outer with
      | some around => markedWithin lookup steps around
      | none => return false

/-- A class is marked if it is declared and it, or a class around it, carries the mark. Each step
outwards shortens the path, so its length bounds the search. -/
def isMarked (lookup : ClassId → Naming (Option Symbol.Class)) (id : ClassId) : Naming Bool := do
  let found ← lookup id
  if found.isSome then
    let path ← Naming.text id.relative
    markedWithin lookup (path.length + 1) id
  else
    return false

mutual

def classifier : Provider → ClassId → Naming (Option Symbol.Class)
  | .registry r, id => return r.classifier id
  | .builtins, id => return Builtins.registry.classifier id
  | .library l, id => return l.registry.classifier id
  | .chain members, id => firstClassifier members id
  | .actualizing sources, id => do
    if ← markedInAny sources id then
      return Builtins.registry.classifier id
    else
      return none

def firstClassifier : List Provider → ClassId → Naming (Option Symbol.Class)
  | [], _ => return none
  | p :: rest, id => do
    match ← p.classifier id with
    | some c => return some c
    | none => firstClassifier rest id

def markedInAny : List Provider → ClassId → Naming Bool
  | [], _ => return false
  | p :: rest, id => do
    if ← isMarked (fun around => p.classifier around) id then
      return true
    else
      markedInAny rest id

end

def registry? : Provider → Option Registry
  | .registry r => some r
  | .builtins => some Builtins.registry
  | .library l => some l.registry
  | .chain _ => none
  | .actualizing _ => none

def index : Provider → Index
  | .registry r => r.index
  | .builtins => Builtins.registry.index
  | .library l => l.registry.index
  | .chain _ => .empty
  | .actualizing _ => Builtins.registry.index

def ownPackage (package : Package) : Provider → Bool
  | .library l => l.hasPackage package
  | p => p.index.hasPackage package

def ownCallables (id : CallableId) (p : Provider) : List Symbol.Function :=
  (p.registry?.map (·.callables id)).getD []

mutual

/-- A chain asks each of its members and `join`s what they answer; a member that is a chain does the
same with its own. Any other provider answers by `own`. -/
def gather {α : Type} (own : Provider → α) (join : List α → α) : Provider → α
  | .chain members => join (gatherAll own join members)
  | p => own p

def gatherAll {α : Type} (own : Provider → α) (join : List α → α) : List Provider → List α
  | [] => []
  | p :: rest => gather own join p :: gatherAll own join rest

end

def hasPackage (p : Provider) (package : Package) : Bool :=
  p.gather (ownPackage package) fun answers => answers.any id

def callables (p : Provider) (id : CallableId) : List Symbol.Function :=
  p.gather (ownCallables id) List.flatten

def freeFunctions (p : Provider) (package : Package) (name : Name) : List Symbol.Function :=
  p.callables (.topLevel package name)

def members (p : Provider) (owner : ClassId) (name : Name) : List Symbol.Function :=
  p.callables (.member owner name)

def union (sets : List (List Name)) : List Name := Name.ascending sets.flatten

def packageNames (p : Provider) : List Name := p.gather (·.index.packageNames) union

def classNamesIn (p : Provider) (package : Package) : List Name :=
  p.gather (·.index.classNamesIn package) union

def callableNamesIn (p : Provider) (package : Package) : List Name :=
  p.gather (·.index.callableNamesIn package) union

end Provider

end ClrCompiler
