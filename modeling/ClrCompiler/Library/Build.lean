import ClrCompiler.Metadata
import ClrCompiler.Registry
import ClrCompiler.Resolution

/-!
Symbols for the types of assembly descriptions. All class names are published before the first
signature is resolved, so signatures may mention types in any order.
-/

namespace ClrCompiler.Library

open Metadata

def declaration (node : TypeNode) : Naming Registration := do
  let id ← node.classId
  if node.shape.hasCompanion then
    return ⟨id.package, [id, ← id.nested .companion], []⟩
  else
    return ⟨id.package, [id], []⟩

def typeOf (index : Index) : Option String → Naming TypeRef
  | some typeName => Resolution.resolve index typeName true
  | none => return .anyOrNull

def parameterName (position : Nat) (given : Option String) : String :=
  match given with
  | some "" => "p" ++ toString position
  | some name => name
  | none => "p" ++ toString position

def parameter (index : Index) (given : Metadata.Parameter) (position : Nat) :
    Naming Symbol.Parameter := do
  let name ← Naming.intern (parameterName position given.name)
  return ⟨name, ← typeOf index given.type⟩

def parameters (index : Index) (given : List Metadata.Parameter) :
    Naming (List Symbol.Parameter) :=
  given.zipIdx.mapM fun p => parameter index p.1 p.2

def constructor (index : Index) (owner : ClassId) (node : Metadata.Constructor) :
    Naming Symbol.Constructor := do
  let base := Symbol.Constructor.make owner .publicFinal .library
  return { base with
    receiver := if node.isStatic then none else base.receiver
    parameters := ← parameters index node.parameters }

def function (index : Index) (id : CallableId) (owner : ClassId) (annotations : List ClassId)
    (node : Method) : Naming Symbol.Function := do
  let returnType ← typeOf index node.returnType
  let parameters ← parameters index node.parameters
  return {
    id := id
    owner := some owner
    status := if node.isStatic then Status.publicFinal.withFlags (.of [.static]) else .publicFinal
    parameters := parameters
    returnType := returnType
    receiver := some (.nonNull owner)
    annotations := annotations
    origin := .library }

def freeFunction (index : Index) (owner : ClassId) (node : Method) : Naming Symbol.Function := do
  let name ← Naming.intern node.name
  function index (.topLevel owner.package name) owner [] node

def memberFunction (index : Index) (owner : ClassId) (annotations : List ClassId) (node : Method) :
    Naming Symbol.Function := do
  let name ← Naming.intern node.name
  function index (.member owner name) owner annotations node

def primary (index : Index) (id : ClassId) (node : TypeNode) : Naming Symbol.Class :=
  match node.shape with
  | .object => do
    let functions ← (node.methods.filter (·.isStatic)).mapM (freeFunction index id)
    return { Symbol.Class.make id .object .publicFinal .library with functions := functions }
  | .fileClass => do
    let functions ← node.methods.mapM (memberFunction index id [])
    return { Symbol.Class.make id .plain .publicFinal .library with functions := functions }
  | .plain => do
    let constructors ← (node.constructors.filter (!·.isStatic)).mapM (constructor index id)
    let functions ← (node.methods.filter (!·.isStatic)).mapM (memberFunction index id [])
    return { Symbol.Class.make id .plain .publicFinal .library with
      constructors := constructors
      functions := functions }

def companion (index : Index) (owner : ClassId) (node : TypeNode) : Naming Symbol.Class := do
  let id ← owner.nested .companion
  let constructors ← (node.constructors.filter (·.isStatic)).mapM (constructor index id)
  let functions ← (node.methods.filter (·.isStatic)).mapM
    (memberFunction index id [Standard.clrStatic])
  let status := Status.publicFinal.withFlags (.of [.companion])
  return { Symbol.Class.make id .object status .library with
    constructors := constructors
    functions := functions }

def symbols (index : Index) (id : ClassId) (node : TypeNode) : Naming (List Symbol.Class) := do
  let self ← primary index id node
  if node.shape.hasCompanion then
    let other ← companion index id node
    return [{ self with companion := some other.id }, other]
  else
    return [self]

def registration (package : Package) (symbols : List Symbol.Class) : Registration :=
  ⟨package, symbols.map (·.id), symbols.flatMap fun c => c.functions.map (·.id)⟩

structure Built where
  symbols : List Symbol.Class
  names : Registration

def build (index : Index) (node : TypeNode) : Naming Built := do
  let id ← node.classId
  let symbols ← symbols index id node
  return ⟨symbols, registration id.package symbols⟩

def nodes (assemblies : List (String × Assembly)) : List TypeNode :=
  (assemblies.mergeSort fun a b => decide (a.1 ≤ b.1)).flatMap (·.2.types)

def declareAll (nodes : List TypeNode) : Naming Registry :=
  nodes.foldlM (fun r node => return r.declare (← declaration node)) .empty

def registryOf (nodes : List TypeNode) : Naming Registry := do
  let declared ← declareAll nodes
  let built ← nodes.mapM (build declared.index)
  return built.foldl (fun r b => r.apply b.symbols b.names) declared

end ClrCompiler.Library
