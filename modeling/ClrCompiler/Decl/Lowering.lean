import ClrCompiler.Decl.Derive

/-!
Lowering passes. The entry point pass gives each file class whose only `main` takes no arguments a
`Main` that takes the program's arguments and calls it. A pipeline may also run passes of those who
set it up. `objectFields` stands for these: it asks for derived declarations, which every pass may,
and puts them into class bodies.
-/

namespace ClrCompiler.Decl.Lowering

open Work

def stringArray : TypeRef := ⟨Standard.array, false, [.nonNull Standard.string]⟩

def isStringArray (t : TypeRef) : Bool :=
  match t.arguments with
  | [element] => t.classId == Standard.array && element.classId == Standard.string
  | _ => false

def isMainWithArgs (f : Function) : Bool :=
  f.name == .mainFunction && f.returnType.isUnit &&
    match f.regularParams with
    | [p] => isStringArray p.type
    | _ => false

def isPlainMain (f : Function) : Bool :=
  f.name == .mainFunction && f.returnType.isUnit && f.typeParameters.isEmpty
    && f.extensionReceiver.isNone && f.regularParams.isEmpty

def findFunction (accepts : Function → Bool) :
    List FunctionRef → Work (Option (FunctionRef × Function))
  | [] => return none
  | ref :: rest => do
    let f ← functionOf ref
    if accepts f then return some (ref, f) else findFunction accepts rest

def reportSuspendMain (ref : ClassRef) : Work Unit :=
  modify fun s => { s with suspendMains := s.suspendMains ++ [ref] }

def entryPoint (owner : ClassRef) (main : FunctionRef) : Function :=
  { Function.make .mainEntry (.inClass owner) .unit with
    status := .make .pub .opened
    origin := .generatedMain
    params := [⟨.args, stringArray, .regular⟩]
    body := some (.block [.call main [] []]) }

def addEntryPoint (ref : ClassRef) : Work Unit := do
  let functions := (← classOf ref).functions
  match ← findFunction isMainWithArgs functions with
  | some (_, main) => if main.isSuspend then reportSuspendMain ref
  | none =>
    match ← findFunction isPlainMain functions with
    | none => return ()
    | some (mainRef, main) =>
      if main.isSuspend then
        reportSuspendMain ref
      else do
        let entry ← addFunction (entryPoint ref mainRef)
        addMember ref (.function entry)

def classesWhere (m : Module) (condition : Class → Bool) : List ClassRef :=
  m.classRefs.filter fun ref => (m.class? ref).any condition

def entryPoints : Work Unit := do
  (classesWhere (← get).module Class.isFileClass).forM addEntryPoint

/-- Not one of the pipeline's own passes: the instance field of each object goes into its body. -/
def objectFields : Work Unit := do
  (classesWhere (← get).module (·.kind.isObject)).forM fun ref => do
    addMember ref (.field (← Derive.instanceField ref))

inductive Pass where
  | entryPoints
  | objectFields
  deriving DecidableEq

def Pass.name : Pass → String
  | .entryPoints => "main-method"
  | .objectFields => "object-fields"

def Pass.run : Pass → Work Unit
  | .entryPoints => Lowering.entryPoints
  | .objectFields => Lowering.objectFields

def run (passes : List Pass) : Work Unit := passes.forM Pass.run

def suspendMainWarning (ref : ClassRef) : String :=
  "message=suspend main is not supported class=" ++ ref.text

end ClrCompiler.Decl.Lowering
