import ClrCompiler.Registry

/-!
The built-in symbols: the classes every program has without any assembly.
-/

namespace ClrCompiler.Builtins

def classOf (id : ClassId) (kind : ClassKind) (modality : Modality) : Symbol.Class :=
  .make id kind (.make .pub modality) .builtIns

def member (owner : ClassId) (name : Name) (status : Status) (parameters : List Symbol.Parameter)
    (returnType : TypeRef) : Symbol.Function where
  id := .member owner name
  owner := some owner
  status := status
  parameters := parameters
  returnType := returnType
  receiver := some (.nonNull owner)
  annotations := []
  origin := .builtIns

def primaryConstructor (owner : ClassId) (visibility : Visibility) : Symbol.Constructor :=
  .make owner ((Status.make visibility .final).withFlags (.of [.primary])) .builtIns

def anyClass : Symbol.Class :=
  let id := Standard.any
  let inherited := Status.make .pub .opened
  { classOf id .plain .opened with
    constructors := [primaryConstructor id .pub]
    functions :=
      [member id .equals inherited [⟨.other, .anyOrNull⟩] (.nonNull Standard.boolean),
       member id .hashCode inherited [] (.nonNull Standard.int),
       member id .toStringMember inherited [] (.nonNull Standard.string)] }

def nothingClass : Symbol.Class :=
  let id := Standard.nothing
  { classOf id .plain .final with constructors := [primaryConstructor id .priv] }

def intClass : Symbol.Class :=
  let id := Standard.int
  let int := TypeRef.nonNull id
  { classOf id .plain .final with
    functions :=
      [member id .plus (Status.publicFinal.withFlags (.of [.operator])) [⟨.other, int⟩] int] }

def plainClasses : List Symbol.Class :=
  [classOf Standard.annotationType .interface .opened,
   classOf Standard.array .plain .final,
   classOf Standard.byteArray .plain .final,
   classOf Standard.charArray .plain .final,
   classOf Standard.shortArray .plain .final,
   classOf Standard.intArray .plain .final,
   classOf Standard.longArray .plain .final,
   classOf Standard.floatArray .plain .final,
   classOf Standard.doubleArray .plain .final,
   classOf Standard.booleanArray .plain .final,
   classOf Standard.boolean .plain .final,
   classOf Standard.char .plain .final,
   classOf Standard.charSequence .interface .opened,
   classOf Standard.comparable .interface .opened,
   classOf Standard.enum .plain .abstract,
   classOf Standard.number .plain .abstract,
   classOf Standard.byte .plain .final,
   classOf Standard.short .plain .final,
   classOf Standard.long .plain .final,
   classOf Standard.float .plain .final,
   classOf Standard.double .plain .final,
   classOf Standard.string .plain .final,
   classOf Standard.throwable .plain .opened,
   classOf Standard.iterable .interface .opened,
   classOf Standard.mutableIterable .interface .opened,
   classOf Standard.collection .interface .opened,
   classOf Standard.mutableCollection .interface .opened,
   classOf Standard.list .interface .opened,
   classOf Standard.mutableList .interface .opened,
   classOf Standard.set .interface .opened,
   classOf Standard.mutableSet .interface .opened,
   classOf Standard.map .interface .opened,
   classOf Standard.mutableMap .interface .opened,
   classOf Standard.iterator .interface .opened,
   classOf Standard.mutableIterator .interface .opened,
   classOf Standard.listIterator .interface .opened,
   classOf Standard.mutableListIterator .interface .opened]

def classes : List Symbol.Class := anyClass :: nothingClass :: intClass :: plainClasses

def registration (c : Symbol.Class) : Registration :=
  ⟨c.id.package, [c.id], c.functions.map (·.id)⟩

def registry : Registry := classes.foldl (fun r c => r.apply [c] (registration c)) .empty

end ClrCompiler.Builtins
