import ClrCompiler.Index
import ClrCompiler.TypeRef

/-!
Resolution of the type names in metadata. It never fails: a name that cannot be read becomes `Any?`.
-/

namespace ClrCompiler.Resolution

/-- Platform types with a fixed meaning; those marked `true` never hold null. -/
def wellKnown : List (String × ClassId × Bool) :=
  [("System.Void", Standard.unit, false),
   ("System.String", Standard.string, false),
   ("System.Boolean", Standard.boolean, true),
   ("System.Char", Standard.char, true),
   ("System.Byte", Standard.byte, true),
   ("System.SByte", Standard.byte, true),
   ("System.Int16", Standard.short, true),
   ("System.UInt16", Standard.uShort, true),
   ("System.Int32", Standard.int, true),
   ("System.UInt32", Standard.uInt, true),
   ("System.Int64", Standard.long, true),
   ("System.UInt64", Standard.uLong, true),
   ("System.Single", Standard.float, true),
   ("System.Double", Standard.double, true),
   ("System.Object", Standard.any, false)]

def isSeparator (c : Char) : Bool := c == '.' || c == '+'

def parts? (typeName : String) : Option (List String) :=
  let parts := Text.splitBy isSeparator typeName.toList
  if parts.any List.isEmpty then none else some (parts.map String.ofList)

/-- A bare name of a class in the root package stands for the first class of that short name; any
other name spells out its package. -/
def classOf (index : Index) (scope : List String) (last : String) : Naming ClassId := do
  let short ← Naming.intern last
  if scope.isEmpty && index.hasTopLevelClass .root short then
    return .topLevel ((index.packageOfShortName short).getD .root) short
  else
    return .topLevel (← Package.ofSegments scope) short

def typeOf (id : ClassId) (isValue isResult : Bool) : TypeRef :=
  if isValue || isResult && id == Standard.unit then .nonNull id else .orNull id

def resolve (index : Index) (typeName : String) (isResult : Bool) : Naming TypeRef :=
  match wellKnown.lookup typeName with
  | some (id, isValue) => return typeOf id isValue isResult
  | none =>
    match parts? typeName with
    | none => return .anyOrNull
    | some parts => do
      let id ← classOf index parts.dropLast (parts.getLastD "")
      return typeOf id false isResult

end ClrCompiler.Resolution
