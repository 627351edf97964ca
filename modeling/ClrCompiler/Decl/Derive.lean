import ClrCompiler.Decl.Module

/-!
Derived declarations: instance fields, static counterparts, default implementation classes and the
bridges into them. Each is made on the first request for it and found again on every later one;
where it goes in a class body is for the one who asks.
-/

namespace ClrCompiler.Decl.Derive

open Work

def staticFinal : Flags := .of [.static, .final]

def newEntryField (ref : EntryRef) : Work FieldRef := do
  let entry ← entryOf ref
  let owner ← classOf entry.owner
  addField {
    name := entry.name
    type := owner.type
    parent := .inClass entry.owner
    status := Status.publicFinal.withFlags staticFinal
    origin := .fieldForEnumEntry }

def entryField (ref : EntryRef) : Work FieldRef := once .entryFields ref (newEntryField ref)

/-- Classes that are primitive on the platform: their companions keep their instance field. -/
def mappedOwners : List ClassId :=
  [Standard.char, Standard.byte, Standard.short, Standard.int, Standard.float, Standard.long,
   Standard.double, Standard.string, Standard.enum]

def instanceVisibility (settings : Settings) (c : Class) (outer : Option Class) : Visibility :=
  if settings.companionVisibility && c.isCompanion && !outer.any (·.kind.isInterface) then
    match c.status.visibility with
    | .prot => .protStatic
    | v => v
  else .pub

/-- The instance field of the singleton `c`: a companion's moves into its owner under the
companion's name, unless the owner is primitive on the platform. -/
def instanceFieldFor (settings : Settings) (ref : ClassRef) (c : Class) (outer : Option Class) :
    Field :=
  let moved := c.isCompanion && !outer.any (fun o => mappedOwners.contains o.id)
  { name := if moved then c.name else .instanceField
    type := c.type
    parent := if moved then c.parent else .inClass ref
    status := (Status.make (instanceVisibility settings c outer) .final).withFlags staticFinal
    origin := .fieldForObjectInstance }

def newInstanceField (ref : ClassRef) : Work FieldRef := do
  let c ← classOf ref
  let outer ← outerOf ref
  addField (instanceFieldFor (← get).settings ref c outer)

def instanceField (ref : ClassRef) : Work FieldRef := once .instanceFields ref (newInstanceField ref)

def newInterfaceCompanionField (ref : ClassRef) (c : Class) : Work FieldRef :=
  addField {
    name := .interfaceCompanionInstance
    type := c.type
    parent := .inClass ref
    status := (Status.make .packagePriv .final).withFlags staticFinal
    origin := .interfaceCompanionPrivateInstance }

def companionOwner (ref : ClassRef) (c : Class) : Work (Option Class) :=
  if c.isCompanion then outerOf ref else return none

/-- Like `instanceField`, but the companion of an interface has a second field of its own, visible
in the package only. -/
def privateInstanceField (ref : ClassRef) : Work FieldRef := do
  let c ← classOf ref
  let outer ← companionOwner ref c
  if outer.any (·.kind.isInterface) then
    once .interfaceCompanionFields ref (newInterfaceCompanionField ref c)
  else
    instanceField ref

def siblingFor (ref : FunctionRef) (f : Function) (owner : Parent) : Function :=
  { f with
    parent := owner
    status := f.status.withFlags (.of [.static])
    origin := .defined
    params := f.nonDispatchParams
    overridden := []
    attributeOwner := some ref
    body := none }

def staticSibling (ref : FunctionRef) (owner : Parent) : Work FunctionRef := do
  let f ← functionOf ref
  addFunction (siblingFor ref f owner)

def forwarderVisibility (isStatic : Bool) : Visibility → Visibility
  | .internal => .pub
  | .prot => if isStatic then .protStatic else .prot
  | v => v

def forwarderHead (ownerRef : ClassRef) (owner : Class) (targetRef : FunctionRef)
    (target : Function) (name : Name) (receiver : Option Param) : Function :=
  let isStatic := receiver.isNone
  { Function.make name (.inClass ownerRef) target.returnType with
    status :=
      { visibility := forwarderVisibility isStatic target.status.visibility
        modality := if owner.kind.isInterface then .opened else target.status.modality
        flags := (target.status.flags.inter (.of [.suspend])).union
          (if isStatic then .of [.static] else .none) }
    origin := .staticWrapper
    attributeOwner := some targetRef
    typeParameters := target.typeParameters
    annotations := target.annotations
    params := receiver.toList ++ target.nonDispatchParams }

def passedOn (ref : FunctionRef) (params : List Param) : List Expr :=
  (params.zipIdx.filter fun p => !p.1.isDispatch).map fun p => .value ref p.2

def callThrough (ref : FunctionRef) (head : Function) (targetRef : FunctionRef)
    (receiver : List Expr) : Function :=
  { head with
    body := some (.expression
      (.call targetRef head.typeParameters (receiver ++ passedOn ref head.params))) }

def forwarderReceiver (owner : Class) (isStatic : Bool) : Work (Option Param) :=
  if isStatic then return none else return some ⟨← intern "<this>", owner.type, .dispatch⟩

def receiverArgument (targetRef : FunctionRef) (target : Function) : Work (List Expr) :=
  if target.dispatchReceiver.isSome then
    return [.field (← instanceField (← parentClass targetRef))]
  else
    return []

def forwarder (ownerRef : ClassRef) (targetRef : FunctionRef) (isStatic : Bool) :
    Work FunctionRef := do
  let owner ← classOf ownerRef
  let target ← functionOf targetRef
  let name ← platformName targetRef
  let own ← forwarderReceiver owner isStatic
  let head := forwarderHead ownerRef owner targetRef target name own
  let ref ← addFunction head
  setFunction ref (callThrough ref head targetRef (← receiverArgument targetRef target))
  return ref

/-- An external member gets a static copy beside the companion and a forwarder to it in the
companion; any other gets a static forwarder in the class around the companion. -/
def newStaticPair (ref : FunctionRef) : Work StaticPair := do
  let companionRef ← parentClass ref
  let companion ← classOf companionRef
  if companion.isCompanion then
    let f ← functionOf ref
    if f.isExternal then
      let static ← staticSibling ref companion.parent
      return ⟨static, ← forwarder companionRef static false⟩
    else
      match companion.parent.class? with
      | some owner => return ⟨← forwarder owner ref true, ref⟩
      | none => throw (.companionNotNested companionRef companion.parent)
  else
    throw (.notCompanionMember ref)

def staticPair (ref : FunctionRef) : Work StaticPair := once .staticPairs ref (newStaticPair ref)

def newDefaultImpls (ref : ClassRef) : Work ClassRef := do
  let c ← classOf ref
  let id ← nested c.id .defaultImpls
  addClass { Class.make id .plain (.inClass ref) with origin := .defaultImpls }

def defaultImpls (ref : ClassRef) : Work ClassRef := once .defaultImpls ref (newDefaultImpls ref)

def bridgeFlags : Flags := .of [.inlined, .suspend, .operator, .infixCall]

def bridgeFor (ownerRef : ClassRef) (owner : Class) (f : Function) : Function :=
  { f with
    parent := .inClass ownerRef
    status := { f.status with flags := f.status.flags.inter bridgeFlags }
    origin := .superInterfaceMethodBridge
    params := f.params.map fun p => if p.isDispatch then { p with type := owner.type } else p
    attributeOwner := none
    body := none }

def newRedirection (ref : FunctionRef) : Work FunctionRef := do
  let f ← functionOf ref
  if f.isFakeOverride then
    let ownerRef ← parentClass ref
    let owner ← classOf ownerRef
    addFunction (bridgeFor ownerRef owner f)
  else
    throw (.notFakeOverride ref)

def redirection (ref : FunctionRef) : Work FunctionRef := once .redirections ref (newRedirection ref)

end ClrCompiler.Decl.Derive
