import ClrCompiler.Proofs.Decl.Appends

/-! The functions derived from a function are called like it: copies, forwarders, forwarders to
copies and bridges have its return type and its parameters, and differ in who may call them and on
what. -/

namespace ClrCompiler.Decl

open Work Derive Derived Session

structure CalledLike (f g : Function) : Prop where
  returnType : g.returnType = f.returnType
  typeParameters : g.typeParameters = f.typeParameters
  annotations : g.annotations = f.annotations
  suspend : g.isSuspend = f.isSuspend
  params : g.nonDispatchParams = f.nonDispatchParams

lemma CalledLike.trans {f g h : Function} (hfg : CalledLike f g) (hgh : CalledLike g h) :
    CalledLike f h where
  returnType := hgh.returnType.trans hfg.returnType
  typeParameters := hgh.typeParameters.trans hfg.typeParameters
  annotations := hgh.annotations.trans hfg.annotations
  suspend := hgh.suspend.trans hfg.suspend
  params := hgh.params.trans hfg.params

/-- `g` is called like `target` and is a function of its own. It is as visible as `target`, but an
internal one becomes public, and a protected one that is static becomes protected in that way. -/
structure ForwarderTo (target g : Function) : Prop extends CalledLike target g where
  own : g.isFakeOverride = false
  notExternal : g.isExternal = false
  internal : target.status.visibility = .internal → g.status.visibility = .pub
  inherited : target.status.visibility = .prot →
    g.status.visibility = if g.status.isStatic then .protStatic else .prot
  visibility : target.status.visibility ≠ .internal → target.status.visibility ≠ .prot →
    g.status.visibility = target.status.visibility

structure BridgeFor (owner : Class) (f g : Function) : Prop extends CalledLike f g where
  own : g.isFakeOverride = false
  notExternal : g.isExternal = false
  receivers : List.Forall₂ (fun p q : Param => q.name = p.name ∧ q.kind = p.kind ∧
    q.type = if p.kind = .dispatch then owner.type else p.type) f.params g.params

structure PairLike (u : Session) (ref : FunctionRef) (f : Function) (pair : StaticPair) : Prop where
  member : f.isExternal = false → pair.companion = ref ∧
    ∃ g, u.module.function? pair.static = some g ∧ g.status.isStatic = true ∧ ForwarderTo f g
  external : f.isExternal = true → ∃ sibling g,
    u.module.function? pair.static = some sibling ∧ u.module.function? pair.companion = some g ∧
      CalledLike f sibling ∧ sibling.isFakeOverride = f.isFakeOverride ∧
      g.status.isStatic = false ∧ ForwarderTo sibling g ∧ CalledLike f g

section

variable {ref targetRef : FunctionRef} {f target : Function} {ownerRef : ClassRef} {owner : Class}
  {parent : Parent} {name : Name} {own : Option Param} {receiver : List Expr}

lemma filter_nonDispatchParams (f : Function) :
    f.nonDispatchParams.filter (!·.isDispatch) = f.nonDispatchParams := by
  apply List.filter_eq_self.mpr
  intro p hp
  simp [f.nonDispatchParams_isDispatch p hp]

lemma has_siblingFor (flag : Flag) : (siblingFor ref f parent).status.has flag =
    (f.status.has flag || decide (flag = .static)) := by
  simp [siblingFor, Status.has, Status.withFlags, Flags.union, Flags.of]

lemma calledLike_siblingFor : CalledLike f (siblingFor ref f parent) where
  returnType := rfl
  typeParameters := rfl
  annotations := rfl
  suspend := by simp [Function.isSuspend, has_siblingFor]
  params := filter_nonDispatchParams f

lemma has_forwarderHead (flag : Flag) :
    (forwarderHead ownerRef owner targetRef target name own).status.has flag =
      (target.status.has flag && decide (flag = .suspend) ||
        own.isNone && decide (flag = .static)) := by
  cases own <;> simp [forwarderHead, Status.has, Flags.union, Flags.inter, Flags.of, Flags.none]

lemma nonDispatchParams_callThrough (hown : ∀ p ∈ own, p.isDispatch = true) :
    (callThrough ref (forwarderHead ownerRef owner targetRef target name own) targetRef
      receiver).nonDispatchParams = target.nonDispatchParams := by
  have hreceiver : own.toList.filter (!·.isDispatch) = [] := by
    apply List.filter_eq_nil_iff.mpr
    intro p hp
    simp [hown p (Option.mem_toList.mp hp)]
  simp only [Function.nonDispatchParams, callThrough, forwarderHead, List.filter_append, hreceiver,
    List.nil_append]
  exact filter_nonDispatchParams target

lemma forwarderTo_callThrough (hown : ∀ p ∈ own, p.isDispatch = true) :
    ForwarderTo target (callThrough ref
      (forwarderHead ownerRef owner targetRef target name own) targetRef receiver) := by
  have hstatic := isStatic_forwarderHead ownerRef owner targetRef target name own
  constructor
  case toCalledLike =>
    refine ⟨rfl, rfl, rfl, ?_, ?_⟩
    · simp [Function.isSuspend, callThrough, has_forwarderHead]
    · exact nonDispatchParams_callThrough hown
  case own => simp [Function.isFakeOverride, callThrough, has_forwarderHead]
  case notExternal => simp [Function.isExternal, callThrough, has_forwarderHead]
  case internal =>
    intro h
    simp [callThrough, forwarderHead, h, forwarderVisibility]
  case inherited =>
    intro h
    rw [callThrough, hstatic]
    simp [forwarderHead, h, forwarderVisibility]
  case visibility =>
    intro hi hp
    simp only [callThrough, forwarderHead]
    cases hv : target.status.visibility with
    | internal => exact absurd hv hi
    | prot => exact absurd hv hp
    | pub => rfl
    | priv => rfl
    | protStatic => rfl
    | packagePriv => rfl

lemma has_bridgeFor (flag : Flag) : (bridgeFor ownerRef owner f).status.has flag =
    (f.status.has flag && bridgeFlags.has flag) := rfl

lemma nonDispatchParams_bridgeFor :
    (bridgeFor ownerRef owner f).nonDispatchParams = f.nonDispatchParams := by
  simp only [Function.nonDispatchParams, bridgeFor]
  induction f.params with
  | nil => rfl
  | cons p params ih => by_cases hp : p.kind = .dispatch <;> simpa [Param.isDispatch, hp] using ih

lemma bridgeFor_bridgeFor : BridgeFor owner f (bridgeFor ownerRef owner f) := by
  constructor
  case toCalledLike =>
    refine ⟨rfl, rfl, rfl, ?_, ?_⟩
    · simp [Function.isSuspend, has_bridgeFor, bridgeFlags, Flags.of]
    · exact nonDispatchParams_bridgeFor
  case own => simp [Function.isFakeOverride, has_bridgeFor, bridgeFlags, Flags.of]
  case notExternal => simp [Function.isExternal, has_bridgeFor, bridgeFlags, Flags.of]
  case receivers =>
    rw [bridgeFor, List.forall₂_map_right_iff, List.forall₂_same]
    intro p _
    by_cases hp : p.kind = .dispatch <;> simp [Param.isDispatch, hp]

end

section

variable {s u : Session} {ref : FunctionRef} {f : Function}

lemma Derived.Row.Described.pairLike {pair : StaticPair} (hf : s.module.function? ref = some f)
    (h : (Row.staticPair ref pair).Described s u) : PairLike u ref f pair := by
  cases h with
  | memberPair hf' hmember _ _ _ _ _ _ _ hstatic =>
    cases hf.symm.trans hf'
    refine ⟨fun _ => ⟨rfl, _, hstatic, ?_, ?_⟩, fun h => ?_⟩
    · rw [callThrough, isStatic_forwarderHead]
      rfl
    · exact forwarderTo_callThrough fun p hp => by cases hp
    · cases hmember.symm.trans h
  | externalPair hf' hexternal _ _ _ _ _ hstatic hforwarder =>
    cases hf.symm.trans hf'
    refine ⟨fun h => ?_, fun _ => ⟨_, _, hstatic, hforwarder, calledLike_siblingFor, ?_, ?_, ?_⟩⟩
    · cases hexternal.symm.trans h
    · simp [Function.isFakeOverride, has_siblingFor]
    · rw [callThrough, isStatic_forwarderHead]
      rfl
    · -- a forwarder to the copy is called like the copy, which is called like the member
      refine (and_iff_left_of_imp fun h => calledLike_siblingFor.trans h.toCalledLike).mpr ?_
      refine forwarderTo_callThrough fun p hp => ?_
      cases hp
      rfl

lemma Derived.Row.Described.bridgeFor {bridge : FunctionRef}
    (hf : s.module.function? ref = some f) (h : (Row.redirection ref bridge).Described s u) :
    ∃ ownerRef owner g, f.parent.class? = some ownerRef ∧
      s.module.class? ownerRef = some owner ∧ u.module.function? bridge = some g ∧
      BridgeFor owner f g := by
  cases h with
  | redirection hf' _ hp ho hbridge =>
    cases hf.symm.trans hf'
    exact ⟨_, _, _, hp, ho, hbridge, bridgeFor_bridgeFor⟩

end

/-- What is derived from `f` is called like it, then and after every later request, and is what the
same request is answered with. -/
theorem derived_calledLike {s : Session} (hw : s.module.WellFormed) {ref : FunctionRef}
    {f : Function} (hf : s.module.function? ref = some f) :
    (∀ pair t u, s.derived.staticPairs.lookup ref = none →
      exec (staticPair ref) s = (.ok pair, t) → t.Asks u →
        u.module.function? ref = some f ∧ exec (staticPair ref) u = (.ok pair, u) ∧
          PairLike u ref f pair) ∧
    ∀ bridge t u, s.derived.redirections.lookup ref = none →
      exec (redirection ref) s = (.ok bridge, t) → t.Asks u →
        u.module.function? ref = some f ∧ exec (redirection ref) u = (.ok bridge, u) ∧
          ∃ ownerRef owner g, f.parent.class? = some ownerRef ∧
            s.module.class? ownerRef = some owner ∧ u.module.function? bridge = some g ∧
            BridgeFor owner f g := by
  refine ⟨fun pair t u hnone h hlater => ?_, fun bridge t u hnone h hlater => ?_⟩
  · obtain ⟨new, added, hm, hat, hd, -⟩ := Asks.described (r := .staticPair ref) hw
      (congrArg (Option.map _) hnone) h hlater
    obtain ⟨pair, hrecorded, hrow⟩ := Option.map_eq_some_iff.mp hat
    cases hrow
    exact ⟨hm.function?_of_some hf, exec_once_of_some hrecorded, hd.pairLike hf⟩
  · obtain ⟨new, added, hm, hat, hd, -⟩ := Asks.described (r := .redirection ref) hw
      (congrArg (Option.map _) hnone) h hlater
    obtain ⟨bridge, hrecorded, hrow⟩ := Option.map_eq_some_iff.mp hat
    cases hrow
    exact ⟨hm.function?_of_some hf, exec_once_of_some hrecorded, hd.bridgeFor hf⟩

/-- A companion with the accessors of a property, the getter external and the setter for
subclasses, and a getter that the class around the companion inherits. -/
def propertyUnit : Session :=
  let owner := Class.make Standard.any .plain (.inPackage Standard.any.package)
  let companion :=
    { Class.make ⟨Standard.any.package, .companion, .companion⟩ .object (.inClass ⟨0⟩) with
      status := Status.publicFinal.withFlags (.of [.companion]) }
  let this : Param := ⟨.companion, companion.type, .dispatch⟩
  let getter := { Function.make .iterator (.inClass ⟨1⟩) .unit with
    status := (Status.make .internal .final).withFlags (.of [.external, .suspend])
    params := [this]
    property := some ⟨0⟩ }
  let setter := { Function.make .iterator (.inClass ⟨1⟩) .unit with
    status := .make .prot .final
    params := [this, ⟨.int, .unit, .regular⟩]
    property := some ⟨0⟩ }
  let inherited := { Function.make .collection (.inClass ⟨0⟩) .unit with
    status := (Status.make .pub .opened).withFlags (.of [.fakeOverride, .suspend])
    params := [this, ⟨.any, .unit, .extension⟩]
    property := some ⟨1⟩ }
  let unit := { Module.empty .companion with
    classes := #[owner, companion]
    functions := #[getter, setter, inherited]
    properties := #[⟨.list, .inClass ⟨1⟩, some ⟨0⟩, some ⟨1⟩⟩, ⟨.map, .inClass ⟨0⟩, some ⟨2⟩, none⟩]
    topLevel := [⟨0⟩] }
  ⟨.new, unit, .empty, .standard, []⟩

lemma propertyUnit_wellFormed : propertyUnit.module.WellFormed := by
  constructor
  case functions =>
    intro f hf
    simp only [propertyUnit, List.mem_toArray, List.mem_cons, List.not_mem_nil, or_false] at hf
    rcases hf with rfl | rfl | rfl <;> constructor <;>
      simp [Function.make, Module.HasParent, Module.HasClass, Module.HasProperty, propertyUnit]
  all_goals
    simp [propertyUnit, Module.empty, Class.make, Module.HasClass, Module.HasFunction,
      Module.HasParent]

theorem derived_calledLike_propertyUnit :
    let t := (exec (staticPair ⟨0⟩) propertyUnit).2
    let u := (exec (staticPair ⟨1⟩) t).2
    propertyUnit.module.WellFormed ∧ ∃ getter setter inherited,
      propertyUnit.module.function? ⟨0⟩ = some getter ∧
      propertyUnit.module.function? ⟨1⟩ = some setter ∧
      propertyUnit.module.function? ⟨2⟩ = some inherited ∧
      exec (staticPair ⟨0⟩) u = (.ok ⟨⟨3⟩, ⟨4⟩⟩, u) ∧ PairLike u ⟨0⟩ getter ⟨⟨3⟩, ⟨4⟩⟩ ∧
      PairLike (exec (staticPair ⟨1⟩) propertyUnit).2 ⟨1⟩ setter ⟨⟨3⟩, ⟨1⟩⟩ ∧
      ∃ owner g, propertyUnit.module.class? ⟨0⟩ = some owner ∧
        (exec (redirection ⟨2⟩) propertyUnit).2.module.function? ⟨3⟩ = some g ∧
        BridgeFor owner inherited g := by
  intro t u
  have hexternal : (exec (staticPair ⟨0⟩) propertyUnit).1 = .ok ⟨⟨3⟩, ⟨4⟩⟩ := by decide +kernel
  have hmember : (exec (staticPair ⟨1⟩) propertyUnit).1 = .ok ⟨⟨3⟩, ⟨1⟩⟩ := by decide +kernel
  have hbridge : (exec (redirection ⟨2⟩) propertyUnit).1 = .ok ⟨3⟩ := by decide +kernel
  have hlater : (exec (staticPair ⟨1⟩) t).1 = .ok ⟨⟨5⟩, ⟨1⟩⟩ := by decide +kernel
  have hasks : t.Asks u := Asks.start.next (.staticPair ⟨1⟩) hlater
  have hw := propertyUnit_wellFormed
  have hgetter : propertyUnit.module.function? ⟨0⟩ = some _ := rfl
  have hsetter : propertyUnit.module.function? ⟨1⟩ = some _ := rfl
  have hinherited : propertyUnit.module.function? ⟨2⟩ = some _ := rfl
  obtain ⟨-, hrepeats, hgetterPair⟩ :=
    (derived_calledLike hw hgetter).1 _ t u rfl (Prod.ext hexternal rfl) hasks
  obtain ⟨-, -, hsetterPair⟩ :=
    (derived_calledLike hw hsetter).1 _ _ _ rfl (Prod.ext hmember rfl) .start
  obtain ⟨-, -, ownerRef, owner, g, hp, ho, hg, hlike⟩ :=
    (derived_calledLike hw hinherited).2 _ _ _ rfl (Prod.ext hbridge rfl) .start
  cases hp
  exact ⟨hw, _, _, _, hgetter, hsetter, hinherited, hrepeats, hgetterPair, hsetterPair, owner, g,
    ho, hg, hlike⟩

end ClrCompiler.Decl
