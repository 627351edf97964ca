import ClrCompiler.Proofs.Decl.Names
import ClrCompiler.Proofs.Decl.Requests
import ClrCompiler.Proofs.Decl.WellFormed

/-! The static counterpart of a companion member: one of the two functions of a pair does nothing but
call the other, and passes every argument at the place of the parameter it stands for. -/

namespace ClrCompiler.Decl

open Work Derive Session

namespace Function

variable {f : Function}

lemma nonDispatchParams_isDispatch (f : Function) :
    ∀ p ∈ f.nonDispatchParams, p.isDispatch = false := by
  intro p hp
  simpa using (List.mem_filter.mp hp).2

lemma dispatchReceiver_eq_none {ps : List Param} (h : ∀ p ∈ ps, p.isDispatch = false) :
    ps.find? Param.isDispatch = none := by
  apply List.find?_eq_none.mpr
  intro p hp
  simp [h p hp]

end Function

section

variable {ownerRef : ClassRef} {owner : Class} {ref targetRef : FunctionRef} {target : Function}
  {name : Name} {own : Option Param} {receiver : List Expr}

end

section

variable {s : Session}

lemma accessed?_of_new {m n : Module} (hw : m.WellFormed) {ref : FunctionRef}
    (hnew : ¬m.HasFunction ref) (hp : n.properties = m.properties) : n.accessed? ref = none := by
  rw [Option.eq_none_iff_forall_ne_some]
  intro p h
  obtain ⟨_, _, -, -, hproperty, haccess⟩ := Module.accessed?_eq_some.mp h
  rw [Module.property?, hp] at hproperty
  have hin := Array.mem_of_getElem? hproperty
  exact hnew (haccess.elim (hw.getters p hin ref) (hw.setters p hin ref))

section

variable {ref : FunctionRef} {f : Function}

lemma exec_platformName (hf : s.module.function? ref = some f)
    (hp : ∀ p, f.property = some p → (s.module.property? p).isSome)
    (hn : ∀ p, s.module.accessed? ref = some p → p.name.raw < s.names.size) :
    ∃ name names, exec (platformName ref) s = (.ok name, { s with names := names }) := by
  rw [platformName, exec_bind_ok (exec_functionOf_eq_ok.mpr ⟨hf, rfl⟩)]
  cases hprop : f.property with
  | none => exact ⟨f.name, s.names, rfl⟩
  | some owner =>
    obtain ⟨p, hp⟩ := Option.isSome_iff_exists.mp (hp owner hprop)
    have htext (h : p.getter = some ref ∨ p.setter = some ref) :=
      exec_textOf (hn p (Module.accessed?_eq_some.mpr ⟨f, owner, hf, hprop, hp, h⟩))
    dsimp only
    rw [exec_bind_ok (exec_propertyOf_eq_ok.mpr ⟨hp, rfl⟩)]
    split
    · exact ⟨_, _, exec_bind_ok (htext (.inl ‹_›))⟩
    · split
      · exact ⟨_, _, exec_bind_ok (htext (.inr ‹_›))⟩
      · exact ⟨f.name, s.names, rfl⟩

lemma exec_platformName_error {p : Property} (h : s.module.accessed? ref = some p)
    (hn : s.names.size ≤ p.name.raw) :
    exec (platformName ref) s = (.error .outOfBounds, s) := by
  obtain ⟨f, owner, hf, hprop, hp, haccess⟩ := Module.accessed?_eq_some.mp h
  rw [platformName, exec_bind_ok (exec_functionOf_eq_ok.mpr ⟨hf, rfl⟩), hprop]
  dsimp only
  rw [exec_bind_ok (exec_propertyOf_eq_ok.mpr ⟨hp, rfl⟩)]
  split
  · exact exec_bind_error (exec_textOf_error hn)
  · rw [if_pos (haccess.resolve_left ‹_›)]
    exact exec_bind_error (exec_textOf_error hn)

end

lemma exec_forwarderReceiver (owner : Class) (isStatic : Bool) :
    ∃ own names, exec (forwarderReceiver owner isStatic) s = (.ok own, { s with names := names }) ∧
      own.isNone = isStatic ∧ ∀ p ∈ own, p.isDispatch = true ∧ p.type = owner.type := by
  cases isStatic with
  | true => exact ⟨none, s.names, rfl, rfl, by simp⟩
  | false =>
    refine ⟨some ⟨(s.names.intern "<this>").1, owner.type, .dispatch⟩, _, rfl, rfl, ?_⟩
    rintro p hp
    cases hp
    exact ⟨rfl, rfl⟩

def instanceRef (s : Session) (ref : ClassRef) : FieldRef :=
  (s.derived.instanceFields.lookup ref).getD ⟨s.module.fields.size⟩

lemma exec_instanceField {ref : ClassRef} {c : Class} (hc : s.module.class? ref = some c)
    (hin : ∀ o, c.parent.class? = some o → (s.module.class? o).isSome) :
    ∃ t, exec (instanceField ref) s = (.ok (instanceRef s ref), t) ∧
      t.module.functions = s.module.functions ∧
      t.derived.instanceFields.lookup ref = some (instanceRef s ref) := by
  have hin' := exec_outerOf_eq_ok.mpr ⟨⟨c, hc, hin⟩, rfl, rfl⟩
  cases hs : s.derived.instanceFields.lookup ref with
  | some field =>
    have hfield : instanceRef s ref = field := by rw [instanceRef, hs, Option.getD_some]
    rw [hfield]
    exact ⟨s, exec_once_of_some hs, rfl, hs⟩
  | none =>
    have hfield : instanceRef s ref = ⟨s.module.fields.size⟩ := by
      rw [instanceRef, hs, Option.getD_none]
    have hmake : ∃ t, exec (newInstanceField ref) s = (.ok ⟨s.module.fields.size⟩, t) ∧
        t.module.functions = s.module.functions := by
      rw [newInstanceField, exec_bind_ok (exec_classOf_eq_ok.mpr ⟨hc, rfl⟩), exec_bind_ok hin']
      exact ⟨_, rfl, rfl⟩
    obtain ⟨t, ht, hfunctions⟩ := hmake
    have hdone : exec (instanceField ref) s = _ := exec_once_of_none hs ht
    rw [hfield]
    refine ⟨_, hdone, hfunctions, ?_⟩
    exact lookup_of_exec_once ((moves_newInstanceField ref).mono (Adds.keeps _)) hdone

def receiverOf (s : Session) (companionRef : ClassRef) (f : Function) : List Expr :=
  if f.dispatchReceiver.isSome then [.field (instanceRef s companionRef)] else []

def Module.HasSite (m : Module) (ref : ClassRef) : Prop :=
  ∃ c, m.class? ref = some c ∧ ∀ o, c.parent.class? = some o → (m.class? o).isSome

lemma exec_receiverArgument {targetRef : FunctionRef} {target : Function} (companionRef : ClassRef)
    (ht : s.module.function? targetRef = some target)
    (hsite : target.dispatchReceiver.isSome = true →
      target.parent.class? = some companionRef ∧ s.module.HasSite companionRef) :
    ∃ t, exec (receiverArgument targetRef target) s = (.ok (receiverOf s companionRef target), t) ∧
      t.module.functions = s.module.functions ∧
      (target.dispatchReceiver.isSome = true →
        t.derived.instanceFields.lookup companionRef = some (instanceRef s companionRef)) := by
  rw [receiverArgument, receiverOf]
  cases hd : target.dispatchReceiver.isSome with
  | false => exact ⟨s, rfl, rfl, by simp⟩
  | true =>
    obtain ⟨hp, c, hc, hin⟩ := hsite hd
    obtain ⟨t, hfield, hfunctions, hlookup⟩ := exec_instanceField hc hin
    have hparent : exec (parentClass targetRef) s = (.ok companionRef, s) :=
      exec_parentClass_eq_ok.mpr ⟨⟨target, ht, hp⟩, rfl⟩
    refine ⟨t, ?_, hfunctions, fun _ => hlookup⟩
    rw [if_pos rfl, if_pos rfl, exec_bind_ok hparent, exec_bind_ok hfield]
    rfl

lemma set_last {α : Type} (xs : Array α) (x y : α) :
    (xs.push x).setIfInBounds xs.size y = xs.push y := by
  apply Array.ext_getElem?
  intro i
  rw [Array.getElem?_setIfInBounds, Array.getElem?_push, Array.getElem?_push]
  by_cases hi : xs.size = i
  · subst hi
    simp
  · simp [hi, Ne.symm hi]

lemma function?_push {m : Module} {ref : FunctionRef} {f g : Function}
    (hf : m.function? ref = some f) :
    ({ m with functions := m.functions.push g } : Module).function? ref = some f := by
  have hlt : ref.index < m.functions.size := (Array.getElem?_eq_some_iff.mp hf).1
  rw [Module.function?, Array.getElem?_push, if_neg (Nat.ne_of_lt hlt)]
  exact hf

lemma exec_forwarder {ownerRef : ClassRef} {owner : Class} {targetRef : FunctionRef}
    {target : Function} (companionRef : ClassRef) (isStatic : Bool)
    (howner : s.module.class? ownerRef = some owner)
    (ht : s.module.function? targetRef = some target)
    (hproperty : ∀ p, target.property = some p → (s.module.property? p).isSome)
    (hn : ∀ p, s.module.accessed? targetRef = some p → p.name.raw < s.names.size)
    (hsite : target.dispatchReceiver.isSome = true →
      target.parent.class? = some companionRef ∧ s.module.HasSite companionRef) :
    ∃ name own after,
      exec (forwarder ownerRef targetRef isStatic) s = (.ok ⟨s.module.functions.size⟩, after) ∧
      after.module.functions = s.module.functions.push
        (callThrough ⟨s.module.functions.size⟩
          (forwarderHead ownerRef owner targetRef target name own) targetRef
          (receiverOf s companionRef target)) ∧
      (target.dispatchReceiver.isSome = true →
        after.derived.instanceFields.lookup companionRef = some (instanceRef s companionRef)) ∧
      own.isNone = isStatic ∧ ∀ p ∈ own, p.isDispatch = true ∧ p.type = owner.type := by
  obtain ⟨name, names, hname⟩ := exec_platformName ht hproperty hn
  obtain ⟨own, names', hown, hstatic, hreceiver⟩ :=
    exec_forwarderReceiver (s := { s with names := names }) owner isStatic
  let head := forwarderHead ownerRef owner targetRef target name own
  -- the instance field is asked for when the unit already has the forwarder without its body
  let added : Session :=
    { s with names := names', module := { s.module with functions := s.module.functions.push head } }
  obtain ⟨t, hargument, hfunctions, hlookup⟩ :=
    exec_receiverArgument (s := added) companionRef (function?_push (g := head) ht) hsite
  let g := callThrough ⟨s.module.functions.size⟩ head targetRef (receiverOf s companionRef target)
  let after : Session :=
    { t with module := t.module.setFunction ⟨s.module.functions.size⟩ g }
  refine ⟨name, own, after, ?_, ?_, hlookup, hstatic, hreceiver⟩
  · rw [forwarder, exec_bind_ok (exec_classOf_eq_ok.mpr ⟨howner, rfl⟩),
      exec_bind_ok (exec_functionOf_eq_ok.mpr ⟨ht, rfl⟩), exec_bind_ok hname, exec_bind_ok hown]
    change exec (receiverArgument targetRef target >>= _) added = _
    rw [exec_bind_ok hargument]
    rfl
  · change t.module.functions.setIfInBounds s.module.functions.size g = _
    rw [hfunctions]
    exact set_last s.module.functions head g

end

lemma isStatic_forwarderHead (ownerRef : ClassRef) (owner : Class) (targetRef : FunctionRef)
    (target : Function) (name : Name) (own : Option Param) :
    (forwarderHead ownerRef owner targetRef target name own).status.isStatic = own.isNone := by
  cases own <;>
    simp [forwarderHead, Status.isStatic, Status.has, Flags.union, Flags.inter, Flags.of, Flags.none]

section

variable {s : Session} {ref : FunctionRef} {f : Function} {companionRef : ClassRef}
  {companion : Class}

lemma exec_newStaticPair (hf : s.module.function? ref = some f)
    (hp : f.parent.class? = some companionRef) (hc : s.module.class? companionRef = some companion)
    (hcomp : companion.isCompanion = true) :
    exec (newStaticPair ref) s = exec
      (if f.isExternal then do
        let static ← staticSibling ref companion.parent
        return ⟨static, ← forwarder companionRef static false⟩
      else
        match companion.parent.class? with
        | some owner => return ⟨← forwarder owner ref true, ref⟩
        | none => throw (.companionNotNested companionRef companion.parent)) s := by
  rw [newStaticPair, exec_bind_ok (exec_parentClass_eq_ok.mpr ⟨⟨f, hf, hp⟩, rfl⟩),
    exec_bind_ok (exec_classOf_eq_ok.mpr ⟨hc, rfl⟩), if_pos hcomp]
  exact exec_bind_ok (exec_functionOf_eq_ok.mpr ⟨hf, rfl⟩)

end

def companionUnit : Session :=
  let owner := Class.make Standard.any .plain (.inPackage Standard.any.package)
  let companion := Class.make ⟨Standard.any.package, .companion, .companion⟩ .object (.inClass ⟨0⟩)
  let marked := { companion with status := companion.status.withFlags (.of [.companion]) }
  let this : Param := ⟨.companion, companion.type, .dispatch⟩
  let params := [this, ⟨.any, .unit, .extension⟩, ⟨.int, .unit, .regular⟩]
  let member := { Function.make .int (.inClass ⟨1⟩) .unit with params := params }
  let external := { member with status := member.status.withFlags (.of [.external]) }
  let unit := { Module.empty .companion with
    classes := #[owner, marked]
    functions := #[member, external]
    topLevel := [⟨0⟩] }
  ⟨.new, unit, .empty, .standard, []⟩

end ClrCompiler.Decl
