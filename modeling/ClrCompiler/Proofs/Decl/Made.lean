import ClrCompiler.Proofs.Decl.Growth
import ClrCompiler.Proofs.Identity

/-! What requests make. A request that succeeds makes exactly the declarations it lacks, and what
they are like depends only on declarations that were there before. -/

namespace ClrCompiler.Decl

open Work Derive Derived Interner Session

section

variable {α κ : Type} [BEq κ] {table : Derived.Table κ α} {key : κ} {make : Work α}
  {s t : Session} {a : α}

lemma exec_once_eq_ok : exec (once table key make) s = (.ok a, t) ↔
    (table.entries s.derived).lookup key = some a ∧ t = s ∨
      (table.entries s.derived).lookup key = none ∧ ∃ u, exec make s = (.ok a, u) ∧
        t = { u with derived := table.record u.derived key a } := by
  rw [once, exec_get_bind]
  cases (table.entries s.derived).lookup key with
  | some b =>
    rw [exec_pure]
    constructor
    · intro h
      cases h
      exact .inl ⟨rfl, rfl⟩
    · rintro (⟨h, rfl⟩ | ⟨h, -⟩) <;> cases h
      rfl
  | none =>
    simp only [exec_bind_eq_ok]
    constructor
    · rintro ⟨b, u, hu, _, v, hv, h⟩
      cases hv
      cases h
      exact .inr ⟨trivial, u, hu, rfl⟩
    · rintro (⟨h, -⟩ | ⟨-, u, hu, rfl⟩)
      · cases h
      · exact ⟨a, u, hu, (), _, rfl, rfl⟩

lemma exec_entryOf_eq_ok {ref : EntryRef} {entry : EnumEntry} :
    exec (entryOf ref) s = (.ok entry, t) ↔ s.module.entry? ref = some entry ∧ t = s :=
  exec_ofOption_eq_ok

lemma exec_addField (f : Field) (s : Session) :
    exec (addField f) s =
      (.ok ⟨s.module.fields.size⟩, { s with module := (s.module.addField f).2 }) := rfl

lemma exec_addFunction (f : Function) (s : Session) :
    exec (addFunction f) s =
      (.ok ⟨s.module.functions.size⟩, { s with module := (s.module.addFunction f).2 }) := rfl

lemma exec_addClass (c : Class) (s : Session) :
    exec (addClass c) s =
      (.ok ⟨s.module.classes.size⟩, { s with module := (s.module.addClass c).2 }) := rfl

end

def entryFieldFor (entry : EnumEntry) (owner : Class) : Field where
  name := entry.name
  type := owner.type
  parent := .inClass entry.owner
  status := Status.publicFinal.withFlags staticFinal
  origin := .fieldForEnumEntry

def interfaceCompanionFieldFor (ref : ClassRef) (c : Class) : Field where
  name := .interfaceCompanionInstance
  type := c.type
  parent := .inClass ref
  status := (Status.make .packagePriv .final).withFlags staticFinal
  origin := .interfaceCompanionPrivateInstance

def defaultImplsFor (ref : ClassRef) (id : ClassId) : Class :=
  { Class.make id .plain (.inClass ref) with origin := .defaultImpls }

namespace Session

def implsPath (s : Session) (c : Class) : String := ClassId.nestedPath s.names c.id .defaultImpls

def frame (s : Session) (names : Interner) (functions : Array Function) : Session :=
  { s with names := names, module := { s.module with functions := functions } }

def accessorText? (s : Session) (ref : FunctionRef) (f : Function) : Option String :=
  f.property.bind fun p => (s.module.property? p).bind fun property =>
    if property.getter = some ref then some ("get_" ++ s.names.text property.name)
    else if property.setter = some ref then some ("set_" ++ s.names.text property.name)
    else none

def platformNaming (s : Session) (ref : FunctionRef) (f : Function) : Name × Interner :=
  match s.accessorText? ref f with
  | some text => s.names.intern text
  | none => (f.name, s.names)

end Session

namespace Derived.Key

/-- What is made before the row itself: a member that needs its instance is called on it. -/
def first (m : Module) : Key → List Key
  | .staticPair ref => (m.function? ref).toList.flatMap fun f =>
      if f.isExternal || f.dispatchReceiver.isNone then []
      else (f.parent.class?.map Key.instanceField).toList
  | _ => []

def lacking (m : Module) (d : Derived) (k : Key) : List Key :=
  if (d.at? k).isSome then [] else (k.first m).filter (fun k => (d.at? k).isNone) ++ [k]

def texts (s : Session) : Key → List String
  | .staticPair ref => (s.module.function? ref).toList.flatMap fun f =>
      if f.isExternal then ["<this>"] else (s.accessorText? ref f).toList
  | .defaultImpls ref => (s.module.class? ref).toList.map s.implsPath
  | _ => []

lemma first_cases (m : Module) (k : Key) : k.first m = [] ∨
    ∃ ref c, k = .staticPair ref ∧ k.first m = [.instanceField c] := by
  cases k with
  | staticPair ref =>
    cases hf : m.function? ref with
    | none => exact .inl (by simp [first, hf])
    | some f =>
      have hfirst : (staticPair ref).first m =
          if f.isExternal || f.dispatchReceiver.isNone then []
          else (f.parent.class?.map instanceField).toList := by
        simp only [first, hf, Option.toList_some, List.flatMap_singleton]
      rw [hfirst]
      split
      · exact .inl rfl
      · cases f.parent.class? with
        | none => exact .inl rfl
        | some c => exact .inr ⟨ref, c, rfl, rfl⟩
  | entryField _ => exact .inl rfl
  | instanceField _ => exact .inl rfl
  | interfaceCompanionField _ => exact .inl rfl
  | defaultImpls _ => exact .inl rfl
  | redirection _ => exact .inl rfl

lemma exists_of_mem_first {m : Module} {k other : Key} (h : other ∈ k.first m) :
    ∃ ref f c, k = .staticPair ref ∧ m.function? ref = some f ∧ f.parent.class? = some c ∧
      other = .instanceField c := by
  cases k with
  | staticPair ref =>
    simp only [first, List.mem_flatMap, Option.mem_toList] at h
    obtain ⟨f, hf, h⟩ := h
    split at h
    · cases h
    · obtain ⟨c, hc, rfl⟩ := Option.map_eq_some_iff.mp (Option.mem_toList.mp h)
      exact ⟨ref, f, c, rfl, hf, hc, rfl⟩
  | entryField _ => cases h
  | instanceField _ => cases h
  | interfaceCompanionField _ => cases h
  | defaultImpls _ => cases h
  | redirection _ => cases h

lemma ne_of_mem_first {m : Module} {k other : Key} (h : other ∈ k.first m) : other ≠ k := by
  obtain ⟨_, _, _, rfl, -, -, rfl⟩ := exists_of_mem_first h
  simp

end Derived.Key

namespace Request

def inInterface (m : Module) (ref : ClassRef) : Bool :=
  (m.class? ref).any Class.isCompanion && m.inInterface ref

def row (m : Module) : (r : Request) → r.Result → Row
  | .entryField ref, field => .entryField ref field
  | .instanceField ref, field => .instanceField ref field
  | .privateInstanceField ref, field =>
    if inInterface m ref then .interfaceCompanionField ref field else .instanceField ref field
  | .staticPair ref, pair => .staticPair ref pair
  | .defaultImpls ref, impls => .defaultImpls ref impls
  | .redirection ref, bridge => .redirection ref bridge

end Request

def PlatformName (s u : Session) (ref : FunctionRef) (f : Function) (name : Name) : Prop :=
  match s.accessorText? ref f with
  | some text => u.names.get? text = some name
  | none => name = f.name

def ReceiverIn (u : Session) (companionRef : ClassRef) (f : Function) (receiver : List Expr) :
    Prop :=
  if f.dispatchReceiver.isSome then
    ∃ field, u.derived.at? (.instanceField companionRef) =
      some (.instanceField companionRef field) ∧ receiver = [.field field]
  else receiver = []

/-- The declarations recorded in a row are in `u` what the declarations of `s` demand. -/
inductive Derived.Row.Described (s u : Session) : Row → Prop
  | entryField {ref : EntryRef} {field : FieldRef} {entry : EnumEntry} {owner : Class} :
      s.module.entry? ref = some entry → s.module.class? entry.owner = some owner →
      u.module.field? field = some (entryFieldFor entry owner) →
      Described s u (.entryField ref field)
  | instanceField {ref : ClassRef} {field : FieldRef} {c : Class} :
      s.module.class? ref = some c →
      u.module.field? field = some (instanceFieldFor s.settings ref c (s.module.outer? ref)) →
      Described s u (.instanceField ref field)
  | interfaceCompanionField {ref : ClassRef} {field : FieldRef} {c : Class} :
      s.module.class? ref = some c →
      u.module.field? field = some (interfaceCompanionFieldFor ref c) →
      Described s u (.interfaceCompanionField ref field)
  | memberPair {ref static : FunctionRef} {f : Function} {companionRef ownerRef : ClassRef}
      {companion owner : Class} {name : Name} {receiver : List Expr} :
      s.module.function? ref = some f → f.isExternal = false →
      f.parent.class? = some companionRef → s.module.class? companionRef = some companion →
      companion.isCompanion = true → companion.parent.class? = some ownerRef →
      s.module.class? ownerRef = some owner → PlatformName s u ref f name →
      ReceiverIn u companionRef f receiver →
      u.module.function? static = some
        (callThrough static (forwarderHead ownerRef owner ref f name none) ref receiver) →
      Described s u (.staticPair ref ⟨static, ref⟩)
  | externalPair {ref static forwarder : FunctionRef} {f : Function} {companionRef : ClassRef}
      {companion : Class} {this : Name} :
      s.module.function? ref = some f → f.isExternal = true →
      f.parent.class? = some companionRef → s.module.class? companionRef = some companion →
      companion.isCompanion = true → u.names.get? "<this>" = some this → forwarder ≠ ref →
      u.module.function? static = some (siblingFor ref f companion.parent) →
      u.module.function? forwarder = some
        (callThrough forwarder
          (forwarderHead companionRef companion static (siblingFor ref f companion.parent) f.name
            (some ⟨this, companion.type, .dispatch⟩)) static []) →
      Described s u (.staticPair ref ⟨static, forwarder⟩)
  | defaultImpls {ref impls : ClassRef} {c : Class} {relative : Name} :
      s.module.class? ref = some c → u.names.get? (s.implsPath c) = some relative →
      u.module.class? impls = some (defaultImplsFor ref ⟨c.id.package, relative, .defaultImpls⟩) →
      Described s u (.defaultImpls ref impls)
  | redirection {ref bridge : FunctionRef} {f : Function} {ownerRef : ClassRef} {owner : Class} :
      s.module.function? ref = some f → f.isFakeOverride = true →
      f.parent.class? = some ownerRef → s.module.class? ownerRef = some owner →
      u.module.function? bridge = some (bridgeFor ownerRef owner f) →
      Described s u (.redirection ref bridge)

namespace Session

structure Describes (s : Session) (added : List Row) (u : Session) : Prop where
  rows : ∀ e ∈ added, e.Described s u
  texts : ∀ text, text ∈ u.names.texts ↔
    text ∈ s.names.texts ∨ ∃ e ∈ added, text ∈ e.key.texts s

def Obtains (t : Session) (e : Row) (u : Session) : Prop :=
  ∃ new added, t.Makes new added u ∧ added.map Row.key = e.key.lacking t.module t.derived ∧
    u.derived.at? e.key = some e ∧ (t.module.WellFormed → t.Describes added u)

end Session

section

variable {s t u : Session} {new : Additions} {added : List Row} {e : Row}

lemma obtains_of_at? (h : t.derived.at? e.key = some e) : t.Obtains e t := by
  refine ⟨_, [], .refl t, ?_, h, fun _ => ⟨by simp, by simp⟩⟩
  simp [Key.lacking, h]

lemma obtains_of_first {v : Session} {new' : Additions} (hnone : t.derived.at? e.key = none)
    (hm : t.Makes new added v) (hkeys : added.map Row.key =
      (e.key.first t.module).filter fun k => (t.derived.at? k).isNone)
    (hstep : v.Makes new' [e] u) (hd : t.module.WellFormed → t.Describes (added ++ [e]) u) :
    t.Obtains e u := by
  have hmade := hm.trans hstep
  refine ⟨_, added ++ [e], hmade, ?_, ?_, hd⟩
  · rw [List.map_append, hkeys, Key.lacking]
    simp [hnone]
  · have hother : added.find? (fun x => x.key = e.key) = none := by
      apply List.find?_eq_none.mpr
      intro x hx
      have hmem := List.mem_map_of_mem (f := Row.key) hx
      rw [hkeys] at hmem
      simpa using Key.ne_of_mem_first (List.mem_filter.mp hmem).1
    rw [hmade.derived, at?_recordAll, hnone, Option.none_or, List.find?_append, hother]
    simp

lemma obtains_of_makes (hnone : t.derived.at? e.key = none) (hfirst : e.key.first t.module = [])
    (hm : t.Makes new [e] u) (hd : t.module.WellFormed → t.Describes [e] u) : t.Obtains e u :=
  obtains_of_first hnone (.refl t) (by simp [hfirst]) hm hd

lemma makes_field {f : Field} (hc : e.classes = []) (hf : e.functions = [])
    (he : e.fields = [⟨t.module.fields.size⟩]) :
    t.Makes ⟨#[], #[], #[f]⟩ [e]
      { t with module := (t.module.addField f).2, derived := t.derived.record e } := by
  constructor
  case module => simp [Module.append, Module.addField]
  case derived => rfl
  case names => exact .refl
  all_goals simp [hc, hf, he]

lemma makes_functions {names : Interner} {functions : Array Function} (hn : Later t.names names)
    (hc : e.classes = []) (hf : e.fields = [])
    (he : e.functions =
      (List.range' t.module.functions.size functions.size).map FunctionRef.mk) :
    t.Makes ⟨#[], functions, #[]⟩ [e]
      { t.frame names (t.module.functions ++ functions) with derived := t.derived.record e } := by
  constructor
  case module => simp [Module.append, frame]
  case derived => rfl
  case names => exact hn
  all_goals simp [hc, hf, he, frame]

lemma makes_class {names : Interner} {c : Class} (hn : Later t.names names) {owner : ClassRef}
    (hp : c.parent = .inClass owner) (hf : e.functions = []) (hg : e.fields = [])
    (he : e.classes = [⟨t.module.classes.size⟩]) :
    t.Makes ⟨#[c], #[], #[]⟩ [e]
      { t with
        names := names
        module := (t.module.addClass c).2
        derived := t.derived.record e } := by
  constructor
  case module => simp [Module.append, Module.addClass, hp]
  case derived => rfl
  case names => exact hn
  all_goals simp [hf, hg, he]

lemma describes_plain (h : e.Described t u) (hn : u.names = t.names) (ht : e.key.texts t = []) :
    t.Describes [e] u where
  rows := by simpa using h
  texts text := by simp [hn, ht]

end

lemma obtains_entryField {t u : Session} {ref : EntryRef} {field : FieldRef}
    (h : exec (entryField ref) t = (.ok field, u)) : t.Obtains (.entryField ref field) u := by
  rcases exec_once_eq_ok.mp h with ⟨hl, rfl⟩ | ⟨hl, v, hmake, rfl⟩
  · exact obtains_of_at? (congrArg (Option.map (Row.entryField ref)) hl)
  · simp only [newEntryField, exec_bind_eq_ok, exec_entryOf_eq_ok, exec_classOf_eq_ok] at hmake
    obtain ⟨entry, _, ⟨hentry, rfl⟩, owner, _, ⟨howner, rfl⟩, hadd⟩ := hmake
    rw [exec_addField] at hadd
    cases hadd
    refine obtains_of_makes (congrArg (Option.map (Row.entryField ref)) hl) rfl
      (makes_field rfl rfl rfl) fun _ => describes_plain ?_ rfl rfl
    exact .entryField hentry howner Array.getElem?_push_size

lemma obtains_instanceField {t u : Session} {ref : ClassRef} {field : FieldRef}
    (h : exec (instanceField ref) t = (.ok field, u)) : t.Obtains (.instanceField ref field) u := by
  rcases exec_once_eq_ok.mp h with ⟨hl, rfl⟩ | ⟨hl, v, hmake, rfl⟩
  · exact obtains_of_at? (congrArg (Option.map (Row.instanceField ref)) hl)
  · simp only [newInstanceField, exec_bind_eq_ok, exec_classOf_eq_ok, exec_outerOf_eq_ok] at hmake
    obtain ⟨c, _, ⟨hc, rfl⟩, _, _, ⟨-, rfl, rfl⟩, _, _, hget, hadd⟩ := hmake
    cases hget
    rw [exec_addField] at hadd
    cases hadd
    refine obtains_of_makes (congrArg (Option.map (Row.instanceField ref)) hl) rfl
      (makes_field rfl rfl rfl) fun _ => describes_plain ?_ rfl rfl
    exact .instanceField hc Array.getElem?_push_size

lemma obtains_privateInstanceField {t u : Session} {ref : ClassRef} {field : FieldRef}
    (h : exec (privateInstanceField ref) t = (.ok field, u)) :
    t.Obtains ((Request.privateInstanceField ref).row t.module field) u := by
  obtain ⟨c, hc, hin⟩ := class?_of_exec_privateInstanceField h
  have hinside : Request.inInterface t.module ref =
      (c.isCompanion && t.module.inInterface ref) := by
    rw [Request.inInterface, hc, Option.any_some]
  rw [exec_privateInstanceField hc hin] at h
  have hrow : (Request.privateInstanceField ref).row t.module field =
      if Request.inInterface t.module ref then .interfaceCompanionField ref field
      else .instanceField ref field := rfl
  rw [hrow, hinside]
  split at h
  · rw [if_pos ‹_›]
    rcases exec_once_eq_ok.mp h with ⟨hl, rfl⟩ | ⟨hl, v, hmake, rfl⟩
    · exact obtains_of_at? (congrArg (Option.map (Row.interfaceCompanionField ref)) hl)
    · rw [newInterfaceCompanionField, exec_addField] at hmake
      cases hmake
      refine obtains_of_makes (congrArg (Option.map (Row.interfaceCompanionField ref)) hl) rfl
        (makes_field rfl rfl rfl) fun _ => describes_plain ?_ rfl rfl
      exact .interfaceCompanionField hc Array.getElem?_push_size
  · rw [if_neg ‹_›]
    exact obtains_instanceField h

lemma obtains_redirection {t u : Session} {ref bridge : FunctionRef}
    (h : exec (redirection ref) t = (.ok bridge, u)) : t.Obtains (.redirection ref bridge) u := by
  rcases exec_once_eq_ok.mp h with ⟨hl, rfl⟩ | ⟨hl, v, hmake, rfl⟩
  · exact obtains_of_at? (congrArg (Option.map (Row.redirection ref)) hl)
  · simp only [newRedirection, exec_bind_eq_ok, exec_functionOf_eq_ok] at hmake
    obtain ⟨f, _, ⟨hf, rfl⟩, hmake⟩ := hmake
    split at hmake <;> rename_i hfake
    · simp only [exec_bind_eq_ok, exec_parentClass_eq_ok, exec_classOf_eq_ok] at hmake
      obtain ⟨ownerRef, _, ⟨⟨g, hg, hp⟩, rfl⟩, owner, _, ⟨ho, rfl⟩, hadd⟩ := hmake
      cases hf.symm.trans hg
      rw [exec_addFunction, Module.addFunction, Array.push_eq_append] at hadd
      cases hadd
      refine obtains_of_makes (congrArg (Option.map (Row.redirection ref)) hl) rfl
        (makes_functions .refl rfl rfl rfl) fun _ => describes_plain ?_ rfl rfl
      refine .redirection hf hfake hp ho ?_
      rw [← Array.push_eq_append]
      exact Array.getElem?_push_size
    · cases hmake

lemma obtains_defaultImpls {t u : Session} {ref impls : ClassRef}
    (h : exec (defaultImpls ref) t = (.ok impls, u)) : t.Obtains (.defaultImpls ref impls) u := by
  rcases exec_once_eq_ok.mp h with ⟨hl, rfl⟩ | ⟨hl, v, hmake, rfl⟩
  · exact obtains_of_at? (congrArg (Option.map (Row.defaultImpls ref)) hl)
  · simp only [newDefaultImpls, exec_bind_eq_ok, exec_classOf_eq_ok] at hmake
    obtain ⟨c, _, ⟨hc, rfl⟩, id, _, hid, hadd⟩ := hmake
    replace hid := exec_nested_eq_ok hid
    rw [exec_naming, ClassId.run_nested] at hid
    cases hid
    rw [exec_addClass] at hadd
    cases hadd
    refine obtains_of_makes (congrArg (Option.map (Row.defaultImpls ref)) hl) rfl
      (makes_class (later_intern _ _) rfl rfl rfl rfl) fun _ => ⟨?_, fun text => ?_⟩
    · simp only [List.mem_singleton, forall_eq]
      exact .defaultImpls hc (get?_intern _ _) Array.getElem?_push_size
    · simp [mem_texts_intern, Key.texts, Row.key, hc, implsPath]

section

variable {s t u : Session}

lemma exec_platformName_ok {ref : FunctionRef} {f : Function} {name : Name}
    (hf : s.module.function? ref = some f) (h : exec (platformName ref) s = (.ok name, t)) :
    name = (s.platformNaming ref f).1 ∧
      t = { s with names := (s.platformNaming ref f).2 } := by
  rw [platformName, exec_bind_ok (exec_functionOf_eq_ok.mpr ⟨hf, rfl⟩)] at h
  cases hprop : f.property with
  | none =>
    simp only [hprop] at h
    cases h
    simp [platformNaming, accessorText?, hprop]
  | some p =>
    simp only [hprop, exec_bind_eq_ok, exec_propertyOf_eq_ok] at h
    obtain ⟨property, _, ⟨hp, rfl⟩, h⟩ := h
    simp only [platformNaming, accessorText?, hprop, hp, Option.bind_some]
    split at h
    · rw [if_pos ‹_›]
      obtain ⟨text, _, htext, h⟩ := exec_bind_eq_ok.mp h
      obtain ⟨rfl, rfl⟩ := text_of_exec_textOf htext
      cases h
      exact ⟨rfl, rfl⟩
    · rw [if_neg ‹_›]
      split at h
      · rw [if_pos ‹_›]
        obtain ⟨text, _, htext, h⟩ := exec_bind_eq_ok.mp h
        obtain ⟨rfl, rfl⟩ := text_of_exec_textOf htext
        cases h
        exact ⟨rfl, rfl⟩
      · rw [if_neg ‹_›]
        cases h
        exact ⟨rfl, rfl⟩

def receiverNaming (names : Interner) (owner : Class) (isStatic : Bool) : Option Param × Interner :=
  if isStatic then (none, names)
  else (some ⟨(names.intern "<this>").1, owner.type, .dispatch⟩, (names.intern "<this>").2)

lemma exec_forwarderReceiver_eq (owner : Class) (isStatic : Bool) (s : Session) :
    exec (forwarderReceiver owner isStatic) s =
      (.ok (receiverNaming s.names owner isStatic).1,
        { s with names := (receiverNaming s.names owner isStatic).2 }) := by
  cases isStatic <;> rfl

lemma exec_instanceField_frame {names : Interner} {functions : Array Function} {ref : ClassRef}
    {field : FieldRef} (h : exec (instanceField ref) (s.frame names functions) = (.ok field, t)) :
    ∃ v, exec (instanceField ref) s = (.ok field, v) ∧ t = v.frame names functions := by
  rcases exec_once_eq_ok.mp h with ⟨hl, rfl⟩ | ⟨hl, x, hmake, rfl⟩
  · exact ⟨s, exec_once_eq_ok.mpr (.inl ⟨hl, rfl⟩), rfl⟩
  · simp only [newInstanceField, exec_bind_eq_ok, exec_classOf_eq_ok, exec_outerOf_eq_ok] at hmake
    obtain ⟨c, _, ⟨hc, rfl⟩, _, _, ⟨hin, rfl, rfl⟩, _, _, hget, hadd⟩ := hmake
    cases hget
    rw [exec_addField] at hadd
    cases hadd
    let made := instanceFieldFor s.settings ref c (s.module.outer? ref)
    have hmade : exec (newInstanceField ref) s =
        (.ok ⟨s.module.fields.size⟩, { s with module := (s.module.addField made).2 }) := by
      simp only [newInstanceField, exec_bind_eq_ok, exec_classOf_eq_ok, exec_outerOf_eq_ok]
      exact ⟨c, s, ⟨hc, rfl⟩, _, s, ⟨hin, rfl, rfl⟩, s, s, rfl, rfl⟩
    exact ⟨_, exec_once_eq_ok.mpr (.inr ⟨hl, _, hmade, rfl⟩), rfl⟩

lemma exec_receiverArgument_frame {names : Interner} {functions : Array Function}
    {targetRef : FunctionRef} {target : Function} {receiver : List Expr}
    (hs : s.module.function? targetRef = some target)
    (hf : (s.frame names functions).module.function? targetRef = some target)
    (h : exec (receiverArgument targetRef target) (s.frame names functions) = (.ok receiver, t)) :
    ∃ v, exec (receiverArgument targetRef target) s = (.ok receiver, v) ∧
      t = v.frame names functions := by
  rw [receiverArgument] at h ⊢
  split at h
  · simp only [exec_bind_eq_ok, exec_parentClass_eq_ok] at h
    obtain ⟨c, _, ⟨⟨g, hg, hp⟩, rfl⟩, field, w, hfield, hpure⟩ := h
    cases hf.symm.trans hg
    cases hpure
    obtain ⟨v, hv, rfl⟩ := exec_instanceField_frame hfield
    refine ⟨v, ?_, rfl⟩
    rw [if_pos ‹_›]
    simp only [exec_bind_eq_ok, exec_parentClass_eq_ok]
    exact ⟨c, s, ⟨⟨target, hs, hp⟩, rfl⟩, field, v, hv, rfl⟩
  · cases h
    exact ⟨s, by rw [if_neg ‹_›]; rfl, rfl⟩

/-- A forwarder is added before its receiver is asked for, but it might as well be added after. -/
lemma exec_forwarder_ok {ownerRef : ClassRef} {ref targetRef : FunctionRef} {isStatic : Bool}
    (h : exec (forwarder ownerRef targetRef isStatic) s = (.ok ref, u)) :
    ∃ owner target receiver v, s.module.class? ownerRef = some owner ∧
      s.module.function? targetRef = some target ∧
      exec (receiverArgument targetRef target) s = (.ok receiver, v) ∧
      ref = ⟨s.module.functions.size⟩ ∧
      let naming := s.platformNaming targetRef target
      let own := receiverNaming naming.2 owner isStatic
      let head := forwarderHead ownerRef owner targetRef target naming.1 own.1
      u = v.frame own.2 (s.module.functions.push (callThrough ref head targetRef receiver)) := by
  simp only [forwarder, exec_bind_eq_ok, exec_classOf_eq_ok, exec_functionOf_eq_ok] at h
  obtain ⟨owner, _, ⟨howner, rfl⟩, target, _, ⟨htarget, rfl⟩, name, _, hname, own, _, hown, new, w,
    hadd, receiver, x, hreceiver, _, _, hset, hpure⟩ := h
  obtain ⟨rfl, rfl⟩ := exec_platformName_ok htarget hname
  rw [exec_forwarderReceiver_eq] at hown
  cases hown
  rw [exec_addFunction] at hadd
  cases hadd
  cases hset
  cases hpure
  obtain ⟨v, hv, rfl⟩ := exec_receiverArgument_frame htarget (function?_push htarget) hreceiver
  refine ⟨owner, target, receiver, v, howner, htarget, hv, rfl, ?_⟩
  simp only [frame, Module.setFunction, set_last]

end

lemma PlatformName.later {s u w : Session} {ref : FunctionRef} {f : Function} {name : Name}
    (h : PlatformName s u ref f name) (hw : Later u.names w.names) :
    PlatformName s w ref f name := by
  rw [PlatformName] at h ⊢
  split at h
  · exact hw.get? h
  · exact h

lemma ReceiverIn.makes {u w : Session} {companionRef : ClassRef} {f : Function}
    {receiver : List Expr} {new : Additions} {added : List Row}
    (h : ReceiverIn u companionRef f receiver) (hw : u.Makes new added w) :
    ReceiverIn w companionRef f receiver := by
  rw [ReceiverIn] at h ⊢
  split at h
  · rw [if_pos ‹_›]
    obtain ⟨field, hfield, rfl⟩ := h
    exact ⟨field, hw.at?_of_some hfield, rfl⟩
  · rw [if_neg ‹_›]
    exact h

lemma Derived.Row.Described.makes {s u w : Session} {e : Row} {new : Additions}
    {added : List Row} (h : e.Described s u) (hw : u.Makes new added w) : e.Described s w := by
  cases h with
  | entryField hentry howner hfield => exact .entryField hentry howner (hw.field?_of_some hfield)
  | instanceField hc hfield => exact .instanceField hc (hw.field?_of_some hfield)
  | interfaceCompanionField hc hfield =>
    exact .interfaceCompanionField hc (hw.field?_of_some hfield)
  | memberPair hf hmember hp hc hcomp howner ho hname hreceiver hstatic =>
    exact .memberPair hf hmember hp hc hcomp howner ho (hname.later hw.names)
      (hreceiver.makes hw) (hw.function?_of_some hstatic)
  | externalPair hf hexternal hp hc hcomp hthis hne hstatic hforwarder =>
    exact .externalPair hf hexternal hp hc hcomp (hw.names.get? hthis) hne
      (hw.function?_of_some hstatic) (hw.function?_of_some hforwarder)
  | defaultImpls hc hpath himpls =>
    exact .defaultImpls hc (hw.names.get? hpath) (hw.class?_of_some himpls)
  | redirection hf hfake hp ho hbridge =>
    exact .redirection hf hfake hp ho (hw.function?_of_some hbridge)

section

variable {t u v : Session} {ref : FunctionRef} {f : Function}

lemma mem_texts_platformNaming (s : Session) (ref : FunctionRef) (f : Function) (text : String) :
    text ∈ (s.platformNaming ref f).2.texts ↔
      text ∈ s.names.texts ∨ text ∈ (s.accessorText? ref f).toList := by
  rw [platformNaming]
  cases s.accessorText? ref f with
  | none => simp
  | some other => simp [mem_texts_intern]

lemma later_platformNaming (s : Session) (ref : FunctionRef) (f : Function) :
    Later s.names (s.platformNaming ref f).2 := by
  rw [platformNaming]
  cases s.accessorText? ref f with
  | none => exact .refl
  | some text => exact later_intern s.names text

lemma platformName_platformNaming (hn : u.names = (t.platformNaming ref f).2) :
    PlatformName t u ref f (t.platformNaming ref f).1 := by
  rw [PlatformName]
  cases h : t.accessorText? ref f with
  | none => simp [platformNaming, h]
  | some text =>
    rw [hn, platformNaming, h]
    exact get?_intern t.names text

lemma accessorText?_of_new (hw : t.module.WellFormed) (h : ¬t.module.HasFunction ref) :
    t.accessorText? ref f = none := by
  rw [accessorText?]
  cases hprop : f.property with
  | none => rfl
  | some p =>
    rw [Option.bind_some]
    cases hp : t.module.property? p with
    | none => rfl
    | some property =>
      have hmem : property ∈ t.module.properties := Array.mem_of_getElem? hp
      rw [Option.bind_some, if_neg, if_neg]
      · exact fun hs => h (hw.setters property hmem ref hs)
      · exact fun hg => h (hw.getters property hmem ref hg)

lemma exec_receiverArgument_ok {companionRef : ClassRef} {receiver : List Expr}
    (hf : t.module.function? ref = some f) (hp : f.parent.class? = some companionRef)
    (h : exec (receiverArgument ref f) t = (.ok receiver, v)) :
    v.names = t.names ∧ v.module.functions = t.module.functions ∧
      ReceiverIn v companionRef f receiver ∧
      ∃ new added, t.Makes new added v ∧ (t.module.WellFormed → t.Describes added v) ∧
        added.map Row.key =
          (if f.dispatchReceiver.isNone then [] else [Key.instanceField companionRef]).filter
            fun k => (t.derived.at? k).isNone := by
  have hframed : exec (receiverArgument ref f) (t.frame t.names t.module.functions) =
      (.ok receiver, v) := h
  obtain ⟨w, hw, hkept⟩ := exec_receiverArgument_frame hf hf hframed
  cases h.symm.trans hw
  refine ⟨by rw [hkept]; rfl, by rw [hkept]; rfl, ?_⟩
  clear hw hkept hframed
  rw [receiverArgument] at h
  rw [ReceiverIn]
  split at h <;> rename_i hreceiver
  · simp only [exec_bind_eq_ok, exec_parentClass_eq_ok] at h
    obtain ⟨c, t, ⟨⟨g, hg, hc⟩, rfl⟩, field, _, hfield, hpure⟩ := h
    cases hf.symm.trans hg
    cases hp.symm.trans hc
    cases hpure
    obtain ⟨new, added, hm, hkeys, hat, hd⟩ := obtains_instanceField hfield
    rw [if_pos hreceiver]
    refine ⟨⟨field, hat, rfl⟩, new, added, hm, hd, ?_⟩
    rw [hkeys, Key.lacking]
    cases hrecorded : t.derived.at? (Key.instanceField companionRef) <;>
      simp [Row.key, Key.first, hrecorded, Option.isSome_iff_ne_none.mp hreceiver]
  · cases h
    rw [if_neg hreceiver]
    refine ⟨rfl, _, [], .refl t, fun _ => ⟨by simp, by simp⟩, ?_⟩
    simp [Option.not_isSome_iff_eq_none.mp hreceiver]

lemma obtains_memberPair {companionRef ownerRef : ClassRef} {companion : Class}
    {static : FunctionRef} (hnone : t.derived.at? (.staticPair ref) = none)
    (hf : t.module.function? ref = some f) (hmember : f.isExternal = false)
    (hp : f.parent.class? = some companionRef) (hc : t.module.class? companionRef = some companion)
    (hcomp : companion.isCompanion = true) (howner : companion.parent.class? = some ownerRef)
    (h : exec (forwarder ownerRef ref true) t = (.ok static, u)) :
    let e := Row.staticPair ref ⟨static, ref⟩
    t.Obtains e { u with derived := u.derived.record e } := by
  obtain ⟨owner, target, receiver, v, ho, ht, hreceiver, rfl, hu⟩ := exec_forwarder_ok h
  cases hf.symm.trans ht
  intro e
  obtain ⟨hnames, hfunctions, hin, new, added, hm, hd, hkeys⟩ :=
    exec_receiverArgument_ok hf hp hreceiver
  let g := callThrough ⟨t.module.functions.size⟩
    (forwarderHead ownerRef owner ref f (t.platformNaming ref f).1 none) ref receiver
  have hu' : u = v.frame (t.platformNaming ref f).2 (v.module.functions ++ #[g]) := by
    rw [hu, hfunctions, ← Array.push_eq_append]
    rfl
  have hstep : v.Makes ⟨#[], #[g], #[]⟩ [e] { u with derived := u.derived.record e } := by
    rw [hu']
    refine makes_functions ?_ rfl rfl ?_
    · rw [hnames]
      exact later_platformNaming t ref f
    · simp [e, Row.functions, hfunctions]
  refine obtains_of_first hnone hm ?_ hstep fun hw => ⟨?_, fun text => ?_⟩
  · rw [hkeys]
    simp [e, Row.key, Key.first, hf, hmember, hp]
  · refine List.forall_mem_append.mpr ⟨fun x hx => ((hd hw).rows x hx).makes hstep, ?_⟩
    simp only [List.mem_singleton, forall_eq]
    have hname : PlatformName t { u with derived := u.derived.record e } ref f
        (t.platformNaming ref f).1 := platformName_platformNaming (by rw [hu']; rfl)
    refine .memberPair hf hmember hp hc hcomp howner ho hname (hin.makes hstep) ?_
    rw [hu', hfunctions, ← Array.push_eq_append]
    exact Array.getElem?_push_size
  · have hkept := (hd hw).texts text
    rw [hnames] at hkept
    have hlast : text ∈ e.key.texts t ↔ text ∈ (t.accessorText? ref f).toList := by
      simp [e, Row.key, Key.texts, hf, hmember]
    have hall : (∃ x ∈ added ++ [e], text ∈ x.key.texts t) ↔
        (∃ x ∈ added, text ∈ x.key.texts t) ∨ text ∈ (t.accessorText? ref f).toList := by
      rw [← hlast]
      simp [or_and_right, exists_or]
    rw [hall, ← or_assoc, ← hkept, ← mem_texts_platformNaming, hu']
    rfl

lemma exec_externalPair_ok {companionRef : ClassRef} {companion : Class}
    {static forward : FunctionRef} (hf : t.module.function? ref = some f)
    (hc : t.module.class? companionRef = some companion)
    (hs : exec (staticSibling ref companion.parent) t = (.ok static, v))
    (h : exec (forwarder companionRef static false) v = (.ok forward, u)) :
    let copy := siblingFor ref f companion.parent
    let naming := (t.frame t.names (t.module.functions.push copy)).platformNaming static copy
    let this : Param := ⟨(naming.2.intern "<this>").1, companion.type, .dispatch⟩
    let g := callThrough forward
      (forwarderHead companionRef companion static copy naming.1 (some this)) static []
    static = ⟨t.module.functions.size⟩ ∧ forward = ⟨t.module.functions.size + 1⟩ ∧
      u = t.frame (naming.2.intern "<this>").2 ((t.module.functions.push copy).push g) := by
  intro copy
  simp only [staticSibling, exec_bind_eq_ok, exec_functionOf_eq_ok] at hs
  obtain ⟨f', t, ⟨hf', rfl⟩, hs⟩ := hs
  cases hf.symm.trans hf'
  rw [exec_addFunction] at hs
  cases hs
  obtain ⟨owner, target, receiver, v, ho, ht, hreceiver, rfl, hu⟩ := exec_forwarder_ok h
  cases hc.symm.trans ho
  obtain rfl : target = copy := Option.some.inj (ht.symm.trans Array.getElem?_push_size)
  -- the copy has no receiver, so nothing is asked for it
  have hplain : copy.dispatchReceiver = none :=
    Function.dispatchReceiver_eq_none f.nonDispatchParams_isDispatch
  rw [receiverArgument, hplain] at hreceiver
  cases hreceiver
  exact ⟨rfl, congrArg FunctionRef.mk (Array.size_push _), hu⟩

lemma obtains_externalPair {companionRef : ClassRef} {companion : Class}
    {static forward : FunctionRef} (hnone : t.derived.at? (.staticPair ref) = none)
    (hf : t.module.function? ref = some f) (hexternal : f.isExternal = true)
    (hp : f.parent.class? = some companionRef) (hc : t.module.class? companionRef = some companion)
    (hcomp : companion.isCompanion = true)
    (hs : exec (staticSibling ref companion.parent) t = (.ok static, v))
    (h : exec (forwarder companionRef static false) v = (.ok forward, u)) :
    let e := Row.staticPair ref ⟨static, forward⟩
    t.Obtains e { u with derived := u.derived.record e } := by
  have href : ref.index < t.module.functions.size := (Array.getElem?_eq_some_iff.mp hf).1
  obtain ⟨rfl, rfl, hu⟩ := exec_externalPair_ok hf hc hs h
  intro e
  let copy := siblingFor ref f companion.parent
  let static : FunctionRef := ⟨t.module.functions.size⟩
  let forward : FunctionRef := ⟨t.module.functions.size + 1⟩
  let naming := (t.frame t.names (t.module.functions.push copy)).platformNaming static copy
  let this : Param := ⟨(naming.2.intern "<this>").1, companion.type, .dispatch⟩
  let g := callThrough forward
    (forwarderHead companionRef companion static copy naming.1 (some this)) static []
  have hpush : (t.module.functions.push copy).push g = t.module.functions ++ #[copy, g] := by
    rw [Array.push_eq_append, Array.push_eq_append, Array.append_assoc]
    rfl
  have hne : forward ≠ ref := by
    intro h
    have hindex : t.module.functions.size + 1 = ref.index := congrArg FunctionRef.index h
    omega
  have hmade : t.Makes ⟨#[], #[copy, g], #[]⟩ [e] { u with derived := u.derived.record e } := by
    rw [hu, hpush]
    have hlater := (later_platformNaming _ static copy).trans (later_intern naming.2 "<this>")
    refine makes_functions hlater rfl rfl ?_
    have hfunctions : e.functions = [static, forward] := if_neg hne
    rw [hfunctions]
    simp [static, forward, List.range']
  refine obtains_of_makes hnone ?_ hmade fun hw => ?_
  · simp [e, Row.key, Key.first, hf, hexternal]
  -- the property knows nothing of the static copy, which is therefore named like the member
  have hnaming : naming = (f.name, t.names) := by
    have htext : t.accessorText? static copy = none := accessorText?_of_new hw (Nat.lt_irrefl _)
    have hlater : (t.frame t.names (t.module.functions.push copy)).accessorText? static copy =
        none := htext
    simp only [naming, platformNaming, hlater]
    rfl
  constructor
  · simp only [List.mem_singleton, forall_eq]
    have hthis : u.names.get? "<this>" = some this.name := by
      rw [hu]
      exact get?_intern naming.2 "<this>"
    have hstatic : u.module.function? static = some copy := by
      rw [hu]
      exact function?_push (m := (t.module.addFunction copy).2) Array.getElem?_push_size
    have hforward : u.module.function? forward = some g := by
      have hlast : forward = ⟨(t.module.functions.push copy).size⟩ :=
        congrArg FunctionRef.mk (Array.size_push _).symm
      rw [hu, hlast]
      exact Array.getElem?_push_size
    have hname : naming.1 = f.name := congrArg Prod.fst hnaming
    refine .externalPair hf hexternal hp hc hcomp hthis hne hstatic ?_
    rw [← hname]
    exact hforward
  · intro text
    have hnames : u.names = (t.names.intern "<this>").2 := by
      rw [hu]
      exact congrArg (fun n : Name × Interner => (n.2.intern "<this>").2) hnaming
    change text ∈ u.names.texts ↔ _
    rw [hnames, mem_texts_intern]
    simp [e, Row.key, Key.texts, hf, hexternal]

lemma obtains_staticPair {pair : StaticPair} (h : exec (staticPair ref) t = (.ok pair, u)) :
    t.Obtains (.staticPair ref pair) u := by
  rcases exec_once_eq_ok.mp h with ⟨hl, rfl⟩ | ⟨hl, w, hmake, rfl⟩
  · exact obtains_of_at? (congrArg (Option.map (Row.staticPair ref)) hl)
  · have hnone : t.derived.at? (.staticPair ref) = none :=
      congrArg (Option.map (Row.staticPair ref)) hl
    simp only [newStaticPair, exec_bind_eq_ok, exec_parentClass_eq_ok, exec_classOf_eq_ok] at hmake
    obtain ⟨companionRef, _, ⟨⟨f, hf, hp⟩, rfl⟩, companion, _, ⟨hc, rfl⟩, hmake⟩ := hmake
    split at hmake <;> rename_i hcomp
    · simp only [exec_bind_eq_ok, exec_functionOf_eq_ok] at hmake
      obtain ⟨g, _, ⟨hg, rfl⟩, hmake⟩ := hmake
      cases hf.symm.trans hg
      split at hmake <;> rename_i hexternal
      · simp only [exec_bind_eq_ok] at hmake
        obtain ⟨static, v, hstatic, forward, x, hforward, hpure⟩ := hmake
        cases hpure
        exact obtains_externalPair hnone hf hexternal hp hc hcomp hstatic hforward
      · split at hmake <;> rename_i howner
        · simp only [exec_bind_eq_ok] at hmake
          obtain ⟨static, x, hstatic, hpure⟩ := hmake
          cases hpure
          exact obtains_memberPair hnone hf (by simpa using hexternal) hp hc hcomp howner hstatic
        · cases hmake
    · cases hmake

end

lemma Request.obtains {t u : Session} (r : Request) {a : r.Result}
    (h : exec r.work t = (.ok a, u)) : t.Obtains (r.row t.module a) u := by
  cases r with
  | entryField ref => exact obtains_entryField h
  | instanceField ref => exact obtains_instanceField h
  | privateInstanceField ref => exact obtains_privateInstanceField h
  | staticPair ref => exact obtains_staticPair h
  | defaultImpls ref => exact obtains_defaultImpls h
  | redirection ref => exact obtains_redirection h

end ClrCompiler.Decl
