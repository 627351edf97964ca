import ClrCompiler.Proofs.Decl.StoredNames

/-! What was made determines a session up to its numbers: two sessions that arise from one and have
rows for the same further keys are renumberings of each other. -/

namespace ClrCompiler.Decl

open Derive Derived Interner

section

variable (ρ : Renaming)

lemma Class.type_rename (c : Class) : (c.rename ρ).type = c.type.rename ρ.names := by
  simp [Class.type, Class.rename, TypeRef.nonNull, TypeRef.rename, TypeRef.renameAll]

lemma Function.nonDispatchParams_rename (f : Function) :
    (f.rename ρ).nonDispatchParams = f.nonDispatchParams.map (Param.rename ρ) := by
  simp only [nonDispatchParams, rename, List.filter_map]
  rfl

lemma rename_siblingFor (ref : FunctionRef) (f : Function) (owner : Parent) :
    (siblingFor ref f owner).rename ρ =
      siblingFor (ρ.functions ref) (f.rename ρ) (owner.rename ρ) := by
  rw [siblingFor, siblingFor, Function.nonDispatchParams_rename]
  rfl

lemma rename_forwarderHead (ownerRef : ClassRef) (owner : Class) (targetRef : FunctionRef)
    (target : Function) (name : Name) (receiver : Option Param) :
    (forwarderHead ownerRef owner targetRef target name receiver).rename ρ =
      forwarderHead (ρ.classes ownerRef) owner (ρ.functions targetRef) (target.rename ρ)
        (ρ.names name) (receiver.map (Param.rename ρ)) := by
  rw [forwarderHead, forwarderHead, Function.nonDispatchParams_rename]
  cases receiver <;> simp [Function.rename, Function.make, Parent.rename]

lemma rename_passedOn (ref : FunctionRef) (params : List Param) :
    (passedOn ref params).map (Expr.rename ρ) =
      passedOn (ρ.functions ref) (params.map (Param.rename ρ)) := by
  rw [passedOn, passedOn, List.zipIdx_map, List.filter_map, List.map_map, List.map_map]
  rfl

lemma rename_callThrough (ref : FunctionRef) (head : Function) (targetRef : FunctionRef)
    (receiver : List Expr) :
    (callThrough ref head targetRef receiver).rename ρ =
      callThrough (ρ.functions ref) (head.rename ρ) (ρ.functions targetRef)
        (receiver.map (Expr.rename ρ)) := by
  simp only [callThrough, Function.rename, Option.map_some, Body.rename, Expr.rename,
    Expr.renameAll_eq_map, List.map_append, rename_passedOn]

lemma rename_bridgeFor (ownerRef : ClassRef) (owner : Class) (f : Function) :
    (bridgeFor ownerRef owner f).rename ρ =
      bridgeFor (ρ.classes ownerRef) (owner.rename ρ) (f.rename ρ) := by
  have hparams :
      (f.params.map fun p => if p.isDispatch then { p with type := owner.type } else p).map
        (Param.rename ρ) = (f.params.map (Param.rename ρ)).map fun p =>
        if p.isDispatch then { p with type := (owner.rename ρ).type } else p := by
    rw [List.map_map, List.map_map]
    apply List.map_congr_left
    intro p _
    simp only [Function.comp_apply, Class.type_rename]
    by_cases hp : p.isDispatch
    · have hrenamed : (p.rename ρ).isDispatch := hp
      rw [if_pos hp, if_pos hrenamed]
      rfl
    · have hrenamed : ¬(p.rename ρ).isDispatch := hp
      rw [if_neg hp, if_neg hrenamed]
  simp only [bridgeFor, Function.rename, hparams, Parent.rename, Option.map_none]

lemma rename_defaultImplsFor (ref : ClassRef) (id : ClassId) :
    (defaultImplsFor ref id).rename ρ =
      defaultImplsFor (ρ.classes ref) (id.rename ρ.names) := by
  simp [defaultImplsFor, Class.rename, Class.make, Parent.rename]

lemma rename_entryFieldFor (entry : EnumEntry) (owner : Class) :
    (entryFieldFor entry owner).rename ρ = entryFieldFor (entry.rename ρ) (owner.rename ρ) := by
  simp only [entryFieldFor, Class.type_rename]
  rfl

lemma rename_instanceFieldFor (settings : Settings) (ref : ClassRef) (c : Class)
    (outer : Option Class) (hn : ρ.names .instanceField = .instanceField) :
    (instanceFieldFor settings ref c outer).rename ρ =
      instanceFieldFor settings (ρ.classes ref) (c.rename ρ) outer := by
  have hcompanion : (c.rename ρ).isCompanion = c.isCompanion := rfl
  have hvisibility : instanceVisibility settings (c.rename ρ) outer =
      instanceVisibility settings c outer := rfl
  simp only [instanceFieldFor, Field.rename, Class.type_rename, hcompanion, hvisibility]
  split
  · rfl
  · rw [hn]
    rfl

lemma rename_interfaceCompanionFieldFor (ref : ClassRef) (c : Class)
    (hn : ρ.names .interfaceCompanionInstance = .interfaceCompanionInstance) :
    (interfaceCompanionFieldFor ref c).rename ρ =
      interfaceCompanionFieldFor (ρ.classes ref) (c.rename ρ) := by
  simp only [interfaceCompanionFieldFor, Field.rename, Class.type_rename, hn]
  rfl

end

structure Renaming.Takes (ρ : Renaming) (s u v : Session) : Prop extends ρ.Keeps s where
  known : ∀ n : Name, n.raw < Interner.new.size → ρ.names n = n
  texts : ∀ text n, u.names.get? text = some n → v.names.get? text = some (ρ.names n)
  tables : ∀ k : Key, v.derived.at? (k.rename ρ) = (u.derived.at? k).map (Row.rename ρ)

structure Renaming.Carries (ρ : Renaming) (u v : Session) (e : Row) : Prop where
  classes : ∀ ref ∈ e.classes,
    v.module.class? (ρ.classes ref) = (u.module.class? ref).map (Class.rename ρ)
  functions : ∀ ref ∈ e.functions,
    v.module.function? (ρ.functions ref) = (u.module.function? ref).map (Function.rename ρ)
  fields : ∀ ref ∈ e.fields,
    v.module.field? (ρ.fields ref) = (u.module.field? ref).map (Field.rename ρ)

section

variable {ρ : Renaming} {s u v : Session} {e : Row}

lemma Renaming.Keeps.class_rename (h : ρ.Keeps s) {ref : ClassRef} {c : Class}
    (hc : s.module.class? ref = some c) : ρ.classes ref = ref ∧ c.rename ρ = c :=
  ⟨h.classes ref (Array.getElem?_eq_some_iff.mp hc).1, h.class_eq c (Array.mem_of_getElem? hc)⟩

lemma Renaming.Keeps.function_rename (h : ρ.Keeps s) {ref : FunctionRef} {f : Function}
    (hf : s.module.function? ref = some f) : ρ.functions ref = ref ∧ f.rename ρ = f :=
  ⟨h.functions ref (Array.getElem?_eq_some_iff.mp hf).1,
    h.function_eq f (Array.mem_of_getElem? hf)⟩

lemma Derived.Row.Described.key_rename (he : e.Described s u) (h : ρ.Keeps s) :
    e.key.rename ρ = e.key := by
  cases he with
  | entryField => rfl
  | instanceField hc => exact congrArg Key.instanceField (h.class_rename hc).1
  | interfaceCompanionField hc => exact congrArg Key.interfaceCompanionField (h.class_rename hc).1
  | memberPair hf => exact congrArg Key.staticPair (h.function_rename hf).1
  | externalPair hf => exact congrArg Key.staticPair (h.function_rename hf).1
  | defaultImpls hc => exact congrArg Key.defaultImpls (h.class_rename hc).1
  | redirection hf => exact congrArg Key.redirection (h.function_rename hf).1

lemma PlatformName.rename {ref : FunctionRef} {f : Function} {name name' : Name}
    (h : ρ.Takes s u v) (hf : s.module.function? ref = some f) (hu : PlatformName s u ref f name)
    (hv : PlatformName s v ref f name') : ρ.names name = name' := by
  rw [PlatformName] at hu hv
  cases htext : s.accessorText? ref f with
  | some text =>
    rw [htext] at hu hv
    exact Option.some.inj ((h.texts text name hu).symm.trans hv)
  | none =>
    rw [htext] at hu hv
    rw [hu, hv]
    exact congrArg Function.name (h.function_rename hf).2

lemma ReceiverIn.rename {companionRef : ClassRef} {f : Function} {receiver receiver' : List Expr}
    (h : ρ.Takes s u v) (hc : ρ.classes companionRef = companionRef)
    (hu : ReceiverIn u companionRef f receiver) (hv : ReceiverIn v companionRef f receiver') :
    receiver.map (Expr.rename ρ) = receiver' := by
  rw [ReceiverIn] at hu hv
  split at hu
  · rw [if_pos ‹_›] at hv
    obtain ⟨field, hfield, rfl⟩ := hu
    obtain ⟨field', hfield', rfl⟩ := hv
    have htable := h.tables (.instanceField companionRef)
    rw [hfield, Key.rename, hc, hfield', Option.map_some, Row.rename, hc] at htable
    cases htable
    rfl
  · rw [if_neg ‹_›] at hv
    rw [hu, hv]
    rfl

lemma carries_field {field : FieldRef} {f : Field} (hu : u.module.field? field = some f)
    (hv : v.module.field? (ρ.fields field) = some (f.rename ρ)) (hf : e.fields = [field])
    (hc : e.classes = []) (hg : e.functions = []) : ρ.Carries u v e :=
  ⟨by simp [hc], by simp [hg], by simp [hf, hu, hv]⟩

lemma carries_functions (h : ∀ ref ∈ e.functions, ∃ f, u.module.function? ref = some f ∧
      v.module.function? (ρ.functions ref) = some (f.rename ρ))
    (hc : e.classes = []) (hf : e.fields = []) : ρ.Carries u v e := by
  refine ⟨by simp [hc], fun ref href => ?_, by simp [hf]⟩
  obtain ⟨f, hu, hv⟩ := h ref href
  rw [hu, hv, Option.map_some]

lemma Renaming.Keeps.siblingFor (h : ρ.Keeps s) {ref : FunctionRef} {f : Function}
    {companionRef : ClassRef} {companion : Class} (hf : s.module.function? ref = some f)
    (hc : s.module.class? companionRef = some companion) :
    (siblingFor ref f companion.parent).rename ρ = siblingFor ref f companion.parent := by
  obtain ⟨href, hkept⟩ := h.function_rename hf
  have hparent : companion.parent.rename ρ = companion.parent :=
    congrArg Class.parent (h.class_rename hc).2
  rw [rename_siblingFor, href, hkept, hparent]

lemma carries_staticPair {ref : FunctionRef} {pair : StaticPair}
    (he : (Row.staticPair ref pair).Described s u)
    (hz : ((Row.staticPair ref pair).rename ρ).Described s v) (h : ρ.Takes s u v) :
    ρ.Carries u v (.staticPair ref pair) := by
  cases he with
  | @memberPair _ static f companionRef ownerRef companion owner name receiver hf hmember hp hc _
      hparent ho hname hreceiver hstatic =>
    obtain ⟨href, hkept⟩ := h.function_rename hf
    rw [Row.rename, StaticPair.rename, href] at hz
    cases hz with
    | externalPair hf' hexternal =>
      cases hf.symm.trans hf'
      cases hmember.symm.trans hexternal
    | memberPair hf' _ hp' hc' _ hparent' ho' hname' hreceiver' hstatic' =>
      cases hf.symm.trans hf'
      cases hp.symm.trans hp'
      cases hc.symm.trans hc'
      cases hparent.symm.trans hparent'
      cases ho.symm.trans ho'
      have hcompanion := (h.class_rename hc).1
      have howner := (h.class_rename ho).1
      refine carries_functions ?_ rfl rfl
      simp only [Row.functions, if_true, List.forall_mem_singleton]
      refine ⟨_, hstatic, ?_⟩
      rw [rename_callThrough, rename_forwarderHead, href, hkept, howner, hname.rename h hf hname',
        hreceiver.rename h hcompanion hreceiver', hstatic']
      rfl
  | @externalPair _ static forwarder f companionRef companion this hf hexternal hp hc _ hthis hne
      hstatic hforwarder =>
    obtain ⟨href, hkept⟩ := h.function_rename hf
    rw [Row.rename, StaticPair.rename, href] at hz
    cases hz with
    | memberPair hf' hmember =>
      cases hf.symm.trans hf'
      cases hmember.symm.trans hexternal
    | externalPair hf' _ hp' hc' _ hthis' _ hstatic' hforwarder' =>
      cases hf.symm.trans hf'
      cases hp.symm.trans hp'
      cases hc.symm.trans hc'
      cases (h.texts _ _ hthis).symm.trans hthis'
      obtain ⟨hcompanion, hclass⟩ := h.class_rename hc
      have hcopy := h.siblingFor hf hc
      have hname : ρ.names f.name = f.name := congrArg Function.name hkept
      have hparam : (Param.mk this companion.type .dispatch).rename ρ =
          ⟨ρ.names this, companion.type, .dispatch⟩ := by
        rw [Param.rename, ← Class.type_rename, hclass]
      refine carries_functions ?_ rfl rfl
      simp only [Row.functions, hne, if_false, List.forall_mem_cons]
      refine ⟨⟨_, hstatic, ?_⟩, ⟨_, hforwarder, ?_⟩, by simp⟩
      · rw [hcopy, hstatic']
      · rw [rename_callThrough, rename_forwarderHead, hcompanion, hcopy, hname, hforwarder',
          Option.map_some, hparam]
        rfl

lemma carries_defaultImpls {ref impls : ClassRef} (he : (Row.defaultImpls ref impls).Described s u)
    (hz : ((Row.defaultImpls ref impls).rename ρ).Described s v) (h : ρ.Takes s u v) :
    ρ.Carries u v (.defaultImpls ref impls) := by
  cases he with
  | @defaultImpls _ _ c relative hc hrelative himpls =>
    obtain ⟨href, hkept⟩ := h.class_rename hc
    rw [Row.rename, href] at hz
    cases hz with
    | defaultImpls hc' hrelative' himpls' =>
      cases hc.symm.trans hc'
      cases (h.texts _ _ hrelative).symm.trans hrelative'
      have hpackage : c.id.package.rename ρ.names = c.id.package :=
        congrArg (fun c => c.id.package) hkept
      have hshort : ρ.names .defaultImpls = .defaultImpls := h.known _ (by decide)
      have hmade : (defaultImplsFor ref ⟨c.id.package, relative, .defaultImpls⟩).rename ρ =
          defaultImplsFor ref ⟨c.id.package, ρ.names relative, .defaultImpls⟩ := by
        rw [rename_defaultImplsFor, href, ClassId.rename, hpackage, hshort]
      refine ⟨?_, by simp [Row.functions], by simp [Row.fields]⟩
      simp only [Row.classes, List.forall_mem_singleton]
      rw [himpls, himpls', Option.map_some, hmade]

/-- The demands on a row leave no choice but that of numbers. -/
lemma Derived.Row.Described.carries (he : e.Described s u) (hz : (e.rename ρ).Described s v)
    (h : ρ.Takes s u v) : ρ.Carries u v e := by
  cases he with
  | @entryField ref field entry owner hentry howner hfield =>
    cases hz with
    | entryField hentry' howner' hfield' =>
      cases hentry.symm.trans hentry'
      cases howner.symm.trans howner'
      refine carries_field hfield ?_ rfl rfl rfl
      rw [rename_entryFieldFor, h.entry_eq entry (Array.mem_of_getElem? hentry),
        (h.class_rename howner).2, hfield']
  | instanceField hc hfield =>
    obtain ⟨href, hkept⟩ := h.class_rename hc
    rw [Row.rename, href] at hz
    cases hz with
    | instanceField hc' hfield' =>
      cases hc.symm.trans hc'
      refine carries_field hfield ?_ rfl rfl rfl
      rw [rename_instanceFieldFor ρ _ _ _ _ (h.known _ (by decide)), href, hkept, hfield']
  | interfaceCompanionField hc hfield =>
    obtain ⟨href, hkept⟩ := h.class_rename hc
    rw [Row.rename, href] at hz
    cases hz with
    | interfaceCompanionField hc' hfield' =>
      cases hc.symm.trans hc'
      refine carries_field hfield ?_ rfl rfl rfl
      rw [rename_interfaceCompanionFieldFor ρ _ _ (h.known _ (by decide)), href, hkept, hfield']
  | memberPair hf hmember hp hc hcomp hparent ho hname hreceiver hstatic =>
    exact carries_staticPair
      (.memberPair hf hmember hp hc hcomp hparent ho hname hreceiver hstatic) hz h
  | externalPair hf hexternal hp hc hcomp hthis hne hstatic hforwarder =>
    exact carries_staticPair
      (.externalPair hf hexternal hp hc hcomp hthis hne hstatic hforwarder) hz h
  | defaultImpls hc hrelative himpls =>
    exact carries_defaultImpls (.defaultImpls hc hrelative himpls) hz h
  | redirection hf _ hp ho hbridge =>
    obtain ⟨href, hkept⟩ := h.function_rename hf
    rw [Row.rename, href] at hz
    cases hz with
    | redirection hf' _ hp' ho' hbridge' =>
      cases hf.symm.trans hf'
      cases hp.symm.trans hp'
      cases ho.symm.trans ho'
      obtain ⟨howner, hclass⟩ := h.class_rename ho
      refine carries_functions ?_ rfl rfl
      simp only [Row.functions, List.forall_mem_singleton]
      refine ⟨_, hbridge, ?_⟩
      rw [rename_bridgeFor, howner, hclass, hkept, hbridge']

end

section

variable {ρ : Renaming} {s u v : Session} {e z : Row} {k : Key}

lemma Derived.Row.Described.length_eq (he : e.Described s u) (hz : z.Described s v)
    (hk : e.key = z.key) : e.classes.length = z.classes.length ∧
      e.functions.length = z.functions.length ∧ e.fields.length = z.fields.length := by
  cases e <;> cases z <;> cases hk
  case staticPair =>
    refine ⟨rfl, ?_, rfl⟩
    -- whether there are one or two functions is for the member to say
    cases he with
    | memberPair hf hmember =>
      cases hz with
      | memberPair => simp [Row.functions]
      | externalPair hf' hexternal =>
        cases hf.symm.trans hf'
        simp [hmember] at hexternal
    | externalPair hf hexternal _ _ _ _ hne =>
      cases hz with
      | memberPair hf' hmember =>
        cases hf.symm.trans hf'
        simp [hmember] at hexternal
      | externalPair _ _ _ _ _ _ hne' => simp [Row.functions, hne, hne']
  all_goals exact ⟨rfl, rfl, rfl⟩

lemma StaticPair.eq_rename {ref : FunctionRef} {p q : StaticPair} (href : ρ.functions ref = ref)
    (h : (Row.staticPair ref p).functions.map ρ.functions = (Row.staticPair ref q).functions) :
    p.rename ρ = q := by
  obtain ⟨static, companion⟩ := p
  obtain ⟨static', companion'⟩ := q
  rw [StaticPair.rename]
  by_cases hp : companion = ref <;> by_cases hq : companion' = ref <;>
    simp only [Row.functions, hp, hq, if_true, if_false, List.map_cons, List.map_nil,
      List.cons.injEq, and_true, reduceCtorEq, and_false] at h
  · rw [h, hp, hq, href]
  · rw [h.1, h.2]

lemma Derived.Row.eq_rename (hρ : e.key.rename ρ = e.key) (hk : e.key = z.key)
    (hc : e.classes.map ρ.classes = z.classes) (hf : e.functions.map ρ.functions = z.functions)
    (hg : e.fields.map ρ.fields = z.fields) : e.rename ρ = z := by
  cases e <;> cases z <;> cases hk
  case entryField => exact congrArg (Row.entryField _) (List.singleton_inj.mp hg)
  case instanceField =>
    exact congrArg₂ Row.instanceField (Key.instanceField.inj hρ) (List.singleton_inj.mp hg)
  case interfaceCompanionField =>
    exact congrArg₂ Row.interfaceCompanionField (Key.interfaceCompanionField.inj hρ)
      (List.singleton_inj.mp hg)
  case staticPair =>
    have href := Key.staticPair.inj hρ
    exact congrArg₂ Row.staticPair href (StaticPair.eq_rename href hf)
  case defaultImpls =>
    exact congrArg₂ Row.defaultImpls (Key.defaultImpls.inj hρ) (List.singleton_inj.mp hc)
  case redirection =>
    exact congrArg₂ Row.redirection (Key.redirection.inj hρ) (List.singleton_inj.mp hf)

lemma Derived.Row.key_rename (e : Row) : (e.rename ρ).key = e.key.rename ρ := by
  cases e <;> rfl

lemma Derived.Key.rename_injective : Function.Injective (Key.rename ρ) := by
  intro k k' h
  cases k <;> cases k' <;> simp_all [Key.rename]

lemma Renaming.Fixes.recorded (h : ρ.Fixes s) (hd : s.derived.Within s.module)
    (he : s.derived.at? k = some e) : k.rename ρ = k ∧ e.rename ρ = e := by
  cases k with
  | entryField ref =>
    obtain ⟨field, hl, rfl⟩ := Option.map_eq_some_iff.mp he
    obtain ⟨-, hf⟩ := hd.entryFields _ (mem_of_lookup hl)
    simp [Key.rename, Row.rename, h.fields field hf]
  | instanceField ref =>
    obtain ⟨field, hl, rfl⟩ := Option.map_eq_some_iff.mp he
    obtain ⟨hc, hf⟩ := hd.instanceFields _ (mem_of_lookup hl)
    simp [Key.rename, Row.rename, h.classes ref hc, h.fields field hf]
  | interfaceCompanionField ref =>
    obtain ⟨field, hl, rfl⟩ := Option.map_eq_some_iff.mp he
    obtain ⟨hc, hf⟩ := hd.interfaceCompanionFields _ (mem_of_lookup hl)
    simp [Key.rename, Row.rename, h.classes ref hc, h.fields field hf]
  | staticPair ref =>
    obtain ⟨pair, hl, rfl⟩ := Option.map_eq_some_iff.mp he
    obtain ⟨hf, hstatic, hcompanion⟩ := hd.staticPairs _ (mem_of_lookup hl)
    simp [Key.rename, Row.rename, StaticPair.rename, h.functions ref hf,
      h.functions _ hstatic, h.functions _ hcompanion]
  | defaultImpls ref =>
    obtain ⟨impls, hl, rfl⟩ := Option.map_eq_some_iff.mp he
    obtain ⟨hc, hi⟩ := hd.defaultImpls _ (mem_of_lookup hl)
    simp [Key.rename, Row.rename, h.classes ref hc, h.classes impls hi]
  | redirection ref =>
    obtain ⟨bridge, hl, rfl⟩ := Option.map_eq_some_iff.mp he
    obtain ⟨hf, hb⟩ := hd.redirections _ (mem_of_lookup hl)
    simp [Key.rename, Row.rename, h.functions ref hf, h.functions bridge hb]

end

lemma find?_key_eq_some_iff {xs : List Row} (hn : (xs.map Row.key).Nodup) {k : Key}
    {e : Row} : xs.find? (·.key = k) = some e ↔ e ∈ xs ∧ e.key = k := by
  constructor
  · intro h
    exact ⟨List.mem_of_find?_eq_some h, by simpa using List.find?_some h⟩
  · rintro ⟨he, hk⟩
    obtain ⟨z, hz⟩ : ∃ z, xs.find? (·.key = k) = some z :=
      Option.isSome_iff_exists.mp (List.find?_isSome.mpr ⟨e, he, by simpa using hk⟩)
    have hkey : z.key = k := by simpa using List.find?_some hz
    rw [hz, List.inj_on_of_nodup_map hn (List.mem_of_find?_eq_some hz) he (hkey.trans hk.symm)]

lemma find?_key_eq_of_perm {xs ys : List Row} (h : xs.Perm ys) (hn : (ys.map Row.key).Nodup)
    (k : Key) : xs.find? (·.key = k) = ys.find? (·.key = k) := by
  apply Option.ext
  intro e
  rw [find?_key_eq_some_iff hn, find?_key_eq_some_iff ((h.map Row.key).nodup_iff.mpr hn),
    h.mem_iff]

section

variable {ρ : Renaming} {s u v : Session} {new new' : Additions} {added added' : List Row}

lemma tables_renamed (h : ρ.Fixes s) (hd : s.derived.Within s.module)
    (hperm : (added.map (Row.rename ρ)).Perm added') (hn : (added'.map Row.key).Nodup)
    (k : Key) : (s.derived.recordAll added').at? (k.rename ρ) =
      ((s.derived.recordAll added).at? k).map (Row.rename ρ) := by
  rw [at?_recordAll, at?_recordAll]
  cases hk : s.derived.at? k with
  | some e =>
    obtain ⟨hkey, hentry⟩ := h.recorded hd hk
    rw [hkey, hk, Option.some_or, Option.some_or, Option.map_some, hentry]
  | none =>
    have hnone : s.derived.at? (k.rename ρ) = none := by
      cases hr : s.derived.at? (k.rename ρ) with
      | none => rfl
      | some e =>
        have hsame : k.rename ρ = k := Key.rename_injective (h.recorded hd hr).1
        rw [hsame, hk] at hr
        cases hr
    rw [hnone, Option.none_or, Option.none_or, ← find?_key_eq_of_perm hperm hn, List.find?_map]
    simp only [Function.comp_def, Row.key_rename, Key.rename_injective.eq_iff]

lemma exists_pairs {α κ : Type} {key : α → κ} {xs ys : List α}
    (h : (xs.map key).Perm (ys.map key)) : ∃ pairs : List (α × α),
      pairs.map Prod.fst = xs ∧ (pairs.map Prod.snd).Perm ys ∧
      ∀ p ∈ pairs, key p.1 = key p.2 := by
  have hsame : List.Forall₂ (fun k y => k = key y) (ys.map key) ys :=
    List.forall₂_map_left_iff.mpr (List.forall₂_same.mpr fun _ _ => rfl)
  obtain ⟨zs, hzs, hperm⟩ := List.perm_comp_forall₂ h hsame
  obtain ⟨hlength, hkeys⟩ := List.forall₂_iff_zip.mp (List.forall₂_map_left_iff.mp hzs)
  refine ⟨xs.zip zs, List.map_fst_zip hlength.le, ?_, fun p hp => hkeys hp⟩
  rw [List.map_snd_zip hlength.ge]
  exact hperm

lemma exists_renumbering_of_ranges {α : Type} [DecidableEq α] {mk : Nat → α} {index : α → Nat}
    (hmk : ∀ a, mk (index a) = a) (hindex : ∀ n, index (mk n) = n) {refs : Row → List α}
    {pairs : List (Row × Row)} {first m n : Nat}
    (hlength : ∀ p ∈ pairs, (refs p.1).length = (refs p.2).length)
    (hleft : (pairs.map Prod.fst).flatMap refs = (List.range' first m).map mk)
    (hright : ((pairs.map Prod.snd).flatMap refs).Perm ((List.range' first n).map mk)) :
    n = m ∧ ∃ σ : Equiv.Perm α, (∀ p ∈ pairs, (refs p.1).map σ = refs p.2) ∧
      ∀ a, (index a < first + m → index a < first) → σ a = a := by
  rw [List.flatMap_map] at hleft hright
  have hcount : n = m := by
    have hsum : (pairs.flatMap fun p => refs p.2).length =
        (pairs.flatMap fun p => refs p.1).length := by
      rw [List.length_flatMap, List.length_flatMap, List.map_congr_left hlength]
    rw [hright.length_eq, hleft] at hsum
    simpa using hsum
  subst hcount
  obtain ⟨hnodup, hmem⟩ := nodup_of_perm_range hmk hindex (.of_eq hleft)
  obtain ⟨σ, hσ, hfix⟩ := exists_renumbering hlength (hleft ▸ hright.symm) hnodup
  refine ⟨rfl, σ, hσ, fun a ha => hfix a fun hin => ?_⟩
  obtain ⟨hlt, hge⟩ := (hmem a).mp hin
  exact hge (ha hlt)

structure Renaming.Covers (ρ : Renaming) (u v : Session) : Prop where
  classCount : v.module.classes.size = u.module.classes.size
  functionCount : v.module.functions.size = u.module.functions.size
  fieldCount : v.module.fields.size = u.module.fields.size
  classes : ∀ ref, ¬u.module.HasClass ref → ρ.classes ref = ref
  functions : ∀ ref, ¬u.module.HasFunction ref → ρ.functions ref = ref
  fields : ∀ ref, ¬u.module.HasField ref → ρ.fields ref = ref

lemma mem_texts_iff (du : s.Describes added u) (dv : s.Describes added' v)
    (hkeys : (added.map Row.key).Perm (added'.map Row.key)) (text : String) :
    text ∈ u.names.texts ↔ text ∈ v.names.texts := by
  have hasked (xs : List Row) : (∃ e ∈ xs, text ∈ e.key.texts s) ↔
      ∃ k ∈ xs.map Row.key, text ∈ k.texts s := by simp
  rw [du.texts, dv.texts, hasked, hasked]
  simp only [hkeys.mem_iff]

lemma exists_takes (hs : s.Complete) (hu : s.Makes new added u) (hv : s.Makes new' added' v)
    (du : s.Describes added u) (dv : s.Describes added' v)
    (hkeys : (added.map Row.key).Perm (added'.map Row.key))
    (hnodup : (added'.map Row.key).Nodup) : ∃ ρ : Renaming,
      ρ.Takes s u v ∧ ρ.Covers u v ∧ (added.map (Row.rename ρ)).Perm added' ∧
      ∀ n, v.names.lookup? (ρ.names n) = u.names.lookup? n := by
  obtain ⟨σn, hnames, htext, hlookup⟩ :=
    Interner.exists_renaming hs.reachable hu.names hv.names (mem_texts_iff du dv hkeys)
  obtain ⟨pairs, rfl, hperm, hsame⟩ := exists_pairs hkeys
  have hleft : ∀ p ∈ pairs, p.1.Described s u := fun p hp => du.rows _ (List.mem_map_of_mem hp)
  have hright : ∀ p ∈ pairs, p.2.Described s v :=
    fun p hp => dv.rows _ (hperm.mem_iff.mp (List.mem_map_of_mem hp))
  -- each kind of reference has a renumbering of its own, row by row
  have hlength := fun p hp => (hleft p hp).length_eq (hright p hp) (hsame p hp)
  obtain ⟨hclassCount, σc, hclasses, hcfix⟩ :=
    exists_renumbering_of_ranges (fun _ => rfl) (fun _ => rfl) (fun p hp => (hlength p hp).1)
      hu.classes (hv.classes ▸ hperm.flatMap_right Row.classes)
  obtain ⟨hfunctionCount, σf, hfunctions, hffix⟩ :=
    exists_renumbering_of_ranges (fun _ => rfl) (fun _ => rfl) (fun p hp => (hlength p hp).2.1)
      hu.functions (hv.functions ▸ hperm.flatMap_right Row.functions)
  obtain ⟨hfieldCount, σg, hfields, hgfix⟩ :=
    exists_renumbering_of_ranges (fun _ => rfl) (fun _ => rfl) (fun p hp => (hlength p hp).2.2)
      hu.fields (hv.fields ▸ hperm.flatMap_right Row.fields)
  let ρ : Renaming := ⟨σc, σf, σg, σn⟩
  have hkeeps : ρ.Keeps s := Renaming.Fixes.keeps
    ⟨fun ref h => hcfix ref fun _ => h, fun ref h => hffix ref fun _ => h,
      fun ref h => hgfix ref fun _ => h, hnames⟩ hs.sound.wellFormed hs.namesStored
  have hrows : ((pairs.map Prod.fst).map (Row.rename ρ)).Perm added' := by
    have hmap : (pairs.map Prod.fst).map (Row.rename ρ) = pairs.map Prod.snd := by
      rw [List.map_map]
      apply List.map_congr_left
      intro p hp
      exact Row.eq_rename ((hleft p hp).key_rename hkeeps) (hsame p hp) (hclasses p hp)
        (hfunctions p hp) (hfields p hp)
    rw [hmap]
    exact hperm
  refine ⟨ρ, ⟨hkeeps, ?_, htext, ?_⟩, ?_, hrows, hlookup⟩
  · exact fun n hn => hnames n (hn.trans_le (Later.size_le hs.reachable))
  · rw [hu.derived, hv.derived]
    exact tables_renamed hkeeps.toFixes hs.derived hrows hnodup
  · constructor <;> simp only [hu.module, hv.module, Module.HasClass, Module.HasFunction,
      Module.HasField, Module.append, Array.size_append]
    case classCount => rw [hclassCount]
    case functionCount => rw [hfunctionCount]
    case fieldCount => rw [hfieldCount]
    case classes => exact fun ref h => hcfix ref fun hlt => absurd hlt h
    case functions => exact fun ref h => hffix ref fun hlt => absurd hlt h
    case fields => exact fun ref h => hgfix ref fun hlt => absurd hlt h

lemma getElem?_renamed {α β : Type} {mk : Nat → α} {index : α → Nat} (hmk : ∀ a, mk (index a) = a)
    (hindex : ∀ n, index (mk n) = n) {old xs ys : Array β} {refs : Row → List α}
    (hrefs : added.flatMap refs = (List.range' old.size xs.size).map mk) {σ : Equiv.Perm α}
    {f : β → β} (hsize : (old ++ ys).size = (old ++ xs).size) (hold : ∀ b ∈ old, f b = b)
    (hfix : ∀ a, index a < old.size → σ a = a)
    (hout : ∀ a, ¬index a < (old ++ xs).size → σ a = a)
    (hmade : ∀ e ∈ added, ∀ a ∈ refs e,
      (old ++ ys)[index (σ a)]? = (old ++ xs)[index a]?.map f) (a : α) :
    (old ++ ys)[index (σ a)]? = (old ++ xs)[index a]?.map f := by
  -- a reference leads to what was there before, to what was made, or nowhere
  by_cases hin : index a < old.size
  · rw [hfix a hin, Array.getElem?_append_left hin, Array.getElem?_append_left hin]
    cases hb : old[index a]? with
    | none => rfl
    | some b => rw [Option.map_some, hold b (Array.mem_of_getElem? hb)]
  · by_cases hlt : index a < (old ++ xs).size
    · obtain ⟨e, he, ha⟩ := exists_row_of_range hmk hindex hrefs (Array.size_append ▸ hlt) hin
      exact hmade e he a ha
    · rw [hout a hlt, Array.getElem?_eq_none (Nat.le_of_not_lt hlt),
        Array.getElem?_eq_none (hsize ▸ Nat.le_of_not_lt hlt), Option.map_none]

lemma exists_renumbered (hs : s.Complete) (hu : s.Makes new added u) (hv : s.Makes new' added' v)
    (du : s.Describes added u) (dv : s.Describes added' v)
    (hkeys : (added.map Row.key).Perm (added'.map Row.key))
    (hnodup : (added'.map Row.key).Nodup) : ∃ ρ : Renaming, ρ.Fixes s ∧ u.Renumbered ρ v := by
  obtain ⟨ρ, ht, hc, hperm, hlookup⟩ := exists_takes hs hu hv du dv hkeys hnodup
  have hcarries : ∀ e ∈ added, ρ.Carries u v e := fun e he =>
    (du.rows e he).carries (dv.rows _ (hperm.mem_iff.mp (List.mem_map_of_mem he))) ht
  refine ⟨ρ, ht.toFixes, ?_⟩
  obtain ⟨names, _, derived, settings, suspendMains⟩ := u
  obtain ⟨names', _, derived', settings', suspendMains'⟩ := v
  obtain rfl := hu.module
  obtain rfl := hv.module
  constructor
  case name => exact ht.name_eq.symm
  case classes =>
    exact getElem?_renamed (fun _ => rfl) (fun _ => rfl) hu.classes hc.classCount ht.class_eq
      ht.classes hc.classes fun e he => (hcarries e he).classes
  case functions =>
    exact getElem?_renamed (fun _ => rfl) (fun _ => rfl) hu.functions hc.functionCount
      ht.function_eq ht.functions hc.functions fun e he => (hcarries e he).functions
  case fields =>
    exact getElem?_renamed (fun _ => rfl) (fun _ => rfl) hu.fields hc.fieldCount ht.field_eq
      ht.fields hc.fields fun e he => (hcarries e he).fields
  case entries => exact ((Array.map_congr_left ht.entry_eq).trans (Array.map_id _)).symm
  case properties => exact ((Array.map_congr_left ht.property_eq).trans (Array.map_id _)).symm
  case topLevel =>
    exact (map_eq_self fun c hin => ht.classes c (hs.sound.wellFormed.topLevel c hin)).symm
  case tables => exact ht.tables
  case tableSize =>
    rw [hu.derived, hv.derived, size_recordAll, size_recordAll, ← hperm.length_eq, List.length_map]
  case names => exact hlookup
  case settings => rw [hu.settings, hv.settings]
  case suspendMains =>
    rw [hu.suspendMains, hv.suspendMains]
    exact (map_eq_self fun c hin => ht.classes c (hs.suspendMains c hin)).symm

end

end ClrCompiler.Decl
