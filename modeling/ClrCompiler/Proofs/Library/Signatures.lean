import ClrCompiler.Proofs.IndexHistory
import ClrCompiler.Proofs.Library.Shown
import ClrCompiler.Proofs.NameQueries

/-! Signatures agree with the finished index. Types are resolved when all classes are declared but
before any symbol is filed; filing publishes no class that was not declared, so a name in a signature
stands for the same type at the end, wherever the type it names comes in the library. -/

namespace ClrCompiler

open Interner Naming Metadata

namespace Index

structure SameClasses (a b : Index) : Prop where
  classNames : a.classNames = b.classNames
  shortNames : a.shortNames = b.shortNames

namespace SameClasses

variable {a b : Index}

lemma recordClass (h : a.SameClasses b) (id : ClassId) :
    (a.recordClass id).SameClasses (b.recordClass id) := by
  simp only [recordClass_eq_extend, extend_eq]
  exact ⟨by simp only [h.classNames], by simp only [h.shortNames]⟩

lemma record (h : a.SameClasses b) {r q : Registration} (hr : r.classes = q.classes) :
    (a.record r).SameClasses (b.record q) := by
  have hclasses (ids : List ClassId) {a b : Index} (h : a.SameClasses b) :
      (ids.foldl Index.recordClass a).SameClasses (ids.foldl Index.recordClass b) := by
    induction ids generalizing a b with
    | nil => exact h
    | cons id ids ih => exact ih (h.recordClass id)
  have hcallables (ids : List CallableId) (a : Index) :
      (ids.foldl recordCallable a).SameClasses a := by
    constructor
    · exact foldl_unchanged Index.classNames classNames_recordCallable ids a
    · refine foldl_unchanged Index.shortNames (fun a id => ?_) ids a
      rw [recordCallable]
      split <;> rfl
  obtain ⟨package, ids, callables⟩ := r
  obtain ⟨package', ids', callables'⟩ := q
  obtain rfl : ids = ids' := hr
  have hpackage : (a.addPackage package).SameClasses (b.addPackage package') :=
    ⟨h.classNames, h.shortNames⟩
  have hall := hclasses ids hpackage
  have hleft := hcallables callables (ids.foldl Index.recordClass (a.addPackage package))
  have hright := hcallables callables' (ids.foldl Index.recordClass (b.addPackage package'))
  constructor
  · exact hleft.classNames.trans (hall.classNames.trans hright.classNames.symm)
  · exact hleft.shortNames.trans (hall.shortNames.trans hright.shortNames.symm)

end SameClasses

lemma sameClasses_foldl_record {rs qs : List Registration}
    (h : ∀ q ∈ qs, ∃ r ∈ rs, q.classes = r.classes) :
    (qs.foldl record (ofHistory rs)).SameClasses (ofHistory rs) := by
  have hstep {index : Index} (hi : index.SameClasses (ofHistory rs)) {q : Registration}
      (hq : ∃ r ∈ rs, q.classes = r.classes) : (index.record q).SameClasses (ofHistory rs) := by
    obtain ⟨r, hr, hclasses⟩ := hq
    have hnext := hi.record hclasses
    rwa [record_of_mem hr] at hnext
  have hall (index : Index) (hi : index.SameClasses (ofHistory rs)) :
      (qs.foldl record index).SameClasses (ofHistory rs) := by
    induction qs generalizing index with
    | nil => exact hi
    | cons q qs ih =>
      refine ih (fun p hp => h p (List.mem_cons_of_mem q hp)) (index.record q) ?_
      exact hstep hi (h q List.mem_cons_self)
  exact hall _ ⟨rfl, rfl⟩

end Index

/-- Resolution looks at the published classes and short names only. -/
lemma Resolution.resolve_congr {a b : Index} (h : a.SameClasses b) : resolve a = resolve b := by
  have hknown : a.hasTopLevelClass = b.hasTopLevelClass := by
    funext package name
    simp only [Index.hasTopLevelClass, h.classNames]
  have hshort : a.packageOfShortName = b.packageOfShortName := by
    funext name
    simp only [Index.packageOfShortName, h.shortNames]
  have hclass : classOf a = classOf b := by
    funext scope last
    simp only [classOf, hknown, hshort]
  funext typeName isResult
  simp only [resolve, hclass]

namespace Naming

variable {α β : Type} {s : Interner}

lemma Ensures.forall₂_mapM {f : α → Naming β} {R : Interner → α → β → Prop} {as : List α}
    (h : ∀ a ∈ as, ∀ t, Later s t → Ensures t (f a) fun u b => R u a b) :
    Ensures s (as.mapM f) fun u bs => List.Forall₂ (R u) as bs := by
  induction as generalizing s with
  | nil => exact .pure fun _ _ => .nil
  | cons a as ih =>
    rw [List.mapM_cons]
    refine (h a List.mem_cons_self s .refl).bind fun t b ht hb => ?_
    have hrest : Ensures t (as.mapM f) fun u bs => List.Forall₂ (R u) as bs :=
      ih fun c hc u hu => h c (List.mem_cons_of_mem a hc) u (ht.trans hu)
    exact hrest.bind fun v bs hv hbs => .pure fun u hu => .cons (hb u (hv.trans hu)) (hbs u hu)

end Naming

namespace Library

def namedType (index : Index) (i : Interner) : Option String → TypeRef
  | some typeName => (Resolution.resolve index typeName true).eval i
  | none => .orNull Standard.any

def TypeResolved (index : Index) (i : Interner) (given : Option String) (t : TypeRef) : Prop :=
  ∀ later, Later i later → t = namedType index later given

def ParametersResolved (index : Index) (i : Interner) (given : List Metadata.Parameter)
    (parameters : List Symbol.Parameter) : Prop :=
  List.Forall₂ (fun g p => TypeResolved index i g.type p.type) given parameters

structure FunctionResolved (index : Index) (i : Interner) (m : Method) (f : Symbol.Function) :
    Prop where
  name : i.get? m.name = some f.name
  parameters : ParametersResolved index i m.parameters f.parameters
  returnType : TypeResolved index i m.returnType f.returnType

def methodsOf (node : TypeNode) (companion : Bool) : List Method :=
  if companion then node.methods.filter (·.isStatic)
  else
    match node.shape with
    | .object => node.methods.filter (·.isStatic)
    | .fileClass => node.methods
    | .plain => node.methods.filter (!·.isStatic)

def constructorsOf (node : TypeNode) (companion : Bool) : List Metadata.Constructor :=
  if companion then node.constructors.filter (·.isStatic)
  else if node.shape = .plain then node.constructors.filter (!·.isStatic) else []

structure ClassResolved (index : Index) (i : Interner) (node : TypeNode) (c : Symbol.Class) :
    Prop where
  functions :
    List.Forall₂ (FunctionResolved index i) (methodsOf node c.isCompanion) c.functions
  constructors :
    List.Forall₂ (fun g x => ParametersResolved index i g.parameters x.parameters)
      (constructorsOf node c.isCompanion) c.constructors

section

variable {s : Interner} {index : Index}

lemma ensures_typeResolved (s : Interner) (index : Index) (given : Option String) :
    Ensures s (typeOf index given) fun u t => TypeResolved index u given t := by
  cases given with
  | none => exact .pure fun _ _ _ _ => rfl
  | some typeName =>
    have hreplays := replays_resolve s index typeName true
    exact ⟨hreplays.later, fun u hu later hl => (hreplays.eval_eq (hu.trans hl)).symm⟩

lemma ensures_parametersResolved (s : Interner) (index : Index) (given : List Metadata.Parameter) :
    Ensures s (parameters index given) fun u ps => ParametersResolved index u given ps := by
  have hall : Ensures s (parameters index given) fun u ps =>
      List.Forall₂ (fun g p => TypeResolved index u g.1.type p.type) given.zipIdx ps := by
    refine .forall₂_mapM fun g _ t _ => (ensures_intern t _).bind fun v name _ _ => ?_
    exact (ensures_typeResolved v index g.1.type).bind fun w type _ htype => .pure htype
  refine hall.mono fun u ps _ hps => ?_
  have hfirst : given = given.zipIdx.map Prod.fst := by simp
  rw [ParametersResolved, hfirst, List.forall₂_map_left_iff]
  exact hps

lemma ensures_constructorResolved (s : Interner) (index : Index) (owner : ClassId)
    (node : Metadata.Constructor) :
    Ensures s (constructor index owner node) fun u c =>
      ParametersResolved index u node.parameters c.parameters :=
  (ensures_parametersResolved s index node.parameters).bind fun _ _ _ hps => .pure hps

lemma ensures_functionResolved (id : CallableId) (owner : ClassId) (marks : List ClassId)
    {node : Method} (hname : s.get? node.name = some id.name) :
    Ensures s (function index id owner marks node) fun u f => FunctionResolved index u node f := by
  refine (ensures_typeResolved s index node.returnType).bind fun t type ht htype => ?_
  refine (ensures_parametersResolved t index node.parameters).bind fun v ps hv hps => ?_
  exact .pure fun u hu => ⟨((ht.trans hv).trans hu).get? hname, hps u hu, htype u (hv.trans hu)⟩

lemma ensures_freeResolved (s : Interner) (index : Index) (owner : ClassId) (node : Method) :
    Ensures s (freeFunction index owner node) fun u f => FunctionResolved index u node f :=
  (ensures_intern s node.name).bind fun t _ _ hname =>
    ensures_functionResolved _ _ _ (hname t .refl)

lemma ensures_memberResolved (s : Interner) (index : Index) (owner : ClassId)
    (marks : List ClassId) (node : Method) :
    Ensures s (memberFunction index owner marks node) fun u f => FunctionResolved index u node f :=
  (ensures_intern s node.name).bind fun t _ _ hname =>
    ensures_functionResolved _ _ _ (hname t .refl)

/-- The functions and constructors of `c` are related, one by one and in their order, to the methods
and constructors that the type gives to its class or to its companion. -/
structure MembersRelated (R : Method → Symbol.Function → Prop)
    (S : Metadata.Constructor → Symbol.Constructor → Prop) (node : TypeNode) (c : Symbol.Class) :
    Prop where
  functions : List.Forall₂ R (methodsOf node c.isCompanion) c.functions
  constructors : List.Forall₂ S (constructorsOf node c.isCompanion) c.constructors

lemma ensures_primaryMembers {id : ClassId} {node : TypeNode}
    {R : Interner → Method → Symbol.Function → Prop}
    {S : Interner → Metadata.Constructor → Symbol.Constructor → Prop}
    (hfree : node.shape = .object → ∀ t m, Ensures t (freeFunction index id m) fun u f => R u m f)
    (hmember : node.shape ≠ .object → ∀ t m,
      Ensures t (memberFunction index id [] m) fun u f => R u m f)
    (hconstructor : ∀ t c, Ensures t (constructor index id c) fun u x => S u c x) :
    Ensures s (primary index id node) fun u c => MembersRelated (R u) (S u) node c := by
  have hmembers (h : node.shape ≠ .object) (ms : List Method) (t : Interner) :
      Ensures t (ms.mapM (memberFunction index id [])) fun u fs => List.Forall₂ (R u) ms fs :=
    .forall₂_mapM fun m _ v _ => hmember h v m
  simp only [primary]
  cases hs : node.shape with
  | object =>
    have hfunctions : Ensures s ((node.methods.filter (·.isStatic)).mapM (freeFunction index id))
        fun u fs => List.Forall₂ (R u) (node.methods.filter (·.isStatic)) fs :=
      .forall₂_mapM fun m _ v _ => hfree hs v m
    refine hfunctions.bind fun t fs _ hfs => .pure fun u hu => ⟨?_, ?_⟩
    · change List.Forall₂ _ (methodsOf node false) fs
      simpa [methodsOf, hs] using hfs u hu
    · change List.Forall₂ _ (constructorsOf node false) []
      simp [constructorsOf, hs]
  | fileClass =>
    refine (hmembers (by simp [hs]) node.methods s).bind fun t fs _ hfs => ?_
    refine .pure fun u hu => ⟨?_, ?_⟩
    · change List.Forall₂ _ (methodsOf node false) fs
      simpa [methodsOf, hs] using hfs u hu
    · change List.Forall₂ _ (constructorsOf node false) []
      simp [constructorsOf, hs]
  | plain =>
    have hconstructors : Ensures s
        ((node.constructors.filter (!·.isStatic)).mapM (constructor index id)) fun u cs =>
          List.Forall₂ (S u) (node.constructors.filter (!·.isStatic)) cs :=
      .forall₂_mapM fun c _ v _ => hconstructor v c
    refine hconstructors.bind fun t cs _ hcs => ?_
    refine (hmembers (by simp [hs]) (node.methods.filter (!·.isStatic)) t).bind
      fun v fs hv hfs => ?_
    refine .pure fun u hu => ⟨?_, ?_⟩
    · change List.Forall₂ _ (methodsOf node false) fs
      simpa [methodsOf, hs] using hfs u hu
    · change List.Forall₂ _ (constructorsOf node false) cs
      simpa [constructorsOf, hs] using hcs u (hv.trans hu)

lemma ensures_companionMembers {owner : ClassId} {node : TypeNode}
    {R : ClassId → Interner → Method → Symbol.Function → Prop}
    {S : ClassId → Interner → Metadata.Constructor → Symbol.Constructor → Prop}
    (hmember : ∀ id t m,
      Ensures t (memberFunction index id [Standard.clrStatic] m) fun u f => R id u m f)
    (hconstructor : ∀ id t c, Ensures t (constructor index id c) fun u x => S id u c x) :
    Ensures s (companion index owner node) fun u c =>
      MembersRelated (R c.id u) (S c.id u) node c := by
  have hid : Ensures s (owner.nested .companion) fun _ _ => True :=
    ⟨later_intern s _, fun _ _ => trivial⟩
  refine hid.bind fun t id _ _ => ?_
  have hconstructors : Ensures t
      ((node.constructors.filter (·.isStatic)).mapM (constructor index id)) fun u cs =>
        List.Forall₂ (S id u) (node.constructors.filter (·.isStatic)) cs :=
    .forall₂_mapM fun c _ v _ => hconstructor id v c
  refine hconstructors.bind fun v cs _ hcs => ?_
  have hfunctions : Ensures v ((node.methods.filter (·.isStatic)).mapM
      (memberFunction index id [Standard.clrStatic])) fun u fs =>
        List.Forall₂ (R id u) (node.methods.filter (·.isStatic)) fs :=
    .forall₂_mapM fun m _ w _ => hmember id w m
  refine hfunctions.bind fun w fs hw hfs => .pure fun u hu => ⟨?_, ?_⟩
  · exact hfs u hu
  · exact hcs u (hw.trans hu)

lemma ensures_primaryResolved (s : Interner) (index : Index) (id : ClassId) (node : TypeNode) :
    Ensures s (primary index id node) fun u c => ClassResolved index u node c := by
  refine .mono (ensures_primaryMembers (fun _ t m => ensures_freeResolved t index id m)
    (fun _ t m => ensures_memberResolved t index id [] m)
    fun t c => ensures_constructorResolved t index id c) fun u c _ h => ?_
  exact ⟨h.functions, h.constructors⟩

lemma ensures_companionResolved (s : Interner) (index : Index) (owner : ClassId) (node : TypeNode) :
    Ensures s (companion index owner node) fun u c => ClassResolved index u node c := by
  refine .mono (ensures_companionMembers (fun id t m => ensures_memberResolved t index id _ m)
    fun id t c => ensures_constructorResolved t index id c) fun u c _ h => ?_
  exact ⟨h.functions, h.constructors⟩

lemma ClassResolved.congr {a b : Index} (h : a.SameClasses b) {i : Interner} {node : TypeNode}
    {c : Symbol.Class} (hc : ClassResolved a i node c) : ClassResolved b i node c := by
  have hsame : TypeResolved a i = TypeResolved b i := by
    have hnamed (later : Interner) : namedType a later = namedType b later := by
      funext given
      cases given with
      | none => rfl
      | some typeName => simp only [namedType, Resolution.resolve_congr h]
    funext given t
    simp only [TypeResolved, hnamed]
  have hparameters : ParametersResolved a i = ParametersResolved b i := by
    funext given ps
    simp only [ParametersResolved, hsame]
  constructor
  · refine hc.functions.imp fun m f hf => ⟨hf.name, ?_, ?_⟩
    · exact hparameters ▸ hf.parameters
    · exact hsame ▸ hf.returnType
  · exact hparameters ▸ hc.constructors

end

section

variable {index : Index} {i : Interner}

lemma builtSymbols_resolved (hi : i.Reachable) {node : TypeNode}
    (hb : Settled i (build index node)) :
    ∀ c ∈ builtSymbols i index node, ClassResolved index i node c := by
  have hprimary : ClassResolved index i node ((primary index (idOf i node) node).eval i) :=
    (ensures_primaryResolved i index (idOf i node) node).settled (primary_settled hi hb) .refl
  by_cases hs : node.shape = .object
  · rw [builtSymbols_of_object hi hb hs]
    simpa using hprimary
  · have hcompanion : ClassResolved index i node ((companion index (idOf i node) node).eval i) :=
      (ensures_companionResolved i index (idOf i node) node).settled (companion_settled hi hb hs) .refl
    rw [builtSymbols_of_hasCompanion hi hb hs]
    rintro c (_ | ⟨_, _ | ⟨_, hc⟩⟩)
    · exact ⟨hprimary.functions, hprimary.constructors⟩
    · exact hcompanion
    · exact absurd hc List.not_mem_nil

lemma declared_classes_eq {s t : Interner} (hs : s.Reachable) (index : Index) (node : TypeNode)
    (ht : Later ((declaration node).run s).2 t) :
    ((declaration node).eval s).classes = ((build index node).eval t).names.classes := by
  have hd := replays_declaration node hs
  have htr : t.Reachable := (hs.trans hd.later).trans ht
  have hb := replays_build index node htr
  have hclasses := declaration_classes (htr.trans hb.later) (hb.settled .refl)
  rw [hd.eval_eq (ht.trans hb.later)] at hclasses
  rw [hclasses, builtSymbols, hb.eval_eq .refl]
  rfl

lemma later_declareAll {names : Interner} (hn : names.Reachable)
    (assemblies : List (String × Assembly)) (implicitPackages : List String) :
    Later ((declareAll (nodes assemblies)).run names).2
      ((ofAssemblies assemblies implicitPackages).run names).2 := by
  let s := ((declareAll (nodes assemblies)).run names).2
  have hs : s.Reachable := hn.trans (replays_declareFrom hn .empty _).later
  let index := ((declareAll (nodes assemblies)).eval names).index
  have hbuild : Replays s ((nodes assemblies).mapM (build index)) :=
    .mapM fun node _ => replays_build index node hs
  have hparse : Replays (((nodes assemblies).mapM (build index)).run s).2
      (implicitPackages.mapM Package.parse) :=
    .mapM fun text _ => Package.replays_parse _ text
  exact hbuild.later.trans hparse.later

lemma declareAll_index {names : Interner} (hn : names.Reachable) (nodes : List TypeNode)
    {t : Interner} (ht : Later ((declareAll nodes).run names).2 t) :
    ((declareAll nodes).eval names).index =
      Index.ofHistory (nodes.map fun node => (declaration node).eval t) := by
  have hd := eval_declareFrom hn .empty nodes ht
  rw [Registry.foldl_declare] at hd
  exact congrArg Registry.index hd

lemma Assembled.sameClasses {nodes : List TypeNode} {l : Library} (h : Assembled nodes index l i) :
    l.registry.index.SameClasses
      (Index.ofHistory (nodes.map fun node => (declaration node).eval i)) := by
  rw [h.registry_eq, Registry.index_withIndex, published, List.foldl_append]
  refine Index.sameClasses_foldl_record fun q hq => ?_
  obtain ⟨node, hn, rfl⟩ := List.mem_map.mp hq
  refine ⟨_, List.mem_map_of_mem hn, ?_⟩
  exact (declaration_classes h.reachable (h.built node hn)).symm

end

end Library

lemma Registry.mem_callables_storeAll {cs : List Symbol.Class} {r : Registry} {id : CallableId}
    {f : Symbol.Function} (h : f ∈ (r.storeAll cs).callables id) :
    f ∈ r.callables id ∨ ∃ c ∈ cs, f ∈ c.functions := by
  have hstore {r : Registry} {c : Symbol.Class} (h : f ∈ (r.store c).callables id) :
      f ∈ r.callables id ∨ f ∈ c.functions := by
    rw [store] at h
    split at h
    · rw [callables_fileFunctions] at h
      simp only [List.mem_append, List.mem_filter] at h
      exact h.imp_right fun hf => hf.1.1
    · have hfiled : f ∈ (r.fileFunctions c.functions).callables id := h
      rw [callables_fileFunctions] at hfiled
      simp only [List.mem_append, List.mem_filter] at hfiled
      exact hfiled.imp_right And.left
  simp only [storeAll] at h
  induction cs generalizing r with
  | nil => exact .inl h
  | cons c cs ih =>
    rcases ih h with hf | ⟨d, hd, hf⟩
    · refine (hstore hf).imp_right fun hf => ⟨c, List.mem_cons_self, hf⟩
    · exact .inr ⟨d, List.mem_cons_of_mem c hd, hf⟩

namespace Library

theorem signatures_resolved {names : Interner} (hn : names.Reachable)
    (assemblies : List (String × Assembly)) (implicitPackages : List String) :
    let nodes := nodes assemblies
    let declared := ((declareAll nodes).eval names).index
    let registry := ((ofAssemblies assemblies implicitPackages).eval names).registry
    let final := ((ofAssemblies assemblies implicitPackages).run names).2
    (∀ node index s t, s.Reachable → Later ((declaration node).run s).2 t →
        ((declaration node).eval s).classes = ((build index node).eval t).names.classes) ∧
      registry.index.classNames = declared.classNames ∧
      registry.index.shortNames = declared.shortNames ∧
      (∀ id c, registry.classifier id = some c → ∃ node ∈ nodes,
        id ∈ ((declaration node).eval final).classes ∧
          ClassResolved registry.index final node c) ∧
      ∀ id, ∀ f ∈ registry.callables id, ∃ node ∈ nodes, ∃ c, f ∈ c.functions ∧
        c.id ∈ ((declaration node).eval final).classes ∧
          ClassResolved registry.index final node c := by
  intro nodes declared registry final
  have h : Assembled nodes declared _ final :=
    ofAssemblies_assembled hn assemblies implicitPackages
  have hlater : Later _ final := later_declareAll hn assemblies implicitPackages
  have hdeclared : declared = _ := declareAll_index hn nodes hlater
  have hsame : registry.index.SameClasses declared := hdeclared ▸ h.sameClasses
  have hresolved (c : Symbol.Class) (hc : c ∈ nodes.flatMap (builtSymbols final declared)) :
      ∃ node ∈ nodes, c.id ∈ ((declaration node).eval final).classes ∧
        ClassResolved registry.index final node c := by
    obtain ⟨node, hnode, hc⟩ := List.mem_flatMap.mp hc
    have hb := h.built node hnode
    refine ⟨node, hnode, ?_, ?_⟩
    · rw [declaration_classes h.reachable hb]
      exact List.mem_map_of_mem hc
    · have hbuilt := builtSymbols_resolved h.reachable hb c hc
      exact hbuilt.congr ⟨hsame.classNames.symm, hsame.shortNames.symm⟩
  refine ⟨fun node index s t hs ht => declared_classes_eq hs index node ht, hsame.classNames,
    hsame.shortNames, fun id c hc => ?_, fun id f hf => ?_⟩
  · rw [h.classifier_eq] at hc
    have hid : c.id = id := by simpa using List.find?_some hc
    rw [← hid]
    exact hresolved c (List.mem_of_find?_eq_some hc)
  · have hstored : registry = _ := h.registry_eq
    rw [hstored, Registry.callables_withIndex] at hf
    obtain ⟨c, hc, hf⟩ := (Registry.mem_callables_storeAll hf).resolve_left (by simp)
    obtain ⟨node, hnode, hid, hclass⟩ := hresolved c hc
    exact ⟨node, hnode, c, hf, hid, hclass⟩

def forwardReference : List (String × Assembly) :=
  let node (name : String) : TypeNode :=
    ⟨none, name, [fileClassAttribute], [⟨"next", some "Second", [⟨none, some "First"⟩], true⟩], []⟩
  [("Demo", ⟨none, [node "First", node "Second"]⟩)]

theorem signatures_resolved_forwardReference :
    let registry := ((ofAssemblies forwardReference []).eval .new).registry
    let final := ((ofAssemblies forwardReference []).run .new).2
    Interner.new.Reachable ∧ ∃ package name c f,
      registry.classifier (.topLevel package name) = some c ∧ c.functions = [f] ∧
        f.returnType = (Resolution.resolve registry.index "Second" true).eval final := by
  intro registry final
  let next : Method := ⟨"next", some "Second", [⟨none, some "First"⟩], true⟩
  let first : TypeNode := ⟨none, "First", [fileClassAttribute], [next], []⟩
  let second : TypeNode := ⟨none, "Second", [fileClassAttribute], [next], []⟩
  have hnodes : nodes forwardReference = [first, second] :=
    nodes_eq_of_ascending (.refl _) (by decide)
  have h := ofAssemblies_assembled .refl forwardReference []
  rw [hnodes] at h
  have hfirst : firstNode final [first, second] (idOf final first) = some first := by
    simp [firstNode]
  rw [idOf_eq_topLevel] at hfirst
  obtain ⟨c, hc⟩ : ∃ c, registry.classifier
      (.topLevel (idOf final first).package (idOf final first).short) = some c := by
    apply Option.isSome_iff_exists.mp
    rw [h.classifier_topLevel_eq h.reachable.nodup, hfirst]
    exact Assembled.builtSymbols_zero_isSome h.reachable (h.built first List.mem_cons_self)
  obtain ⟨-, -, -, hclasses, -⟩ := signatures_resolved .refl forwardReference []
  obtain ⟨node, hnode, -, hclass⟩ := hclasses _ c hc
  have hmethods : methodsOf node c.isCompanion = [next] := by
    rw [hnodes] at hnode
    have hone : node = first ∨ node = second := by simpa using hnode
    rcases hone with rfl | rfl <;> cases c.isCompanion <;> rfl
  have hfunctions := hclass.functions
  rw [hmethods] at hfunctions
  obtain ⟨f, rest, hf, hrest, hcs⟩ := List.forall₂_cons_left_iff.mp hfunctions
  cases List.forall₂_nil_left_iff.mp hrest
  exact ⟨.refl, _, _, c, f, hc, hcs, hf.returnType final .refl⟩

end Library

end ClrCompiler
