import ClrCompiler.Proofs.Chains
import ClrCompiler.Proofs.Library.Lookup

/-! Every published name is backed by a symbol and every symbol has its name published, in one library
and in chains of libraries and the built-in symbols. -/

namespace ClrCompiler

open Interner Naming Metadata

namespace Registry

structure Backed (r : Registry) : Prop where
  classNames : ∀ package name,
    (package, name) ∈ r.index.classNames ↔ (r.classifier (.topLevel package name)).isSome
  callableNames : ∀ package name,
    (package, name) ∈ r.index.callableNames ↔ r.freeFunctions package name ≠ []
  packages : ∀ package, package ∈ r.index.packages ↔ r.classesIn package ≠ []

lemma backed_storeAll {symbols : List Symbol.Class} {names : List Registration}
    (hclasses : ∀ id, (∃ r ∈ names, id ∈ r.classes) ↔ ∃ c ∈ symbols, c.id = id)
    (hcallables : ∀ id, (∃ r ∈ names, id ∈ r.callables) ↔
      ∃ f ∈ symbols.flatMap (·.functions), f.id = id)
    (hpackages : ∀ p, (∃ r ∈ names, r.package = p) ↔ ∃ c ∈ symbols, c.id.package = p) :
    Backed ((empty.storeAll symbols).withIndex (names.foldl Index.record .empty)) where
  classNames package name := by
    rw [index_withIndex, mem_foldl Index.classNames (Index.mem_classNames_record package name),
      hclasses, classifier_withIndex, classifier_storeAll]
    simp [Index.empty]
  callableNames package name := by
    rw [index_withIndex, mem_foldl Index.callableNames (Index.mem_callableNames_record package name),
      hcallables, freeFunctions, callables_withIndex, ← freeFunctions, freeFunctions_storeAll]
    simp only [Index.empty, List.not_mem_nil, false_or, freeFunctions, callables_empty,
      List.nil_append, ne_eq, List.filter_eq_nil_iff, beq_iff_eq, not_forall, not_not, exists_prop]
  packages package := by
    rw [index_withIndex, mem_foldl Index.packages (Index.mem_packages_record package), hpackages,
      classesIn_withIndex]
    have hlisted := classesListed_empty.storeAll symbols package
    simp only [classifier_storeAll, classifier_empty, Option.none_or, List.find?_isSome,
      beq_iff_eq] at hlisted
    rw [← List.isEmpty_eq_false_iff, List.isEmpty_eq_false_iff_exists_mem]
    simp only [hlisted, Index.empty, List.not_mem_nil, false_or]
    constructor
    · rintro ⟨c, hc, hp⟩
      exact ⟨c.id, hp, c, hc, rfl⟩
    · rintro ⟨_, hp, c, hc, rfl⟩
      exact ⟨c, hc, hp⟩

end Registry

namespace Library

variable {nodes : List TypeNode} {index : Index} {l : Library} {i : Interner} {node : TypeNode}

lemma declaration_classes (hi : i.Reachable) (hb : Settled i (build index node)) :
    ((declaration node).eval i).classes = (builtSymbols i index node).map (·.id) := by
  by_cases hs : node.shape = .object
  · have hc : node.shape.hasCompanion = false := by simp [Shape.hasCompanion, hs]
    rw [builtSymbols_of_object hi hb hs, List.map_singleton, primary_id]
    simp only [declaration, hc]
    rfl
  · have hc : node.shape.hasCompanion = true := by simpa [Shape.hasCompanion] using hs
    rw [builtSymbols_of_hasCompanion hi hb hs, List.map_cons, List.map_singleton, primary_id,
      companion_id]
    have hrun : ((declaration node).eval i).classes =
        [idOf i node, ((idOf i node).nested .companion).eval (node.classId.run i).2] := by
      simp only [declaration, hc, if_true]
      rfl
    rw [hrun, classId_settled hi hb]

lemma builtSymbols_package (hi : i.Reachable) (hb : Settled i (build index node)) :
    ∀ c ∈ builtSymbols i index node, c.id.package = (idOf i node).package := by
  by_cases hs : node.shape = .object
  · rw [builtSymbols_of_object hi hb hs]
    simp [primary_id]
  · rw [builtSymbols_of_hasCompanion hi hb hs]
    simp [primary_id, companion_id, ClassId.eval_nested]

lemma declaration_package (node : TypeNode) (i : Interner) :
    ((declaration node).eval i).package = (idOf i node).package := by
  simp only [declaration]
  cases node.shape.hasCompanion <;> rfl

lemma declaration_callables (node : TypeNode) (i : Interner) :
    ((declaration node).eval i).callables = [] := by
  simp only [declaration]
  cases node.shape.hasCompanion <;> rfl

lemma builtSymbols_ne_nil (hi : i.Reachable) (hb : Settled i (build index node)) :
    builtSymbols i index node ≠ [] := by
  by_cases hs : node.shape = .object
  · simp [builtSymbols_of_object hi hb hs]
  · simp [builtSymbols_of_hasCompanion hi hb hs]

lemma mem_published {r : Registration} : r ∈ published i index nodes ↔
    ∃ node ∈ nodes, r = (declaration node).eval i ∨ r = ((build index node).eval i).names := by
  simp only [published, List.mem_append, List.mem_map]
  constructor
  · rintro (⟨node, hn, rfl⟩ | ⟨node, hn, rfl⟩)
    · exact ⟨node, hn, Or.inl rfl⟩
    · exact ⟨node, hn, Or.inr rfl⟩
  · rintro ⟨node, hn, rfl | rfl⟩
    · exact Or.inl ⟨node, hn, rfl⟩
    · exact Or.inr ⟨node, hn, rfl⟩

lemma Assembled.published_classes (h : Assembled nodes index l i) (id : ClassId) :
    (∃ r ∈ published i index nodes, id ∈ r.classes) ↔
      ∃ c ∈ nodes.flatMap (builtSymbols i index), c.id = id := by
  have hnode : ∀ node ∈ nodes, (id ∈ ((declaration node).eval i).classes ↔
      ∃ c ∈ builtSymbols i index node, c.id = id) := by
    intro node hn
    rw [declaration_classes h.reachable (h.built node hn), List.mem_map]
  constructor
  · rintro ⟨r, hr, hid⟩
    obtain ⟨node, hn, rfl | rfl⟩ := mem_published.mp hr
    · obtain ⟨c, hc, rfl⟩ := (hnode node hn).mp hid
      exact ⟨c, List.mem_flatMap.mpr ⟨node, hn, hc⟩, rfl⟩
    · obtain ⟨c, hc, rfl⟩ := List.mem_map.mp hid
      exact ⟨c, List.mem_flatMap.mpr ⟨node, hn, hc⟩, rfl⟩
  · rintro ⟨c, hc, rfl⟩
    obtain ⟨node, hn, hcn⟩ := List.mem_flatMap.mp hc
    exact ⟨_, mem_published.mpr ⟨node, hn, Or.inl rfl⟩, (hnode node hn).mpr ⟨c, hcn, rfl⟩⟩

-- callables are only published when their type is built
lemma published_callables (nodes : List TypeNode) (index : Index) (i : Interner) (id : CallableId) :
    (∃ r ∈ published i index nodes, id ∈ r.callables) ↔
      ∃ f ∈ (nodes.flatMap (builtSymbols i index)).flatMap (·.functions), f.id = id := by
  constructor
  · rintro ⟨r, hr, hid⟩
    obtain ⟨node, hn, rfl | rfl⟩ := mem_published.mp hr
    · rw [declaration_callables] at hid
      exact absurd hid List.not_mem_nil
    · obtain ⟨c, hc, hid⟩ := List.mem_flatMap.mp hid
      obtain ⟨f, hf, rfl⟩ := List.mem_map.mp hid
      exact ⟨f, List.mem_flatMap.mpr ⟨c, List.mem_flatMap.mpr ⟨node, hn, hc⟩, hf⟩, rfl⟩
  · rintro ⟨f, hf, rfl⟩
    obtain ⟨c, hc, hfc⟩ := List.mem_flatMap.mp hf
    obtain ⟨node, hn, hcn⟩ := List.mem_flatMap.mp hc
    refine ⟨_, mem_published.mpr ⟨node, hn, Or.inr rfl⟩, ?_⟩
    exact List.mem_flatMap.mpr ⟨c, hcn, List.mem_map.mpr ⟨f, hfc, rfl⟩⟩

lemma Assembled.published_packages (h : Assembled nodes index l i) (package : Package) :
    (∃ r ∈ published i index nodes, r.package = package) ↔
      ∃ c ∈ nodes.flatMap (builtSymbols i index), c.id.package = package := by
  constructor
  · rintro ⟨r, hr, rfl⟩
    obtain ⟨node, hn, hnames⟩ := mem_published.mp hr
    have hp : r.package = (idOf i node).package := by
      rcases hnames with rfl | rfl
      · exact declaration_package node i
      · rfl
    obtain ⟨c, hc⟩ := List.exists_mem_of_ne_nil _
      (builtSymbols_ne_nil h.reachable (h.built node hn))
    exact ⟨c, List.mem_flatMap.mpr ⟨node, hn, hc⟩,
      (builtSymbols_package h.reachable (h.built node hn) c hc).trans hp.symm⟩
  · rintro ⟨c, hc, rfl⟩
    obtain ⟨node, hn, hcn⟩ := List.mem_flatMap.mp hc
    refine ⟨_, mem_published.mpr ⟨node, hn, Or.inl rfl⟩, ?_⟩
    rw [declaration_package, builtSymbols_package h.reachable (h.built node hn) c hcn]

lemma Assembled.backed (h : Assembled nodes index l i) : l.registry.Backed := by
  rw [h.registry_eq]
  exact Registry.backed_storeAll h.published_classes (published_callables nodes index i)
    h.published_packages

end Library

lemma Builtins.registry_backed : Builtins.registry.Backed := by
  rw [Builtins.registry, Registry.foldl_apply]
  apply Registry.backed_storeAll
  · simp [Builtins.registration, eq_comm]
  · intro id
    simp only [List.mem_map, Builtins.registration, List.flatMap_singleton', List.mem_flatMap]
    constructor
    · rintro ⟨_, ⟨c, hc, rfl⟩, hid⟩
      obtain ⟨f, hf, rfl⟩ := List.mem_map.mp hid
      exact ⟨f, ⟨c, hc, hf⟩, rfl⟩
    · rintro ⟨f, ⟨c, hc, hf⟩, rfl⟩
      exact ⟨_, ⟨c, hc, rfl⟩, List.mem_map.mpr ⟨f, hf, rfl⟩⟩
  · simp [Builtins.registration]

namespace Provider

inductive Stock : Provider → Prop
  | builtins : Stock .builtins
  | library {names : Interner} (hn : names.Reachable) (assemblies : List (String × Assembly))
      (implicitPackages : List String) :
      Stock (.library ((Library.ofAssemblies assemblies implicitPackages).eval names))

structure NamesBacked (p : Provider) (i : Interner) : Prop where
  classNames : ∀ package name,
    name ∈ p.classNamesIn package ↔ ((p.classifier (.topLevel package name)).eval i).isSome
  callableNames : ∀ package name,
    name ∈ p.callableNamesIn package ↔ p.freeFunctions package name ≠ []

lemma Stock.stores {p : Provider} (h : Stock p) : ∃ r : Registry, r.Backed ∧
    p.Single ∧ p.registry? = some r ∧ p.index = r.index ∧
      ∀ id, p.classifier id = pure (r.classifier id) := by
  cases h with
  | builtins =>
    refine ⟨Builtins.registry, Builtins.registry_backed, trivial, rfl, rfl, fun id => ?_⟩
    rw [classifier]
  | @library names hn assemblies implicitPackages =>
    have hb := (Library.ofAssemblies_assembled hn assemblies implicitPackages).backed
    refine ⟨_, hb, trivial, rfl, rfl, fun id => ?_⟩
    rw [classifier]

lemma Stock.single {p : Provider} (h : Stock p) : p.Single := h.stores.choose_spec.2.1

lemma eval_firstClassifier {members : List Provider} (h : ∀ p ∈ members, Stock p) (id : ClassId)
    (i : Interner) :
    (firstClassifier members id).eval i = members.findSome? fun p => (p.classifier id).eval i := by
  induction members with
  | nil => simp [firstClassifier]
  | cons p rest ih =>
    obtain ⟨r, _, _, _, _, hclassifier⟩ := (h p List.mem_cons_self).stores
    have hrest := ih fun q hq => h q (List.mem_cons_of_mem p hq)
    rw [firstClassifier, hclassifier, pure_bind, List.findSome?_cons, hclassifier]
    cases hc : r.classifier id with
    | some c => rfl
    | none => exact hrest

lemma Stock.namesBacked {p : Provider} (h : Stock p) (i : Interner) : p.NamesBacked i := by
  obtain ⟨r, hr, hsingle, hregistry, hindex, hclassifier⟩ := h.stores
  constructor
  · intro package name
    rw [classNamesIn, hsingle.gather, hindex, Index.classNamesIn, Name.mem_ascending,
      Index.mem_namesIn, hclassifier]
    exact hr.classNames package name
  · intro package name
    rw [callableNamesIn, hsingle.gather, hindex, Index.callableNamesIn, Name.mem_ascending,
      Index.mem_namesIn, freeFunctions, callables, hsingle.gather, ownCallables, hregistry]
    exact hr.callableNames package name

lemma namesBacked_chain {members : List Provider} (h : ∀ p ∈ members, Stock p) (i : Interner) :
    (chain members).NamesBacked i := by
  constructor
  · intro package name
    rw [classifier, eval_firstClassifier h, List.findSome?_isSome_iff, classNamesIn,
      mem_gather_chain]
    refine exists_congr fun p => and_congr_right fun hp => ?_
    exact ((h p hp).namesBacked i).classNames package name
  · intro package name
    rw [callableNamesIn, mem_gather_chain, freeFunctions, callables_chain, ne_eq,
      List.flatMap_eq_nil_iff]
    simp only [not_forall, exists_prop]
    refine exists_congr fun p => and_congr_right fun hp => ?_
    exact ((h p hp).namesBacked i).callableNames package name

end Provider

namespace Library

lemma mem_implicitPackages (names : Interner)
    (assemblies : List (String × Assembly)) (implicitPackages : List String) (package : Package) :
    package ∈ ((ofAssemblies assemblies implicitPackages).eval names).implicitPackages ↔
      ∃ text ∈ implicitPackages,
        ((ofAssemblies assemblies implicitPackages).run names).2.get? text = some package.name := by
  let s := ((registryOf (nodes assemblies)).run names).2
  let i := ((ofAssemblies assemblies implicitPackages).run names).2
  have hparse : ∀ text ∈ implicitPackages, Replays s (Package.parse text) :=
    fun text _ => Package.replays_parse s text
  have hlast : i = ((implicitPackages.mapM Package.parse).run s).2 := rfl
  have hvalue : ((ofAssemblies assemblies implicitPackages).eval names).implicitPackages =
      (implicitPackages.mapM Package.parse).eval s := rfl
  have hall : Replays s (implicitPackages.mapM Package.parse) := Replays.mapM hparse
  have hsettled : ∀ text ∈ implicitPackages, Settled i (Package.parse text) := by
    apply Settled.of_mapM
    · exact hall.settled (hlast ▸ .refl)
    · exact fun text ht => (hparse text ht).mono (hlast ▸ hall.later)
  rw [hvalue, eval_mapM hparse (t := i) (hlast ▸ .refl), List.mem_map]
  apply exists_congr
  intro text
  apply and_congr_right
  intro ht
  have hget : i.get? text = some ((Package.parse text).eval i).name :=
    get?_of_settled (hsettled text ht)
  change _ ↔ i.get? text = _
  rw [hget, Option.some_inj]
  constructor
  · rintro rfl
    rfl
  · intro he
    cases package
    exact congrArg Package.mk he

end Library

theorem Provider.names_agree_with_lookups {names : Interner} (hn : names.Reachable)
    (assemblies : List (String × Assembly)) (implicitPackages : List String) :
    let library := (Library.ofAssemblies assemblies implicitPackages).eval names
    let final := ((Library.ofAssemblies assemblies implicitPackages).run names).2
    let provider := Provider.library library
    (∀ i, provider.NamesBacked i) ∧
      (∀ package : Package, package.name ∈ provider.packageNames ↔
        library.registry.classesIn package ≠ []) ∧
      (∀ package : Package, provider.hasPackage package ↔
        package.name ∈ provider.packageNames ∨
          ∃ text ∈ implicitPackages, final.get? text = some package.name) ∧
      ∀ members : List Provider, (∀ p ∈ members, p.Stock) →
        ∀ i, (Provider.chain members).NamesBacked i := by
  intro library final provider
  have hstock : provider.Stock := .library hn assemblies implicitPackages
  have hb : library.registry.Backed :=
    (Library.ofAssemblies_assembled hn assemblies implicitPackages).backed
  have hnames : ∀ package : Package,
      package.name ∈ provider.packageNames ↔ package ∈ library.registry.index.packages := by
    intro package
    rw [packageNames, hstock.single.gather, Index.packageNames, Name.mem_ascending, List.mem_map]
    constructor
    · rintro ⟨⟨_⟩, hp, rfl⟩
      exact hp
    · exact fun hp => ⟨package, hp, rfl⟩
  refine ⟨hstock.namesBacked, ?_, ?_, fun members hm i => namesBacked_chain hm i⟩
  · intro package
    rw [hnames, hb.packages]
  · intro package
    rw [hnames, ← Library.mem_implicitPackages names assemblies implicitPackages, or_comm]
    rw [hasPackage, hstock.single.gather]
    simp [ownPackage, Library.hasPackage, Index.hasPackage, provider, library]

def Provider.libraryFirst : List Provider :=
  [.library ((Library.ofAssemblies Library.repeatedType ["System"]).eval .new), .builtins]

theorem Provider.names_agree_with_lookups_libraryFirst :
    Interner.new.Reachable ∧ (∀ p ∈ libraryFirst, p.Stock) ∧
      ∀ i, (Provider.chain libraryFirst).NamesBacked i := by
  have hstock : ∀ p ∈ libraryFirst, p.Stock := by
    rintro p (_ | ⟨_, _ | ⟨_, hp⟩⟩)
    · exact .library .refl _ _
    · exact .builtins
    · exact absurd hp List.not_mem_nil
  obtain ⟨_, _, _, hchain⟩ := names_agree_with_lookups .refl Library.repeatedType ["System"]
  exact ⟨.refl, hstock, hchain libraryFirst hstock⟩

end ClrCompiler
