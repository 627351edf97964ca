import ClrCompiler.Proofs.NameQueries

/-! Shadowing in a chain. The first provider that declares a class gives its symbol and comes first
among its members; the others add members only if they declare the class too. How the providers are
grouped into chains does not matter. -/

namespace ClrCompiler

open Interner Naming Metadata

namespace Symbol.Class

def isLibraryObject (c : Class) : Bool := c.origin == .library && c.kind == .object && !c.isCompanion

def membersNamed (c : Class) (name : Name) : List Function :=
  if c.isLibraryObject then [] else c.functionsNamed name

end Symbol.Class

def Registry.ServesMembers (r : Registry) : Prop :=
  ∀ id name, r.members id name = (r.classifier id).elim [] (·.membersNamed name)

namespace Library

variable {nodes : List TypeNode} {index : Index} {l : Library} {i : Interner} {id : ClassId}
  {c : Symbol.Class}

lemma firstNode_of_isNested (hid : id.isNested = true) : firstNode i nodes id = none :=
  List.find?_eq_none.mpr fun node _ he => Assembled.idOf_ne_of_isNested hid node (eq_of_beq he)

namespace Assembled

lemma classifier_cases (h : Assembled nodes index l i) (hc : l.registry.classifier id = some c) :
    (c.isCompanion = true ∧ firstNode i nodes id = none) ∨
      ∃ node, firstNode i nodes id = some node ∧ c.isCompanion = false ∧ c.origin = .library ∧
        c.kind = if node.shape = .object then .object else .plain := by
  cases hid : id.isNested with
  | true =>
    obtain ⟨-, node, -, rfl⟩ := h.classifier_nested_eq hid hc
    exact .inl ⟨companion_isCompanion _, firstNode_of_isNested hid⟩
  | false =>
    rw [ClassId.eq_topLevel_of_not_isNested hid] at hc ⊢
    rw [h.classifier_topLevel_eq h.reachable.nodup, Option.bind_eq_some_iff] at hc
    obtain ⟨node, hfirst, hc⟩ := hc
    rw [builtSymbols_zero h.reachable (h.built node (List.mem_of_find?_eq_some hfirst))] at hc
    cases hc
    exact .inr ⟨node, hfirst, primary_isCompanion _, primary_origin _, primary_kind _⟩

lemma isLibraryObject_iff (h : Assembled nodes index l i)
    (hc : l.registry.classifier id = some c) :
    c.isLibraryObject ↔ ∃ node, firstNode i nodes id = some node ∧ node.shape = .object := by
  obtain ⟨hmark, hfirst⟩ | ⟨node, hfirst, hmark, horigin, hkind⟩ := h.classifier_cases hc
  · simp [Symbol.Class.isLibraryObject, hmark, hfirst]
  · by_cases hs : node.shape = .object <;>
      simp [Symbol.Class.isLibraryObject, hmark, hfirst, horigin, hkind, hs]

lemma servesMembers (h : Assembled nodes index l i) : l.registry.ServesMembers := by
  intro id name
  rw [(h.answers h.reachable.nodup).members]
  cases hc : l.registry.classifier id with
  | none => rfl
  | some c =>
    have hobject := h.isLibraryObject_iff hc
    obtain ⟨hmark, hfirst⟩ | ⟨node, hfirst, hmark, -⟩ := h.classifier_cases hc
    · simp [Symbol.Class.membersNamed, hobject, hmark, hfirst]
    · by_cases hs : node.shape = .object <;>
        simp [Symbol.Class.membersNamed, hobject, hmark, hfirst, hs]

end Assembled

end Library

namespace Builtins

lemma mem_of_classifier {id : ClassId} {c : Symbol.Class} (h : registry.classifier id = some c) :
    c ∈ classes ∧ c.id = id := by
  rw [registry, Registry.foldl_apply, Registry.classifier_withIndex, List.flatMap_singleton',
    Registry.classifier_storeAll, Registry.classifier_empty, Option.none_or] at h
  exact ⟨List.mem_of_find?_eq_some h, by simpa using List.find?_some h⟩

lemma function_id : ∀ c ∈ classes, ∀ f ∈ c.functions, f.id = .member c.id f.name := by
  decide

lemma isLibraryObject_eq_false : ∀ c ∈ classes, c.isLibraryObject = false := by
  decide

lemma membersFiled : registry.MembersFiled := by
  rw [registry, Registry.foldl_apply, List.flatMap_singleton']
  apply Registry.MembersFiled.withIndex
  apply Registry.membersFiled_empty.storeAll
  intro c hc f hf owner howner
  rw [function_id c hc f hf] at howner
  exact (Option.some.inj howner).symm

lemma servesMembers : registry.ServesMembers := by
  intro id name
  rw [membersFiled]
  cases hc : registry.classifier id with
  | none => rfl
  | some c =>
    obtain ⟨hin, rfl⟩ := mem_of_classifier hc
    have hnamed := Library.Assembled.filter_eq_functionsNamed
      (fun f hf => ⟨_, function_id c hin f hf⟩) name
    simpa [Symbol.Class.membersNamed, isLibraryObject_eq_false c hin] using hnamed

end Builtins

namespace Provider

lemma Stock.members_eq {p : Provider} (h : Stock p) (id : ClassId) (name : Name) (i : Interner) :
    p.members id name = ((p.classifier id).eval i).elim [] (·.membersNamed name) := by
  obtain ⟨r, -, hsingle, hregistry, -, hclassifier⟩ := h.stores
  have hserves : r.ServesMembers := by
    cases h with
    | builtins => exact Option.some.inj hregistry ▸ Builtins.servesMembers
    | library hn assemblies implicitPackages =>
      exact Option.some.inj hregistry ▸
        (Library.ofAssemblies_assembled hn assemblies implicitPackages).servesMembers
  have hmembers : p.members id name = r.members id name := by
    rw [members, callables, hsingle.gather, ownCallables, hregistry]
    rfl
  rw [hmembers, hserves, hclassifier]
  rfl

lemma members_eq_flatMap {p : Provider} (h : ∀ q ∈ p.parts, q.Stock) (id : ClassId) (name : Name) :
    p.members id name = p.parts.flatMap (·.members id name) := by
  rw [members, callables_eq_parts]
  refine List.flatMap_congr fun q hq => ?_
  rw [members, callables, (h q hq).single.gather]

lemma eval_classifier {p : Provider} (h : ∀ q ∈ p.parts, q.Stock) (id : ClassId) (i : Interner) :
    (p.classifier id).eval i = p.parts.findSome? fun q => (q.classifier id).eval i := by
  rw [← firstClassifier_parts, eval_firstClassifier h]

lemma flatMap_members_of_declared {parts : List Provider} (h : ∀ q ∈ parts, q.Stock) (id : ClassId)
    (name : Name) (i : Interner) :
    parts.flatMap (·.members id name) =
      (parts.filter fun q => ((q.classifier id).eval i).isSome).flatMap (·.members id name) := by
  rw [Library.flatMap_filter_if]
  refine List.flatMap_congr fun q hq => ?_
  split
  · rfl
  · rename_i habsent
    rw [(h q hq).members_eq id name i, Option.not_isSome_iff_eq_none.mp habsent, Option.elim_none]

lemma flatMap_members_of_absent {parts : List Provider} (h : ∀ q ∈ parts, q.Stock) {id : ClassId}
    {i : Interner} (habsent : ∀ q ∈ parts, (q.classifier id).eval i = none) (name : Name) :
    parts.flatMap (·.members id name) = [] := by
  have hnone : (parts.filter fun q => ((q.classifier id).eval i).isSome) = [] := by
    refine List.filter_eq_nil_iff.mpr fun q hq => ?_
    rw [habsent q hq]
    exact Bool.false_ne_true
  rw [flatMap_members_of_declared h id name i, hnone, List.flatMap_nil]

theorem shadowing_consistent {p : Provider} (hp : ∀ q ∈ p.parts, q.Stock) (i : Interner)
    (id : ClassId) (name : Name) :
    (∀ s, (p.classifier id).eval i = some s → ∃ before q after,
      p.parts = before ++ q :: after ∧
      (∀ earlier ∈ before, (earlier.classifier id).eval i = none) ∧
      (q.classifier id).eval i = some s ∧
      p.members id name = (if s.isLibraryObject then [] else s.functionsNamed name) ++
        (after.filter fun later => ((later.classifier id).eval i).isSome).flatMap
          (·.members id name)) ∧
    ((p.classifier id).eval i = none → p.members id name = []) ∧
    SameAnswers p (chain p.parts) ∧
    (∀ before group after : List Provider,
      SameAnswers (chain (before ++ chain group :: after)) (chain (before ++ group ++ after))) ∧
    (∀ c, Builtins.registry.classifier id = some c → c.isLibraryObject = false) ∧
    ∀ start : Interner, start.Reachable → ∀ assemblies implicitPackages,
      let library := (Library.ofAssemblies assemblies implicitPackages).eval start
      let final := ((Library.ofAssemblies assemblies implicitPackages).run start).2
      ∀ c, library.registry.classifier id = some c →
        (c.isLibraryObject ↔ ∃ node,
          Library.firstNode final (Library.nodes assemblies) id = some node ∧
            node.shape = .object) := by
  refine ⟨fun s hs => ?_, fun hnone => ?_, sameAnswers_flat p, fun before group after => ?_,
    fun c hc => ?_, ?_⟩
  · rw [eval_classifier hp] at hs
    obtain ⟨before, q, after, hparts, hq, hbefore⟩ := List.findSome?_eq_some_iff.mp hs
    refine ⟨before, q, after, hparts, hbefore, hq, ?_⟩
    -- members are collected from all parts, so those before `q` have to be empty
    have hmembers := members_eq_flatMap hp id name
    rw [hparts] at hp hmembers
    have hearlier : before.flatMap (·.members id name) = [] :=
      flatMap_members_of_absent (fun e he => hp e (List.mem_append_left _ he)) hbefore name
    have hown : q.members id name = s.membersNamed name := by
      rw [(hp q (by simp)).members_eq id name i, hq, Option.elim_some]
    have hafter : ∀ e ∈ after, e.Stock :=
      fun e he => hp e (List.mem_append_right _ (List.mem_cons_of_mem q he))
    have hlater := flatMap_members_of_declared hafter id name i
    rw [hmembers, List.flatMap_append, List.flatMap_cons, hearlier, hown, hlater, List.nil_append,
      Symbol.Class.membersNamed]
  · rw [eval_classifier hp, List.findSome?_eq_none_iff] at hnone
    rw [members_eq_flatMap hp, flatMap_members_of_absent hp hnone]
  · exact sameAnswers_nested before group after
  · exact Builtins.isLibraryObject_eq_false c (Builtins.mem_of_classifier hc).1
  · intro start hstart assemblies implicitPackages library final c hc
    exact (Library.ofAssemblies_assembled hstart assemblies implicitPackages).isLibraryObject_iff hc

def anyAgain : List (String × Assembly) :=
  [("a", ⟨none, [⟨some "kotlin", "Any", [], [⟨"toString", none, [], false⟩], []⟩]⟩)]

def anyTwice : Provider :=
  .chain [.builtins, .chain [.library ((Library.ofAssemblies anyAgain []).eval .new)]]

theorem shadowing_consistent_anyTwice :
    (∀ q ∈ anyTwice.parts, q.Stock) ∧
    (anyTwice.classifier Standard.any).eval .new = some Builtins.anyClass ∧
    Builtins.anyClass.isLibraryObject = false ∧
    Builtins.anyClass.functionsNamed .toStringMember <+:
      anyTwice.members Standard.any .toStringMember ∧
    (anyTwice.members Standard.any .toStringMember).length = 2 := by
  have hparts : anyTwice.parts =
      [.builtins, .library ((Library.ofAssemblies anyAgain []).eval .new)] := by
    simp [anyTwice, parts, partsAll]
  have hstock : ∀ q ∈ anyTwice.parts, q.Stock := by
    rw [hparts]
    rintro q (_ | ⟨_, _ | ⟨_, hq⟩⟩)
    · exact .builtins
    · exact .library .refl _ _
    · exact absurd hq List.not_mem_nil
  have hany : (anyTwice.classifier Standard.any).eval .new = some Builtins.anyClass := by
    rw [eval_classifier hstock, hparts, List.findSome?_cons, classifier]
    decide +kernel
  have hkind : Builtins.anyClass.isLibraryObject = false := by decide
  obtain ⟨_, _, _, -, -, -, hmembers⟩ :=
    (shadowing_consistent hstock .new Standard.any .toStringMember).1 _ hany
  refine ⟨hstock, hany, hkind, ?_, ?_⟩
  · rw [hmembers, hkind]
    exact List.prefix_append _ _
  · have hnodes : Library.nodes anyAgain = anyAgain.flatMap (·.2.types) :=
      Library.nodes_eq_of_ascending (.refl _) (by decide)
    rw [members_eq_flatMap hstock, hparts]
    simp only [Library.ofAssemblies, hnodes]
    decide +kernel

end Provider

end ClrCompiler
