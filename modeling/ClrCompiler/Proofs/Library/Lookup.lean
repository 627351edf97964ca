import ClrCompiler.Proofs.Library.Build
import ClrCompiler.Proofs.Registry
import Mathlib.Data.List.Nodup

/-! A library answers every look-up from the types it was made of, taken in the order of the assembly
keys: the first type of an identity gives the class, the first that is no object gives the companion,
and the static methods of all objects are free functions. -/

namespace ClrCompiler.Library

open Interner Naming Metadata

def published (i : Interner) (index : Index) (nodes : List TypeNode) : List Registration :=
  nodes.map (fun node => (declaration node).eval i) ++
    nodes.map fun node => ((build index node).eval i).names

/-- `l` holds what the types `nodes` are built into against `index`; `i` is the interner after that. -/
structure Assembled (nodes : List TypeNode) (index : Index) (l : Library) (i : Interner) : Prop where
  reachable : i.Reachable
  built : ∀ node ∈ nodes, Settled i (build index node)
  registry_eq : l.registry = (Registry.empty.storeAll (nodes.flatMap (builtSymbols i index))).withIndex
    ((published i index nodes).foldl Index.record .empty)

def declareFrom (r : Registry) (nodes : List TypeNode) : Naming Registry :=
  nodes.foldlM (fun r node => return r.declare (← declaration node)) r

lemma declareFrom_cons (r : Registry) (node : TypeNode) (nodes : List TypeNode) :
    declareFrom r (node :: nodes) =
      declaration node >>= fun names => declareFrom (r.declare names) nodes := by
  simp only [declareFrom, List.foldlM_cons, bind_assoc, pure_bind]

lemma replays_declareFrom {s : Interner} (hs : s.Reachable) (r : Registry)
    (nodes : List TypeNode) : Replays s (declareFrom r nodes) := by
  induction nodes generalizing s r with
  | nil => exact replays_pure s r
  | cons node nodes ih =>
    rw [declareFrom_cons]
    exact (replays_declaration node hs).andThen fun names => ih hs (r.declare names)

lemma eval_declareFrom {s t : Interner} (hs : s.Reachable) (r : Registry) (nodes : List TypeNode)
    (ht : Later ((declareFrom r nodes).run s).2 t) :
    (declareFrom r nodes).eval s =
      (nodes.map fun node => (declaration node).eval t).foldl Registry.declare r := by
  induction nodes generalizing s r with
  | nil => rfl
  | cons node nodes ih =>
    rw [declareFrom_cons] at ht ⊢
    have hd := replays_declaration node hs
    have hnext : Reachable ((declaration node).run s).2 := hs.trans hd.later
    have hdt : Later ((declaration node).run s).2 t :=
      (replays_declareFrom hnext _ nodes).later.trans ht
    rw [List.map_cons, List.foldl_cons, hd.eval_eq hdt]
    exact ih hnext (r.declare ((declaration node).eval s)) ht

lemma ofAssemblies_assembled {names : Interner} (hn : names.Reachable)
    (assemblies : List (String × Assembly)) (implicitPackages : List String) :
    Assembled (nodes assemblies) ((declareAll (nodes assemblies)).eval names).index
      ((ofAssemblies assemblies implicitPackages).eval names)
      ((ofAssemblies assemblies implicitPackages).run names).2 := by
  let ns := nodes assemblies
  let declared := (declareAll ns).eval names
  let s₁ := ((declareAll ns).run names).2
  let s₂ := ((ns.mapM (build declared.index)).run s₁).2
  let i := ((ofAssemblies assemblies implicitPackages).run names).2
  have hdeclare : Replays names (declareAll ns) := replays_declareFrom hn .empty ns
  have h₁ : Reachable s₁ := hn.trans hdeclare.later
  have hbuild : ∀ node ∈ ns, Replays s₁ (build declared.index node) :=
    fun node _ => replays_build declared.index node h₁
  have hbuilt : Replays s₁ (ns.mapM (build declared.index)) := Replays.mapM hbuild
  have h₂ : Later s₂ i :=
    (Replays.mapM fun text _ => Package.replays_parse s₂ text : Replays s₂
      (implicitPackages.mapM Package.parse)).later
  have hdeclared := eval_declareFrom hn .empty ns (hbuilt.later.trans h₂)
  have hregistry : ((ofAssemblies assemblies implicitPackages).eval names).registry =
      ((ns.mapM (build declared.index)).eval s₁).foldl (fun r b => r.apply b.symbols b.names)
        declared := rfl
  have hsame : Settled i (ns.mapM (build declared.index)) := hbuilt.settled h₂
  refine ⟨(h₁.trans hbuilt.later).trans h₂, ?_, ?_⟩
  · exact hsame.of_mapM fun node hnode => (hbuild node hnode).mono (hbuilt.later.trans h₂)
  · rw [hregistry, eval_mapM hbuild h₂, Registry.foldl_apply]
    have hd : declared =
        Registry.empty.withIndex ((ns.map fun node => (declaration node).eval i).foldl
          Index.record .empty) := by
      rw [show declared = _ from hdeclared, Registry.foldl_declare]
      rfl
    rw [published, List.foldl_append, List.flatMap_map, List.map_map]
    nth_rewrite 1 [hd]
    rw [Registry.storeAll_withIndex]
    have hindex : declared.index =
        (ns.map fun node => (declaration node).eval i).foldl Index.record .empty := by
      rw [hd]
      rfl
    rw [← hindex]
    rfl

def firstNode (i : Interner) (nodes : List TypeNode) (id : ClassId) : Option TypeNode :=
  nodes.find? fun node => idOf i node == id

/-- What a registry made of the types `nodes` answers. All symbols are those the types are built into
against `index`, at the interner `i` that holds their texts; companions are found by names of any later
interner too. -/
structure Answers (nodes : List TypeNode) (index : Index) (i : Interner) (r : Registry) : Prop where
  classifier_topLevel : ∀ package name, r.classifier (.topLevel package name) =
    (firstNode i nodes (.topLevel package name)).bind fun node => (builtSymbols i index node)[0]?
  classifier_companion : ∀ later, Later i later → ∀ package name, name.raw < later.size →
    r.classifier (((ClassId.topLevel package name).nested .companion).eval later) =
      (nodes.find? fun node => idOf i node == .topLevel package name && node.shape != .object).bind
        fun node => (builtSymbols i index node)[1]?
  freeFunctions : ∀ package name, r.freeFunctions package name =
    (nodes.filter fun node => node.shape == .object && (idOf i node).package == package).flatMap
      fun node => (node.methods.filter fun m => m.isStatic && i.get? m.name == some name).map
        fun m => (freeFunction index (idOf i node) m).eval i
  members : ∀ id name, r.members id name =
    (r.classifier id).elim [] fun c =>
      if c.isCompanion || (firstNode i nodes id).any (·.shape != .object) then c.functionsNamed name
      else []

lemma find?_flatMap_of_first {α β : Type} {f : α → List β} {g : α → Option β} {p : β → Bool}
    {q : α → Bool} {xs : List α} (h : ∀ x ∈ xs, (f x).find? p = if q x then g x else none)
    (hg : ∀ x ∈ xs, q x → (g x).isSome) : (xs.flatMap f).find? p = (xs.find? q).bind g := by
  induction xs with
  | nil => rfl
  | cons x xs ih =>
    have hx := h x List.mem_cons_self
    have hxs := ih (fun y hy => h y (List.mem_cons_of_mem x hy))
      fun y hy => hg y (List.mem_cons_of_mem x hy)
    rw [List.flatMap_cons, List.find?_append, hx, hxs]
    by_cases hq : q x
    · obtain ⟨b, hb⟩ := Option.isSome_iff_exists.mp (hg x List.mem_cons_self hq)
      simp [hq, hb]
    · simp [hq]

lemma flatMap_filter_if {α β : Type} (q : α → Bool) (f : α → List β) (xs : List α) :
    (xs.filter q).flatMap f = xs.flatMap fun x => if q x then f x else [] := by
  induction xs with
  | nil => rfl
  | cons x xs ih => by_cases hq : q x <;> simp [hq, ih]

namespace Assembled

variable {nodes : List TypeNode} {index : Index} {l : Library} {i : Interner}

lemma classifier_eq (h : Assembled nodes index l i) (id : ClassId) :
    l.registry.classifier id = (nodes.flatMap (builtSymbols i index)).find? (·.id == id) := by
  rw [h.registry_eq, Registry.classifier_withIndex, Registry.classifier_storeAll,
    Registry.classifier_empty, Option.none_or]

lemma find?_topLevel (hi : i.Reachable) (hnodup : i.texts.Nodup) {node : TypeNode}
    (hb : Settled i (build index node)) (package : Package) (name : Name) :
    (builtSymbols i index node).find? (·.id == .topLevel package name) =
      if idOf i node == .topLevel package name then (builtSymbols i index node)[0]? else none := by
  by_cases hs : node.shape = .object
  · rw [builtSymbols_of_object hi hb hs]
    by_cases hid : idOf i node = .topLevel package name <;> simp [primary_id, hid]
  · have hne := ClassId.topLevel_ne_nested hnodup package name (idOf i node) (companion_lt hi)
    rw [builtSymbols_of_hasCompanion hi hb hs]
    by_cases hid : idOf i node = .topLevel package name
    · simp [primary_id, hid]
    · simp [primary_id, hid, companion_id, Ne.symm hne]

lemma builtSymbols_zero (hi : i.Reachable) {node : TypeNode} (hb : Settled i (build index node)) :
    (builtSymbols i index node)[0]? =
      some { (primary index (idOf i node) node).eval i with
        companion := if node.shape = .object then none
          else some ((companion index (idOf i node) node).eval i).id } := by
  by_cases hs : node.shape = .object
  · rw [builtSymbols_of_object hi hb hs, if_pos hs, List.getElem?_cons_zero,
      ← primary_companion (idOf i node)]
  · rw [builtSymbols_of_hasCompanion hi hb hs, if_neg hs, List.getElem?_cons_zero]

lemma builtSymbols_zero_isSome (hi : i.Reachable) {node : TypeNode}
    (hb : Settled i (build index node)) : (builtSymbols i index node)[0]?.isSome := by
  rw [builtSymbols_zero hi hb, Option.isSome_some]

lemma find?_companion (hi : i.Reachable) {later : Interner} (hl : Later i later)
    {node : TypeNode} (hb : Settled i (build index node)) (package : Package) {name : Name}
    (hname : name.raw < later.size) :
    (builtSymbols i index node).find?
        (·.id == ((ClassId.topLevel package name).nested .companion).eval later) =
      if idOf i node == .topLevel package name && node.shape != .object
      then (builtSymbols i index node)[1]? else none := by
  have hnodup : later.texts.Nodup := Reachable.nodup (hi.trans hl)
  have hne : idOf i node ≠ ((ClassId.topLevel package name).nested .companion).eval later := by
    rw [idOf_eq_topLevel]
    exact ClassId.topLevel_ne_nested hnodup _ _ _ (companion_lt (hi.trans hl))
  by_cases hs : node.shape = .object
  · rw [builtSymbols_of_object hi hb hs]
    simp [primary_id, hne, hs]
  · have hreplays := ClassId.replays_nested (id_lt hi hb) (companion_lt hi)
    have hback : Later (((idOf i node).nested .companion).run i).2 later := by
      rwa [companionId_settled hi hb hs]
    have hid : ((companion index (idOf i node) node).eval i).id =
        ((idOf i node).nested .companion).eval later := by
      rw [companion_id, hreplays.eval_eq hback]
    rw [builtSymbols_of_hasCompanion hi hb hs]
    by_cases hsame : idOf i node = .topLevel package name
    · rw [hsame] at hne hid
      simp [primary_id, hid, hs, hsame, hne]
    · have hother : ((idOf i node).nested .companion).eval later ≠
          ((ClassId.topLevel package name).nested .companion).eval later := by
        intro he
        apply hsame
        have hstored : (later.get? (ClassId.nestedPath later (idOf i node) .companion)).isSome :=
          Option.isSome_iff_exists.mpr ⟨_, get?_of_settled (hreplays.settled hback)⟩
        have hlt := Nat.lt_of_lt_of_le (id_lt hi hb) hl.size_le
        rw [idOf_eq_topLevel] at he hstored hlt ⊢
        exact (ClassId.nested_injective hnodup hname hlt hstored he.symm).symm
      simp [primary_id, hid, hs, hsame, hne, hother]

lemma filter_free (hi : i.Reachable) {node : TypeNode} (hb : Settled i (build index node))
    (package : Package) (name : Name) :
    ((builtSymbols i index node).flatMap (·.functions)).filter (·.id == .topLevel package name) =
      if node.shape == .object && (idOf i node).package == package then
        (node.methods.filter fun m => m.isStatic && i.get? m.name == some name).map
          fun m => (freeFunction index (idOf i node) m).eval i
      else [] := by
  by_cases hs : node.shape = .object
  · have hp := primary_settled hi hb
    rw [builtSymbols_of_object hi hb hs, List.flatMap_singleton, object_functions hs hp,
      List.filter_map]
    have hid : ∀ m ∈ node.methods.filter (·.isStatic),
        (((freeFunction index (idOf i node) m).eval i).id == .topLevel package name) =
          ((idOf i node).package == package && i.get? m.name == some name) := by
      intro m hm
      have hfree : ((freeFunction index (idOf i node) m).eval i).id =
          .topLevel (idOf i node).package (i.intern m.name).1 := rfl
      rw [hfree, methodName_stored hs hp hm, CallableId.topLevel_beq]
      rfl
    rw [Function.comp_def, List.filter_congr hid]
    by_cases hpackage : (idOf i node).package = package
    · simp only [hs, hpackage, beq_self_eq_true, Bool.and_self, if_true]
      simp [List.filter_filter, Bool.and_comm]
    · simp [hpackage]
  · have hnone : ∀ c ∈ builtSymbols i index node, ∀ f ∈ c.functions, ∃ owner n,
        f.id = .member owner n := by
      rw [builtSymbols_of_hasCompanion hi hb hs]
      rintro c (_ | ⟨_, _ | ⟨_, hc⟩⟩) f hf
      · exact ⟨_, class_functions_id hs f hf⟩
      · exact ⟨_, companion_functions_id _ f hf⟩
      · exact absurd hc List.not_mem_nil
    have hempty : ((builtSymbols i index node).flatMap (·.functions)).filter
        (·.id == .topLevel package name) = [] := by
      apply List.filter_eq_nil_iff.mpr
      intro f hf he
      obtain ⟨c, hc, hfc⟩ := List.mem_flatMap.mp hf
      obtain ⟨owner, n, hid⟩ := hnone c hc f hfc
      rw [hid] at he
      simp [CallableId.member, CallableId.topLevel] at he
    rw [hempty]
    simp [hs]

lemma freeFunctions_eq (h : Assembled nodes index l i) (package : Package) (name : Name) :
    l.registry.freeFunctions package name =
      (nodes.filter fun node => node.shape == .object && (idOf i node).package == package).flatMap
        fun node => (node.methods.filter fun m => m.isStatic && i.get? m.name == some name).map
          fun m => (freeFunction index (idOf i node) m).eval i := by
  have hstored : l.registry.freeFunctions package name =
      ((nodes.flatMap (builtSymbols i index)).flatMap (·.functions)).filter
        (·.id == .topLevel package name) := by
    rw [h.registry_eq]
    exact Registry.freeFunctions_storeAll .empty (nodes.flatMap (builtSymbols i index)) package name
  rw [hstored, List.flatMap_assoc, List.filter_flatMap, flatMap_filter_if]
  apply List.flatMap_congr
  intro node hn
  exact filter_free h.reachable (h.built node hn) package name

lemma ownMembers (hi : i.Reachable) {node : TypeNode} (hb : Settled i (build index node)) :
    ∀ c ∈ builtSymbols i index node, Registry.OwnMembers c := by
  have hmember {c : Symbol.Class} (hc : ∀ f ∈ c.functions, ∃ n, f.id = .member c.id n) :
      Registry.OwnMembers c := by
    intro f hf owner howner
    obtain ⟨n, hid⟩ := hc f hf
    rw [hid] at howner
    exact (Option.some.inj howner).symm
  by_cases hs : node.shape = .object
  · rw [builtSymbols_of_object hi hb hs]
    rintro c (_ | ⟨_, hc⟩) f hf owner howner
    · obtain ⟨n, hid⟩ := object_functions_id hs f hf
      rw [hid] at howner
      cases howner
    · exact absurd hc List.not_mem_nil
  · rw [builtSymbols_of_hasCompanion hi hb hs]
    rintro c (_ | ⟨_, _ | ⟨_, hc⟩⟩)
    · exact hmember fun f hf => by
        simpa only [primary_id] using class_functions_id hs f hf
    · exact hmember (companion_functions_id _)
    · exact absurd hc List.not_mem_nil

lemma members_filed (h : Assembled nodes index l i) : l.registry.MembersFiled := by
  rw [h.registry_eq]
  apply Registry.MembersFiled.withIndex
  apply Registry.membersFiled_empty.storeAll
  intro c hc
  obtain ⟨node, hn, hcn⟩ := List.mem_flatMap.mp hc
  exact ownMembers h.reachable (h.built node hn) c hcn

lemma filter_eq_functionsNamed {c : Symbol.Class}
    (hc : ∀ f ∈ c.functions, ∃ n, f.id = .member c.id n) (name : Name) :
    c.functions.filter (·.id == .member c.id name) = c.functionsNamed name := by
  apply List.filter_congr
  intro f hf
  obtain ⟨n, hid⟩ := hc f hf
  rw [Symbol.Function.name, hid, CallableId.member_beq]
  rfl

lemma classifier_topLevel_eq (h : Assembled nodes index l i) (hnodup : i.texts.Nodup)
    (package : Package) (name : Name) :
    l.registry.classifier (.topLevel package name) =
      (firstNode i nodes (.topLevel package name)).bind
        fun node => (builtSymbols i index node)[0]? := by
  rw [h.classifier_eq]
  apply find?_flatMap_of_first
  · exact fun node hn => find?_topLevel h.reachable hnodup (h.built node hn) package name
  · exact fun node hn _ => builtSymbols_zero_isSome h.reachable (h.built node hn)

lemma classifier_companion_eq (h : Assembled nodes index l i) {later : Interner}
    (hl : Later i later) (package : Package) {name : Name} (hname : name.raw < later.size) :
    l.registry.classifier (((ClassId.topLevel package name).nested .companion).eval later) =
      (nodes.find? fun node => idOf i node == .topLevel package name && node.shape != .object).bind
        fun node => (builtSymbols i index node)[1]? := by
  rw [h.classifier_eq]
  apply find?_flatMap_of_first
  · exact fun node hn => find?_companion h.reachable hl (h.built node hn) package hname
  · intro node hn hq
    have hs : node.shape ≠ .object := by
      simpa using (Bool.and_eq_true_iff.mp hq).2
    simp [builtSymbols_of_hasCompanion h.reachable (h.built node hn) hs]

lemma members_topLevel (h : Assembled nodes index l i) (hnodup : i.texts.Nodup)
    (package : Package) (name : Name) (n : Name) :
    let id := ClassId.topLevel package name
    ((l.registry.classifier id).toList.flatMap (·.functions)).filter (·.id == .member id n) =
      (l.registry.classifier id).elim [] fun c =>
        if c.isCompanion || (firstNode i nodes id).any (·.shape != .object) then c.functionsNamed n
        else [] := by
  intro id
  rw [h.classifier_topLevel_eq hnodup]
  cases hfirst : firstNode i nodes id with
  | none => rfl
  | some node =>
    have hn : node ∈ nodes := List.mem_of_find?_eq_some hfirst
    have hid : idOf i node = id := by simpa using List.find?_some hfirst
    have hb := h.built node hn
    by_cases hs : node.shape = .object
    · rw [Option.bind_some, builtSymbols_of_object h.reachable hb hs]
      have hempty : ((primary index (idOf i node) node).eval i).functions.filter
          (·.id == .member id n) = [] := by
        apply List.filter_eq_nil_iff.mpr
        intro f hf he
        obtain ⟨m, hm⟩ := object_functions_id hs f hf
        rw [hm] at he
        simp [CallableId.member, CallableId.topLevel] at he
      simpa [hs, primary_isCompanion] using hempty
    · rw [Option.bind_some, builtSymbols_of_hasCompanion h.reachable hb hs]
      have hnamed : ((primary index (idOf i node) node).eval i).functions.filter
          (·.id == .member id n) = ((primary index (idOf i node) node).eval i).functionsNamed n := by
        have hown : ∀ f ∈ ((primary index (idOf i node) node).eval i).functions,
            ∃ m, f.id = .member ((primary index (idOf i node) node).eval i).id m := by
          simpa only [primary_id] using class_functions_id hs
        have hf := filter_eq_functionsNamed hown n
        rw [primary_id] at hf
        rwa [hid] at hf ⊢
      simpa [hs, Symbol.Class.functionsNamed] using hnamed

lemma idOf_ne_of_isNested {id : ClassId} (hid : id.isNested = true) (node : TypeNode) :
    idOf i node ≠ id := by
  intro he
  rw [← he, idOf_eq_topLevel, ClassId.topLevel_isNested] at hid
  exact Bool.false_ne_true hid

lemma classifier_nested_eq (h : Assembled nodes index l i) {id : ClassId} (hid : id.isNested = true)
    {c : Symbol.Class} (hc : l.registry.classifier id = some c) :
    c.id = id ∧ ∃ node ∈ nodes, c = (companion index (idOf i node) node).eval i := by
  rw [h.classifier_eq] at hc
  have hcid : c.id = id := by simpa using List.find?_some hc
  obtain ⟨node, hn, hcn⟩ := List.mem_flatMap.mp (List.mem_of_find?_eq_some hc)
  have hprimary : idOf i node ≠ id := idOf_ne_of_isNested hid node
  refine ⟨hcid, node, hn, ?_⟩
  by_cases hs : node.shape = .object
  · rw [builtSymbols_of_object h.reachable (h.built node hn) hs] at hcn
    rcases hcn with _ | ⟨_, hcn⟩
    · exact absurd (hcid ▸ (primary_id _).symm) hprimary
    · exact absurd hcn List.not_mem_nil
  · rw [builtSymbols_of_hasCompanion h.reachable (h.built node hn) hs] at hcn
    rcases hcn with _ | ⟨_, _ | ⟨_, hcn⟩⟩
    · exact absurd (hcid ▸ (primary_id _).symm) hprimary
    · rfl
    · exact absurd hcn List.not_mem_nil

lemma members_nested (h : Assembled nodes index l i) {id : ClassId} (hid : id.isNested = true)
    (n : Name) :
    ((l.registry.classifier id).toList.flatMap (·.functions)).filter (·.id == .member id n) =
      (l.registry.classifier id).elim [] fun c =>
        if c.isCompanion || (firstNode i nodes id).any (·.shape != .object) then c.functionsNamed n
        else [] := by
  cases hc : l.registry.classifier id with
  | none => rfl
  | some c =>
    obtain ⟨hcid, node, -, hcomp⟩ := h.classifier_nested_eq hid hc
    have hown : ∀ f ∈ c.functions, ∃ m, f.id = .member c.id m := by
      rw [hcomp]
      exact companion_functions_id _
    have hmark : c.isCompanion = true := by rw [hcomp, companion_isCompanion]
    have hf := filter_eq_functionsNamed hown n
    rw [hcid] at hf
    simpa [hmark] using hf

lemma answers (h : Assembled nodes index l i) (hnodup : i.texts.Nodup) :
    Answers nodes index i l.registry where
  classifier_topLevel := h.classifier_topLevel_eq hnodup
  classifier_companion _ hl package _ hname := h.classifier_companion_eq hl package hname
  freeFunctions := h.freeFunctions_eq
  members id name := by
    rw [h.members_filed]
    cases hid : id.isNested with
    | false =>
      rw [ClassId.eq_topLevel_of_not_isNested hid]
      exact h.members_topLevel hnodup _ _ name
    | true => exact h.members_nested hid name

end Assembled

lemma mergeSort_keys_eq_of_perm {β : Type} {xs ys : List (String × β)} (hp : xs.Perm ys)
    (hk : (xs.map (·.1)).Nodup) :
    xs.mergeSort (fun a b => decide (a.1 ≤ b.1)) = ys.mergeSort fun a b => decide (a.1 ≤ b.1) := by
  let le (a b : String × β) : Bool := decide (a.1 ≤ b.1)
  have hsorted (zs : List (String × β)) : (zs.mergeSort le).Pairwise fun a b => le a b := by
    apply List.pairwise_mergeSort
    · intro a b c hab hbc
      exact decide_eq_true (String.le_trans (of_decide_eq_true hab) (of_decide_eq_true hbc))
    · intro a b
      rcases String.le_total a.1 b.1 with h | h <;> simp [le, h]
  have hperm : (xs.mergeSort le).Perm (ys.mergeSort le) :=
    ((List.mergeSort_perm xs le).trans hp).trans (List.mergeSort_perm ys le).symm
  refine hperm.eq_of_pairwise ?_ (hsorted xs) (hsorted ys)
  intro a b ha hb hab hba
  refine List.inj_on_of_nodup_map hk (List.mem_mergeSort.mp ha) ?_
    (String.le_antisymm (of_decide_eq_true hab) (of_decide_eq_true hba))
  exact hp.mem_iff.mpr (List.mem_mergeSort.mp hb)

lemma nodes_eq_of_ascending {assemblies sorted : List (String × Assembly)}
    (hs : sorted.Perm assemblies) (ho : sorted.Pairwise fun a b => a.1 < b.1) :
    nodes assemblies = sorted.flatMap (·.2.types) := by
  have hkeys : (sorted.map (·.1)).Nodup := by
    apply List.pairwise_map.mpr
    apply ho.imp
    intro a b hab he
    rw [he] at hab
    exact String.lt_irrefl _ hab
  have hle : sorted.Pairwise fun a b => decide (a.1 ≤ b.1) := by
    refine ho.imp fun {a b} hab => decide_eq_true (String.not_lt.mp ?_)
    exact String.lt_asymm hab
  rw [nodes, ← mergeSort_keys_eq_of_perm hs hkeys, List.mergeSort_of_pairwise hle]

theorem ofAssemblies_answers {names : Interner} (hn : names.Reachable)
    {assemblies sorted : List (String × Assembly)} (hs : sorted.Perm assemblies)
    (ho : sorted.Pairwise fun a b => a.1 < b.1) (implicitPackages : List String) :
    let nodes := sorted.flatMap (·.2.types)
    let library := (ofAssemblies assemblies implicitPackages).eval names
    let final := ((ofAssemblies assemblies implicitPackages).run names).2
    Answers nodes ((declareAll nodes).eval names).index final library.registry := by
  intro nodes library final
  have h := ofAssemblies_assembled hn assemblies implicitPackages
  rw [nodes_eq_of_ascending hs ho] at h
  exact h.answers h.reachable.nodup

def repeatedType : List (String × Assembly) :=
  let node (attributes : List String) (methods : List Method) : TypeNode :=
    ⟨some "p", "U", attributes, methods, []⟩
  let f : Method := ⟨"f", none, [], true⟩
  [("a", ⟨none, [node [objectAttribute] [f], node [] [⟨"g", none, [], false⟩, f]]⟩),
   ("b", ⟨none, [node [objectAttribute] [f, ⟨"g", none, [], false⟩]]⟩)]

theorem ofAssemblies_answers_repeatedType :
    Interner.new.Reachable ∧ repeatedType.Perm repeatedType.reverse ∧
      (repeatedType.Pairwise fun a b => a.1 < b.1) ∧
      Answers (repeatedType.flatMap (·.2.types))
        ((declareAll (repeatedType.flatMap (·.2.types))).eval .new).index
        ((ofAssemblies repeatedType.reverse []).run .new).2
        ((ofAssemblies repeatedType.reverse []).eval .new).registry :=
  ⟨.refl, (List.reverse_perm _).symm, by decide,
    ofAssemblies_answers .refl (List.reverse_perm _).symm (by decide) []⟩

end ClrCompiler.Library
