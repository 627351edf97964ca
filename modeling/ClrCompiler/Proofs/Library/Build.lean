import ClrCompiler.Library
import ClrCompiler.Proofs.Identity

/-! The symbols built for one type can be built again at any later state of the interner, and carry
the identities the type declares. -/

namespace ClrCompiler.Library

open Interner Naming Metadata

lemma replays_resolve (s : Interner) (index : Index) (typeName : String) (isResult : Bool) :
    Replays s (Resolution.resolve index typeName isResult) := by
  simp only [Resolution.resolve]
  split
  · exact replays_pure s _
  · split
    · exact replays_pure s _
    · refine Replays.andThen ?_ fun _ => replays_pure s _
      simp only [Resolution.classOf]
      refine (replays_intern s _).andThen fun short => ?_
      split
      · exact replays_pure s _
      · exact (Package.replays_parse s _).andThen fun _ => replays_pure s _

lemma replays_typeOf (s : Interner) (index : Index) (given : Option String) :
    Replays s (typeOf index given) := by
  cases given with
  | none => exact replays_pure s _
  | some typeName => exact replays_resolve s index typeName true

lemma replays_parameters (s : Interner) (index : Index) (given : List Metadata.Parameter) :
    Replays s (parameters index given) :=
  Replays.mapM fun p _ => (replays_intern s _).andThen fun _ =>
    (replays_typeOf s index p.1.type).andThen fun _ => replays_pure s _

lemma replays_constructor (s : Interner) (index : Index) (owner : ClassId)
    (node : Metadata.Constructor) : Replays s (constructor index owner node) :=
  (replays_parameters s index node.parameters).andThen fun _ => replays_pure s _

lemma replays_function (s : Interner) (index : Index) (id : CallableId) (owner : ClassId)
    (annotations : List ClassId) (node : Method) :
    Replays s (function index id owner annotations node) :=
  (replays_typeOf s index node.returnType).andThen fun _ =>
    (replays_parameters s index node.parameters).andThen fun _ => replays_pure s _

lemma replays_freeFunction (s : Interner) (index : Index) (owner : ClassId) (node : Method) :
    Replays s (freeFunction index owner node) :=
  (replays_intern s node.name).andThen fun _ => replays_function s index _ owner [] node

lemma replays_memberFunction (s : Interner) (index : Index) (owner : ClassId)
    (annotations : List ClassId) (node : Method) :
    Replays s (memberFunction index owner annotations node) :=
  (replays_intern s node.name).andThen fun _ => replays_function s index _ owner annotations node

lemma replays_primary (s : Interner) (index : Index) (id : ClassId) (node : TypeNode) :
    Replays s (primary index id node) := by
  simp only [primary]
  split
  · exact (Replays.mapM fun m _ => replays_freeFunction s index id m).andThen fun _ =>
      replays_pure s _
  · exact (Replays.mapM fun m _ => replays_memberFunction s index id [] m).andThen fun _ =>
      replays_pure s _
  · exact (Replays.mapM fun c _ => replays_constructor s index id c).andThen fun _ =>
      (Replays.mapM fun m _ => replays_memberFunction s index id [] m).andThen fun _ =>
        replays_pure s _

lemma companion_lt {s : Interner} (hs : s.Reachable) : Name.companion.raw < s.size :=
  Nat.lt_of_lt_of_le (by decide) hs.size_le

lemma replays_companion {s : Interner} (index : Index) {owner : ClassId} (node : TypeNode)
    (howner : owner.relative.raw < s.size) (hs : s.Reachable) :
    Replays s (companion index owner node) :=
  (ClassId.replays_nested howner (companion_lt hs)).andThen fun id =>
    (Replays.mapM fun c _ => replays_constructor s index id c).andThen fun _ =>
      (Replays.mapM fun m _ => replays_memberFunction s index id _ m).andThen fun _ =>
        replays_pure s _

lemma replays_symbols {s : Interner} (index : Index) {id : ClassId} (node : TypeNode)
    (hid : id.relative.raw < s.size) (hs : s.Reachable) : Replays s (symbols index id node) := by
  simp only [symbols]
  refine (replays_primary s index id node).andThen fun _ => ?_
  split
  · exact (replays_companion index node hid hs).andThen fun _ => replays_pure s _
  · exact replays_pure s _

lemma replays_build {s : Interner} (index : Index) (node : TypeNode) (hs : s.Reachable) :
    Replays s (build index node) := by
  have hclass := node.replays_classId s
  refine hclass.bind fun t ht => ?_
  have hlater : Reachable (node.classId.run t).2 := (hs.trans ht).trans (hclass.mono ht).later
  exact (replays_symbols index node (node.classId_lt t) hlater).andThen fun _ => replays_pure _ _

lemma replays_declaration {s : Interner} (node : TypeNode) (hs : s.Reachable) :
    Replays s (declaration node) := by
  have hclass := node.replays_classId s
  refine hclass.bind fun t ht => ?_
  have hlater : Reachable (node.classId.run t).2 := (hs.trans ht).trans (hclass.mono ht).later
  split
  · exact (ClassId.replays_nested (node.classId_lt t) (companion_lt hlater)).andThen fun _ =>
      replays_pure _ _
  · exact replays_pure _ _

section

variable {i : Interner} {index : Index} {node : TypeNode}

abbrev idOf (i : Interner) (node : TypeNode) : ClassId := node.classId.eval i

abbrev builtSymbols (i : Interner) (index : Index) (node : TypeNode) : List Symbol.Class :=
  ((build index node).eval i).symbols

lemma idOf_eq_topLevel (i : Interner) (node : TypeNode) :
    idOf i node = .topLevel (idOf i node).package (idOf i node).short := rfl

lemma classId_settled (hi : i.Reachable) (h : Settled i (build index node)) :
    Settled i node.classId :=
  h.of_bind (node.replays_classId i)
    ((replays_symbols index node (node.classId_lt i)
      (hi.trans (node.replays_classId i).later)).andThen fun _ => replays_pure _ _)

lemma id_lt (hi : i.Reachable) (h : Settled i (build index node)) :
    (idOf i node).relative.raw < i.size := by
  have hlt := node.classId_lt i
  rwa [classId_settled hi h] at hlt

lemma symbols_settled (hi : i.Reachable) (h : Settled i (build index node)) :
    Settled i (symbols index (idOf i node) node) := by
  have hb : ((symbols index (idOf i node) node).run (node.classId.run i).2).2 = i := h
  rwa [classId_settled hi h] at hb

lemma builtSymbols_eq (hi : i.Reachable) (h : Settled i (build index node)) :
    builtSymbols i index node = (symbols index (idOf i node) node).eval i := by
  have hb : builtSymbols i index node =
      (symbols index (idOf i node) node).eval (node.classId.run i).2 := rfl
  rw [hb, classId_settled hi h]

lemma primary_settled (hi : i.Reachable) (h : Settled i (build index node)) :
    Settled i (primary index (idOf i node) node) := by
  have hp := replays_primary i index (idOf i node) node
  refine (symbols_settled hi h).of_bind hp ?_
  split
  · exact (replays_companion index node (Nat.lt_of_lt_of_le (id_lt hi h) hp.later.size_le)
      (hi.trans hp.later)).andThen fun _ => replays_pure _ _
  · exact replays_pure _ _

lemma companion_settled (hi : i.Reachable) (h : Settled i (build index node))
    (hs : node.shape ≠ .object) : Settled i (companion index (idOf i node) node) := by
  have hc : node.shape.hasCompanion = true := by simpa [Shape.hasCompanion] using hs
  have hrun : ((companion index (idOf i node) node).run
      ((primary index (idOf i node) node).run i).2).2 = i := by
    have hsym := symbols_settled hi h
    simp only [symbols] at hsym
    simp only [hc, if_true] at hsym
    exact hsym
  rwa [primary_settled hi h] at hrun

lemma companionId_settled (hi : i.Reachable) (h : Settled i (build index node))
    (hs : node.shape ≠ .object) : Settled i ((idOf i node).nested .companion) := by
  refine (companion_settled hi h hs).of_bind
    (ClassId.replays_nested (id_lt hi h) (companion_lt hi)) ?_
  exact (Replays.mapM fun c _ => replays_constructor _ index _ c).andThen fun _ =>
    (Replays.mapM fun m _ => replays_memberFunction _ index _ _ m).andThen fun _ =>
      replays_pure _ _

lemma builtSymbols_of_hasCompanion (hi : i.Reachable) (h : Settled i (build index node))
    (hs : node.shape ≠ .object) :
    builtSymbols i index node =
      [{ (primary index (idOf i node) node).eval i with
          companion := some ((companion index (idOf i node) node).eval i).id },
        (companion index (idOf i node) node).eval i] := by
  have hc : node.shape.hasCompanion = true := by simpa [Shape.hasCompanion] using hs
  have hsymbols : (symbols index (idOf i node) node).eval i =
      let s := ((primary index (idOf i node) node).run i).2
      [{ (primary index (idOf i node) node).eval i with
          companion := some ((companion index (idOf i node) node).eval s).id },
        (companion index (idOf i node) node).eval s] := by
    simp only [symbols]
    simp only [hc, if_true]
    rfl
  rw [builtSymbols_eq hi h, hsymbols, primary_settled hi h]

lemma builtSymbols_of_object (hi : i.Reachable) (h : Settled i (build index node))
    (hs : node.shape = .object) :
    builtSymbols i index node = [(primary index (idOf i node) node).eval i] := by
  have hc : node.shape.hasCompanion = false := by simp [Shape.hasCompanion, hs]
  rw [builtSymbols_eq hi h]
  simp only [symbols]
  simp only [hc]
  rfl

lemma primary_id (id : ClassId) : ((primary index id node).eval i).id = id := by
  simp only [primary]
  split <;> rfl

lemma primary_isCompanion (id : ClassId) :
    ((primary index id node).eval i).isCompanion = false := by
  simp only [primary]
  split <;> rfl

lemma primary_companion (id : ClassId) : ((primary index id node).eval i).companion = none := by
  simp only [primary]
  split <;> rfl

lemma primary_kind (id : ClassId) :
    ((primary index id node).eval i).kind = if node.shape = .object then .object else .plain := by
  simp only [primary]
  split <;> simp only [*, if_true, reduceCtorEq, if_false] <;> rfl

lemma primary_status (id : ClassId) : ((primary index id node).eval i).status = .publicFinal := by
  simp only [primary]
  split <;> rfl

lemma primary_origin (id : ClassId) : ((primary index id node).eval i).origin = .library := by
  simp only [primary]
  split <;> rfl

lemma companion_id (owner : ClassId) :
    ((companion index owner node).eval i).id = (owner.nested .companion).eval i := rfl

lemma companion_isCompanion (owner : ClassId) :
    ((companion index owner node).eval i).isCompanion = true := rfl

lemma object_functions {id : ClassId} (hs : node.shape = .object)
    (h : Settled i (primary index id node)) :
    ((primary index id node).eval i).functions =
      (node.methods.filter (·.isStatic)).map fun m => (freeFunction index id m).eval i := by
  simp only [primary] at h ⊢
  simp only [hs] at h ⊢
  have hlater : Later (((node.methods.filter (·.isStatic)).mapM (freeFunction index id)).run i).2 i := by
    have he : (((node.methods.filter (·.isStatic)).mapM (freeFunction index id)).run i).2 = i := h
    rw [he]
    exact Later.refl
  exact eval_mapM (fun m _ => replays_freeFunction i index id m) hlater

lemma methodName_stored {id : ClassId} (hs : node.shape = .object)
    (h : Settled i (primary index id node)) {m : Method}
    (hm : m ∈ node.methods.filter (·.isStatic)) : i.get? m.name = some (i.intern m.name).1 := by
  simp only [primary] at h
  simp only [hs] at h
  have hall : Settled i ((node.methods.filter (·.isStatic)).mapM (freeFunction index id)) := h
  have hfree := hall.of_mapM (fun m _ => replays_freeFunction i index id m) m hm
  exact get?_of_settled (hfree.of_bind (replays_intern i m.name)
    (replays_function _ index _ id [] m))

lemma object_functions_id {id : ClassId} (hs : node.shape = .object) :
    ∀ f ∈ ((primary index id node).eval i).functions, ∃ n, f.id = .topLevel id.package n := by
  simp only [primary]
  simp only [hs]
  exact forall_eval_mapM fun m _ j => ⟨(j.intern m.name).1, rfl⟩

lemma class_functions_id {id : ClassId} (hs : node.shape ≠ .object) :
    ∀ f ∈ ((primary index id node).eval i).functions, ∃ n, f.id = .member id n := by
  simp only [primary]
  split
  · contradiction
  · exact forall_eval_mapM fun m _ j => ⟨(j.intern m.name).1, rfl⟩
  · exact forall_eval_mapM fun m _ j => ⟨(j.intern m.name).1, rfl⟩

lemma companion_functions_id (owner : ClassId) :
    ∀ f ∈ ((companion index owner node).eval i).functions,
      ∃ n, f.id = .member ((owner.nested .companion).eval i) n :=
  forall_eval_mapM fun m _ j => ⟨(j.intern m.name).1, rfl⟩

end

end ClrCompiler.Library
