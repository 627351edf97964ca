import ClrCompiler.Proofs.Library.Lookup

/-! Owners and their companions. A registry keeps the first symbol of each identity, so a class and
the companion below it may come from different types. -/

namespace ClrCompiler.Library

open Interner Naming Metadata

namespace Assembled

variable {nodes : List TypeNode} {index : Index} {l : Library} {i later : Interner}
  {package : Package} {name : Name} {c : Symbol.Class}

lemma name_lt (h : Assembled nodes index l i) {node : TypeNode} (hn : node ∈ nodes)
    (hid : idOf i node = .topLevel package name) : name.raw < i.size := by
  have hlt := id_lt h.reachable (h.built node hn)
  rwa [hid] at hlt

lemma owner_eq (h : Assembled nodes index l i) (hl : Later i later)
    (hc : l.registry.classifier (.topLevel package name) = some c) :
    ∃ node, firstNode i nodes (.topLevel package name) = some node ∧
      c.kind = (if node.shape = .object then .object else .plain) ∧
      c.companion = if node.shape = .object then none
        else some (((ClassId.topLevel package name).nested .companion).eval later) := by
  rw [h.classifier_topLevel_eq h.reachable.nodup, Option.bind_eq_some_iff] at hc
  obtain ⟨node, hfirst, hc⟩ := hc
  have hid : idOf i node = .topLevel package name := by simpa using List.find?_some hfirst
  have hb := h.built node (List.mem_of_find?_eq_some hfirst)
  rw [builtSymbols_zero h.reachable hb] at hc
  cases hc
  refine ⟨node, hfirst, primary_kind _, ?_⟩
  by_cases hs : node.shape = .object
  · rw [if_pos hs, if_pos hs]
  · have hreplays := ClassId.replays_nested (id_lt h.reachable hb) (companion_lt h.reachable)
    have hback : Later (((idOf i node).nested .companion).run i).2 later := by
      rwa [companionId_settled h.reachable hb hs]
    rw [if_neg hs, if_neg hs, companion_id, ← hreplays.eval_eq hback, hid]

lemma companion_isSome_iff (h : Assembled nodes index l i) (hl : Later i later) (package : Package)
    (hname : name.raw < later.size) :
    (l.registry.classifier
        (((ClassId.topLevel package name).nested .companion).eval later)).isSome ↔
      ∃ node ∈ nodes, idOf i node = .topLevel package name ∧ node.shape ≠ .object := by
  rw [h.classifier_companion_eq hl package hname]
  constructor
  · intro hsome
    obtain ⟨c, hc⟩ := Option.isSome_iff_exists.mp hsome
    obtain ⟨node, hfind, -⟩ := Option.bind_eq_some_iff.mp hc
    exact ⟨node, List.mem_of_find?_eq_some hfind, by simpa using List.find?_some hfind⟩
  · rintro ⟨node, hn, hnode⟩
    have hfound : (nodes.find? fun node =>
        idOf i node == .topLevel package name && node.shape != .object).isSome :=
      List.find?_isSome.mpr ⟨node, hn, by simpa using hnode⟩
    obtain ⟨first, hfirst⟩ := Option.isSome_iff_exists.mp hfound
    have hs : first.shape ≠ .object := by
      have hp := List.find?_some hfirst
      simp only [Bool.and_eq_true, bne_iff_ne] at hp
      exact hp.2
    have hb := h.built first (List.mem_of_find?_eq_some hfirst)
    rw [hfirst, Option.bind_some, builtSymbols_of_hasCompanion h.reachable hb hs]
    rfl

end Assembled

theorem companion_paired_iff {names : Interner} (hn : names.Reachable)
    (assemblies : List (String × Assembly)) (implicitPackages : List String) :
    let library := (ofAssemblies assemblies implicitPackages).eval names
    let final := ((ofAssemblies assemblies implicitPackages).run names).2
    ∀ package name c, library.registry.classifier (.topLevel package name) = some c →
      ∀ later, Later final later →
        let companion := ((ClassId.topLevel package name).nested .companion).eval later
        (c.companion = some companion ∨ c.kind = .object ∧ c.companion = none) ∧
        (c.companion = some companion → (library.registry.classifier companion).isSome) ∧
        (((library.registry.classifier companion).isSome ↔ c.companion = some companion) ↔
          (c.kind = .object → ∀ node ∈ nodes assemblies,
            idOf final node = .topLevel package name → node.shape = .object)) := by
  intro library final package name c hc later hl companion
  have h := ofAssemblies_assembled hn assemblies implicitPackages
  obtain ⟨first, hfirst, hkind, hcompanion⟩ := h.owner_eq hl hc
  have hin : first ∈ nodes assemblies := List.mem_of_find?_eq_some hfirst
  have hid : idOf final first = .topLevel package name := by simpa using List.find?_some hfirst
  have hname := Nat.lt_of_lt_of_le (h.name_lt hin hid) hl.size_le
  have hregistered : (library.registry.classifier companion).isSome ↔ _ :=
    h.companion_isSome_iff hl package hname
  by_cases hs : first.shape = .object
  · rw [if_pos hs] at hkind hcompanion
    refine ⟨.inr ⟨hkind, hcompanion⟩, fun he => ?_, ?_⟩
    · rw [hcompanion] at he
      cases he
    · rw [hregistered, hcompanion]
      simp [hkind, final]
  · rw [if_neg hs] at hkind hcompanion
    have hsome : (library.registry.classifier companion).isSome :=
      hregistered.mpr ⟨first, hin, hid, hs⟩
    refine ⟨.inl hcompanion, fun _ => hsome, ?_⟩
    simp [hkind, hsome, hcompanion, companion]

def shadowedClass : List (String × Assembly) :=
  [("Demo", ⟨some "Demo",
    [⟨some "p", "U", [objectAttribute], [], []⟩, ⟨some "p", "U", [], [], []⟩]⟩)]

lemma shadowedClass_owner :
    let library := (ofAssemblies shadowedClass []).eval .new
    let final := ((ofAssemblies shadowedClass []).run .new).2
    ∃ package name c, library.registry.classifier (.topLevel package name) = some c ∧
      c.kind = .object ∧ c.companion = none ∧
      ∃ node ∈ nodes shadowedClass, idOf final node = .topLevel package name ∧
        node.shape ≠ .object := by
  intro library final
  let object : TypeNode := ⟨some "p", "U", [objectAttribute], [], []⟩
  let other : TypeNode := ⟨some "p", "U", [], [], []⟩
  have hnodes : nodes shadowedClass = [object, other] :=
    nodes_eq_of_ascending (.refl _) (by decide)
  have h := ofAssemblies_assembled .refl shadowedClass []
  rw [hnodes] at h ⊢
  have hfirst : firstNode final [object, other] (idOf final object) = some object := by
    simp [firstNode]
  rw [idOf_eq_topLevel] at hfirst
  obtain ⟨c, hc⟩ : ∃ c, library.registry.classifier
      (.topLevel (idOf final object).package (idOf final object).short) = some c := by
    apply Option.isSome_iff_exists.mp
    rw [h.classifier_topLevel_eq h.reachable.nodup, hfirst]
    exact Assembled.builtSymbols_zero_isSome h.reachable (h.built object List.mem_cons_self)
  obtain ⟨node, hnode, hkind, hcompanion⟩ := h.owner_eq .refl hc
  cases hfirst.symm.trans hnode
  exact ⟨_, _, c, hc, hkind, hcompanion, other, by simp, rfl, by decide⟩

theorem object_with_companion :
    let library := (ofAssemblies shadowedClass []).eval .new
    let final := ((ofAssemblies shadowedClass []).run .new).2
    ∃ package name c, library.registry.classifier (.topLevel package name) = some c ∧
      c.kind = .object ∧ c.companion = none ∧
      (library.registry.classifier
        (((ClassId.topLevel package name).nested .companion).eval final)).isSome := by
  intro library final
  obtain ⟨package, name, c, hc, hkind, hcompanion, node, hn, hid, hs⟩ := shadowedClass_owner
  have h := ofAssemblies_assembled .refl shadowedClass []
  have hsome := (h.companion_isSome_iff .refl package (h.name_lt hn hid)).mpr ⟨node, hn, hid, hs⟩
  exact ⟨package, name, c, hc, hkind, hcompanion, hsome⟩

theorem companion_paired_iff_shadowedClass :
    let library := (ofAssemblies shadowedClass []).eval .new
    let final := ((ofAssemblies shadowedClass []).run .new).2
    ∃ package name c, library.registry.classifier (.topLevel package name) = some c ∧
      let companion := ((ClassId.topLevel package name).nested .companion).eval final
      ¬((library.registry.classifier companion).isSome ↔ c.companion = some companion) := by
  intro library final
  obtain ⟨package, name, c, hc, hkind, -, node, hn, hid, hs⟩ := shadowedClass_owner
  obtain ⟨-, -, hpaired⟩ :=
    companion_paired_iff .refl shadowedClass [] package name c hc final .refl
  exact ⟨package, name, c, hc, fun h => hs (hpaired.mp h hkind node hn hid)⟩

end ClrCompiler.Library
