import ClrCompiler.Proofs.Library.Lookup
import ClrCompiler.Proofs.Library.Shown

/-! The listing of a library depends on the set of its types only: not on how the assemblies divide
and order them, nor on what the interner held before. -/

namespace ClrCompiler

open Interner Naming

lemma ClassId.shown_inj {s t p q : String} (hp : '/' ∉ p.toList) (hq : '/' ∉ q.toList)
    (h : shown s p = shown t q) : s = t ∧ p = q := by
  have hslash (s p : String) : (s ++ "/" ++ p).toList = s.toList ++ '/' :: p.toList := by
    simp [String.toList_append]
  simp only [shown] at h
  split at h <;> split at h <;> rename_i hs ht
  · exact ⟨hs.trans ht.symm, h⟩
  · rw [h, hslash] at hp
    simp at hp
  · rw [← h, hslash] at hq
    simp at hq
  · have hchars := congrArg String.toList h
    rw [hslash, hslash] at hchars
    rcases List.append_eq_append_iff.mp hchars with ⟨rest, ht, hrest⟩ | ⟨rest, hs, hrest⟩
    · cases rest with
      | nil =>
        rw [List.append_nil] at ht
        exact ⟨(String.toList_inj.mp ht).symm, String.toList_inj.mp (List.cons.inj hrest).2⟩
      | cons c rest =>
        rw [(List.cons.inj hrest).2] at hp
        simp at hp
    · cases rest with
      | nil =>
        rw [List.append_nil] at hs
        exact ⟨String.toList_inj.mp hs, (String.toList_inj.mp (List.cons.inj hrest).2).symm⟩
      | cons c rest =>
        rw [(List.cons.inj hrest).2] at hq
        simp at hq

namespace Library

open Metadata

section

variable {s : Interner} {node : TypeNode}

lemma mem_declaration_classes (hs : s.Reachable) {id : ClassId}
    (h : id ∈ ((declaration node).eval s).classes) :
    id = idOf s node ∨ id.short = .companion ∧ id.isNested = true := by
  simp only [declaration] at h
  cases hc : node.shape.hasCompanion with
  | false =>
    rw [hc] at h
    exact .inl (List.mem_singleton.mp h)
  | true =>
    rw [hc] at h
    rcases List.mem_cons.mp h with h | h
    · exact .inl h
    · have hlater := hs.trans (node.replays_classId s).later
      rw [List.mem_singleton.mp h]
      exact .inr ⟨rfl, ClassId.isNested_nested (Reachable.nodup hlater) _ (companion_lt hlater)⟩

lemma classId_settled_of_declaration (hs : s.Reachable) (h : Settled s (declaration node)) :
    Settled s node.classId := by
  have hlater := hs.trans (node.replays_classId s).later
  refine h.of_bind (node.replays_classId s) ?_
  split
  · exact (ClassId.replays_nested (node.classId_lt s) (companion_lt hlater)).andThen fun _ =>
      replays_pure _ _
  · exact replays_pure _ _

lemma classId_settled_of_declareFrom (hs : s.Reachable) {r : Registry} {nodes : List TypeNode}
    (h : Settled s (declareFrom r nodes)) : ∀ node ∈ nodes, Settled s node.classId := by
  induction nodes generalizing r with
  | nil => exact fun node hn => absurd hn List.not_mem_nil
  | cons node nodes ih =>
    rw [declareFrom_cons] at h
    have hd := replays_declaration node hs
    have hhead : Settled s (declaration node) :=
      h.of_bind hd (replays_declareFrom (hs.trans hd.later) _ nodes)
    have htail : Settled s (declareFrom (r.declare ((declaration node).eval s)) nodes) := by
      have hrun : ((declareFrom (r.declare ((declaration node).eval s)) nodes).run
          ((declaration node).run s).2).2 = s := h
      rwa [hhead] at hrun
    rintro other (_ | ⟨_, hn⟩)
    · exact classId_settled_of_declaration hs hhead
    · exact ih htail other hn

end

/-- Types whose shown identities and whose bare names cannot be confused. -/
structure Separate (nodes : List TypeNode) : Prop where
  distinct : (nodes.map fun node => (node.scopeText, node.name)).Nodup
  undivided : ∀ node ∈ nodes, '.' ∉ node.name.toList ∧ '/' ∉ node.name.toList
  noCompanion : ∀ node ∈ nodes, node.scopeText = "" → node.name ≠ "Companion"
  rootOnly : ∀ a ∈ nodes, ∀ b ∈ nodes, a.scopeText = "" → b.name = a.name → b.scopeText = ""

lemma Separate.perm {ms ns : List TypeNode} (h : Separate ms) (hp : ms.Perm ns) : Separate ns where
  distinct := ((hp.map _).nodup_iff).mp h.distinct
  undivided node hn := h.undivided node (hp.mem_iff.mpr hn)
  noCompanion node hn := h.noCompanion node (hp.mem_iff.mpr hn)
  rootOnly a ha b hb := h.rootOnly a (hp.mem_iff.mpr ha) b (hp.mem_iff.mpr hb)

lemma declareAll_rootFirst {names : Interner} (hn : names.Reachable) {nodes : List TypeNode}
    (h : Separate nodes) : ((declareAll nodes).eval names).index.RootFirst := by
  let t := ((declareAll nodes).run names).2
  have hdeclare : Replays names (declareAll nodes) := replays_declareFrom hn .empty nodes
  have ht : t.Reachable := hn.trans hdeclare.later
  have hshows : ∀ node ∈ nodes, (idOf t node).Shows t node.scopeText node.name := by
    have hsettled : Settled t (declareAll nodes) := hdeclare.settled .refl
    exact fun node hnode => idOf_shows (classId_settled_of_declareFrom ht hsettled node hnode)
  have hindex : ((declareAll nodes).eval names).index =
      (nodes.map fun node => (declaration node).eval t).foldl Index.record .empty := by
    have hd := eval_declareFrom hn .empty nodes (t := t) .refl
    rw [Registry.foldl_declare] at hd
    exact congrArg Registry.index hd
  rw [hindex]
  intro n hclass
  have hmem : (Package.root, n) ∈ _ := of_decide_eq_true hclass
  rw [mem_foldl Index.classNames (Index.mem_classNames_record .root n)] at hmem
  simp only [Index.empty, List.not_mem_nil, false_or, List.mem_map, exists_exists_and_eq_and] at hmem
  obtain ⟨a, ha, hroot⟩ := hmem
  have hid : idOf t a = .topLevel .root n := by
    rcases mem_declaration_classes ht hroot with h | ⟨-, hnested⟩
    · exact h.symm
    · rw [ClassId.topLevel_isNested] at hnested
      cases hnested
  obtain ⟨hpackage, hname⟩ := hshows a ha
  rw [hid] at hpackage hname
  have hscope : a.scopeText = "" := (eq_iff_of_get? hpackage ht.empty).mp rfl
  let classes := (nodes.map fun node => (declaration node).eval t).flatMap (·.classes)
  have hfound : (classes.find? (·.short == n)).isSome := by
    refine List.find?_isSome.mpr ⟨.topLevel .root n, ?_, beq_self_eq_true n⟩
    exact List.mem_flatMap.mpr ⟨_, List.mem_map.mpr ⟨a, ha, rfl⟩, hroot⟩
  obtain ⟨id, hfind⟩ := Option.isSome_iff_exists.mp hfound
  have hshort : id.short = n := by simpa using List.find?_some hfind
  obtain ⟨_, hr, hmem⟩ := List.mem_flatMap.mp (List.mem_of_find?_eq_some hfind)
  obtain ⟨b, hb, rfl⟩ := List.mem_map.mp hr
  -- the first class of the name is no companion, so it is a type, and that type is in the root too
  have hfirst : id = .topLevel .root n := by
    rcases mem_declaration_classes ht hmem with hid | ⟨hcompanion, -⟩
    · obtain ⟨hpackage', hname'⟩ := hshows b hb
      have hrelative : (idOf t b).short = n := hid ▸ hshort
      have hsame : b.name = a.name := (eq_iff_of_get? hname' hname).mp hrelative
      rw [h.rootOnly a ha b hb hscope hsame] at hpackage'
      have hempty : (idOf t b).package.name = .empty :=
        Option.some.inj (hpackage'.symm.trans ht.empty)
      rw [hid, idOf_eq_topLevel]
      exact congrArg₂ ClassId.topLevel (congrArg Package.mk hempty) hrelative
    · have hknown := ht.get?_known (a := "Companion") (n := .companion) rfl
      rw [← hcompanion, hshort] at hknown
      exact absurd ((eq_iff_of_get? hname hknown).mp rfl) (h.noCompanion a ha hscope)
  rw [Index.packageOfShortName_foldl]
  change Option.or none ((classes.find? (·.short == n)).map (·.package)) = some .root
  rw [hfind, hfirst]
  rfl

lemma mem_entries {node : TypeNode} {id : String} (h : id ∈ (Shown.entries node).map (·.1)) :
    ∃ path, (path = node.name ∨ path = node.name ++ ".Companion") ∧
      id = ClassId.shown node.scopeText path := by
  rw [Shown.entries] at h
  split at h
  · exact ⟨_, .inl rfl, List.mem_singleton.mp h⟩
  · rcases List.mem_cons.mp h with h | h
    · exact ⟨_, .inl rfl, h⟩
    · exact ⟨_, .inr rfl, List.mem_singleton.mp h⟩

section

variable {nodes : List TypeNode} {a b : TypeNode} {p q : String}

lemma Separate.slash_notMem_path (h : Separate nodes) (ha : a ∈ nodes)
    (hp : p = a.name ∨ p = a.name ++ ".Companion") : '/' ∉ p.toList := by
  have hname := (h.undivided a ha).2
  rcases hp with rfl | rfl
  · exact hname
  · simpa [String.toList_append] using hname

lemma Separate.name_ne_companion (h : Separate nodes) (ha : a ∈ nodes) (name : String) :
    a.name ≠ name ++ ".Companion" := by
  intro he
  apply (h.undivided a ha).1
  rw [he, String.toList_append]
  exact List.mem_append_right _ (by decide)

lemma Separate.name_eq_of_path (h : Separate nodes) (ha : a ∈ nodes) (hb : b ∈ nodes)
    (hp : p = a.name ∨ p = a.name ++ ".Companion") (hq : p = b.name ∨ p = b.name ++ ".Companion") :
    a.name = b.name := by
  rcases hp with rfl | rfl <;> rcases hq with hq | hq
  · exact hq
  · exact absurd hq (h.name_ne_companion ha b.name)
  · exact absurd hq.symm (h.name_ne_companion hb a.name)
  · exact (String.append_left_inj _).mp hq

end

lemma Separate.nodup_entries {nodes : List TypeNode} (h : Separate nodes) :
    ((nodes.flatMap Shown.entries).map (·.1)).Nodup := by
  rw [List.map_flatMap]
  refine List.nodup_flatMap.mpr ⟨fun node hn => ?_, ?_⟩
  · rw [Shown.entries]
    split
    · exact List.nodup_singleton _
    · refine List.nodup_cons.mpr ⟨fun he => ?_, List.nodup_singleton _⟩
      obtain ⟨-, hpath⟩ := ClassId.shown_inj (h.slash_notMem_path hn (.inl rfl))
        (h.slash_notMem_path hn (.inr rfl)) (List.mem_singleton.mp he)
      exact h.name_ne_companion hn node.name hpath
  · refine (List.pairwise_map.mp h.distinct).imp_of_mem fun {a b} ha hb hne id hida hidb => hne ?_
    obtain ⟨p, hp, rfl⟩ := mem_entries hida
    obtain ⟨q, hq, hid⟩ := mem_entries hidb
    obtain ⟨hscope, rfl⟩ :=
      ClassId.shown_inj (h.slash_notMem_path ha hp) (h.slash_notMem_path hb hq) hid
    exact Prod.ext hscope (h.name_eq_of_path ha hb hp hq)

def Shown.listing (nodes : List TypeNode) : String :=
  String.join (((nodes.flatMap entries).mergeSort fun a b => decide (a.1 ≤ b.1)).map (·.2))

lemma Shown.listing_perm {ms ns : List TypeNode} (h : Separate ms) (hp : ms.Perm ns) :
    listing ms = listing ns := by
  rw [listing, listing, mergeSort_keys_eq_of_perm (hp.flatMap_right entries) h.nodup_entries]

lemma Assembled.text_listing {nodes : List TypeNode} {index : Index} {l : Library} {i u : Interner}
    (h : Assembled nodes index l i) (hr : index.RootFirst) (hs : Separate nodes) (hu : Later i u) :
    Listing.text u l.registry = Shown.listing nodes := by
  let symbols := nodes.flatMap (builtSymbols i index)
  let entry (c : Symbol.Class) : String × String := (c.id.text u, Listing.classText u c)
  have hentries : symbols.map entry = nodes.flatMap Shown.entries := by
    rw [List.map_flatMap]
    exact List.flatMap_congr fun node hn => shown_builtSymbols h.reachable hr (h.built node hn) hu
  have hkeys := hs.nodup_entries
  rw [← hentries, List.map_map] at hkeys
  have hids : (symbols.map (·.id)).Nodup := by
    refine List.Nodup.of_map (·.text u) ?_
    rwa [List.map_map]
  have hperm : (l.registry.listing.map entry).Perm (symbols.map entry) := by
    rw [h.registry_eq, Registry.listing_withIndex]
    exact (Registry.listing_perm hids).map entry
  have hmap : (Listing.sorted u l.registry.listing).map entry =
      (l.registry.listing.map entry).mergeSort fun a b => decide (a.1 ≤ b.1) :=
    List.map_mergeSort fun _ _ _ _ => rfl
  have hsorted : (Listing.sorted u l.registry.listing).map entry =
      (symbols.map entry).mergeSort fun a b => decide (a.1 ≤ b.1) := by
    rw [hmap, mergeSort_keys_eq_of_perm hperm.symm]
    rwa [List.map_map]
  rw [Listing.text, Shown.listing, ← hentries, ← hsorted, List.map_map]
  rfl

theorem listing_eq_of_perm {names₁ names₂ : Interner} (h₁ : names₁.Reachable)
    (h₂ : names₂.Reachable) {assemblies₁ assemblies₂ : List (String × Assembly)}
    (hp : (assemblies₁.flatMap (·.2.types)).Perm (assemblies₂.flatMap (·.2.types)))
    (hs : Separate (assemblies₁.flatMap (·.2.types))) (implicit₁ implicit₂ : List String) :
    let library₁ := (ofAssemblies assemblies₁ implicit₁).run names₁
    let library₂ := (ofAssemblies assemblies₂ implicit₂).run names₂
    ∀ later₁ later₂, Later library₁.2 later₁ → Later library₂.2 later₂ →
      Listing.text later₁ library₁.1.registry = Listing.text later₂ library₂.1.registry := by
  intro library₁ library₂ later₁ later₂ hl₁ hl₂
  have hnodes (assemblies : List (String × Assembly)) :
      (assemblies.flatMap (·.2.types)).Perm (nodes assemblies) :=
    ((List.mergeSort_perm _ _).flatMap_right _).symm
  have hs₁ := hs.perm (hnodes assemblies₁)
  have hs₂ := hs.perm (hp.trans (hnodes assemblies₂))
  have ha₁ := ofAssemblies_assembled h₁ assemblies₁ implicit₁
  have ha₂ := ofAssemblies_assembled h₂ assemblies₂ implicit₂
  calc
    Listing.text later₁ library₁.1.registry = Shown.listing (nodes assemblies₁) :=
      ha₁.text_listing (declareAll_rootFirst h₁ hs₁) hs₁ hl₁
    _ = Shown.listing (nodes assemblies₂) :=
      Shown.listing_perm hs₁ (((hnodes assemblies₁).symm.trans hp).trans (hnodes assemblies₂))
    _ = Listing.text later₂ library₂.1.registry :=
      (ha₂.text_listing (declareAll_rootFirst h₂ hs₂) hs₂ hl₂).symm

def mentioningTypes : List TypeNode :=
  [⟨none, "A", [], [⟨"f", some "B", [⟨none, some "A"⟩], true⟩],
      [⟨[⟨some "x", some "q.D"⟩], false⟩]⟩,
   ⟨some "", "B", [objectAttribute], [⟨"g", some "kotlin.Unit", [], true⟩], []⟩,
   ⟨some "p", "D", [fileClassAttribute], [⟨"h", some "B", [], false⟩], []⟩]

theorem listing_eq_of_perm_mentioningTypes :
    let one := [("one", (⟨none, mentioningTypes⟩ : Assembly))]
    let many := (mentioningTypes.map fun node => (node.name, (⟨none, [node]⟩ : Assembly))).reverse
    let used := (Interner.new.intern "D").2
    Interner.new.Reachable ∧ used.Reachable ∧
      (one.flatMap (·.2.types)).Perm (many.flatMap (·.2.types)) ∧
      Separate (one.flatMap (·.2.types)) ∧
      Listing.text ((ofAssemblies one []).run .new).2 ((ofAssemblies one []).run .new).1.registry =
        Listing.text ((ofAssemblies many ["System"]).run used).2
          ((ofAssemblies many ["System"]).run used).1.registry := by
  intro one many used
  have hused : used.Reachable := later_intern .new "D"
  have hperm : (one.flatMap (·.2.types)).Perm (many.flatMap (·.2.types)) := by decide
  have hseparate : Separate (one.flatMap (·.2.types)) := by
    constructor <;> decide
  exact ⟨.refl, hused, hperm, hseparate,
    listing_eq_of_perm .refl hused hperm hseparate [] ["System"] _ _ .refl .refl⟩

end Library

end ClrCompiler
