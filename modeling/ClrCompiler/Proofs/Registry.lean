import ClrCompiler.Registry
import ClrCompiler.Proofs.Index
import ClrCompiler.Proofs.Lookup
import Mathlib.Data.List.Nodup

/-! The tables of a registry after any number of symbols: the first class of an identity, all free
functions, the members of the classes that were kept, and the listing of these classes. -/

namespace ClrCompiler

namespace Buckets

variable {κ α : Type} [DecidableEq κ]

lemma lookup_cons_if {β : Type} (k key : κ) (v : β) (entries : List (κ × β)) :
    ((k, v) :: entries).lookup key = if k = key then some v else entries.lookup key := by
  by_cases hk : k = key
  · simp [hk]
  · have hbeq : (key == k) = false := beq_false_of_ne (Ne.symm hk)
    simp [List.lookup_cons, hbeq, hk]

lemma lookup_fileEntry (key k : κ) (a : α) (entries : List (κ × List α)) :
    ((fileEntry key a entries).lookup k).getD [] =
      (entries.lookup k).getD [] ++ if key = k then [a] else [] := by
  induction entries with
  | nil => by_cases hk : key = k <;> simp [fileEntry, lookup_cons_if, hk]
  | cons e rest ih =>
    obtain ⟨k', as⟩ := e
    simp only [fileEntry]
    by_cases hkey : k' = key
    · subst hkey
      by_cases hk : k' = k <;> simp [lookup_cons_if, hk]
    · by_cases hk : k' = k
      · subst hk
        simp [hkey, Ne.symm hkey]
      · simpa [lookup_cons_if, hkey, hk] using ih

lemma under_file (b : Buckets κ α) (key k : κ) (a : α) :
    (b.file key a).under k = b.under k ++ if key = k then [a] else [] :=
  lookup_fileEntry key k a b.entries

@[simp] lemma under_empty (k : κ) : (empty : Buckets κ α).under k = [] := rfl

lemma mem_keys_of_mem_under {b : Buckets κ α} {key : κ} {a : α}
    (h : a ∈ b.under key) : key ∈ b.keys := by
  rw [under] at h
  cases hl : b.entries.lookup key with
  | none => simp [hl] at h
  | some as => exact List.mem_map_of_mem (mem_of_lookup hl)

end Buckets

namespace Registry

@[simp] lemma classifier_empty (id : ClassId) : empty.classifier id = none := rfl

@[simp] lemma callables_empty (id : CallableId) : empty.callables id = [] := rfl

lemma callables_fileFunctions (r : Registry) (fs : List Symbol.Function) (id : CallableId) :
    (r.fileFunctions fs).callables id = r.callables id ++ fs.filter (·.id == id) := by
  simp only [fileFunctions]
  induction fs generalizing r with
  | nil => simp
  | cons f fs ih =>
    rw [List.foldl_cons, ih]
    have hf : (r.fileFunction f).callables id = r.callables id ++ if f.id = id then [f] else [] :=
      Buckets.under_file r.functions f.id id f
    by_cases h : f.id = id <;> simp [hf, h]

@[simp] lemma classes_fileFunctions (r : Registry) (fs : List Symbol.Function) :
    (r.fileFunctions fs).classes = r.classes := by
  rw [fileFunctions, foldl_unchanged classes]
  exact fun _ _ => rfl

@[simp] lemma classIds_fileFunctions (r : Registry) (fs : List Symbol.Function) :
    (r.fileFunctions fs).classIds = r.classIds := by
  rw [fileFunctions, foldl_unchanged classIds]
  exact fun _ _ => rfl

lemma classifier_store (r : Registry) (c : Symbol.Class) (id : ClassId) :
    (r.store c).classifier id = (r.classifier id).or (if c.id = id then some c else none) := by
  simp only [store]
  split
  · rename_i h
    by_cases hid : c.id = id
    · obtain ⟨d, hd⟩ := Option.isSome_iff_exists.mp h
      simp only [classifier, classes_fileFunctions, hid] at hd ⊢
      rw [hd, Option.some_or]
    · simp only [classifier, classes_fileFunctions, hid, if_false, Option.or_none]
  · by_cases hid : c.id = id
    · simp [classifier, insert, List.lookup_append, hid]
    · simp [classifier, insert, List.lookup_append, Buckets.lookup_cons_if, hid]

def storeAll (r : Registry) (cs : List Symbol.Class) : Registry := cs.foldl store r

lemma classifier_storeAll (r : Registry) (cs : List Symbol.Class) (id : ClassId) :
    (r.storeAll cs).classifier id = (r.classifier id).or (cs.find? (·.id == id)) := by
  simp only [storeAll]
  induction cs generalizing r with
  | nil => simp
  | cons c cs ih =>
    rw [List.foldl_cons, ih, classifier_store, Option.or_assoc]
    by_cases hid : c.id = id <;> simp [hid]

lemma callables_store_topLevel (r : Registry) (c : Symbol.Class) (package : Package) (name : Name) :
    (r.store c).freeFunctions package name =
      r.freeFunctions package name ++ c.functions.filter (·.id == .topLevel package name) := by
  simp only [store, freeFunctions]
  split
  · rw [callables_fileFunctions, List.filter_filter]
    congr 1
    apply List.filter_congr
    intro f _
    by_cases hf : f.id = .topLevel package name
    · simp [hf, CallableId.topLevel, CallableId.isTopLevel]
    · simp [hf]
  · exact callables_fileFunctions r c.functions _

lemma freeFunctions_storeAll (r : Registry) (cs : List Symbol.Class) (package : Package)
    (name : Name) :
    (r.storeAll cs).freeFunctions package name =
      r.freeFunctions package name ++
        (cs.flatMap (·.functions)).filter (·.id == .topLevel package name) := by
  simp only [storeAll]
  induction cs generalizing r with
  | nil => simp
  | cons c cs ih =>
    rw [List.foldl_cons, ih, callables_store_topLevel, List.flatMap_cons, List.filter_append,
      List.append_assoc]

def OwnMembers (c : Symbol.Class) : Prop :=
  ∀ f ∈ c.functions, ∀ owner, f.id.owner = some owner → owner = c.id

def MembersFiled (r : Registry) : Prop :=
  ∀ id name, r.members id name =
    ((r.classifier id).toList.flatMap (·.functions)).filter (·.id == .member id name)

lemma filter_members_of_ne {c : Symbol.Class} (h : OwnMembers c) {id : ClassId} (hid : c.id ≠ id)
    (name : Name) : c.functions.filter (·.id == .member id name) = [] := by
  apply List.filter_eq_nil_iff.mpr
  intro f hf he
  have howner : f.id.owner = some id := by rw [eq_of_beq he]; rfl
  exact hid (h f hf id howner).symm

lemma members_store (r : Registry) (c : Symbol.Class) (id : ClassId) (name : Name) :
    (r.store c).members id name = r.members id name ++
      if r.contains c.id then [] else c.functions.filter (·.id == .member id name) := by
  simp only [store, members]
  split
  · rw [callables_fileFunctions, List.filter_filter]
    congr 1
    apply List.filter_eq_nil_iff.mpr
    intro f _ he
    obtain ⟨hid, htop⟩ := Bool.and_eq_true_iff.mp he
    rw [eq_of_beq hid] at htop
    simp [CallableId.member, CallableId.isTopLevel] at htop
  · exact callables_fileFunctions r c.functions _

lemma MembersFiled.store {r : Registry} (hr : MembersFiled r) {c : Symbol.Class}
    (hc : OwnMembers c) : MembersFiled (r.store c) := by
  intro id name
  rw [members_store, hr, classifier_store]
  by_cases hid : c.id = id
  · subst hid
    cases hk : r.classifier c.id with
    | none => simp [contains, hk]
    | some d => simp [contains, hk]
  · simp [hid, filter_members_of_ne hc hid]

lemma MembersFiled.storeAll {r : Registry} (hr : MembersFiled r) {cs : List Symbol.Class}
    (hcs : ∀ c ∈ cs, OwnMembers c) : MembersFiled (r.storeAll cs) := by
  simp only [Registry.storeAll]
  induction cs generalizing r with
  | nil => exact hr
  | cons c cs ih =>
    rw [List.foldl_cons]
    exact ih (hr.store (hcs c List.mem_cons_self)) fun d hd => hcs d (List.mem_cons_of_mem c hd)

lemma membersFiled_empty : MembersFiled .empty := fun _ _ => rfl

lemma classesIn_store (r : Registry) (c : Symbol.Class) (package : Package) :
    (r.store c).classesIn package =
      r.classesIn package ++ if ¬ r.contains c.id ∧ c.id.package = package then [c.id] else [] := by
  by_cases hk : r.contains c.id
  · simp [store, hk, classesIn]
  · simp [store, hk, classesIn, insert, Buckets.under_file]

def ClassesListed (r : Registry) : Prop :=
  ∀ package id, id ∈ r.classesIn package ↔ id.package = package ∧ (r.classifier id).isSome

lemma ClassesListed.store {r : Registry} (hr : ClassesListed r) (c : Symbol.Class) :
    ClassesListed (r.store c) := by
  intro package id
  rw [classifier_store, classesIn_store, List.mem_append, hr]
  by_cases hid : c.id = id
  · subst hid
    by_cases hk : r.contains c.id
    · simp [hk, show (r.classifier c.id).isSome = true from hk]
    · by_cases hp : c.id.package = package <;> simp [hk, hp]
  · split <;> simp [Ne.symm hid]

lemma ClassesListed.storeAll {r : Registry} (hr : ClassesListed r) (cs : List Symbol.Class) :
    ClassesListed (r.storeAll cs) := by
  simp only [Registry.storeAll]
  induction cs generalizing r with
  | nil => exact hr
  | cons c cs ih => exact ih (hr.store c)

lemma classesListed_empty : ClassesListed .empty := by
  intro package id
  simp [classesIn, classifier, Registry.empty]

def ClassesOnce (r : Registry) : Prop := ∀ package, (r.classesIn package).Nodup

lemma ClassesOnce.store {r : Registry} (hr : ClassesOnce r) (hl : ClassesListed r) (c : Symbol.Class) :
    ClassesOnce (r.store c) := by
  intro package
  rw [classesIn_store]
  split <;> rename_i hc
  · refine List.nodup_append.mpr ⟨hr package, List.nodup_singleton _, ?_⟩
    rintro id hid _ hnew rfl
    rw [List.mem_singleton.mp hnew] at hid
    exact hc.1 ((hl package c.id).mp hid).2
  · simpa using hr package

lemma classesOnce_storeAll (cs : List Symbol.Class) : ClassesOnce (empty.storeAll cs) := by
  have hstep (cs : List Symbol.Class) {r : Registry} (hr : ClassesOnce r) (hl : ClassesListed r) :
      ClassesOnce (r.storeAll cs) := by
    simp only [storeAll]
    induction cs generalizing r with
    | nil => exact hr
    | cons c cs ih => exact ih (hr.store hl c) (hl.store c)
  exact hstep cs (fun _ => List.nodup_nil) classesListed_empty

lemma id_of_classifier {cs : List Symbol.Class} {id : ClassId} {c : Symbol.Class}
    (h : (empty.storeAll cs).classifier id = some c) : c.id = id := by
  rw [classifier_storeAll, classifier_empty, Option.none_or] at h
  simpa using List.find?_some h

lemma mem_listing {cs : List Symbol.Class} {c : Symbol.Class} :
    c ∈ (empty.storeAll cs).listing ↔ (empty.storeAll cs).classifier c.id = some c := by
  simp only [listing, List.mem_flatMap, List.mem_filterMap, Name.mem_ascending]
  constructor
  · rintro ⟨name, -, id, -, hc⟩
    rwa [id_of_classifier hc]
  · intro hc
    have hin : c.id ∈ (empty.storeAll cs).classesIn c.id.package :=
      (classesListed_empty.storeAll cs _ _).mpr ⟨rfl, Option.isSome_of_eq_some hc⟩
    refine ⟨c.id.package.name, ?_, c.id, hin, hc⟩
    exact List.mem_map.mpr ⟨_, Buckets.mem_keys_of_mem_under hin, rfl⟩

lemma nodup_listing (cs : List Symbol.Class) : (empty.storeAll cs).listing.Nodup := by
  have hpackage {name : Name} {c : Symbol.Class}
      (hc : c ∈ ((empty.storeAll cs).classesIn ⟨name⟩).filterMap (empty.storeAll cs).classifier) :
      c.id.package = ⟨name⟩ := by
    obtain ⟨id, hid, hc⟩ := List.mem_filterMap.mp hc
    rw [id_of_classifier hc]
    exact ((classesListed_empty.storeAll cs _ _).mp hid).1
  refine List.nodup_flatMap.mpr ⟨fun name _ => ?_, ?_⟩
  · refine (classesOnce_storeAll cs _).filterMap ?_
    intro a b c ha hb
    rw [← id_of_classifier ha, ← id_of_classifier hb]
  · refine (Name.nodup_ascending _).imp ?_
    intro a b hab c hca hcb
    apply hab
    exact congrArg Package.name ((hpackage hca).symm.trans (hpackage hcb))

lemma listing_perm {cs : List Symbol.Class} (h : (cs.map (·.id)).Nodup) :
    (empty.storeAll cs).listing.Perm cs := by
  refine (List.perm_ext_iff_of_nodup (nodup_listing cs) h.of_map).mpr fun c => ?_
  rw [mem_listing, classifier_storeAll, classifier_empty, Option.none_or]
  constructor
  · exact List.mem_of_find?_eq_some
  · intro hc
    have hfound : (cs.find? (·.id == c.id)).isSome :=
      List.find?_isSome.mpr ⟨c, hc, beq_self_eq_true _⟩
    obtain ⟨d, hd⟩ := Option.isSome_iff_exists.mp hfound
    have hid : d.id = c.id := by simpa using List.find?_some hd
    rwa [List.inj_on_of_nodup_map h (List.mem_of_find?_eq_some hd) hc hid] at hd

def withIndex (r : Registry) (index : Index) : Registry := { r with index := index }

@[simp] lemma index_withIndex (r : Registry) (index : Index) : (r.withIndex index).index = index := rfl

@[simp] lemma classifier_withIndex (r : Registry) (index : Index) (id : ClassId) :
    (r.withIndex index).classifier id = r.classifier id := rfl

@[simp] lemma callables_withIndex (r : Registry) (index : Index) (id : CallableId) :
    (r.withIndex index).callables id = r.callables id := rfl

@[simp] lemma classesIn_withIndex (r : Registry) (index : Index) (package : Package) :
    (r.withIndex index).classesIn package = r.classesIn package := rfl

@[simp] lemma listing_withIndex (r : Registry) (index : Index) :
    (r.withIndex index).listing = r.listing := rfl

lemma MembersFiled.withIndex {r : Registry} (h : MembersFiled r) (index : Index) :
    MembersFiled (r.withIndex index) :=
  fun id name => h id name

lemma fileFunctions_withIndex (r : Registry) (index : Index) (fs : List Symbol.Function) :
    (r.withIndex index).fileFunctions fs = (r.fileFunctions fs).withIndex index := by
  simp only [fileFunctions]
  induction fs generalizing r with
  | nil => rfl
  | cons f fs ih => exact ih (r.fileFunction f)

lemma store_withIndex (r : Registry) (index : Index) (c : Symbol.Class) :
    (r.withIndex index).store c = (r.store c).withIndex index := by
  have hk : (r.withIndex index).contains c.id = r.contains c.id := rfl
  simp only [store]
  rw [hk]
  split
  · exact fileFunctions_withIndex r index _
  · rw [fileFunctions_withIndex]
    rfl

lemma storeAll_withIndex (r : Registry) (index : Index) (cs : List Symbol.Class) :
    (r.withIndex index).storeAll cs = (r.storeAll cs).withIndex index := by
  simp only [storeAll]
  induction cs generalizing r with
  | nil => rfl
  | cons c cs ih => rw [List.foldl_cons, List.foldl_cons, store_withIndex, ih]

lemma foldl_apply {β : Type} (symbols : β → List Symbol.Class) (names : β → Registration)
    (bs : List β) (r : Registry) :
    bs.foldl (fun r b => r.apply (symbols b) (names b)) r =
      (r.storeAll (bs.flatMap symbols)).withIndex ((bs.map names).foldl Index.record r.index) := by
  induction bs generalizing r with
  | nil => rfl
  | cons b bs ih =>
    have hb : r.apply (symbols b) (names b) =
        (r.storeAll (symbols b)).withIndex (r.index.record (names b)) :=
      storeAll_withIndex r (r.index.record (names b)) (symbols b)
    rw [List.foldl_cons, ih, hb, storeAll_withIndex]
    simp only [storeAll, List.flatMap_cons, List.foldl_append, List.map_cons, List.foldl_cons,
      withIndex]

lemma foldl_declare (names : List Registration) (r : Registry) :
    names.foldl declare r = r.withIndex (names.foldl Index.record r.index) := by
  induction names generalizing r with
  | nil => rfl
  | cons n names ih =>
    rw [List.foldl_cons, ih]
    rfl

end Registry

end ClrCompiler
