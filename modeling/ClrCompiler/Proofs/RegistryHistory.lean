import ClrCompiler.Proofs.Registry
import Mathlib.Data.List.Induction

/-! A registry after any calls is a function of the symbols applied to it: the first symbol of an
identity is kept, identities are listed in the order of their first symbol, and the buckets hold what
was filed. -/

namespace ClrCompiler

lemma Buckets.size_fileEntry {κ α : Type} [DecidableEq κ] (key : κ) (a : α)
    (entries : List (κ × List α)) :
    (Buckets.mk (fileEntry key a entries)).size = (Buckets.mk entries).size + 1 := by
  induction entries with
  | nil => rfl
  | cons e entries ih =>
    simp only [fileEntry]
    split
    · simp only [size, List.foldr_cons, List.length_append, List.length_singleton]
      omega
    · simp only [size, List.foldr_cons] at ih ⊢
      omega

namespace Registry

inductive Call where
  | declare (names : Registration)
  | apply (symbols : List Symbol.Class) (names : Registration)

def Call.run (r : Registry) : Call → Registry
  | .declare names => r.declare names
  | .apply symbols names => r.apply symbols names

def Call.symbols : Call → List Symbol.Class
  | .declare _ => []
  | .apply symbols _ => symbols

def Call.names : Call → Registration
  | .declare names => names
  | .apply _ names => names

def ofCalls (calls : List Call) : Registry := calls.foldl Call.run .empty

/-- What symbols leave in the buckets after classes that are stored already: all functions of the
first symbol of an identity, and only the free functions of a later one. -/
def filed (stored : List ClassId) : List Symbol.Class → List Symbol.Function
  | [] => []
  | c :: cs =>
    (if c.id ∈ stored then c.functions.filter (·.id.isTopLevel) else c.functions) ++
      filed (c.id :: stored) cs

lemma foldl_run (calls : List Call) (r : Registry) :
    calls.foldl Call.run r = (r.storeAll (calls.flatMap Call.symbols)).withIndex
      ((calls.map Call.names).foldl Index.record r.index) := by
  have hrun : Call.run = fun r call => r.apply call.symbols call.names := by
    funext r call
    cases call <;> rfl
  rw [hrun]
  exact foldl_apply Call.symbols Call.names calls r

lemma storeAll_concat (r : Registry) (cs : List Symbol.Class) (c : Symbol.Class) :
    r.storeAll (cs ++ [c]) = (r.storeAll cs).store c := by
  simp [storeAll]

lemma contains_storeAll {cs : List Symbol.Class} {id : ClassId} :
    (empty.storeAll cs).contains id ↔ id ∈ cs.map (·.id) := by
  simp [contains, classifier_storeAll]

lemma classesIn_storeAll (cs : List Symbol.Class) (package : Package) :
    (empty.storeAll cs).classesIn package =
      ((cs.map (·.id)).filter (·.package == package)).eraseDups := by
  -- from the end: a symbol changes nothing that the symbols before it have stored
  induction cs using List.reverseRecOn with
  | nil => rfl
  | append_singleton cs c ih =>
    rw [storeAll_concat, classesIn_store, ih, List.map_append, List.map_singleton,
      eraseDups_filter_concat]
    simp only [contains_storeAll, beq_iff_eq]

lemma keys_storeAll (cs : List Symbol.Class) :
    (empty.storeAll cs).classes.map Prod.fst = (cs.map (·.id)).eraseDups := by
  induction cs using List.reverseRecOn with
  | nil => rfl
  | append_singleton cs c ih =>
    rw [storeAll_concat, store, List.map_append, List.map_singleton, eraseDups_concat]
    simp only [contains_storeAll]
    split
    · rw [classes_fileFunctions, ih]
    · rw [insert, List.map_append, classes_fileFunctions, ih]
      rfl

lemma mem_classes {cs : List Symbol.Class} {id : ClassId} {c : Symbol.Class} :
    (id, c) ∈ (empty.storeAll cs).classes ↔ (empty.storeAll cs).classifier id = some c := by
  apply (lookup_eq_some_iff_mem _).symm
  rw [keys_storeAll]
  exact nodup_eraseDups _

lemma classCount_storeAll (cs : List Symbol.Class) :
    (empty.storeAll cs).classCount = (empty.storeAll cs).listing.length := by
  have hids : ((empty.storeAll cs).classes.map Prod.snd).Nodup := by
    apply List.Nodup.of_map (·.id)
    have hkeys : ((empty.storeAll cs).classes.map Prod.snd).map (·.id) =
        (empty.storeAll cs).classes.map Prod.fst := by
      rw [List.map_map]
      apply List.map_congr_left
      rintro ⟨id, c⟩ he
      exact id_of_classifier (mem_classes.mp he)
    rw [hkeys, keys_storeAll]
    exact nodup_eraseDups _
  have hperm : ((empty.storeAll cs).classes.map Prod.snd).Perm (empty.storeAll cs).listing := by
    refine (List.perm_ext_iff_of_nodup hids (nodup_listing cs)).mpr fun c => ?_
    rw [mem_listing, ← mem_classes, List.mem_map]
    constructor
    · rintro ⟨⟨id, c⟩, he, rfl⟩
      rwa [id_of_classifier (mem_classes.mp he)]
    · exact fun he => ⟨_, he, rfl⟩
  rw [classCount, ← List.length_map, hperm.length_eq]

structure Holds (r : Registry) (fs : List Symbol.Function) : Prop where
  callables : ∀ id, r.callables id = fs.filter (·.id == id)
  callablesIn : ∀ package,
    r.callablesIn package = ((fs.map (·.id)).filter (·.package == package)).eraseDups
  count : r.callableCount = fs.length

namespace Holds

variable {r : Registry} {fs : List Symbol.Function}

lemma fileFunction (h : Holds r fs) (f : Symbol.Function) :
    Holds (r.fileFunction f) (fs ++ [f]) where
  callables id := by
    have hf : (r.fileFunction f).callables id = r.callables id ++ if f.id = id then [f] else [] :=
      Buckets.under_file r.functions f.id id f
    rw [hf, h.callables, List.filter_append]
    by_cases hid : f.id = id <;> simp [hid]
  callablesIn package := by
    have hnew : (r.callables f.id).isEmpty ↔ f.id ∉ fs.map (·.id) := by
      rw [h.callables, List.isEmpty_iff, List.filter_eq_nil_iff]
      simp
    have hf : (r.fileFunction f).callablesIn package = r.callablesIn package ++
        if f.id ∉ fs.map (·.id) ∧ f.id.package = package then [f.id] else [] := by
      simp only [Registry.callablesIn, Registry.fileFunction]
      split <;> rename_i he
      · simp [Buckets.under_file, hnew.mp he]
      · rw [hnew, not_not] at he
        simp [he]
    rw [hf, h.callablesIn, List.map_append, List.map_singleton, eraseDups_filter_concat]
    simp only [beq_iff_eq]
  count := by
    rw [callableCount, List.length_append, List.length_singleton, ← h.count]
    exact Buckets.size_fileEntry f.id f r.functions.entries

lemma fileFunctions (h : Holds r fs) (gs : List Symbol.Function) :
    Holds (r.fileFunctions gs) (fs ++ gs) := by
  simp only [Registry.fileFunctions]
  induction gs generalizing r fs with
  | nil => simpa using h
  | cons g gs ih => simpa using ih (h.fileFunction g)

lemma store (h : Holds r fs) (c : Symbol.Class) :
    Holds (r.store c)
      (fs ++ if r.contains c.id then c.functions.filter (·.id.isTopLevel) else c.functions) := by
  simp only [Registry.store]
  split
  · exact h.fileFunctions _
  · have hfiled := h.fileFunctions c.functions
    exact ⟨hfiled.callables, hfiled.callablesIn, hfiled.count⟩

lemma storeAll (h : Holds r fs) {stored : List ClassId} (hs : ∀ id, r.contains id ↔ id ∈ stored)
    (cs : List Symbol.Class) : Holds (r.storeAll cs) (fs ++ filed stored cs) := by
  simp only [Registry.storeAll]
  induction cs generalizing r fs stored with
  | nil => simpa [filed] using h
  | cons c cs ih =>
    have hstored (id : ClassId) : (r.store c).contains id ↔ id ∈ c.id :: stored := by
      rw [contains, classifier_store, List.mem_cons, ← hs, contains]
      by_cases hid : c.id = id
      · simp [hid]
      · simp [hid, Ne.symm hid]
    rw [List.foldl_cons, filed, ← List.append_assoc]
    refine ih ?_ hstored
    simpa only [hs] using h.store c

end Holds

lemma holds_empty : Holds .empty [] :=
  ⟨fun _ => rfl, fun _ => rfl, rfl⟩

lemma mem_filed_of_find? {cs : List Symbol.Class} {stored : List ClassId} {c : Symbol.Class}
    (hc : cs.find? (·.id == c.id) = some c) (hs : c.id ∉ stored) {f : Symbol.Function}
    (hf : f ∈ c.functions) : f ∈ filed stored cs := by
  induction cs generalizing stored with
  | nil => cases hc
  | cons d cs ih =>
    rw [filed, List.mem_append]
    by_cases hd : d.id = c.id
    · have he : d = c := by simpa [hd] using hc
      subst he
      exact Or.inl (by simpa [hs] using hf)
    · refine Or.inr (ih ?_ ?_)
      · simpa [hd] using hc
      · intro hmem
        rcases List.mem_cons.mp hmem with he | hmem
        · exact hd he.symm
        · exact hs hmem

theorem ofCalls_determined (calls : List Call) :
    let r := ofCalls calls
    let symbols := calls.flatMap Call.symbols
    let functions := filed [] symbols
    (∀ package, (r.classesIn package).Nodup ∧
      (∀ id, id ∈ r.classesIn package ↔ id.package = package ∧ (r.classifier id).isSome) ∧
      r.classesIn package = ((symbols.map (·.id)).filter (·.package == package)).eraseDups) ∧
    (r.listing.Nodup ∧ (∀ c, c ∈ r.listing ↔ r.classifier c.id = some c) ∧
      r.classCount = r.listing.length) ∧
    (∀ id c, r.classifier id = some c →
      c.id = id ∧ symbols.find? (·.id == id) = some c ∧ ∀ f ∈ c.functions, f ∈ r.callables f.id) ∧
    (∀ package, (r.callablesIn package).Nodup ∧
      ∀ id, id ∈ r.callablesIn package ↔ id.package = package ∧ r.callables id ≠ []) ∧
    (∀ id, (∀ f ∈ r.callables id, f.id = id) ∧ r.callables id = functions.filter (·.id == id)) ∧
    r.callableCount = functions.length := by
  intro r symbols functions
  have hr : r = (empty.storeAll symbols).withIndex
      ((calls.map Call.names).foldl Index.record .empty) := foldl_run calls .empty
  have hholds : Holds (empty.storeAll symbols) functions :=
    holds_empty.storeAll (fun _ => by simp [contains]) symbols
  have hlisted := classesListed_empty.storeAll symbols
  rw [hr]
  refine ⟨fun package => ⟨classesOnce_storeAll symbols package, hlisted package,
      classesIn_storeAll symbols package⟩,
    ⟨nodup_listing symbols, fun c => mem_listing, classCount_storeAll symbols⟩,
    fun id c hc => ?_, fun package => ?_, fun id => ?_, hholds.count⟩
  · have hid : c.id = id := id_of_classifier hc
    have hfirst : symbols.find? (·.id == id) = some c := by
      rwa [classifier_withIndex, classifier_storeAll, classifier_empty, Option.none_or] at hc
    refine ⟨hid, hfirst, fun f hf => ?_⟩
    rw [callables_withIndex, hholds.callables, List.mem_filter]
    subst hid
    exact ⟨mem_filed_of_find? hfirst List.not_mem_nil hf, beq_self_eq_true _⟩
  · have hin := hholds.callablesIn package
    constructor
    · change ((empty.storeAll symbols).callablesIn package).Nodup
      rw [hin]
      exact nodup_eraseDups _
    · intro id
      change id ∈ (empty.storeAll symbols).callablesIn package ↔ _
      rw [hin, callables_withIndex, hholds.callables, List.mem_eraseDups, List.mem_filter, ne_eq,
        List.filter_eq_nil_iff]
      simp [and_comm]
  · rw [callables_withIndex, hholds.callables]
    refine ⟨fun f hf => ?_, rfl⟩
    exact eq_of_beq (List.mem_filter.mp hf).2

def repeatedClass : List Call :=
  let function (id : CallableId) : Symbol.Function :=
    ⟨id, none, .publicFinal, [], .unit, none, [], .library⟩
  let symbol (id : ClassId) (functions : List CallableId) : Symbol.Class :=
    { Symbol.Class.make id .plain .publicFinal .library with functions := functions.map function }
  let free : CallableId := .topLevel .kotlin .plus
  let set : ClassId := .topLevel .kotlinCollections .set
  [.declare ⟨.kotlin, [Standard.any], []⟩,
   .apply [symbol set [free, .member Standard.any .equals],
     symbol set [free, .member set .plus], symbol Standard.any []] ⟨.kotlin, [], []⟩]

theorem ofCalls_determined_repeatedClass :
    let r := ofCalls repeatedClass
    let set : ClassId := .topLevel .kotlinCollections .set
    r.classesIn .kotlinCollections = [set] ∧ r.classCount = 2 ∧ r.callableCount = 3 ∧
      ∃ c, r.classifier set = some c ∧ c.functions.length = 2 ∧
        ∀ f ∈ c.functions, f ∈ r.callables f.id := by
  intro r set
  obtain ⟨hclasses, hlisting, hstored, -, -, hcount⟩ := ofCalls_determined repeatedClass
  refine ⟨?_, ?_, ?_, ?_⟩
  · rw [(hclasses .kotlinCollections).2.2]
    decide
  · rw [hlisting.2.2]
    decide
  · rw [hcount]
    decide
  · obtain ⟨c, hc⟩ := Option.isSome_iff_exists.mp (show (r.classifier set).isSome by decide)
    obtain ⟨-, hfirst, hfunctions⟩ := hstored set c hc
    refine ⟨c, hc, ?_, hfunctions⟩
    cases hfirst
    rfl

end Registry

end ClrCompiler
