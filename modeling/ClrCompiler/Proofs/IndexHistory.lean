import ClrCompiler.Proofs.Index
import ClrCompiler.Proofs.Lookup
import Mathlib.Data.List.Induction

/-! An index is determined by the registrations recorded in it: merging a second index replays what was
recorded there, and what is known already changes nothing. -/

namespace ClrCompiler

section

variable {α κ : Type} [DecidableEq κ]

def addBy (key : α → κ) (xs : List α) (x : α) : List α :=
  if key x ∈ xs.map key then xs else xs ++ [x]

variable {key : α → κ}

lemma mem_keys_addBy (k : κ) (xs : List α) (x : α) :
    k ∈ (addBy key xs x).map key ↔ k ∈ xs.map key ∨ key x = k := by
  rw [addBy]
  split <;> rename_i hx
  · constructor
    · exact Or.inl
    · rintro (hk | rfl)
      · exact hk
      · exact hx
  · simp [eq_comm]

lemma mem_keys_foldl_addBy {xs ys : List α} {k : κ} :
    k ∈ (ys.foldl (addBy key) xs).map key ↔ k ∈ xs.map key ∨ k ∈ ys.map key := by
  rw [mem_foldl (List.map key) (mem_keys_addBy k), ← List.mem_map]

lemma foldl_addBy_of_known {xs ys : List α} (h : ∀ y ∈ ys, key y ∈ xs.map key) :
    ys.foldl (addBy key) xs = xs := by
  induction ys with
  | nil => rfl
  | cons y ys ih =>
    have hy : addBy key xs y = xs := if_pos (h y List.mem_cons_self)
    rw [List.foldl_cons, hy]
    exact ih fun z hz => h z (List.mem_cons_of_mem y hz)

lemma foldl_addBy_replay (xs ys : List α) :
    (ys.foldl (addBy key) []).foldl (addBy key) xs = ys.foldl (addBy key) xs := by
  induction ys using List.reverseRecOn with
  | nil => rfl
  | append_singleton ys y ih =>
    simp only [List.foldl_append, List.foldl_cons, List.foldl_nil]
    by_cases hy : key y ∈ (ys.foldl (addBy key) []).map key
    · have hseen : key y ∈ (ys.foldl (addBy key) xs).map key := by
        rw [mem_keys_foldl_addBy] at hy ⊢
        simpa using Or.inr hy
      rw [addBy, if_pos hy, addBy, if_pos hseen, ih]
    · rw [addBy, if_neg hy, List.foldl_append, ih]
      rfl

end

lemma addNew_eq_addBy {α : Type} [DecidableEq α] : (addNew : List α → α → List α) = addBy id := by
  funext xs x
  simp [addNew, addBy]

lemma foldl_part {σ α β : Type} (get : σ → β) (put : σ → β → σ) {f : σ → α → σ} {g : β → α → β}
    (hget : ∀ s b, get (put s b) = b) (hput : ∀ s b c, put (put s b) c = put s c)
    (hself : ∀ s, put s (get s) = s) (h : ∀ s a, f s a = put s (g (get s) a)) (xs : List α) (s : σ) :
    xs.foldl f s = put s (xs.foldl g (get s)) := by
  induction xs generalizing s with
  | nil => exact (hself s).symm
  | cons x xs ih => rw [List.foldl_cons, ih, h, hget, hput, List.foldl_cons]

namespace Index

def append (a b : Index) : Index :=
  ⟨a.packages ++ b.packages, a.classNames ++ b.classNames, a.callableNames ++ b.callableNames,
    a.shortNames ++ b.shortNames⟩

def concat (parts : List Index) : Index := parts.foldr append empty

def ofPackage (package : Package) : Index := { empty with packages := [package] }

def ofClass (id : ClassId) : Index :=
  { empty with
    classNames := if id.isNested then [] else [(id.package, id.short)]
    shortNames := [(id.short, id.package)] }

def ofCallable (id : CallableId) : Index :=
  { empty with callableNames := if id.isTopLevel then [(id.package, id.name)] else [] }

def mentions (r : Registration) : Index :=
  (ofPackage r.package).append
    ((concat (r.classes.map ofClass)).append (concat (r.callables.map ofCallable)))

def ofHistory (rs : List Registration) : Index := rs.foldl record empty

lemma addShortName_eq (index : Index) (name : Name) (package : Package) :
    index.addShortName name package =
      { index with shortNames := addBy Prod.fst index.shortNames (name, package) } := by
  rw [addShortName, packageOfShortName, addBy]
  cases h : index.shortNames.lookup name with
  | none =>
    have hnone : name ∉ index.shortNames.map Prod.fst := by
      intro hmem
      obtain ⟨entry, hentry, rfl⟩ := List.mem_map.mp hmem
      exact absurd (List.lookup_eq_none_iff.mp h entry hentry) (by simp)
    rw [if_neg hnone]
  | some p =>
    have hmem : name ∈ index.shortNames.map Prod.fst := List.mem_map_of_mem (mem_of_lookup h)
    rw [if_pos hmem]

lemma extend_eq (a b : Index) : a.extend b =
    { packages := b.packages.foldl (addBy id) a.packages
      classNames := b.classNames.foldl (addBy id) a.classNames
      callableNames := b.callableNames.foldl (addBy id) a.callableNames
      shortNames := b.shortNames.foldl (addBy Prod.fst) a.shortNames } := by
  have hpackages := foldl_part packages (fun i ps => { i with packages := ps })
    (fun _ _ => rfl) (fun _ _ _ => rfl) (fun _ => rfl) (f := addPackage)
    fun _ _ => by rw [addPackage, addNew_eq_addBy]
  have hclasses := foldl_part classNames (fun i es => { i with classNames := es })
    (fun _ _ => rfl) (fun _ _ _ => rfl) (fun _ => rfl) (f := addClassName)
    fun _ _ => by rw [addClassName, addNew_eq_addBy]
  have hcallables := foldl_part callableNames (fun i es => { i with callableNames := es })
    (fun _ _ => rfl) (fun _ _ _ => rfl) (fun _ => rfl) (f := addCallableName)
    fun _ _ => by rw [addCallableName, addNew_eq_addBy]
  have hshort := foldl_part shortNames (fun i es => { i with shortNames := es })
    (fun _ _ => rfl) (fun _ _ _ => rfl) (fun _ => rfl)
    fun i (e : Name × Package) => addShortName_eq i e.1 e.2
  rw [extend, hpackages, hclasses, hcallables, hshort]

lemma extend_empty (a : Index) : a.extend empty = a := by
  rw [extend_eq]
  rfl

lemma extend_append (a b c : Index) : a.extend (b.append c) = (a.extend b).extend c := by
  simp only [extend_eq, append, List.foldl_append]

lemma extend_replay (a b : Index) : a.extend (empty.extend b) = a.extend b := by
  simp only [extend_eq, empty, foldl_addBy_replay]

lemma foldl_extend {α : Type} {f : Index → α → Index} {g : α → Index}
    (h : ∀ a x, f a x = a.extend (g x)) (xs : List α) (a : Index) :
    xs.foldl f a = a.extend (concat (xs.map g)) := by
  induction xs generalizing a with
  | nil => exact (extend_empty a).symm
  | cons x xs ih =>
    rw [List.foldl_cons, ih, h, ← extend_append]
    rfl

lemma recordClass_eq_extend (index : Index) (id : ClassId) :
    index.recordClass id = index.extend (ofClass id) := by
  rw [extend_eq, recordClass, addShortName_eq, addClassName, addNew_eq_addBy]
  cases h : id.isNested <;> simp [ofClass, empty, h]

lemma recordCallable_eq_extend (index : Index) (id : CallableId) :
    index.recordCallable id = index.extend (ofCallable id) := by
  rw [extend_eq, recordCallable, addCallableName, addNew_eq_addBy]
  cases h : id.isTopLevel <;> simp [ofCallable, empty, h]

lemma record_eq_extend (index : Index) (r : Registration) :
    index.record r = index.extend (mentions r) := by
  have hpackage : index.addPackage r.package = index.extend (ofPackage r.package) := by
    rw [extend_eq, addPackage, addNew_eq_addBy]
    rfl
  rw [record, foldl_extend recordCallable_eq_extend, foldl_extend recordClass_eq_extend, hpackage,
    mentions, extend_append, extend_append]

lemma foldl_record (rs : List Registration) (index : Index) :
    rs.foldl record index = index.extend (concat (rs.map mentions)) :=
  foldl_extend record_eq_extend rs index

/-- All names of `b` are known to `a`; a short name may stand for another package there. -/
structure Knows (a b : Index) : Prop where
  packages : ∀ p ∈ b.packages, id p ∈ a.packages.map id
  classNames : ∀ e ∈ b.classNames, id e ∈ a.classNames.map id
  callableNames : ∀ e ∈ b.callableNames, id e ∈ a.callableNames.map id
  shortNames : ∀ e ∈ b.shortNames, e.1 ∈ a.shortNames.map Prod.fst

namespace Knows

lemma refl (a : Index) : a.Knows a := by
  constructor <;> exact fun _ h => List.mem_map_of_mem h

lemma extend_eq {a b : Index} (h : a.Knows b) : a.extend b = a := by
  rw [Index.extend_eq, foldl_addBy_of_known h.packages, foldl_addBy_of_known h.classNames,
    foldl_addBy_of_known h.callableNames, foldl_addBy_of_known h.shortNames]

lemma extend_right (a b : Index) : (a.extend b).Knows b := by
  rw [Index.extend_eq]
  constructor <;> exact fun _ h => mem_keys_foldl_addBy.mpr (.inr (List.mem_map_of_mem h))

lemma extend {a b : Index} (h : a.Knows b) (c : Index) : (a.extend c).Knows b := by
  rw [Index.extend_eq]
  constructor
  · exact fun p hp => mem_keys_foldl_addBy.mpr (.inl (h.packages p hp))
  · exact fun e he => mem_keys_foldl_addBy.mpr (.inl (h.classNames e he))
  · exact fun e he => mem_keys_foldl_addBy.mpr (.inl (h.callableNames e he))
  · exact fun e he => mem_keys_foldl_addBy.mpr (.inl (h.shortNames e he))

end Knows

lemma knows_of_mem {rs : List Registration} {r : Registration} (h : r ∈ rs) :
    (ofHistory rs).Knows (mentions r) := by
  obtain ⟨before, after, rfl⟩ := List.append_of_mem h
  rw [ofHistory, List.foldl_append, List.foldl_cons, foldl_record after, record_eq_extend]
  exact (Knows.extend_right _ _).extend _

lemma record_of_mem {rs : List Registration} {r : Registration} (h : r ∈ rs) :
    (ofHistory rs).record r = ofHistory rs := by
  rw [record_eq_extend]
  exact (knows_of_mem h).extend_eq

lemma extend_ofHistory (xs ys : List Registration) :
    (ofHistory xs).extend (ofHistory ys) = ofHistory (xs ++ ys) := by
  calc (ofHistory xs).extend (ofHistory ys)
      = (ofHistory xs).extend (empty.extend (concat (ys.map mentions))) := by
        rw [ofHistory, ofHistory, foldl_record ys]
    _ = ys.foldl record (ofHistory xs) := by rw [extend_replay, foldl_record]
    _ = ofHistory (xs ++ ys) := by rw [ofHistory, ofHistory, List.foldl_append]

theorem history_determines (xs ys : List Registration) :
    let history := xs ++ ys
    let index := ofHistory history
    (ofHistory xs).extend (ofHistory ys) = index ∧
      (∀ n, index.packageOfShortName n =
        ((history.flatMap (·.classes)).find? (·.short == n)).map (·.package)) ∧
      (∀ package n, n ∈ index.classNamesIn package ↔
        ∃ r ∈ history, .topLevel package n ∈ r.classes) ∧
      (∀ package n, n ∈ index.callableNamesIn package ↔
        ∃ r ∈ history, .topLevel package n ∈ r.callables) ∧
      (∀ package, index.hasPackage package ↔ ∃ r ∈ history, r.package = package) ∧
      (∀ r ∈ history, index.record r = index) ∧
      index.extend index = index := by
  intro history index
  have hindex : index = history.foldl record empty := rfl
  refine ⟨extend_ofHistory xs ys, ?_, ?_, ?_, ?_, fun r hr => record_of_mem hr,
    (Knows.refl index).extend_eq⟩
  · intro n
    exact packageOfShortName_foldl history empty n
  · intro package n
    rw [classNamesIn, Name.mem_ascending, mem_namesIn, hindex,
      mem_foldl classNames (mem_classNames_record package n)]
    simp [empty]
  · intro package n
    rw [callableNamesIn, Name.mem_ascending, mem_namesIn, hindex,
      mem_foldl callableNames (mem_callableNames_record package n)]
    simp [empty]
  · intro package
    rw [hasPackage, decide_eq_true_iff, hindex, mem_foldl packages (mem_packages_record package)]
    simp [empty]

def sharedName : List Registration :=
  [⟨.kotlin, [⟨.kotlin, .array, .set⟩], [.topLevel .kotlin .plus]⟩,
   ⟨.kotlinCollections, [.topLevel .kotlinCollections .set], []⟩]

theorem history_determines_sharedName :
    let index := ofHistory (sharedName ++ sharedName.reverse)
    (ofHistory sharedName).extend (ofHistory sharedName.reverse) = index ∧
      index.packageOfShortName .set = some .kotlin ∧
      .set ∉ index.classNamesIn .kotlin ∧ .set ∈ index.classNamesIn .kotlinCollections ∧
      ∀ r ∈ sharedName, index.record r = index := by
  intro index
  obtain ⟨hextend, hshort, hclasses, -, -, hrecord, -⟩ :=
    history_determines sharedName sharedName.reverse
  refine ⟨hextend, ?_, ?_, ?_, fun r hr => hrecord r (List.mem_append_left _ hr)⟩
  · rw [hshort]
    rfl
  · rw [hclasses]
    decide
  · rw [hclasses]
    decide

end Index

end ClrCompiler
