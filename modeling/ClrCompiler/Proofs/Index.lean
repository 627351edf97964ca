import ClrCompiler.Index
import Mathlib.Data.List.Basic

/-! The name sets of an index are the names its registrations publish. -/

namespace ClrCompiler

lemma foldl_unchanged {σ α β : Type} {f : σ → α → σ} (g : σ → β) (h : ∀ s a, g (f s a) = g s)
    (xs : List α) (s : σ) : g (xs.foldl f s) = g s := by
  induction xs generalizing s with
  | nil => rfl
  | cons x xs ih => rw [List.foldl_cons, ih, h]

lemma mem_foldl {σ α β : Type} {f : σ → α → σ} (g : σ → List β) {b : β} {Q : α → Prop}
    (h : ∀ s a, b ∈ g (f s a) ↔ b ∈ g s ∨ Q a) (xs : List α) (s : σ) :
    b ∈ g (xs.foldl f s) ↔ b ∈ g s ∨ ∃ a ∈ xs, Q a := by
  induction xs generalizing s with
  | nil => simp
  | cons x xs ih =>
    rw [List.foldl_cons, ih, h, or_assoc]
    simp

lemma Name.mem_insertAscending (m n : Name) (names : List Name) :
    m ∈ insertAscending n names ↔ m = n ∨ m ∈ names := by
  induction names with
  | nil => simp [insertAscending]
  | cons k rest ih =>
    simp only [insertAscending]
    split
    · simp
    · split
      · rename_i he
        subst he
        simp
      · simp only [List.mem_cons, ih]
        exact or_left_comm

lemma Name.mem_ascending {m : Name} {names : List Name} : m ∈ ascending names ↔ m ∈ names := by
  induction names with
  | nil => rfl
  | cons n names ih =>
    have hstep : ascending (n :: names) = insertAscending n (ascending names) := rfl
    rw [hstep, mem_insertAscending, ih, List.mem_cons]

lemma Name.pairwise_insertAscending {names : List Name} (n : Name)
    (h : names.Pairwise fun a b => a.raw < b.raw) :
    (insertAscending n names).Pairwise fun a b => a.raw < b.raw := by
  induction names with
  | nil => exact List.pairwise_singleton _ _
  | cons m rest ih =>
    obtain ⟨hm, hrest⟩ := List.pairwise_cons.mp h
    simp only [insertAscending]
    split <;> rename_i hlt
    · refine List.pairwise_cons.mpr ⟨fun k hk => ?_, h⟩
      rcases List.mem_cons.mp hk with rfl | hk
      · exact hlt
      · exact Nat.lt_trans hlt (hm k hk)
    · split <;> rename_i hne
      · exact h
      · refine List.pairwise_cons.mpr ⟨fun k hk => ?_, ih hrest⟩
        rcases (mem_insertAscending k n rest).mp hk with rfl | hk
        · have hraw : k.raw ≠ m.raw := fun he => hne (by cases k; cases m; exact congrArg Name.mk he)
          omega
        · exact hm k hk

lemma Name.pairwise_ascending (names : List Name) :
    (ascending names).Pairwise fun a b => a.raw < b.raw := by
  induction names with
  | nil => exact List.Pairwise.nil
  | cons n names ih => exact pairwise_insertAscending n ih

lemma Name.nodup_ascending (names : List Name) : (ascending names).Nodup := by
  refine (pairwise_ascending names).imp ?_
  rintro a _ hlt rfl
  exact Nat.lt_irrefl _ hlt

lemma mem_addNew {α : Type} [DecidableEq α] {xs : List α} {x y : α} :
    y ∈ addNew xs x ↔ y ∈ xs ∨ y = x := by
  simp only [addNew]
  split
  · rename_i hx
    constructor
    · exact Or.inl
    · rintro (hy | rfl)
      · exact hy
      · exact hx
  · simp

namespace Index

lemma mem_namesIn {entries : List (Package × Name)} {package : Package} {name : Name} :
    name ∈ namesIn entries package ↔ (package, name) ∈ entries := by
  simp only [namesIn, List.mem_map, List.mem_filter, beq_iff_eq]
  constructor
  · rintro ⟨⟨p, n⟩, ⟨hmem, rfl⟩, rfl⟩
    exact hmem
  · exact fun hmem => ⟨(package, name), ⟨hmem, rfl⟩, rfl⟩

lemma classNames_addShortName (index : Index) (name : Name) (package : Package) :
    (index.addShortName name package).classNames = index.classNames := by
  simp only [addShortName]
  split <;> rfl

lemma mem_classNames_recordClass (package : Package) (name : Name) (index : Index) (id : ClassId) :
    (package, name) ∈ (index.recordClass id).classNames ↔
      (package, name) ∈ index.classNames ∨ id = .topLevel package name := by
  cases hid : id.isNested with
  | true =>
    have hne : id ≠ .topLevel package name := by
      rintro rfl
      simp [ClassId.topLevel, ClassId.isNested] at hid
    simp [recordClass, hid, hne, classNames_addShortName]
  | false =>
    have hshort : id.relative = id.short := by simpa [ClassId.isNested] using hid
    cases id
    simp only at hshort
    subst hshort
    simp [recordClass, ClassId.isNested, addClassName, mem_addNew, classNames_addShortName,
      ClassId.topLevel, eq_comm]

lemma mem_callableNames_recordCallable (package : Package) (name : Name) (index : Index)
    (id : CallableId) :
    (package, name) ∈ (index.recordCallable id).callableNames ↔
      (package, name) ∈ index.callableNames ∨ id = .topLevel package name := by
  obtain ⟨p, owner, n⟩ := id
  cases owner with
  | some owner => simp [recordCallable, CallableId.isTopLevel, CallableId.topLevel]
  | none =>
    simp [recordCallable, CallableId.isTopLevel, CallableId.topLevel, addCallableName, mem_addNew,
      eq_comm]

lemma packages_recordClass (index : Index) (id : ClassId) :
    (index.recordClass id).packages = index.packages := by
  simp only [recordClass, addShortName]
  split <;> split <;> rfl

lemma callableNames_recordClass (index : Index) (id : ClassId) :
    (index.recordClass id).callableNames = index.callableNames := by
  simp only [recordClass, addShortName]
  split <;> split <;> rfl

lemma packages_recordCallable (index : Index) (id : CallableId) :
    (index.recordCallable id).packages = index.packages := by
  simp only [recordCallable]
  split <;> rfl

lemma classNames_recordCallable (index : Index) (id : CallableId) :
    (index.recordCallable id).classNames = index.classNames := by
  simp only [recordCallable]
  split <;> rfl

lemma mem_packages_record (package : Package) (index : Index) (r : Registration) :
    package ∈ (index.record r).packages ↔ package ∈ index.packages ∨ r.package = package := by
  rw [record, foldl_unchanged packages packages_recordCallable,
    foldl_unchanged packages packages_recordClass]
  simp only [addPackage, mem_addNew, eq_comm]

lemma mem_classNames_record (package : Package) (name : Name) (index : Index) (r : Registration) :
    (package, name) ∈ (index.record r).classNames ↔
      (package, name) ∈ index.classNames ∨ .topLevel package name ∈ r.classes := by
  rw [record, foldl_unchanged classNames classNames_recordCallable,
    mem_foldl classNames (mem_classNames_recordClass package name)]
  simp [addPackage]

lemma mem_callableNames_record (package : Package) (name : Name) (index : Index)
    (r : Registration) :
    (package, name) ∈ (index.record r).callableNames ↔
      (package, name) ∈ index.callableNames ∨ .topLevel package name ∈ r.callables := by
  rw [record, mem_foldl callableNames (mem_callableNames_recordCallable package name),
    foldl_unchanged callableNames callableNames_recordClass]
  simp [addPackage]

lemma packageOfShortName_addShortName (index : Index) (name : Name) (package : Package) (n : Name) :
    (index.addShortName name package).packageOfShortName n =
      (index.packageOfShortName n).or (if name = n then some package else none) := by
  simp only [addShortName]
  cases hknown : index.packageOfShortName name with
  | some p =>
    by_cases hn : name = n
    · subst hn
      simp [hknown]
    · simp [hn]
  | none =>
    simp only [packageOfShortName, List.lookup_append]
    by_cases hn : name = n
    · simp [hn]
    · have hne : (n == name) = false := beq_false_of_ne (Ne.symm hn)
      simp [hn, List.lookup_cons, hne]

lemma packageOfShortName_recordClass (index : Index) (id : ClassId) (n : Name) :
    (index.recordClass id).packageOfShortName n =
      (index.packageOfShortName n).or (if id.short = n then some id.package else none) := by
  rw [← packageOfShortName_addShortName, recordClass]
  split <;> rfl

lemma packageOfShortName_record (index : Index) (r : Registration) (n : Name) :
    (index.record r).packageOfShortName n =
      (index.packageOfShortName n).or ((r.classes.find? (·.short == n)).map (·.package)) := by
  have hcallables (index : Index) (ids : List CallableId) :
      (ids.foldl recordCallable index).packageOfShortName n = index.packageOfShortName n := by
    apply foldl_unchanged (packageOfShortName · n)
    intro index id
    rw [recordCallable]
    split <;> rfl
  have hclasses (index : Index) (ids : List ClassId) :
      (ids.foldl recordClass index).packageOfShortName n =
        (index.packageOfShortName n).or ((ids.find? (·.short == n)).map (·.package)) := by
    induction ids generalizing index with
    | nil => simp
    | cons id ids ih =>
      rw [List.foldl_cons, ih, packageOfShortName_recordClass, Option.or_assoc]
      by_cases hn : id.short = n <;> simp [hn]
  rw [record, hcallables, hclasses]
  rfl

lemma packageOfShortName_foldl (rs : List Registration) (index : Index) (n : Name) :
    (rs.foldl record index).packageOfShortName n =
      (index.packageOfShortName n).or
        (((rs.flatMap (·.classes)).find? (·.short == n)).map (·.package)) := by
  induction rs generalizing index with
  | nil => simp
  | cons r rs ih =>
    rw [List.foldl_cons, ih, packageOfShortName_record, List.flatMap_cons, List.find?_append,
      Option.or_assoc]
    cases r.classes.find? (·.short == n) <;> rfl

end Index

end ClrCompiler
