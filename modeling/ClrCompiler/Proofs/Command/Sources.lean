import ClrCompiler.Command.Check
import ClrCompiler.Proofs.FileTree
import Mathlib.Algebra.BigOperators.Group.List.Basic

/-! The search for source files. Directories are visited from a stack on which their subdirectories
are put in turn, in whatever order they are listed. Every directory is visited once for each root it
lies below, then the search is over; and what it has found is, once sorted, the same each time. -/

namespace ClrCompiler.Command

def sourcesIn (disk : Disk) (root : String) : List String :=
  ((disk.pathsBelow root).toOption.getD []).filter isSource

section

variable {disk : Disk} {root path : String} {roots : List String}

lemma mem_sourcesIn {p : String} :
    p ∈ sourcesIn disk root ↔ disk.HoldsFile root p ∧ isSource p := by
  rw [sourcesIn, List.mem_filter, Disk.holdsFile_iff_mem]

lemma sourcesBelow_of_isDirectory (h : disk.isDirectory root) :
    sourcesBelow disk root = .ok (sourcesIn disk root) := by
  obtain ⟨paths, hpaths⟩ := Disk.isDirectory_iff.mp h
  rw [sourcesBelow, sourcesIn, hpaths]
  rfl

lemma mapM_sourcesBelow (h : ∀ root ∈ roots, disk.isDirectory root) :
    roots.mapM (sourcesBelow disk) = .ok (roots.map (sourcesIn disk)) := by
  induction roots with
  | nil => rfl
  | cons root roots ih =>
    obtain ⟨hroot, hroots⟩ := List.forall_mem_cons.mp h
    rw [List.mapM_cons, sourcesBelow_of_isDirectory hroot, ih hroots]
    rfl

lemma collectSources_eq (h : ∀ root ∈ roots, disk.isDirectory root) :
    collectSources disk roots =
      .ok ((roots.reverse.flatMap (sourcesIn disk)).mergeSort Path.notAfter) := by
  rw [collectSources, mapM_sourcesBelow fun root hroot => h root (List.mem_reverse.mp hroot)]
  rfl

lemma collected_perm (disk : Disk) (roots : List String) :
    ((roots.reverse.flatMap (sourcesIn disk)).mergeSort Path.notAfter).Perm
      (roots.flatMap (sourcesIn disk)) :=
  (List.mergeSort_perm _ _).trans ((List.reverse_perm roots).flatMap_right _)

lemma sourcesIn_of_entry {entries : List (String × Entry)}
    (h : disk.entry path = .ok (.directory entries)) :
    sourcesIn disk path = (Entry.pathsIn path entries).filter isSource := by
  rw [sourcesIn, Disk.pathsBelow, h]
  rfl

lemma isDirectory_of_entry {e : Entry} (h : disk.entry path = .ok e) :
    disk.isDirectory path = e.isDirectory := by
  rw [Disk.isDirectory, h]

lemma exists_entry_of_isDirectory (h : disk.isDirectory path) :
    ∃ entries, disk.entry path = .ok (.directory entries) := by
  rw [Disk.isDirectory] at h
  split at h
  · rename_i e he
    cases e with
    | file content => cases h
    | directory entries => exact ⟨entries, he⟩
  · cases h

lemma nodup_sourcesIn (hdisk : disk.root.Proper) (h : disk.isDirectory path) :
    ((sourcesIn disk path).map Path.components).Nodup := by
  obtain ⟨entries, he⟩ := exists_entry_of_isDirectory h
  have hpath := Disk.ne_empty_of_entry he
  have hnodup := Entry.nodup_pathsBelow _ path (Disk.proper_entry hdisk he) hpath
  rw [Entry.pathsBelow] at hnodup
  rw [sourcesIn_of_entry he]
  exact hnodup.sublist (List.filter_sublist.map _)

def sourcesAt (disk : Disk) (path : String) : List String :=
  if disk.isDirectory path then sourcesIn disk path else [path].filter isSource

lemma sourcesAt_of_entry {e : Entry} (h : disk.entry path = .ok e) :
    sourcesAt disk path = (e.pathsBelow path).filter isSource := by
  rw [sourcesAt, isDirectory_of_entry h]
  cases e with
  | file content => rfl
  | directory entries => exact sourcesIn_of_entry h

def directoriesAt (disk : Disk) (path : String) : Nat :=
  match disk.entry path with
  | .ok e => e.directoryCount
  | .error _ => 0

lemma directoriesAt_of_entry {e : Entry} (h : disk.entry path = .ok e) :
    directoriesAt disk path = e.directoryCount := by
  rw [directoriesAt, h]

lemma directoriesAt_pos (h : disk.isDirectory path) : 0 < directoriesAt disk path := by
  obtain ⟨entries, he⟩ := exists_entry_of_isDirectory h
  rw [directoriesAt_of_entry he, Entry.directoryCount]
  omega

lemma directoriesAt_of_not_isDirectory (h : disk.isDirectory path = false) :
    directoriesAt disk path = 0 := by
  rw [directoriesAt]
  split
  · rename_i e he
    cases e with
    | file content => rfl
    | directory entries =>
      rw [isDirectory_of_entry he] at h
      cases h
  · rfl

section

variable {entries : List (String × Entry)} (hdisk : disk.root.Proper)
  (h : disk.entry path = .ok (.directory entries))
include hdisk h

lemma entry_of_mem {x : String × Entry} (hx : x ∈ entries) :
    disk.entry (Path.join path x.1) = .ok x.2 := by
  cases Disk.proper_entry hdisk h with
  | directory names distinct inside =>
    exact Disk.entry_join h (names x hx) (lookup_eq_some_iff_mem distinct |>.mpr hx)

lemma sourcesIn_eq_flatMap :
    sourcesIn disk path =
      (entries.map Prod.fst).flatMap fun name => sourcesAt disk (Path.join path name) := by
  rw [sourcesIn_of_entry h, Entry.pathsIn_eq, List.filter_flatMap, List.flatMap_map]
  exact List.flatMap_congr fun x hx => (sourcesAt_of_entry (entry_of_mem hdisk h hx)).symm

lemma directoriesAt_eq_sum :
    directoriesAt disk path =
      ((entries.map Prod.fst).map fun name =>
        directoriesAt disk (Path.join path name)).sum + 1 := by
  rw [directoriesAt_of_entry h, Entry.directoryCount, Entry.directoryCountIn_eq, List.map_map]
  refine congrArg (List.sum · + 1) (List.map_congr_left fun x hx => ?_)
  exact (directoriesAt_of_entry (entry_of_mem hdisk h hx)).symm

end

end

structure Search where
  pending : List String
  found : List String

namespace Search

def meet (disk : Disk) (directory : String) (s : Search) (name : String) : Search :=
  let path := Path.join directory name
  if disk.isDirectory path then { s with pending := s.pending ++ [path] }
  else if isSource path then { s with found := s.found ++ [path] }
  else s

/-- A visit to the last pending directory, whose entries are listed in any order. -/
inductive Round (disk : Disk) : Search → Search → Prop
  | visit {pending found names : List String} {directory : String}
      {entries : List (String × Entry)} (read : disk.entry directory = .ok (.directory entries))
      (listed : names.Perm (entries.map Prod.fst)) :
      Round disk ⟨pending ++ [directory], found⟩
        (names.foldl (meet disk directory) ⟨pending, found⟩)

inductive Run (disk : Disk) (start : Search) : Nat → Search → Prop
  | start : Run disk start 0 start
  | round {rounds : Nat} {s t : Search} (before : Run disk start rounds s) (next : Round disk s t) :
      Run disk start (rounds + 1) t

def outcome (disk : Disk) (s : Search) : List String :=
  s.found ++ s.pending.reverse.flatMap (sourcesIn disk)

def remaining (disk : Disk) (s : Search) : Nat := (s.pending.map (directoriesAt disk)).sum

def Sound (disk : Disk) (s : Search) : Prop := ∀ path ∈ s.pending, disk.isDirectory path

variable {disk : Disk} {s t : Search}

lemma foldl_meet (disk : Disk) (directory : String) (names pending found : List String) :
    ∃ directories files,
      names.foldl (meet disk directory) ⟨pending, found⟩ =
        ⟨pending ++ directories, found ++ files⟩ ∧
      (∀ path ∈ directories, disk.isDirectory path) ∧
      (files ++ directories.reverse.flatMap (sourcesIn disk)).Perm
        (names.flatMap fun name => sourcesAt disk (Path.join directory name)) ∧
      (directories.map (directoriesAt disk)).sum =
        (names.map fun name => directoriesAt disk (Path.join directory name)).sum := by
  induction names generalizing pending found with
  | nil => exact ⟨[], [], by simp, by simp, by simp, rfl⟩
  | cons name names ih =>
    rw [List.foldl_cons, List.flatMap_cons, List.map_cons, List.sum_cons, sourcesAt, meet]
    generalize Path.join directory name = path
    cases hpath : disk.isDirectory path with
    | true =>
      obtain ⟨directories, files, hfold, hall, hperm, hsum⟩ := ih (pending ++ [path]) found
      refine ⟨path :: directories, files, by simpa using hfold,
        List.forall_mem_cons.mpr ⟨hpath, hall⟩, ?_, ?_⟩
      · rw [List.reverse_cons, List.flatMap_append, List.flatMap_singleton, ← List.append_assoc]
        exact List.perm_append_comm.trans (hperm.append_left _)
      · rw [List.map_cons, List.sum_cons, hsum]
    | false =>
      rw [directoriesAt_of_not_isDirectory hpath, Nat.zero_add]
      cases hsource : isSource path with
      | true =>
        obtain ⟨directories, files, hfold, hall, hperm, hsum⟩ := ih pending (found ++ [path])
        refine ⟨directories, path :: files, by simpa using hfold, hall, ?_, hsum⟩
        simpa [hsource] using hperm
      | false =>
        obtain ⟨directories, files, hfold, hall, hperm, hsum⟩ := ih pending found
        exact ⟨directories, files, hfold, hall, by simpa [hsource] using hperm, hsum⟩

lemma Round.keeps (hdisk : disk.root.Proper) (h : Round disk s t) (hs : s.Sound disk) :
    t.Sound disk ∧ s.remaining disk = t.remaining disk + 1 ∧
      SameByKey Path.components (t.outcome disk) (s.outcome disk) := by
  cases h with
  | @visit pending found names directory entries read listed =>
    obtain ⟨directories, files, hfold, hall, hperm, hsum⟩ :=
      foldl_meet disk directory names pending found
    have hdirectory : disk.isDirectory directory := hs directory (by simp)
    rw [hfold]
    refine ⟨fun path hpath => ?_, ?_, ?_⟩
    · rcases List.mem_append.mp hpath with hpath | hpath
      · exact hs path (List.mem_append_left _ hpath)
      · exact hall path hpath
    · have hlisted := (listed.map fun name => directoriesAt disk (Path.join directory name)).sum_eq
      simp only [remaining, List.map_append, List.sum_append, List.map_singleton,
        List.sum_singleton, hsum, hlisted, directoriesAt_eq_sum hdisk read]
      omega
    · -- the directory makes room for its files and for its subdirectories, in another order
      have hblock : SameByKey Path.components
          (files ++ directories.reverse.flatMap (sourcesIn disk)) (sourcesIn disk directory) := by
        refine sameByKey_of_perm (hperm.trans ?_) (nodup_sourcesIn hdisk hdirectory)
        rw [sourcesIn_eq_flatMap hdisk read]
        exact listed.flatMap_right _
      have hboth := hblock.append_both found (pending.reverse.flatMap (sourcesIn disk))
      simpa [outcome, List.append_assoc] using hboth

lemma Sound.exists_round (hs : s.Sound disk) (hpending : s.pending ≠ []) :
    ∃ t, Round disk s t := by
  obtain ⟨pending, found⟩ := s
  obtain ⟨before, directory, rfl⟩ := List.eq_nil_or_concat pending |>.resolve_left hpending
  obtain ⟨entries, read⟩ := exists_entry_of_isDirectory (hs directory (by simp))
  exact ⟨_, by simpa using Round.visit read (List.Perm.refl _)⟩

lemma Run.keeps {start : Search} {rounds : Nat} (hdisk : disk.root.Proper)
    (h : Run disk start rounds s) (hstart : start.Sound disk) :
    s.Sound disk ∧ rounds + s.remaining disk = start.remaining disk ∧
      SameByKey Path.components (s.outcome disk) (start.outcome disk) := by
  induction h with
  | start => exact ⟨hstart, Nat.zero_add _, fun _ => rfl⟩
  | round before next ih =>
    obtain ⟨hsound, hrounds, hsame⟩ := ih
    obtain ⟨hsound', hremaining, hsame'⟩ := next.keeps hdisk hsound
    exact ⟨hsound', by omega, hsame'.trans hsame⟩

lemma Sound.remaining_eq_zero_iff (hs : s.Sound disk) : s.remaining disk = 0 ↔ s.pending = [] := by
  constructor
  · intro hzero
    by_contra hpending
    obtain ⟨path, hpath⟩ := List.exists_mem_of_ne_nil _ hpending
    have hpos := directoriesAt_pos (hs path hpath)
    have hnone := List.sum_eq_zero_iff_forall_eq_nat.mp hzero _ (List.mem_map_of_mem hpath)
    omega
  · intro hpending
    rw [remaining, hpending]
    rfl

end Search

/-- A source file with this path, however it is spelled, lies below a root. -/
def HoldsSource (disk : Disk) (root p : String) : Prop :=
  ∃ q, disk.HoldsFile root q ∧ isSource q ∧ Path.components q = Path.components p

section

variable {disk : Disk} {root p : String}

lemma holdsSource_iff :
    HoldsSource disk root p ↔ ∃ q ∈ sourcesIn disk root, Path.components q = Path.components p := by
  simp only [HoldsSource, mem_sourcesIn, and_assoc]

instance : Decidable (HoldsSource disk root p) :=
  decidable_of_iff _ holdsSource_iff.symm

end

lemma count_flatMap_of_nodup {α β : Type} [BEq β] [LawfulBEq β] {lists : α → List β} {as : List α}
    (h : ∀ a ∈ as, (lists a).Nodup) (b : β) :
    (as.flatMap lists).count b = as.countP fun a => b ∈ lists a := by
  induction as with
  | nil => rfl
  | cons a as ih =>
    obtain ⟨ha, has⟩ := List.forall_mem_cons.mp h
    rw [List.flatMap_cons, List.count_append, ha.count, ih has, List.countP_cons, Nat.add_comm]
    simp only [decide_eq_true_eq]

theorem collectSources_exact (disk : Disk) (hdisk : disk.root.Proper) (roots : List String)
    (hroots : ∀ root ∈ roots, disk.isDirectory root) :
    ∃ sources, collectSources disk roots = .ok sources ∧
      (∀ rounds s, Search.Run disk ⟨roots, []⟩ rounds s →
        rounds ≤ (roots.map (directoriesAt disk)).sum ∧
        (s.pending ≠ [] → ∃ t, Search.Round disk s t) ∧
        (s.pending = [] → rounds = (roots.map (directoriesAt disk)).sum ∧
          s.found.mergeSort Path.notAfter = sources)) ∧
      (sources.Pairwise fun a b => Path.notAfter a b) ∧
      (∀ p, sources.count p = roots.countP fun root => disk.HoldsFile root p ∧ isSource p) ∧
      (∀ p, (sources.map Path.components).count (Path.components p) =
        roots.countP fun root => HoldsSource disk root p) ∧
      ∀ others, others.Perm roots → ∃ again, collectSources disk others = .ok again ∧
        again.Perm sources ∧ again.map Path.components = sources.map Path.components := by
  have hnodup : ∀ root ∈ roots, ((sourcesIn disk root).map Path.components).Nodup :=
    fun root hroot => nodup_sourcesIn hdisk (hroots root hroot)
  refine ⟨_, collectSources_eq hroots, fun rounds s hrun => ?_, Path.sorted_mergeSort _,
    fun p => ?_, fun p => ?_, fun others hothers => ?_⟩
  · obtain ⟨hsound, hrounds, hsame⟩ := hrun.keeps hdisk hroots
    change rounds + s.remaining disk = (roots.map (directoriesAt disk)).sum at hrounds
    refine ⟨by omega, hsound.exists_round, fun hpending => ⟨?_, Path.mergeSort_notAfter_eq ?_⟩⟩
    · have hzero := hsound.remaining_eq_zero_iff.mpr hpending
      omega
    · simpa [Search.outcome, hpending] using hsame
  · rw [(collected_perm disk roots).count_eq,
      count_flatMap_of_nodup fun root hroot => (hnodup root hroot).of_map]
    exact List.countP_congr fun root _ => by simp only [mem_sourcesIn]
  · rw [((collected_perm disk roots).map _).count_eq, List.map_flatMap,
      count_flatMap_of_nodup hnodup]
    exact List.countP_congr fun root _ => by simp only [holdsSource_iff, List.mem_map]
  · have hagain := collectSources_eq fun root hroot => hroots root (hothers.mem_iff.mp hroot)
    have hreverse : others.reverse.Perm roots.reverse :=
      ((List.reverse_perm others).trans hothers).trans (List.reverse_perm roots).symm
    exact ⟨_, hagain,
      ((collected_perm disk others).trans (hothers.flatMap_right _)).trans
        (collected_perm disk roots).symm,
      Path.components_mergeSort_eq (hreverse.flatMap_right _)⟩

def sourceTree : Disk where
  root := .directory
    [("src", .directory [("b.kt", .file .empty),
      ("a", .directory [("c.kt", .file .empty), ("readme.md", .file .empty)])]),
     ("test", .directory [("d.kt", .file .empty)])]
  working := []

def nestedRoots : List String := ["src", "src/a", "src//"]

theorem collectSources_exact_nestedRoots :
    sourceTree.root.Proper ∧ (∀ root ∈ nestedRoots, sourceTree.isDirectory root) ∧
      ∃ sources, collectSources sourceTree nestedRoots = .ok sources ∧
        sources.count "src/a/c.kt" = 2 ∧
        (sources.map Path.components).count (Path.components "src/a/c.kt") = 3 := by
  have htree : sourceTree.root.Proper := by decide
  have hroots : ∀ root ∈ nestedRoots, sourceTree.isDirectory root := by decide
  obtain ⟨sources, hsources, -, -, hcount, hpath, -⟩ :=
    collectSources_exact sourceTree htree nestedRoots hroots
  exact ⟨htree, hroots, sources, hsources, (hcount _).trans (by decide),
    (hpath _).trans (by decide)⟩

end ClrCompiler.Command
