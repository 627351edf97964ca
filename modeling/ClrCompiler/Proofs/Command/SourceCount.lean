import ClrCompiler.Proofs.Command.Check
import Mathlib.Data.Set.Card

/-! The number of source files a check reports. A path is counted for every root above it, so that
roots which overlap make the number larger than the number of paths. -/

namespace ClrCompiler.Command

open ClrCompiler.Command.Action Output

/-- The paths of the source files below some root, where spellings of one path are the same. -/
def sourcePaths (disk : Disk) (roots : List String) : Set (List Path.Component) :=
  {path | ∃ root ∈ roots, ∃ p, disk.HoldsFile root p ∧ isSource p ∧ Path.components p = path}

/-- No source path lies below two of the roots, or below a root that is given twice. -/
def Apart (disk : Disk) (roots : List String) : Prop :=
  roots.Pairwise fun a b => ∀ p, HoldsSource disk a p → ¬ HoldsSource disk b p

lemma ncard_setOf_mem {α : Type} [DecidableEq α] (l : List α) :
    {a | a ∈ l}.ncard = l.toFinset.card := by
  rw [← Set.ncard_coe_finset, List.coe_toFinset]

lemma length_eq_ncard_iff {α : Type} (l : List α) : l.length = {a | a ∈ l}.ncard ↔ l.Nodup := by
  classical
  rw [ncard_setOf_mem, eq_comm]
  exact Multiset.toFinset_card_eq_card_iff_nodup (m := ⟦l⟧)

section

variable {o : Options} {disk : Disk} {roots : List String} {w v : World} {summary : Summary}
  {ds : Diagnostics}

def listedPaths (disk : Disk) (roots : List String) : List (List Path.Component) :=
  roots.flatMap fun root => (sourcesIn disk root).map Path.components

lemma sourcePaths_eq (disk : Disk) (roots : List String) :
    sourcePaths disk roots = {path | path ∈ listedPaths disk roots} := by
  ext path
  simp only [sourcePaths, listedPaths, Set.mem_ofPred_eq, List.mem_flatMap, List.mem_map,
    mem_sourcesIn, and_assoc]

lemma apart_iff : Apart disk roots ↔
    roots.Pairwise fun a b => ∀ p ∈ sourcesIn disk a, ¬ HoldsSource disk b p := by
  refine List.Pairwise.iff_of_mem fun {a b} _ _ => ⟨fun h p hp => ?_, fun h p hp hb => ?_⟩
  · exact h p (holdsSource_iff.mpr ⟨p, hp, rfl⟩)
  · obtain ⟨q, hq, hqp⟩ := holdsSource_iff.mp hp
    obtain ⟨r, hr, hrp⟩ := holdsSource_iff.mp hb
    exact h q hq (holdsSource_iff.mpr ⟨r, hr, hrp.trans hqp.symm⟩)

instance : Decidable (Apart disk roots) := decidable_of_iff _ apart_iff.symm

lemma nodup_listedPaths_iff (hdisk : disk.root.Proper)
    (hroots : ∀ root ∈ roots, disk.isDirectory root) :
    (listedPaths disk roots).Nodup ↔ Apart disk roots := by
  have hnodup : ∀ root ∈ roots, ((sourcesIn disk root).map Path.components).Nodup :=
    fun root hroot => nodup_sourcesIn hdisk (hroots root hroot)
  rw [listedPaths, List.nodup_flatMap, and_iff_right hnodup, apart_iff]
  refine List.Pairwise.iff_of_mem fun {a b} _ _ => ?_
  rw [Function.onFun, List.disjoint_left, List.forall_mem_map]
  simp only [holdsSource_iff, List.mem_map]

lemma components_collected_perm (disk : Disk) (roots : List String) :
    (((roots.reverse.flatMap (sourcesIn disk)).mergeSort Path.notAfter).map Path.components).Perm
      (listedPaths disk roots) := by
  rw [listedPaths, ← List.map_flatMap]
  exact (collected_perm disk roots).map _

lemma length_listedPaths (hdisk : disk.root.Proper)
    (hroots : ∀ root ∈ roots, disk.isDirectory root) :
    (listedPaths disk roots).length =
      (roots.map fun root => (sourcePaths disk [root]).ncard).sum := by
  rw [listedPaths, List.length_flatMap]
  refine congrArg List.sum (List.map_congr_left fun root hroot => ?_)
  rw [sourcePaths_eq, listedPaths, List.flatMap_singleton]
  exact (length_eq_ncard_iff _).mpr (nodup_sourcesIn hdisk (hroots root hroot))

lemma check_counts (h : exec (check o .empty) w = (.ok (some summary, ds), v)) :
    (∀ root ∈ o.sourceRoots, w.disk.isDirectory root) ∧
      summary.sources = (listedPaths w.disk o.sourceRoots).length := by
  obtain ⟨sources, hsources, hinputs⟩ := readInputs_ok o w.disk
  have hnone : problems o w.disk = [] := by
    by_contra hsome
    rw [exec_check_of_errors hinputs (hasErrors_problems.mpr hsome)] at h
    cases h
  have hroots := (problems_eq_nil_iff.mp hnone).1
  refine ⟨hroots, ?_⟩
  rw [exec_check_of_no_errors hinputs fun hsome => hasErrors_problems.mp hsome hnone] at h
  rw [List.filter_eq_self.mpr hroots, collectSources_eq hroots] at hsources
  cases hsources
  cases conclude_gives h
  rw [← (components_collected_perm w.disk o.sourceRoots).length_eq, List.length_map]

end

theorem sources_counted_once_iff (disk : Disk) (hdisk : disk.root.Proper) :
    (∀ roots, (∀ root ∈ roots, disk.isDirectory root) →
      ∃ sources, collectSources disk roots = .ok sources ∧
        ((sources.map Path.components).Nodup ↔ Apart disk roots)) ∧
    ∀ o out summary ds v, exec (check o .empty) ⟨disk, out⟩ = (.ok (some summary, ds), v) →
      summary.sources = (o.sourceRoots.map fun root => (sourcePaths disk [root]).ncard).sum ∧
      (summary.sources = (sourcePaths disk o.sourceRoots).ncard ↔ Apart disk o.sourceRoots) := by
  refine ⟨fun roots hroots => ⟨_, collectSources_eq hroots, ?_⟩,
    fun o out summary ds v hrun => ?_⟩
  · rw [(components_collected_perm disk roots).nodup_iff]
    exact nodup_listedPaths_iff hdisk hroots
  · obtain ⟨hroots, hcount⟩ := check_counts hrun
    refine ⟨hcount.trans (length_listedPaths hdisk hroots), ?_⟩
    rw [hcount, sourcePaths_eq, length_eq_ncard_iff]
    exact nodup_listedPaths_iff hdisk hroots

def rootsOnly (roots : List String) : Options := { Options.standard with sourceRoots := roots }

lemma exec_check_rootsOnly (disk : Disk) (roots : List String)
    (hroots : ∀ root ∈ roots, disk.isDirectory root) (hsource : HasSource disk roots) :
    ∃ summary v, exec (check (rootsOnly roots) .empty) ⟨disk, .unlimited⟩ =
      (.ok (some summary, .empty), v) := by
  have hnone : problems (rootsOnly roots) disk = [] :=
    problems_eq_nil_iff.mpr ⟨hroots, hsource, by simp [rootsOnly, Options.standard]⟩
  obtain ⟨inputs, -, hnil, hconclude⟩ :=
    exec_check_of_not_stops (w := ⟨disk, .unlimited⟩) fun h => h.problems_ne_nil hnone
  rw [hconclude]
  obtain ⟨⟨library, unresolved⟩, names⟩ :=
    (resolveModule inputs.assemblies (rootsOnly roots).implicitPackages).run .new
  have hdelivered : Delivered (rootsOnly roots).outputDirectory
      (Listing.text names library.registry) disk disk := rfl
  rw [conclude, hnil]
  exact ⟨_, _, (exec_bind_ok (exec_deliver hdelivered)).trans
    (exec_bind_ok (exec_useOut (Sink.takesAll_unlimited.writeAll_eq _)))⟩

theorem sources_counted_once_iff_sourceTree :
    sourceTree.root.Proper ∧ Apart sourceTree ["src", "test"] ∧
      (∃ sources, collectSources sourceTree ["src", "test"] = .ok sources ∧
        (sources.map Path.components).Nodup) ∧
      ∃ summary v, exec (check (rootsOnly ["src", "test"]) .empty) ⟨sourceTree, .unlimited⟩ =
          (.ok (some summary, .empty), v) ∧
        summary.sources = (sourcePaths sourceTree ["src", "test"]).ncard := by
  have htree : sourceTree.root.Proper := by decide
  have hapart : Apart sourceTree ["src", "test"] := by decide
  have hroots : ∀ root ∈ ["src", "test"], sourceTree.isDirectory root := by decide
  obtain ⟨summary, v, hrun⟩ := exec_check_rootsOnly sourceTree ["src", "test"] hroots (by decide)
  obtain ⟨hcollect, hcheck⟩ := sources_counted_once_iff sourceTree htree
  obtain ⟨sources, hsources, hnodup⟩ := hcollect _ hroots
  obtain ⟨-, hcount⟩ := hcheck _ _ _ _ _ hrun
  exact ⟨htree, hapart, ⟨sources, hsources, hnodup.mpr hapart⟩, summary, v, hrun,
    hcount.mpr hapart⟩

theorem source_counted_twice :
    (∃ sources, collectSources sourceTree ["src", "src/a"] = .ok sources ∧
      sources.count "src/a/c.kt" = 2) ∧
    ∃ summary v, exec (check (rootsOnly ["src", "src/a"]) .empty) ⟨sourceTree, .unlimited⟩ =
        (.ok (some summary, .empty), v) ∧
      summary.sources = 3 ∧ (sourcePaths sourceTree ["src", "src/a"]).ncard = 2 := by
  have hroots : ∀ root ∈ ["src", "src/a"], sourceTree.isDirectory root := by decide
  obtain ⟨summary, v, hrun⟩ := exec_check_rootsOnly sourceTree ["src", "src/a"] hroots (by decide)
  refine ⟨⟨_, collectSources_eq hroots, ?_⟩, summary, v, hrun,
    (check_counts hrun).2.trans (by decide), ?_⟩
  · rw [(collected_perm sourceTree _).count_eq]
    decide
  · rw [sourcePaths_eq, ncard_setOf_mem]
    decide

end ClrCompiler.Command
