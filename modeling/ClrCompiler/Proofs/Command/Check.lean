import ClrCompiler.Command.Check
import ClrCompiler.Proofs.Command.Action
import ClrCompiler.Proofs.Command.Sources
import ClrCompiler.Proofs.Library.Lookup
import ClrCompiler.Proofs.Metadata.RoundTrip
import ClrCompiler.Proofs.RegistryHistory

/-! The check command: bad inputs are reported all at once and leave the disk and the stream as they
were, good inputs are counted and listed. -/

namespace ClrCompiler

lemma Diagnostics.hasErrors_iff {ds : Diagnostics} :
    ds.hasErrors ↔ ∃ d ∈ ds.items, d.severity = .error := by
  simp [hasErrors, errorCount, List.countP_pos_iff]

namespace Command

open ClrCompiler.Command.Action Output

def HasSource (disk : Disk) (roots : List String) : Prop :=
  ∃ root ∈ roots, ∃ p, disk.HoldsFile root p ∧ isSource p

inductive Stops (o : Options) (disk : Disk) : Prop where
  | missingRoot {root : String} (given : root ∈ o.sourceRoots)
      (missing : disk.isDirectory root = false)
  | noSources (absent : ¬ HasSource disk o.sourceRoots)
  | unreadable {path : String} {fault : Fault} (given : path ∈ o.assemblies)
      (failed : disk.readText path = .error fault)
  | invalid {path text : String} {error : Json.Error} (given : path ∈ o.assemblies)
      (read : disk.readText path = .ok text) (failed : Metadata.Assembly.parse text = .error error)

def assemblyProblem (disk : Disk) (path : String) : Option Error :=
  match disk.readText path with
  | .error fault => some (.read path fault)
  | .ok text =>
    match Metadata.Assembly.parse text with
    | .error error => some (.json path error)
    | .ok _ => none

lemma hasSource_iff {disk : Disk} {roots : List String} :
    HasSource disk roots ↔
      ∃ root ∈ roots, ∃ p ∈ (disk.pathsBelow root).toOption.getD [], isSource p := by
  simp only [HasSource, Disk.holdsFile_iff_mem]

instance (disk : Disk) (roots : List String) : Decidable (HasSource disk roots) :=
  decidable_of_iff _ hasSource_iff.symm

def problems (o : Options) (disk : Disk) : List Diagnostic :=
  (o.sourceRoots.filter (!disk.isDirectory ·)).map missingRoot ++
    (if HasSource disk o.sourceRoots then [] else [noSources]) ++
    (o.assemblies.filterMap (assemblyProblem disk)).map badAssembly

variable {o : Options} {disk : Disk} {w : World}

lemma collectSources_directories (disk : Disk) (roots : List String) :
    ∃ sources, collectSources disk (roots.filter disk.isDirectory) = .ok sources ∧
      (sources = [] ↔ ¬ HasSource disk roots) := by
  refine ⟨_, collectSources_eq fun root hroot => (List.mem_filter.mp hroot).2, ?_⟩
  rw [List.eq_nil_iff_forall_not_mem, HasSource, not_exists]
  simp only [List.mem_mergeSort, List.mem_flatMap, mem_sourcesIn, List.mem_reverse, List.mem_filter]
  constructor
  · rintro hnone root ⟨hroot, p, hp⟩
    obtain ⟨paths, hpaths, -⟩ := Disk.holdsFile_iff.mp hp.1
    exact hnone p ⟨root, ⟨hroot, Disk.isDirectory_iff.mpr ⟨paths, hpaths⟩⟩, hp⟩
  · rintro hnone p ⟨root, ⟨hroot, -⟩, hp⟩
    exact hnone root ⟨hroot, p, hp⟩

lemma readAssembly_of_readText {path text : String} (h : disk.readText path = .ok text) :
    readAssembly disk path = (Metadata.Assembly.parse text).mapError (.json path) := by
  simp only [readAssembly, readText, h]
  rfl

lemma readAssembly_written {path : String} {assembly : Metadata.Assembly}
    (h : disk.entry path = .ok (.file (String.ofList assembly.toJson.write).toUTF8)) :
    readAssembly disk path = .ok assembly := by
  rw [readAssembly_of_readText (Disk.readText_of_entry h), assembly.parse_of_pruned (.refl _),
    Except.mapError]

lemma assemblyProblem_eq (disk : Disk) (path : String) :
    assemblyProblem disk path = match readAssembly disk path with
      | .ok _ => none
      | .error e => some e := by
  rw [assemblyProblem]
  cases hread : disk.readText path with
  | error fault =>
    simp only [readAssembly, readText, hread]
    rfl
  | ok text =>
    rw [readAssembly_of_readText hread]
    cases hparse : Metadata.Assembly.parse text <;> simp only [hparse, Except.mapError]

lemma checkAssemblies_problems (disk : Disk) (paths : List String) (assemblies : Assemblies) :
    (checkAssemblies disk paths assemblies).2 =
      (paths.filterMap (assemblyProblem disk)).map badAssembly := by
  induction paths generalizing assemblies with
  | nil => rfl
  | cons path paths ih =>
    rw [List.filterMap_cons, assemblyProblem_eq]
    cases hread : readAssembly disk path <;> simp only [checkAssemblies, hread, ih, List.map_cons]

lemma readAssemblies_of_no_problem {paths : List String}
    (h : ∀ path ∈ paths, assemblyProblem disk path = none) :
    readAssemblies disk paths = .ok (checkAssemblies disk paths []).1 := by
  suffices hfold : ∀ assemblies : Assemblies, paths.foldlM (fun assemblies path => do
      return assemblies.add path (← readAssembly disk path)) assemblies =
        Except.ok (checkAssemblies disk paths assemblies).1 from hfold []
  induction paths with
  | nil => exact fun _ => rfl
  | cons path paths ih =>
    intro assemblies
    have hpath := h path List.mem_cons_self
    rw [assemblyProblem_eq] at hpath
    cases hread : readAssembly disk path with
    | error e => simp [hread] at hpath
    | ok assembly =>
      simp only [List.foldlM_cons, checkAssemblies, hread]
      exact ih (fun p hp => h p (List.mem_cons_of_mem path hp)) _

lemma readInputs_ok (o : Options) (disk : Disk) :
    ∃ sources, collectSources disk (o.sourceRoots.filter disk.isDirectory) = .ok sources ∧
      readInputs o disk =
        .ok ⟨sources, (checkAssemblies disk o.assemblies []).1, problems o disk⟩ := by
  obtain ⟨sources, hsources, hnone⟩ := collectSources_directories disk o.sourceRoots
  refine ⟨sources, hsources, ?_⟩
  have hempty : (if sources.isEmpty then [noSources] else []) =
      if HasSource disk o.sourceRoots then [] else [noSources] := by
    by_cases hs : HasSource disk o.sourceRoots
    · have hsome : sources ≠ [] := fun he => hnone.mp he hs
      simp [hs, hsome]
    · simp [hs, hnone.mpr hs]
  rw [readInputs, List.partition_eq_filter_filter]
  change (do
    let sources ← collectSources disk (o.sourceRoots.filter disk.isDirectory)
    Except.ok _) = _
  rw [hsources, problems, ← hempty, ← checkAssemblies_problems disk o.assemblies []]
  rfl

lemma severity_problems {d : Diagnostic} (h : d ∈ problems o disk) : d.severity = .error := by
  simp only [problems, List.mem_append, List.mem_map] at h
  rcases h with (⟨root, -, rfl⟩ | hd) | ⟨e, -, rfl⟩
  · rfl
  · split at hd
    · cases hd
    · rw [List.mem_singleton.mp hd]
      rfl
  · rfl

lemma hasErrors_problems : (Diagnostics.mk (problems o disk)).hasErrors ↔ problems o disk ≠ [] := by
  rw [Diagnostics.hasErrors_iff]
  constructor
  · rintro ⟨d, hd, -⟩
    exact List.ne_nil_of_mem hd
  · intro hne
    obtain ⟨d, hd⟩ := List.exists_mem_of_ne_nil _ hne
    exact ⟨d, hd, severity_problems hd⟩

lemma codes_problems : (problems o disk).map (·.code.text) =
    (o.sourceRoots.filter (!disk.isDirectory ·)).map (fun _ => "E0002") ++
      (if HasSource disk o.sourceRoots then [] else ["E0001"]) ++
      (o.assemblies.filterMap (assemblyProblem disk)).map (fun _ => "E0003") := by
  rw [problems, List.map_append, List.map_append, List.map_map, List.map_map,
    apply_ite (List.map _)]
  rfl

lemma problems_eq_nil_iff : problems o disk = [] ↔
    (∀ root ∈ o.sourceRoots, disk.isDirectory root) ∧ HasSource disk o.sourceRoots ∧
      ∀ path ∈ o.assemblies, assemblyProblem disk path = none := by
  simp [problems]

lemma problems_eq_nil_of_not_stops (h : ¬ Stops o disk) : problems o disk = [] := by
  refine problems_eq_nil_iff.mpr ⟨fun root hroot => ?_, ?_, fun path hpath => ?_⟩
  · by_contra hmissing
    exact h (.missingRoot hroot (by simpa using hmissing))
  · by_contra hnone
    exact h (.noSources hnone)
  · rw [assemblyProblem]
    split
    · rename_i fault hread
      exact absurd (.unreadable hpath hread) h
    · rename_i text hread
      split
      · rename_i error hparse
        exact absurd (.invalid hpath hread hparse) h
      · rfl

lemma Stops.problems_ne_nil (h : Stops o disk) : problems o disk ≠ [] := by
  intro hnil
  obtain ⟨hroots, hsource, hassemblies⟩ := problems_eq_nil_iff.mp hnil
  cases h with
  | missingRoot given missing => simp [hroots _ given] at missing
  | noSources absent => exact absent hsource
  | unreadable given failed => simpa [assemblyProblem, failed] using hassemblies _ given
  | invalid given read failed => simpa [assemblyProblem, read, failed] using hassemblies _ given

def Delivered (output : Option String) (listing : String) (before after : Disk) : Prop :=
  match output with
  | none => after = before
  | some directory => ∃ made, before.makeDirectory directory = .ok made ∧
      made.write (Path.join directory listingFile) listing.toUTF8 = .ok after

def deliver (output : Option String) (listing : String) : Action Unit :=
  match output with
  | some directory => writeListing directory listing
  | none => pure ()

lemma exec_deliver {output : Option String} {listing : String} {after : Disk}
    (h : Delivered output listing w.disk after) :
    exec (deliver output listing) w = (.ok (), { w with disk := after }) := by
  cases output with
  | none =>
    cases h
    rfl
  | some directory =>
    obtain ⟨made, hmade, hwritten⟩ := h
    rw [deliver, writeListing, exec_bind_ok (exec_change hmade), exec_change hwritten]

def conclude (o : Options) (inputs : Inputs) (resolved : (Library × List String) × Interner) :
    Action (Option Summary × Diagnostics) := do
  let ((library, unresolved), names) := resolved
  deliver o.outputDirectory (Listing.text names library.registry)
  let summary : Summary :=
    ⟨inputs.sources.length, inputs.assemblies.length, library.registry.classCount, unresolved⟩
  Action.print summary.line
  return (some summary, ⟨inputs.problems⟩)

lemma conclude_gives {inputs : Inputs} {resolved : (Library × List String) × Interner} {v : World}
    {summary : Option Summary} {ds : Diagnostics}
    (h : exec (conclude o inputs resolved) w = (.ok (summary, ds), v)) :
    summary = some ⟨inputs.sources.length, inputs.assemblies.length,
      resolved.1.1.registry.classCount, resolved.1.2⟩ := by
  obtain ⟨-, u, -, hprint⟩ := exec_bind_eq_ok h
  obtain ⟨-, u, -, hpure⟩ := exec_bind_eq_ok hprint
  rw [exec_pure] at hpure
  cases hpure
  rfl

section

variable {inputs : Inputs} (h : readInputs o w.disk = .ok inputs)
include h

lemma exec_check_of_errors (he : (Diagnostics.mk inputs.problems).hasErrors) :
    exec (check o .empty) w = (.ok (none, ⟨inputs.problems⟩), w) := by
  have hquery := exec_query (readInputs o) w
  rw [h] at hquery
  rw [check, exec_bind_ok hquery]
  exact congrArg (exec · w) (if_pos he)

lemma exec_check_of_no_errors (he : ¬ (Diagnostics.mk inputs.problems).hasErrors) :
    exec (check o .empty) w = exec (conclude o inputs
      ((resolveModule inputs.assemblies o.implicitPackages).run .new)) w := by
  have hquery := exec_query (readInputs o) w
  rw [h] at hquery
  rw [check, exec_bind_ok hquery]
  refine (congrArg (exec · w) (if_neg he)).trans ?_
  -- the symbols are named here, otherwise comparing both sides would resolve them
  obtain ⟨⟨library, unresolved⟩, names⟩ :=
    (resolveModule inputs.assemblies o.implicitPackages).run .new
  rw [conclude]
  cases o.outputDirectory <;> rfl

end

lemma exec_check_of_stops (h : Stops o w.disk) :
    exec (check o .empty) w = (.ok (none, ⟨problems o w.disk⟩), w) := by
  obtain ⟨sources, -, hinputs⟩ := readInputs_ok o w.disk
  exact exec_check_of_errors hinputs (hasErrors_problems.mpr h.problems_ne_nil)

lemma exec_check_of_not_stops (h : ¬ Stops o w.disk) :
    ∃ inputs : Inputs, readAssemblies w.disk o.assemblies = .ok inputs.assemblies ∧
      inputs.problems = [] ∧ exec (check o .empty) w = exec (conclude o inputs
        ((resolveModule inputs.assemblies o.implicitPackages).run .new)) w := by
  obtain ⟨sources, -, hinputs⟩ := readInputs_ok o w.disk
  have hnil := problems_eq_nil_of_not_stops h
  refine ⟨_, readAssemblies_of_no_problem (problems_eq_nil_iff.mp hnil).2.2, hnil,
    exec_check_of_no_errors hinputs ?_⟩
  rw [hasErrors_problems, not_not]
  exact hnil

lemma resolveModule_library (assemblies : Assemblies) (implicitPackages : List String)
    (names : Interner) : ((resolveModule assemblies implicitPackages).run names).1.1 =
      (Library.ofAssemblies assemblies implicitPackages).eval names := by
  rw [resolveModule, Naming.run_bind, Naming.run_bind]
  rfl

lemma listed_classes {assemblies : Assemblies} {implicitPackages : List String} {library : Library}
    (h : (Library.ofAssemblies assemblies implicitPackages).eval .new = library)
    (names : Interner) :
    let listed := Listing.sorted names library.registry.listing
    listed.Nodup ∧ (∀ c, c ∈ listed ↔ library.registry.classifier c.id = some c) ∧
      library.registry.classCount = listed.length := by
  have hregistry := (Library.ofAssemblies_assembled .refl assemblies implicitPackages).registry_eq
  rw [h] at hregistry
  simp only [Listing.sorted, List.nodup_mergeSort, List.mem_mergeSort, List.length_mergeSort]
  rw [hregistry]
  exact ⟨Registry.nodup_listing _, fun c => Registry.mem_listing, Registry.classCount_storeAll _⟩

lemma classText_head (names : Interner) (c : Symbol.Class) :
    ∃ rest, Listing.classText names c = c.kind.keyword ++ " " ++ c.id.text names ++ " [" ++ rest := by
  simp only [Listing.classText, Listing.classHead, String.append_assoc]
  exact ⟨_, rfl⟩

theorem check_stops_iff (o : Options) (w : World) :
    let run := exec (check o .empty) w
    ((∃ ds v, run = (.ok (none, ds), v)) ↔ Stops o w.disk) ∧
    (Stops o w.disk → run = (.ok (none, ⟨problems o w.disk⟩), w) ∧
      (problems o w.disk).map (·.code.text) =
        (o.sourceRoots.filter (!w.disk.isDirectory ·)).map (fun _ => "E0002") ++
          (if HasSource w.disk o.sourceRoots then [] else ["E0001"]) ++
          (o.assemblies.filterMap (assemblyProblem w.disk)).map (fun _ => "E0003")) ∧
    (¬ Stops o w.disk → ∃ assemblies library unresolved names,
      readAssemblies w.disk o.assemblies = .ok assemblies ∧
      (resolveModule assemblies o.implicitPackages).run .new = ((library, unresolved), names) ∧
      let listed := Listing.sorted names library.registry.listing
      let listing := String.join (listed.map (Listing.classText names))
      listing = Listing.text names library.registry ∧ listed.Nodup ∧
      (∀ c, c ∈ listed ↔ library.registry.classifier c.id = some c) ∧
      (∀ c ∈ listed, ∃ rest, Listing.classText names c =
        c.kind.keyword ++ " " ++ c.id.text names ++ " [" ++ rest) ∧
      ∃ summary : Summary, summary.classes = listed.length ∧
        ∀ disk out, Delivered o.outputDirectory listing w.disk disk →
          w.out.writeAll summary.line.toUTF8 = (none, out) →
          run = (.ok (some summary, .empty), ⟨disk, out⟩)) := by
  intro run
  refine ⟨⟨?_, fun h => ⟨_, _, exec_check_of_stops h⟩⟩,
    fun h => ⟨exec_check_of_stops h, codes_problems⟩, fun h => ?_⟩
  · rintro ⟨ds, v, hrun⟩
    by_contra h
    obtain ⟨inputs, -, -, hconclude⟩ := exec_check_of_not_stops h
    cases conclude_gives (hconclude.symm.trans hrun)
  · obtain ⟨inputs, hread, hnil, hconclude⟩ := exec_check_of_not_stops h
    have hlibrary := resolveModule_library inputs.assemblies o.implicitPackages .new
    rcases hresolved : (resolveModule inputs.assemblies o.implicitPackages).run .new with
      ⟨⟨library, unresolved⟩, names⟩
    rw [hresolved] at hconclude hlibrary
    obtain ⟨hnodup, hmem, hcount⟩ := listed_classes hlibrary.symm names
    refine ⟨inputs.assemblies, library, unresolved, names, hread, hresolved, rfl, hnodup, hmem,
      fun c _ => classText_head names c, ⟨inputs.sources.length, inputs.assemblies.length, library.registry.classCount, unresolved⟩,
      hcount, fun disk out hdisk hout => hconclude.trans ?_⟩
    rw [conclude, hnil]
    exact (exec_bind_ok (exec_deliver hdisk)).trans (exec_bind_ok (exec_useOut hout))

def description : Metadata.Assembly :=
  ⟨some "Demo", [⟨some "demo", "Greeter", [], [], []⟩]⟩

def project : World where
  disk := ⟨.directory
    [("src", .directory [("main", .directory [("App.kt", .file .empty)])]),
     ("good.json", .file (String.ofList description.toJson.write).toUTF8),
     ("bad.json", .file "[".toUTF8)], []⟩
  out := .unlimited

def soundOptions : Options := ⟨"main", ["good.json"], ["src"], some "out", []⟩

def faultyOptions : Options :=
  ⟨"main", ["bad.json", "good.json", "gone.json"], ["gone", "src", "bad.json"], some "out", []⟩

lemma readAssembly_good : readAssembly project.disk "good.json" = .ok description :=
  readAssembly_written rfl

lemma readAssemblies_sound :
    readAssemblies project.disk soundOptions.assemblies = .ok [("Demo", description)] := by
  simp only [readAssemblies, soundOptions, List.foldlM_cons, readAssembly_good]
  rfl

lemma not_stops_sound : ¬ Stops soundOptions project.disk := by
  intro h
  refine h.problems_ne_nil (problems_eq_nil_iff.mpr ⟨by decide, by decide, fun path hpath => ?_⟩)
  rw [List.mem_singleton.mp hpath, assemblyProblem_eq, readAssembly_good]

lemma assemblyProblems_faulty :
    ∃ e, faultyOptions.assemblies.filterMap (assemblyProblem project.disk) =
      [e, .read "gone.json" .notFound] := by
  have hgood : assemblyProblem project.disk "good.json" = none := by
    rw [assemblyProblem_eq, readAssembly_good]
  have hgone : assemblyProblem project.disk "gone.json" = some (.read "gone.json" .notFound) := rfl
  obtain ⟨e, hbad⟩ : ∃ e, assemblyProblem project.disk "bad.json" = some e := by
    rw [assemblyProblem_eq, readAssembly_of_readText (Disk.readText_of_entry rfl)]
    exact ⟨_, rfl⟩
  refine ⟨e, ?_⟩
  rw [faultyOptions, List.filterMap_cons_some hbad, List.filterMap_cons_none hgood,
    List.filterMap_cons_some hgone, List.filterMap_nil]

theorem check_stops_iff_project :
    (Stops faultyOptions project.disk ∧
      ∃ ds, exec (check faultyOptions .empty) project = (.ok (none, ds), project) ∧
        ds.items.map (·.code.text) = ["E0002", "E0002", "E0003", "E0003"]) ∧
    ¬ Stops soundOptions project.disk ∧
      ∃ summary v, exec (check soundOptions .empty) project = (.ok (some summary, .empty), v) ∧
        summary.classes = 2 := by
  have hstops : Stops faultyOptions project.disk :=
    .missingRoot (show "gone" ∈ faultyOptions.sourceRoots by decide) (by decide)
  obtain ⟨hfaulty, hcodes⟩ := (check_stops_iff faultyOptions project).2.1 hstops
  refine ⟨⟨hstops, _, hfaulty, hcodes.trans ?_⟩, not_stops_sound, ?_⟩
  · obtain ⟨e, hassemblies⟩ := assemblyProblems_faulty
    rw [hassemblies]
    rfl
  · obtain ⟨assemblies, library, unresolved, names, hread, hresolved, -, -, -, -, summary, hclasses,
      hrun⟩ := (check_stops_iff soundOptions project).2.2 not_stops_sound
    obtain rfl : [("Demo", description)] = assemblies :=
      Except.ok.inj (readAssemblies_sound.symm.trans hread)
    have hlibrary :=
      resolveModule_library [("Demo", description)] soundOptions.implicitPackages .new
    rw [hresolved] at hlibrary
    refine ⟨summary, _, hrun _ _ ⟨_, rfl, rfl⟩ (Sink.takesAll_unlimited.writeAll_eq _), ?_⟩
    rw [hclasses, ← (listed_classes hlibrary.symm names).2.2, hlibrary]
    decide +kernel

end Command

end ClrCompiler
