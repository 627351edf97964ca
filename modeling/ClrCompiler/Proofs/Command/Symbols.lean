import ClrCompiler.Command.Symbols
import ClrCompiler.Proofs.Command.Check

/-! The symbols command: its listing depends on which assembly has which key, not on the order in
which the files are named, and a bad argument stops it before anything is written. -/

namespace ClrCompiler.Command

open ClrCompiler.Command.Action Output

section

variable {α : Type} {xs ys : List (String × α)}

lemma lookup_update (xs : List (String × α)) (key k : String) (a : α) :
    (Entry.update key (fun _ => a) xs).lookup k = if key = k then some a else xs.lookup k := by
  induction xs with
  | nil => rw [Entry.update, Buckets.lookup_cons_if]
  | cons e xs ih =>
    obtain ⟨other, b⟩ := e
    rw [Entry.update]
    split <;> rename_i he
    · subst he
      by_cases hk : other = k <;> simp [Buckets.lookup_cons_if, hk]
    · rw [Buckets.lookup_cons_if, Buckets.lookup_cons_if, ih]
      by_cases hk : other = k
      · have hne : key ≠ k := fun h => he (hk.trans h.symm)
        simp [hk, hne]
      · simp [hk]

lemma keys_update (xs : List (String × α)) (key : String) (a : α) :
    (Entry.update key (fun _ => a) xs).map Prod.fst =
      xs.map Prod.fst ++ if key ∈ xs.map Prod.fst then [] else [key] := by
  induction xs with
  | nil => simp [Entry.update]
  | cons e xs ih =>
    obtain ⟨other, b⟩ := e
    rw [Entry.update]
    split <;> rename_i he
    · simp [he]
    · simp only [List.map_cons, ih, List.cons_append, List.mem_cons, Ne.symm he, false_or]

lemma perm_of_lookup_eq (hx : (xs.map Prod.fst).Nodup) (hy : (ys.map Prod.fst).Nodup)
    (h : ∀ k, xs.lookup k = ys.lookup k) : xs.Perm ys := by
  refine (List.perm_ext_iff_of_nodup hx.of_map hy.of_map).mpr ?_
  rintro ⟨k, a⟩
  rw [← lookup_eq_some_iff_mem hx, ← lookup_eq_some_iff_mem hy, h]

lemma lookup_eq_of_perm (h : xs.Perm ys) (hx : (xs.map Prod.fst).Nodup) (k : String) :
    xs.lookup k = ys.lookup k := by
  apply Option.ext
  intro a
  rw [lookup_eq_some_iff_mem hx, lookup_eq_some_iff_mem ((h.map Prod.fst).nodup_iff.mp hx),
    h.mem_iff]

lemma lookup_shadowed {p q : String × α} (h : p.1 = q.1) (before between after : List (String × α))
    (k : String) : (before ++ q :: between ++ p :: after).lookup k =
      (before ++ q :: between ++ after).lookup k := by
  obtain ⟨key, a⟩ := p
  obtain ⟨_, b⟩ := q
  obtain rfl : key = _ := h
  by_cases hk : key = k <;> simp [List.lookup_append, Buckets.lookup_cons_if, hk]

end

def Assemblies.ofEntries (entries : List (String × Metadata.Assembly)) : Assemblies :=
  entries.foldl (fun assemblies e => assemblies.insert e.1 e.2) []

namespace Assemblies

variable {entries others : List (String × Metadata.Assembly)}

lemma ofEntries_concat (entries : List (String × Metadata.Assembly))
    (e : String × Metadata.Assembly) :
    ofEntries (entries ++ [e]) = (ofEntries entries).insert e.1 e.2 :=
  List.foldl_concat _ _ _ _

lemma lookup_ofEntries (entries : List (String × Metadata.Assembly)) (k : String) :
    (ofEntries entries).lookup k = entries.reverse.lookup k := by
  induction entries using List.reverseRecOn with
  | nil => rfl
  | append_singleton entries e ih =>
    rw [ofEntries_concat, insert, lookup_update, ih, List.reverse_concat, Buckets.lookup_cons_if]

lemma nodup_keys_ofEntries (entries : List (String × Metadata.Assembly)) :
    ((ofEntries entries).map Prod.fst).Nodup := by
  induction entries using List.reverseRecOn with
  | nil => exact List.nodup_nil
  | append_singleton entries e ih =>
    rw [ofEntries_concat, insert, keys_update]
    split <;> rename_i hk
    · rwa [List.append_nil]
    · refine List.nodup_append.mpr ⟨ih, List.nodup_singleton _, ?_⟩
      rintro k hmem _ hkey rfl
      exact hk (List.mem_singleton.mp hkey ▸ hmem)

lemma symbolListing_eq_of_perm {assemblies table : Assemblies} (hperm : table.Perm assemblies)
    (hkeys : (assemblies.map Prod.fst).Nodup) : symbolListing table = symbolListing assemblies := by
  have hnodes : Library.nodes table = Library.nodes assemblies := by
    rw [Library.nodes, Library.nodes, Library.mergeSort_keys_eq_of_perm hperm.symm hkeys]
  simp only [symbolListing, Library.ofAssemblies, hnodes]

lemma symbolListing_ofEntries
    (h : ∀ k, entries.reverse.lookup k = others.reverse.lookup k) :
    symbolListing (ofEntries entries) = symbolListing (ofEntries others) := by
  have hkeys := nodup_keys_ofEntries others
  refine symbolListing_eq_of_perm (perm_of_lookup_eq (nodup_keys_ofEntries entries) hkeys ?_) hkeys
  intro k
  rw [lookup_ofEntries, lookup_ofEntries, h]

end Assemblies

def entryAt (disk : Disk) (path : String) : Option (String × Metadata.Assembly) :=
  (readAssembly disk path).toOption.map fun assembly => (assemblyKey path assembly, assembly)

def keyAt (disk : Disk) (path : String) : Option String := (entryAt disk path).map Prod.fst

section

variable {disk : Disk} {w : World} {arguments others paths : List String}

lemma entryAt_of_no_problem {path : String} (h : assemblyProblem disk path = none) :
    ∃ assembly, readAssembly disk path = .ok assembly ∧
      entryAt disk path = some (assemblyKey path assembly, assembly) := by
  rw [assemblyProblem_eq] at h
  cases hread : readAssembly disk path with
  | error e => simp [hread] at h
  | ok assembly => exact ⟨assembly, rfl, by rw [entryAt, hread]; rfl⟩

lemma map_keyAt (h : ∀ path ∈ paths, assemblyProblem disk path = none) :
    paths.map (keyAt disk) = ((paths.filterMap (entryAt disk)).map Prod.fst).map some := by
  induction paths with
  | nil => rfl
  | cons path paths ih =>
    obtain ⟨hpath, hrest⟩ := List.forall_mem_cons.mp h
    obtain ⟨assembly, -, hentry⟩ := entryAt_of_no_problem hpath
    rw [List.filterMap_cons_some hentry, List.map_cons, ih hrest, keyAt, hentry]
    rfl

lemma readAssemblies_concat {rest : List String} {assemblies : Assemblies}
    (h : readAssemblies disk paths = .ok assemblies) :
    readAssemblies disk (paths ++ rest) = rest.foldlM (fun assemblies path => do
      return assemblies.add path (← readAssembly disk path)) assemblies := by
  rw [readAssemblies] at h
  rw [readAssemblies, List.foldlM_append, h]
  rfl

lemma readAssemblies_good (h : ∀ path ∈ paths, assemblyProblem disk path = none) :
    readAssemblies disk paths = .ok (.ofEntries (paths.filterMap (entryAt disk))) := by
  induction paths using List.reverseRecOn with
  | nil => rfl
  | append_singleton paths path ih =>
    obtain ⟨hrest, hpath⟩ := List.forall_mem_append.mp h
    obtain ⟨assembly, hread, hentry⟩ := entryAt_of_no_problem (hpath path List.mem_cons_self)
    rw [readAssemblies_concat (ih hrest), List.filterMap_append, List.filterMap_cons_some hentry,
      List.filterMap_nil, Assemblies.ofEntries_concat, List.foldlM_cons, hread]
    rfl

lemma readAssemblies_bad {e : Error} (h : paths.findSome? (assemblyProblem disk) = some e) :
    readAssemblies disk paths = .error e := by
  obtain ⟨before, path, after, rfl, hpath, hbefore⟩ := List.findSome?_eq_some_iff.mp h
  rw [readAssemblies_concat (readAssemblies_good hbefore), List.foldlM_cons]
  rw [assemblyProblem_eq] at hpath
  cases hread : readAssembly disk path with
  | ok assembly => simp [hread] at hpath
  | error e' =>
    simp only [hread, Option.some.injEq] at hpath
    rw [hpath]
    rfl

lemma exec_symbols_option {flag : String} (hf : arguments.find? isOption = some flag) :
    exec (symbols arguments) w = (.error (.usage (.unknownOption flag)), w) := by
  have hempty : arguments.isEmpty = false := by
    simpa using List.ne_nil_of_mem (List.mem_of_find?_eq_some hf)
  rw [symbols, hempty, hf]
  rfl

lemma exec_symbols_files (hne : arguments ≠ []) (ho : ∀ a ∈ arguments, isOption a = false) :
    exec (symbols arguments) w =
      exec (Action.query (readAssemblies · arguments) >>= fun assemblies =>
        Action.print (symbolListing assemblies)) w := by
  have hempty : arguments.isEmpty = false := by simpa using hne
  have hnone : arguments.find? isOption = none := by simpa using ho
  rw [symbols, hempty, hnone]
  rfl

lemma exec_symbols_bad (hne : arguments ≠ []) (ho : ∀ a ∈ arguments, isOption a = false) {e : Error}
    (he : arguments.findSome? (assemblyProblem w.disk) = some e) :
    exec (symbols arguments) w = (.error e, w) := by
  have hquery := exec_query (readAssemblies · arguments) w
  rw [readAssemblies_bad he] at hquery
  rw [exec_symbols_files hne ho, exec_bind_error hquery]

variable (hne : arguments ≠ []) (ho : ∀ a ∈ arguments, isOption a = false)
  (hg : ∀ a ∈ arguments, assemblyProblem w.disk a = none)
include hne ho hg

lemma exec_symbols_good : exec (symbols arguments) w = exec (Action.print
    (symbolListing (.ofEntries (arguments.filterMap (entryAt w.disk))))) w := by
  have hquery := exec_query (readAssemblies · arguments) w
  rw [readAssemblies_good hg] at hquery
  rw [exec_symbols_files hne ho, exec_bind_ok hquery]

lemma exec_symbols_reordered (hkeys : (arguments.map (keyAt w.disk)).Nodup)
    (hperm : others.Perm arguments) :
    exec (symbols others) w = exec (symbols arguments) w := by
  have hothers : others ≠ [] := by
    rintro rfl
    exact hne hperm.nil_eq.symm
  rw [exec_symbols_good hne ho hg, exec_symbols_good hothers
    (fun a ha => ho a (hperm.mem_iff.mp ha)) fun a ha => hg a (hperm.mem_iff.mp ha)]
  rw [map_keyAt hg] at hkeys
  have hentries := hperm.filterMap (entryAt w.disk)
  rw [Assemblies.symbolListing_ofEntries fun k => ?_]
  refine (lookup_eq_of_perm ?_ ?_ k).symm
  · exact (List.reverse_perm _).trans (hentries.symm.trans (List.reverse_perm _).symm)
  · rw [List.map_reverse, List.nodup_reverse]
    exact hkeys.of_map

lemma exec_symbols_shadowed {before between after : List String} {earlier later : String}
    (heq : arguments = before ++ earlier :: between ++ later :: after)
    (hkey : keyAt w.disk earlier = keyAt w.disk later) :
    exec (symbols arguments) w = exec (symbols (before ++ between ++ later :: after)) w := by
  have hsub : ∀ a ∈ before ++ between ++ later :: after, a ∈ arguments := by
    intro a ha
    rw [heq]
    simp only [List.mem_append, List.mem_cons] at ha ⊢
    tauto
  have hmem : earlier ∈ arguments ∧ later ∈ arguments := by simp [heq]
  obtain ⟨p, -, hp⟩ := entryAt_of_no_problem (hg earlier hmem.1)
  obtain ⟨q, -, hq⟩ := entryAt_of_no_problem (hg later hmem.2)
  rw [keyAt, keyAt, hp, hq, Option.map_some, Option.map_some, Option.some.injEq] at hkey
  let entries (paths : List String) := (paths.filterMap (entryAt w.disk)).reverse
  have hall : entries arguments = entries after ++ (assemblyKey later q, q) :: entries between ++
      (assemblyKey earlier p, p) :: entries before := by
    simp [entries, heq, hp, hq]
  have hrest : entries (before ++ between ++ later :: after) =
      entries after ++ (assemblyKey later q, q) :: entries between ++ entries before := by
    simp [entries, hq]
  rw [exec_symbols_good hne ho hg, exec_symbols_good (by simp) (fun a ha => ho a (hsub a ha))
    fun a ha => hg a (hsub a ha), Assemblies.symbolListing_ofEntries fun k => ?_]
  change (entries arguments).lookup k = (entries _).lookup k
  rw [hall, hrest, lookup_shadowed hkey]

end

theorem symbols_by_key (w : World) {arguments : List String} (hne : arguments ≠ []) :
    (∀ flag, arguments.find? isOption = some flag →
      exec (symbols arguments) w = (.error (.usage (.unknownOption flag)), w)) ∧
    ((∀ a ∈ arguments, isOption a = false) →
      (∀ e, arguments.findSome? (assemblyProblem w.disk) = some e →
        exec (symbols arguments) w = (.error e, w)) ∧
      ((∀ a ∈ arguments, assemblyProblem w.disk a = none) →
        (w.out.TakesAll → ∃ assemblies, readAssemblies w.disk arguments = .ok assemblies ∧
          ∀ table, table.Perm assemblies → exec (symbols arguments) w = (.ok (), { w with
            out := { w.out with taken := w.out.taken ++ (symbolListing table).toUTF8 } })) ∧
        ((arguments.map (keyAt w.disk)).Nodup → ∀ others, others.Perm arguments →
          exec (symbols others) w = exec (symbols arguments) w) ∧
        ∀ before earlier between later after,
          arguments = before ++ earlier :: between ++ later :: after →
          keyAt w.disk earlier = keyAt w.disk later →
          exec (symbols arguments) w =
            exec (symbols (before ++ between ++ later :: after)) w)) := by
  refine ⟨fun flag hf => exec_symbols_option hf, fun ho => ⟨fun e he => exec_symbols_bad hne ho he,
    fun hg => ⟨fun hout => ?_, fun hkeys others hperm => ?_, ?_⟩⟩⟩
  · refine ⟨_, readAssemblies_good hg, fun table htable => ?_⟩
    rw [exec_symbols_good hne ho hg,
      Assemblies.symbolListing_eq_of_perm htable (Assemblies.nodup_keys_ofEntries _)]
    exact exec_useOut (hout.writeAll_eq _)
  · exact exec_symbols_reordered hne ho hg hkeys hperm
  · intro before earlier between later after heq hkey
    exact exec_symbols_shadowed hne ho hg heq hkey

def shelf : World where
  disk := ⟨.directory
    [("first.json", .file (String.ofList description.toJson.write).toUTF8),
     ("Demo.json", .file (String.ofList unnamed.toJson.write).toUTF8),
     ("Other.json", .file (String.ofList unnamed.toJson.write).toUTF8)], []⟩
  out := .unlimited
where
  unnamed : Metadata.Assembly := ⟨none, description.types⟩

theorem symbols_by_key_shelf :
    let files := ["first.json", "Other.json", "Demo.json"]
    (∀ a ∈ files, isOption a = false) ∧ (∀ a ∈ files, assemblyProblem shelf.disk a = none) ∧
      files.map (keyAt shelf.disk) = [some "Demo", some "Other", some "Demo"] ∧
      exec (symbols files) shelf = exec (symbols ["Demo.json", "Other.json"]) shelf ∧
      exec (symbols ["first.json", "gone", "-x", "bad", "-y"]) shelf =
        (.error (.usage (.unknownOption "-x")), shelf) ∧
      exec (symbols ["first.json", "gone", "bad"]) shelf =
        (.error (.read "gone" .notFound), shelf) := by
  intro files
  have hfirst : readAssembly shelf.disk "first.json" = .ok description := readAssembly_written rfl
  have hdemo : readAssembly shelf.disk "Demo.json" = .ok shelf.unnamed := readAssembly_written rfl
  have hother : readAssembly shelf.disk "Other.json" = .ok shelf.unnamed := readAssembly_written rfl
  have ho : ∀ a ∈ files, isOption a = false := by decide
  have hg : ∀ a ∈ files, assemblyProblem shelf.disk a = none := by
    simp [files, assemblyProblem_eq, hfirst, hdemo, hother]
  have hkeys : files.map (keyAt shelf.disk) = [some "Demo", some "Other", some "Demo"] := by
    simp only [files, List.map_cons, List.map_nil, keyAt, entryAt, hfirst, hdemo, hother]
    rfl
  have hmissing : ["first.json", "gone", "bad"].findSome? (assemblyProblem shelf.disk) =
      some (.read "gone" .notFound) := by
    rw [List.findSome?_cons, assemblyProblem_eq, hfirst]
    rfl
  refine ⟨ho, hg, hkeys, ?_, ?_, ?_⟩
  · have hfew : ["Other.json", "Demo.json"] ≠ [] := by simp
    obtain ⟨-, -, hshared⟩ := ((symbols_by_key shelf (by simp)).2 ho).2 hg
    obtain ⟨-, hreordered, -⟩ := ((symbols_by_key shelf hfew).2 (by decide)).2
      fun a ha => hg a (List.mem_cons_of_mem _ ha)
    simp only [files, List.map_cons, List.cons.injEq] at hkeys
    have hdistinct : (["Other.json", "Demo.json"].map (keyAt shelf.disk)).Nodup := by
      rw [List.map_cons, List.map_cons, hkeys.2.1, hkeys.2.2.1]
      decide
    rw [hshared [] "first.json" ["Other.json"] "Demo.json" [] rfl (hkeys.1.trans hkeys.2.2.1.symm)]
    exact (hreordered hdistinct ["Demo.json", "Other.json"] (.swap _ _ [])).symm
  · exact (symbols_by_key shelf (by simp)).1 "-x" rfl
  · exact ((symbols_by_key shelf (by simp)).2 (by decide)).1 _ hmissing

end ClrCompiler.Command
