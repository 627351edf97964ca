import ClrCompiler.FileTree
import ClrCompiler.Proofs.Lookup
import ClrCompiler.Proofs.Path
import Mathlib.Algebra.GroupWithZero.Nat
import Mathlib.Data.List.Basic

/-! The files that lie below a directory, and the texts that files hold. In a proper tree the path
of an entry leads to it, and no two files below a directory have the same path. -/

namespace ClrCompiler

namespace Entry

inductive FileBelow : String → Entry → String → Prop where
  | here (path : String) (content : ByteArray) : FileBelow path (.file content) path
  | inside {path name p : String} {e : Entry} {entries : List (String × Entry)}
      (mem : (name, e) ∈ entries) (below : FileBelow (Path.join path name) e p) :
      FileBelow path (.directory entries) p

mutual

lemma mem_pathsBelow : ∀ (e : Entry) (path p : String),
    p ∈ e.pathsBelow path ↔ FileBelow path e p
  | .file content, path, p => by
    rw [pathsBelow, List.mem_singleton]
    constructor
    · rintro rfl
      exact .here p content
    · rintro ⟨⟩
      rfl
  | .directory entries, path, p => by
    rw [pathsBelow, mem_pathsIn]
    constructor
    · rintro ⟨name, e, hmem, hbelow⟩
      exact .inside hmem hbelow
    · rintro (_ | ⟨hmem, hbelow⟩)
      exact ⟨_, _, hmem, hbelow⟩

lemma mem_pathsIn : ∀ (entries : List (String × Entry)) (path p : String),
    p ∈ pathsIn path entries ↔
      ∃ name e, (name, e) ∈ entries ∧ FileBelow (Path.join path name) e p
  | [], path, p => by simp [pathsIn]
  | (name, e) :: rest, path, p => by
    rw [pathsIn, List.mem_append, mem_pathsBelow, mem_pathsIn]
    constructor
    · rintro (hbelow | ⟨other, d, hmem, hbelow⟩)
      · exact ⟨name, e, List.mem_cons_self, hbelow⟩
      · exact ⟨other, d, List.mem_cons_of_mem _ hmem, hbelow⟩
    · rintro ⟨other, d, hmem, hbelow⟩
      rcases List.mem_cons.mp hmem with heq | hmem
      · cases heq
        exact Or.inl hbelow
      · exact Or.inr ⟨other, d, hmem, hbelow⟩

end

inductive Proper : Entry → Prop where
  | file (content : ByteArray) : Proper (.file content)
  | directory {entries : List (String × Entry)} (names : ∀ x ∈ entries, Path.IsName x.1)
      (distinct : (entries.map Prod.fst).Nodup) (inside : ∀ x ∈ entries, Proper x.2) :
      Proper (.directory entries)

lemma proper_directory_iff {entries : List (String × Entry)} :
    (Entry.directory entries).Proper ↔ (∀ x ∈ entries, Path.IsName x.1) ∧
      (entries.map Prod.fst).Nodup ∧ ∀ x ∈ entries, x.2.Proper :=
  ⟨fun | .directory names distinct inside => ⟨names, distinct, inside⟩,
    fun ⟨names, distinct, inside⟩ => .directory names distinct inside⟩

mutual

def decidableProper : (e : Entry) → Decidable e.Proper
  | .file content => isTrue (.file content)
  | .directory entries =>
    have := decidableProperIn entries
    decidable_of_iff _ proper_directory_iff.symm

def decidableProperIn : (entries : List (String × Entry)) → Decidable (∀ x ∈ entries, x.2.Proper)
  | [] => isTrue (by simp)
  | (_, e) :: rest =>
    have := decidableProper e
    have := decidableProperIn rest
    decidable_of_iff _ List.forall_mem_cons.symm

end

instance : DecidablePred Proper := decidableProper

lemma at?_append (e : Entry) (position rest : List String) :
    e.at? (position ++ rest) = (e.at? position).bind (·.at? rest) := by
  induction position generalizing e with
  | nil => rw [List.nil_append, at?, Option.bind_some]
  | cons name position ih =>
    cases e with
    | file content => rfl
    | directory entries =>
      rw [List.cons_append, at?, at?]
      cases entries.lookup name with
      | none => rfl
      | some e => exact ih e

lemma Proper.at? {e inner : Entry} {position : List String} (h : e.Proper)
    (hat : e.at? position = some inner) : inner.Proper := by
  induction position generalizing e with
  | nil =>
    rw [Entry.at?] at hat
    cases hat
    exact h
  | cons name position ih =>
    cases h with
    | file => cases hat
    | @directory entries _ _ inside =>
      rw [Entry.at?] at hat
      cases hlookup : entries.lookup name with
      | none => simp [hlookup] at hat
      | some next =>
        rw [hlookup] at hat
        exact ih (inside _ (mem_of_lookup hlookup)) hat

lemma FileBelow.components {path p : String} {e : Entry} (h : FileBelow path e p) (he : e.Proper)
    (hpath : path ≠ "") : Path.components path <+: Path.components p := by
  induction h with
  | here => exact List.prefix_refl _
  | @inside path name p e entries mem below ih =>
    cases he with
    | directory names _ inside =>
      have hprefix := ih (inside _ mem) (Path.join_ne_empty hpath)
      rw [Path.components_join hpath (names _ mem)] at hprefix
      exact (List.prefix_append _ _).trans hprefix

mutual

lemma nodup_pathsBelow : ∀ (e : Entry) (path : String), e.Proper → path ≠ "" →
    ((e.pathsBelow path).map Path.components).Nodup
  | .file content, path, _, _ => by
    rw [pathsBelow, List.map_singleton]
    exact List.nodup_singleton _
  | .directory entries, path, .directory names distinct inside, hpath => by
    rw [pathsBelow]
    exact nodup_pathsIn entries path names distinct inside hpath

lemma nodup_pathsIn : ∀ (entries : List (String × Entry)) (path : String),
    (∀ x ∈ entries, Path.IsName x.1) → (entries.map Prod.fst).Nodup → (∀ x ∈ entries, x.2.Proper) →
    path ≠ "" → ((pathsIn path entries).map Path.components).Nodup
  | [], path, _, _, _, _ => by simp [pathsIn]
  | (name, e) :: rest, path, names, distinct, inside, hpath => by
    obtain ⟨hname, hnames⟩ := List.forall_mem_cons.mp names
    obtain ⟨he, hinside⟩ := List.forall_mem_cons.mp inside
    obtain ⟨hfresh, hdistinct⟩ := List.nodup_cons.mp distinct
    have hjoin : Path.join path name ≠ "" := Path.join_ne_empty hpath
    rw [pathsIn, List.map_append, List.nodup_append]
    refine ⟨nodup_pathsBelow e _ he hjoin, nodup_pathsIn rest path hnames hdistinct hinside hpath,
      ?_⟩
    intro a ha b hb hab
    obtain ⟨p, hp, rfl⟩ := List.mem_map.mp ha
    obtain ⟨q, hq, rfl⟩ := List.mem_map.mp hb
    obtain ⟨other, f, hmem, hbelow⟩ := (mem_pathsIn rest path q).mp hq
    -- the parts of both paths go on with the name of the entry they lie in
    have hleft := ((mem_pathsBelow e _ p).mp hp).components he hjoin
    have hright := hbelow.components (hinside _ hmem) (Path.join_ne_empty hpath)
    rw [Path.components_join hpath hname] at hleft
    rw [Path.components_join hpath (hnames _ hmem), ← hab] at hright
    have hsame : [Path.Component.normal name] = [.normal other] := by
      have hlen := List.prefix_of_prefix_length_le hleft hright (by simp)
      exact List.append_cancel_left (hlen.eq_of_length (by simp))
    cases hsame
    exact hfresh (List.mem_map.mpr ⟨_, hmem, rfl⟩)

end

mutual

def directoryCount : Entry → Nat
  | .file _ => 0
  | .directory entries => directoryCountIn entries + 1

def directoryCountIn : List (String × Entry) → Nat
  | [] => 0
  | (_, e) :: rest => e.directoryCount + directoryCountIn rest

end

lemma directoryCountIn_eq (entries : List (String × Entry)) :
    directoryCountIn entries = (entries.map (·.2.directoryCount)).sum := by
  induction entries with
  | nil => rfl
  | cons x rest ih => rw [directoryCountIn, ih, List.map_cons, List.sum_cons]

lemma pathsIn_eq (path : String) (entries : List (String × Entry)) :
    pathsIn path entries = entries.flatMap fun x => x.2.pathsBelow (Path.join path x.1) := by
  induction entries with
  | nil => rfl
  | cons x rest ih => rw [pathsIn, ih, List.flatMap_cons]

end Entry

namespace Disk

def HoldsFile (d : Disk) (root p : String) : Prop :=
  ∃ entries, d.entry root = .ok (.directory entries) ∧ Entry.FileBelow root (.directory entries) p

variable {d : Disk} {path : String}

lemma isDirectory_iff : d.isDirectory path ↔ ∃ paths, d.pathsBelow path = .ok paths := by
  cases hentry : d.entry path with
  | error fault => simp [isDirectory, pathsBelow, hentry, bind, Except.bind]
  | ok e => cases e <;> simp [isDirectory, pathsBelow, hentry, Entry.isDirectory, bind, Except.bind]

lemma holdsFile_iff {p : String} :
    d.HoldsFile path p ↔ ∃ paths, d.pathsBelow path = .ok paths ∧ p ∈ paths := by
  cases hentry : d.entry path with
  | error fault => simp [HoldsFile, pathsBelow, hentry, bind, Except.bind]
  | ok e =>
    cases e with
    | file content => simp [HoldsFile, pathsBelow, hentry, bind, Except.bind]
    | directory entries =>
      have hbelow := Entry.mem_pathsBelow (.directory entries) path p
      rw [Entry.pathsBelow] at hbelow
      simp [HoldsFile, pathsBelow, hentry, bind, Except.bind, hbelow]

lemma holdsFile_iff_mem {p : String} :
    d.HoldsFile path p ↔ p ∈ (d.pathsBelow path).toOption.getD [] := by
  rw [holdsFile_iff]
  cases d.pathsBelow path <;> simp [Except.toOption]

instance (root p : String) : Decidable (d.HoldsFile root p) :=
  decidable_of_iff _ holdsFile_iff_mem.symm

lemma entry_eq_ok_iff {e : Entry} :
    d.entry path = .ok e ↔
      ∃ position, d.locate path = .ok position ∧ d.root.at? position = some e := by
  rw [entry]
  cases hlocate : d.locate path with
  | error fault => simp [bind, Except.bind]
  | ok position => cases hat : d.root.at? position <;> simp [bind, Except.bind, hat]

lemma proper_entry (h : d.root.Proper) {e : Entry} (he : d.entry path = .ok e) : e.Proper := by
  obtain ⟨position, -, hat⟩ := entry_eq_ok_iff.mp he
  exact h.at? hat

lemma ne_empty_of_entry {e : Entry} (h : d.entry path = .ok e) : path ≠ "" := by
  rintro rfl
  cases h

lemma step_of_step_idle {position target : List String} (h : d.step position "" = .ok target) :
    position = target := by
  rw [step] at h
  split at h
  · cases h
  · cases h
  · exact Except.ok.inj h

lemma step_name {position : List String} {entries : List (String × Entry)} {name : String}
    {e : Entry} (h : d.root.at? position = some (.directory entries)) (hname : Path.IsName name)
    (he : entries.lookup name = some e) : d.step position name = .ok (position ++ [name]) := by
  rw [step, h]
  simp [hname.isIdle, hname.notDots, he]

lemma entry_join {entries : List (String × Entry)} {name : String} {e : Entry}
    (h : d.entry path = .ok (.directory entries)) (hname : Path.IsName name)
    (he : entries.lookup name = some e) : d.entry (Path.join path name) = .ok e := by
  have hpath := ne_empty_of_entry h
  obtain ⟨position, hlocate, hat⟩ := entry_eq_ok_iff.mp h
  obtain ⟨front, -, hfront, hjoin⟩ := Path.segments_join hpath hname.unslashed
  rw [locate, if_neg hpath, walk] at hlocate
  -- a final slash of the path leads nowhere
  have hwalk : front.foldlM d.step (d.origin path) = .ok position := by
    rcases hfront with hsegments | hsegments
    · rwa [hsegments] at hlocate
    · rw [hsegments, List.foldlM_append] at hlocate
      cases hstart : front.foldlM d.step (d.origin path) with
      | error fault => simp [hstart, bind, Except.bind] at hlocate
      | ok target =>
        rw [hstart] at hlocate
        change [""].foldlM d.step target = _ at hlocate
        have hidle : d.step target "" = .ok position := by simpa using hlocate
        rw [step_of_step_idle hidle]
  have horigin : d.origin (Path.join path name) = d.origin path := by
    rw [origin, origin, Path.isAbsolute_join hpath]
  refine entry_eq_ok_iff.mpr ⟨position ++ [name], ?_, ?_⟩
  · rw [locate, if_neg (Path.join_ne_empty hpath), walk, horigin, hjoin, List.foldlM_append, hwalk]
    change d.step position name >>= pure = _
    rw [step_name hat hname he]
    rfl
  · rw [Entry.at?_append, hat, Option.bind_some, Entry.at?, he]
    rfl

lemma readText_of_entry {text : String} (h : d.entry path = .ok (.file text.toUTF8)) :
    d.readText path = .ok text := by
  have hread : d.read path = .ok text.toUTF8 := by
    rw [read, h]
    rfl
  have hutf8 : String.fromUTF8? text.toUTF8 = some text := by
    simp only [String.fromUTF8?, String.toUTF8_eq_toByteArray, dif_pos text.isValidUTF8]
    rfl
  simp only [readText, hread, bind, Except.bind, hutf8]

end Disk

end ClrCompiler
