import ClrCompiler.Proofs.Identity
import ClrCompiler.Proofs.Text.Split

/-! The classes around a class. Going outwards cuts the path at its last dot and stores both texts
again, which undoes nesting exactly where the names hold no dot. -/

namespace ClrCompiler

open Interner Naming

lemma Interner.Later.nodup_before {i j : Interner} (h : Later i j) (hj : j.texts.Nodup) :
    i.texts.Nodup :=
  hj.sublist h.texts.sublist

lemma Interner.intern_eq_iff {i : Interner} (hi : i.texts.Nodup) {text : String} {n : Name}
    (hn : n.raw < i.size) : (i.intern text).1 = n ↔ text = i.text n :=
  intern_eq_iff_of_get? (get?_text hi hn)

lemma Interner.intern_text {i : Interner} (hi : i.texts.Nodup) {n : Name} (hn : n.raw < i.size) :
    i.intern (i.text n) = (n, i) :=
  intern_of_get? (get?_text hi hn)

namespace ClassId

structure StoredIn (i : Interner) (id : ClassId) : Prop where
  relative : id.relative.raw < i.size
  short : id.short.raw < i.size

instance (i : Interner) (id : ClassId) : Decidable (id.StoredIn i) :=
  decidable_of_iff (id.relative.raw < i.size ∧ id.short.raw < i.size)
    ⟨fun ⟨hr, hs⟩ => ⟨hr, hs⟩, fun ⟨hr, hs⟩ => ⟨hr, hs⟩⟩

lemma StoredIn.later {i j : Interner} {id : ClassId} (h : id.StoredIn i) (hl : Later i j) :
    id.StoredIn j :=
  ⟨Nat.lt_of_lt_of_le h.relative hl.size_le, Nat.lt_of_lt_of_le h.short hl.size_le⟩

section

variable {i j : Interner} {id : ClassId} {name : Name}

def withPath (package : Package) (path : String) : Naming ClassId := do
  let relative ← Naming.intern path
  let short ← Naming.intern (Text.afterLastDot path)
  return ⟨package, relative, short⟩

lemma run_outer_of_not_isNested (h : id.isNested = false) (i : Interner) :
    id.outer.run i = (none, i) := by
  simp only [outer, h]
  rfl

lemma run_outer_of_isNested (h : id.isNested = true) (i : Interner) :
    id.outer.run i = match Text.beforeLastDot? (i.text id.relative) with
      | none => (none, i)
      | some path =>
        (some ((withPath id.package path).eval i), ((withPath id.package path).run i).2) := by
  simp only [outer, h, if_true]
  change (match Text.beforeLastDot? (i.text id.relative) with
    | none => (pure none : Naming (Option ClassId))
    | some path => _).run i = _
  cases Text.beforeLastDot? (i.text id.relative) <;> rfl

lemma run_outer_of_undotted (h : '.' ∉ (i.text id.relative).toList) :
    id.outer.run i = (none, i) := by
  cases hnested : id.isNested with
  | false => exact run_outer_of_not_isNested hnested i
  | true => rw [run_outer_of_isNested hnested, Text.beforeLastDot?_eq_none h]

lemma run_outer_of_dotted {path last : String} (hnested : id.isNested = true)
    (htext : i.text id.relative = path ++ "." ++ last) (hlast : '.' ∉ last.toList) :
    id.outer.run i =
      (some ((withPath id.package path).eval i), ((withPath id.package path).run i).2) := by
  rw [run_outer_of_isNested hnested, htext, Text.beforeLastDot?_dotted path hlast]

lemma later_withPath (package : Package) (path : String) (i : Interner) :
    Later i ((withPath package path).run i).2 :=
  (later_intern i path).intern _

lemma text_withPath (package : Package) (path : String) (i : Interner) :
    ((withPath package path).run i).2.text ((withPath package path).eval i).relative = path :=
  text_of_get? ((later_intern _ _).get? (get?_intern i path))

lemma text_short_withPath (package : Package) (path : String) (i : Interner) :
    ((withPath package path).run i).2.text ((withPath package path).eval i).short =
      Text.afterLastDot path :=
  text_of_get? (get?_intern _ _)

lemma storedIn_withPath (package : Package) (path : String) (i : Interner) :
    ((withPath package path).eval i).StoredIn ((withPath package path).run i).2 :=
  ⟨lt_of_get? ((later_intern _ _).get? (get?_intern i path)), lt_of_get? (get?_intern _ _)⟩

lemma outer_shortens {around : ClassId} (h : id.outer.run i = (some around, j)) :
    around.relative.raw < j.size ∧
      (j.text around.relative).length < (i.text id.relative).length := by
  cases hnested : id.isNested with
  | false =>
    rw [run_outer_of_not_isNested hnested] at h
    cases h
  | true =>
    by_cases hdot : '.' ∈ (i.text id.relative).toList
    · obtain ⟨path, last, hpath, hlast⟩ := Text.exists_dotted hdot
      rw [run_outer_of_dotted hnested hpath hlast] at h
      cases h
      rw [text_withPath, hpath, String.length_append, String.length_append]
      have hone : ".".length = 1 := rfl
      exact ⟨(storedIn_withPath _ _ _).relative, by omega⟩
    · rw [run_outer_of_undotted hdot] at h
      cases h

lemma replays_withPath (s : Interner) (package : Package) (path : String) :
    Replays s (withPath package path) :=
  (replays_intern s path).andThen fun _ => (replays_intern s _).andThen fun _ => replays_pure s _

lemma replays_outer {s : Interner} (hid : id.relative.raw < s.size) : Replays s id.outer := by
  intro t ht
  have htext {u : Interner} (hu : Later s u) : u.text id.relative = s.text id.relative :=
    hu.text hid
  cases hnested : id.isNested with
  | false =>
    simp only [eval, run_outer_of_not_isNested hnested]
    exact ⟨.refl, fun u _ => trivial⟩
  | true =>
    by_cases hdot : '.' ∈ (s.text id.relative).toList
    · obtain ⟨path, last, hpath, hlast⟩ := Text.exists_dotted hdot
      have hrun {u : Interner} (hu : Later s u) :=
        run_outer_of_dotted (i := u) hnested ((htext hu).trans hpath) hlast
      have hreplays := (replays_withPath s id.package path).mono ht
      rw [eval, hrun ht]
      refine ⟨hreplays.later, fun u hu => ?_⟩
      rw [hrun (ht.trans (hreplays.later.trans hu)), eval, hreplays.again hu]
    · have hrun {u : Interner} (hu : Later s u) : id.outer.run u = (none, u) :=
        run_outer_of_undotted (by rwa [htext hu])
      rw [eval, hrun ht]
      exact ⟨.refl, fun u hu => hrun (ht.trans hu)⟩

lemma later_outer (id : ClassId) (i : Interner) : Later i (id.outer.run i).2 := by
  cases hnested : id.isNested with
  | false =>
    rw [run_outer_of_not_isNested hnested]
    exact .refl
  | true =>
    rw [run_outer_of_isNested hnested]
    split
    · exact .refl
    · exact later_withPath id.package _ i

lemma withPath_eq_iff (hi : i.texts.Nodup) (hid : id.StoredIn i) (path : String) :
    (withPath id.package path).eval i = id ↔
      path = i.text id.relative ∧ Text.afterLastDot path = i.text id.short := by
  have hl := later_intern i path
  have heval : (withPath id.package path).eval i =
      ⟨id.package, (i.intern path).1, ((i.intern path).2.intern (Text.afterLastDot path)).1⟩ := rfl
  rw [heval, ← intern_eq_iff hi hid.relative, ← hl.text hid.short,
    ← intern_eq_iff (hl.nodup hi) (hid.later hl).short]
  cases id
  simp

lemma withPath_stored (hi : i.texts.Nodup) (hid : id.StoredIn i)
    (hshort : i.text id.short = Text.afterLastDot (i.text id.relative)) :
    (withPath id.package (i.text id.relative)).run i = (id, i) := by
  have hrun : (withPath id.package (i.text id.relative)).run i =
      (⟨id.package, id.relative,
        (i.intern (Text.afterLastDot (i.text id.relative))).1⟩,
        (i.intern (Text.afterLastDot (i.text id.relative))).2) := by
    rw [withPath, run_bind, Naming.eval]
    rw [show (Naming.intern (i.text id.relative)).run i = (id.relative, i) from
      intern_text hi hid.relative]
    rfl
  rw [hrun, ← hshort, intern_text hi hid.short]

lemma text_nested (id : ClassId) (name : Name) (i : Interner) :
    ((id.nested name).run i).2.text ((id.nested name).eval i).relative = nestedPath i id name :=
  text_of_get? (get?_intern i _)

@[simp] lemma package_nested (id : ClassId) (name : Name) (i : Interner) :
    ((id.nested name).eval i).package = id.package := rfl

lemma later_nested (id : ClassId) (name : Name) (i : Interner) :
    Later i ((id.nested name).run i).2 :=
  later_intern i _

lemma run_outer_nested (hi : i.texts.Nodup) (hname : name.raw < i.size)
    (hundotted : '.' ∉ (i.text name).toList) :
    ((id.nested name).eval i).outer.run ((id.nested name).run i).2 =
      (some ((withPath id.package (i.text id.relative)).eval ((id.nested name).run i).2),
        ((withPath id.package (i.text id.relative)).run ((id.nested name).run i).2).2) :=
  run_outer_of_dotted (isNested_nested hi id hname) (text_nested id name i) hundotted

lemma outer_nested_eq_some_iff (hi : i.texts.Nodup) (hid : id.StoredIn i)
    (hname : name.raw < i.size) :
    (id.nested name >>= outer).eval i = some id ↔
      '.' ∉ (i.text name).toList ∧ i.text id.short = Text.afterLastDot (i.text id.relative) := by
  have hl := later_nested id name i
  have hiff := withPath_eq_iff (hl.nodup hi) (hid.later hl)
  simp only [hl.text hid.relative, hl.text hid.short] at hiff
  have heval : (id.nested name >>= outer).eval i =
      (((id.nested name).eval i).outer.run ((id.nested name).run i).2).1 := rfl
  rw [heval]
  by_cases hdot : '.' ∈ (i.text name).toList
  · -- the last dot stands inside the name, so the path that is left is longer than the first one
    obtain ⟨path, last, htext, hlast⟩ := Text.exists_dotted hdot
    have hpath : ((id.nested name).run i).2.text ((id.nested name).eval i).relative =
        i.text id.relative ++ "." ++ path ++ "." ++ last := by
      rw [text_nested, nestedPath, htext]
      simp only [String.append_assoc]
    rw [run_outer_of_dotted (isNested_nested hi id hname) hpath hlast]
    have hne : i.text id.relative ++ "." ++ path ≠ i.text id.relative := by
      intro he
      have hlen := congrArg String.length he
      simp only [String.length_append] at hlen
      have hone : ".".length = 1 := rfl
      omega
    have hno : (withPath id.package (i.text id.relative ++ "." ++ path)).eval
        ((id.nested name).run i).2 ≠ id := fun he => hne ((hiff _).mp he).1
    simpa [hdot] using hno
  · rw [run_outer_nested hi hname hdot, Option.some_inj, hiff]
    simp [hdot, eq_comm]

end

/-- A class built from names without dots, with the classes around it, the nearest first. Other
texts may be stored at any time. -/
inductive Nesting : Interner → ClassId → List ClassId → Prop
  | topLevel {i : Interner} {name : Name} (package : Package) (stored : name.raw < i.size)
      (undotted : '.' ∉ (i.text name).toList) : Nesting i (topLevel package name) []
  | nested {i : Interner} {id : ClassId} {around : List ClassId} {name : Name}
      (inside : Nesting i id around) (stored : name.raw < i.size)
      (undotted : '.' ∉ (i.text name).toList) :
      Nesting ((id.nested name).run i).2 ((id.nested name).eval i) (id :: around)
  | later {i j : Interner} {id : ClassId} {around : List ClassId} (before : Nesting i id around)
      (growth : Later i j) : Nesting j id around

def outwards : Nat → ClassId → Naming (Option ClassId)
  | 0, id => return some id
  | steps + 1, id => do
    match ← id.outer with
    | some around => outwards steps around
    | none => return none

section

variable {i j : Interner} {id : ClassId} {around : List ClassId} {name : Name}

lemma storedIn_nested (hname : name.raw < i.size) :
    ((id.nested name).eval i).StoredIn ((id.nested name).run i).2 :=
  ⟨lt_of_get? (get?_intern i _), Nat.lt_of_lt_of_le hname (later_nested id name i).size_le⟩

lemma Nesting.storedIn (h : Nesting i id around) : id.StoredIn i := by
  induction h with
  | topLevel package stored _ => exact ⟨stored, stored⟩
  | nested _ stored _ _ => exact storedIn_nested stored
  | later _ growth ih => exact ih.later growth

lemma Nesting.text_short (h : Nesting i id around) :
    i.text id.short = Text.afterLastDot (i.text id.relative) := by
  induction h with
  | topLevel package _ undotted => exact (Text.afterLastDot_eq_self undotted).symm
  | @nested i id around name _ stored undotted _ =>
    rw [text_nested, nestedPath, Text.afterLastDot_dotted _ undotted]
    exact (later_nested id name i).text stored
  | later before growth ih =>
    rw [growth.text before.storedIn.short, growth.text before.storedIn.relative, ih]

lemma Nesting.run_outer (h : Nesting i id around) (hi : i.texts.Nodup) :
    id.outer.run i = (around.head?, i) := by
  induction h with
  | topLevel package _ _ => exact run_outer_of_not_isNested (topLevel_isNested package _) _
  | @nested i id around name inside stored undotted _ =>
    have hl := later_nested id name i
    have hpath := withPath_stored hi (inside.storedIn.later hl) (inside.later hl).text_short
    rw [hl.text inside.storedIn.relative] at hpath
    rw [run_outer_nested (hl.nodup_before hi) stored undotted, eval, hpath]
    rfl
  | later before growth ih =>
    have hrun := ih (growth.nodup_before hi)
    have hreplays := replays_outer before.storedIn.relative
    rw [hreplays.again (by rw [hrun]; exact growth), eval, hrun]

lemma Nesting.tail {next : ClassId} (h : Nesting i id (next :: around)) :
    Nesting i next around := by
  generalize hall : next :: around = all at h
  induction h with
  | topLevel => cases hall
  | nested inside =>
    cases hall
    exact inside.later (later_nested _ _ _)
  | later _ growth ih => exact (ih hall).later growth

lemma Nesting.length_le (h : Nesting i id around) :
    around.length ≤ (i.text id.relative).length := by
  induction h with
  | topLevel => exact Nat.zero_le _
  | nested inside _ _ ih =>
    rw [text_nested, nestedPath, String.length_append, String.length_append, List.length_cons]
    have hone : ".".length = 1 := rfl
    omega
  | later before growth ih => rwa [growth.text before.storedIn.relative]

lemma Nesting.run_outwards (h : Nesting i id around) (hi : i.texts.Nodup) (steps : Nat) :
    (outwards steps id).run i = ((id :: around)[steps]?, i) := by
  induction steps generalizing id around with
  | zero => rfl
  | succ steps ih =>
    rw [outwards, run_bind, eval, h.run_outer hi, List.getElem?_cons_succ]
    cases around with
    | nil => rfl
    | cons next around => exact ih h.tail

end

theorem outer_undoes_nested {i : Interner} (hi : i.Reachable) :
    (∀ id name, id.StoredIn i → name.raw < i.size →
      ((id.nested name >>= outer).eval i = some id ↔
        '.' ∉ (i.text name).toList ∧
          i.text id.short = Text.afterLastDot (i.text id.relative))) ∧
    ∀ id around, Nesting i id around →
      (∀ steps, (outwards steps id).run i = ((id :: around)[steps]?, i)) ∧
      (outwards (around.length + 1) id).eval i = none := by
  refine ⟨fun id name hid hname => outer_nested_eq_some_iff hi.nodup hid hname,
    fun id around h => ?_⟩
  have hrun := h.run_outwards hi.nodup
  refine ⟨hrun, ?_⟩
  rw [eval, hrun]
  exact List.getElem?_eq_none (by simp)

theorem outer_undoes_nested_mapCompanion :
    let map := topLevel .kotlinCollections .map
    let companion := (map.nested .companion).eval .new
    let unnamed := (companion.nested .empty).eval ((map.nested .companion).run .new).2
    let names := ((companion.nested .empty).run ((map.nested .companion).run .new).2).2
    (unnamed.text names = "kotlin.collections/Map.Companion." ∧
      (∀ steps, (outwards steps unnamed).run names = ([unnamed, companion, map][steps]?, names)) ∧
      (outwards 3 unnamed).eval names = none) ∧
    (companion.nested .kotlinClr >>= outer).eval names ≠ some companion := by
  intro map companion unnamed names
  have hmap : Nesting .new map [] := .topLevel _ (by decide) (by decide)
  have hcompanion : Nesting _ companion [map] := hmap.nested (by decide) (by decide)
  have hunnamed : Nesting names unnamed [companion, map] :=
    hcompanion.nested (by decide) (by decide)
  have hnames : names.Reachable := (later_nested _ _ _).trans (later_nested _ _ _)
  obtain ⟨hiff, hwalk⟩ := outer_undoes_nested hnames
  refine ⟨⟨by decide +kernel, hwalk _ _ hunnamed⟩, fun he => ?_⟩
  have hstored := (hcompanion.later (later_nested companion .empty _)).storedIn
  exact absurd ((hiff companion .kotlinClr hstored (by decide)).mp he).1 (by decide)

end ClassId

end ClrCompiler
