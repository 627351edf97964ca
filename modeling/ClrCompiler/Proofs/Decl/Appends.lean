import ClrCompiler.Proofs.Decl.Made
import Mathlib.Data.List.Nodup

/-! Requests only append, and once for each key: a run of requests ends with the unit it started
with and the declarations that the tables record, each of them recorded once. -/

namespace ClrCompiler.Decl

open Work Derived

namespace Derived

def all (d : Derived) : List Row :=
  d.entryFields.map (fun p => .entryField p.1 p.2) ++
    d.instanceFields.map (fun p => .instanceField p.1 p.2) ++
    d.interfaceCompanionFields.map (fun p => .interfaceCompanionField p.1 p.2) ++
    d.staticPairs.map (fun p => .staticPair p.1 p.2) ++
    d.defaultImpls.map (fun p => .defaultImpls p.1 p.2) ++
    d.redirections.map fun p => .redirection p.1 p.2

lemma all_record (d : Derived) (e : Row) : (d.record e).all.Perm (d.all ++ [e]) := by
  rw [List.perm_iff_count]
  intro other
  cases e <;>
    simp [record, all, Table.entryFields, Table.instanceFields, Table.interfaceCompanionFields,
      Table.staticPairs, Table.defaultImpls, Table.redirections, List.count_cons] <;>
    omega

lemma all_recordAll (d : Derived) (added : List Row) :
    (d.recordAll added).all.Perm (d.all ++ added) := by
  induction added generalizing d with
  | nil => simp [recordAll]
  | cons e rest ih =>
    have hrest := (ih (d.record e)).trans ((d.all_record e).append_right rest)
    rw [List.append_assoc] at hrest
    exact hrest

lemma length_fields_all (d : Derived) : (d.all.flatMap Row.fields).length =
    d.entryFields.length + d.instanceFields.length + d.interfaceCompanionFields.length := by
  simp [all, List.flatMap_append, List.flatMap_map, Row.fields, Nat.add_assoc]

lemma length_classes_all (d : Derived) :
    (d.all.flatMap Row.classes).length = d.defaultImpls.length := by
  simp [all, List.flatMap_append, List.flatMap_map, Row.classes]

lemma length_functions_all (d : Derived) : (d.all.flatMap Row.functions).length =
    d.redirections.length + d.staticPairs.length +
      d.staticPairs.countP fun p => p.2.companion ≠ p.1 := by
  have hpairs (ps : List (FunctionRef × StaticPair)) :
      (ps.flatMap fun p => (Row.staticPair p.1 p.2).functions).length =
        ps.length + ps.countP fun p => p.2.companion ≠ p.1 := by
    induction ps with
    | nil => rfl
    | cons p ps ih =>
      rw [List.flatMap_cons, List.length_append, ih, List.countP_cons, Row.functions]
      by_cases h : p.2.companion = p.1 <;> simp [h] <;> omega
  have hall : (d.all.flatMap Row.functions).length =
      (d.staticPairs.flatMap fun p => (Row.staticPair p.1 p.2).functions).length +
        d.redirections.length := by
    simp [all, List.flatMap_append, List.flatMap_map, Row.functions]
  rw [hall, hpairs]
  omega

end Derived

namespace Derived.Key

variable {m : Module} {d : Derived} {k other : Key}

lemma mem_lacking : other ∈ k.lacking m d ↔
    d.at? k = none ∧ d.at? other = none ∧ (other ∈ k.first m ∨ other = k) := by
  rw [lacking]
  cases hk : d.at? k with
  | some e => simp
  | none =>
    simp only [Option.isSome_none, Bool.false_eq_true, if_false, List.mem_append, List.mem_filter,
      Option.isNone_iff_eq_none, List.mem_singleton, true_and]
    constructor
    · rintro (⟨hfirst, hother⟩ | rfl)
      · exact ⟨hother, .inl hfirst⟩
      · exact ⟨hk, .inr rfl⟩
    · rintro ⟨hother, hfirst | rfl⟩
      · exact .inl ⟨hfirst, hother⟩
      · exact .inr rfl

lemma at?_of_mem_lacking (h : other ∈ k.lacking m d) : d.at? other = none :=
  (mem_lacking.mp h).2.1

lemma nodup_lacking (m : Module) (d : Derived) (k : Key) : (k.lacking m d).Nodup := by
  rw [lacking]
  split
  · exact .nil
  · rcases k.first_cases m with hfirst | ⟨ref, c, rfl, hfirst⟩ <;> rw [hfirst]
    · simp
    · cases hc : d.at? (.instanceField c) <;> simp [hc]

end Derived.Key

namespace Session

inductive Asks (s : Session) : Session → Prop
  | start : Asks s s
  | request {t u : Session} (r : Request) {a : r.Result} :
      Asks s t → exec r.work t = (.ok a, u) → Asks s u

lemma Asks.next {s t : Session} (h : s.Asks t) (r : Request) {a : r.Result}
    (ha : (exec r.work t).1 = .ok a) : s.Asks (exec r.work t).2 :=
  .request r h (Prod.ext ha rfl)

lemma Asks.makes {s t : Session} (h : s.Asks t) : ∃ new added, s.Makes new added t ∧
    (added.map Row.key).Nodup ∧ ∀ e ∈ added, s.derived.at? e.key = none := by
  induction h with
  | start => exact ⟨_, [], .refl s, .nil, by simp⟩
  | @request t u r a _ h ih =>
    obtain ⟨new, added, hm, hnodup, hfresh⟩ := ih
    obtain ⟨new', added', hm', hkeys, -⟩ := r.obtains h
    have hlacking : ∀ e ∈ added', t.derived.at? e.key = none := by
      intro e he
      have hmem := List.mem_map_of_mem (f := Row.key) he
      rw [hkeys] at hmem
      exact Key.at?_of_mem_lacking hmem
    have hnew : ∀ e ∈ added', s.derived.at? e.key = none ∧ e.key ∉ added.map Row.key := by
      intro e he
      have hnone := hlacking e he
      rw [hm.derived, at?_recordAll, Option.or_eq_none_iff] at hnone
      refine ⟨hnone.1, fun hmem => ?_⟩
      obtain ⟨x, hx, hkey⟩ := List.mem_map.mp hmem
      simpa [hkey] using List.find?_eq_none.mp hnone.2 x hx
    refine ⟨_, added ++ added', hm.trans hm', ?_, ?_⟩
    · rw [List.map_append]
      refine List.nodup_append.mpr ⟨hnodup, hkeys ▸ Key.nodup_lacking _ _ _, ?_⟩
      rintro k hk _ hk' rfl
      obtain ⟨e, he, rfl⟩ := List.mem_map.mp hk'
      exact (hnew e he).2 hk
    · exact List.forall_mem_append.mpr ⟨hfresh, fun e he => (hnew e he).1⟩

lemma Makes.not_hasFunction {s u : Session} {new : Additions} {added : List Row}
    (h : s.Makes new added u) {e : Row} (he : e ∈ added) {ref : FunctionRef}
    (href : ref ∈ e.functions) : ¬s.module.HasFunction ref := by
  have hmem := List.mem_flatMap.mpr ⟨e, he, href⟩
  rw [h.functions] at hmem
  obtain ⟨n, hn, rfl⟩ := List.mem_map.mp hmem
  exact Nat.not_lt.mpr (List.mem_range'_1.mp hn).1

lemma Asks.described {s t u : Session} {r : Request} {a : r.Result} (hw : s.module.WellFormed)
    (hnone : s.derived.at? (r.row s.module a).key = none) (h : exec r.work s = (.ok a, t))
    (hlater : t.Asks u) : ∃ new added, s.Makes new added u ∧
      u.derived.at? (r.row s.module a).key = some (r.row s.module a) ∧
      (r.row s.module a).Described s u ∧ ∀ ref ∈ (r.row s.module a).functions,
        ¬s.module.HasFunction ref := by
  obtain ⟨new, added, hm, -, hat, hd⟩ := r.obtains h
  obtain ⟨new', added', hm', -⟩ := hlater.makes
  have hkept := hm'.at?_of_some hat
  rw [hm.derived, at?_recordAll, hnone, Option.none_or] at hat
  have hmem := List.mem_of_find?_eq_some hat
  exact ⟨_, _, hm.trans hm', hkept, ((hd hw).rows _ hmem).makes hm', fun ref href =>
    hm.not_hasFunction hmem href⟩

/-- All of `s` is in `t` where it was, and the tables of `t` record the rest, each key and each new
declaration once. -/
structure Appended (s t : Session) : Prop where
  oldClasses : ∀ ref c, s.module.class? ref = some c → t.module.class? ref = some c
  oldFunctions : ∀ ref f, s.module.function? ref = some f → t.module.function? ref = some f
  oldFields : ∀ ref f, s.module.field? ref = some f → t.module.field? ref = some f
  entries : t.module.entries = s.module.entries
  properties : t.module.properties = s.module.properties
  topLevel : t.module.topLevel = s.module.topLevel
  fieldCount : t.module.fields.size = s.module.fields.size +
    (t.derived.entryFields.length + t.derived.instanceFields.length +
      t.derived.interfaceCompanionFields.length)
  classCount : t.module.classes.size = s.module.classes.size + t.derived.defaultImpls.length
  functionCount : t.module.functions.size = s.module.functions.size +
    (t.derived.redirections.length + t.derived.staticPairs.length +
      t.derived.staticPairs.countP fun p => p.2.companion ≠ p.1)
  keys : (t.derived.all.map Row.key).Nodup
  classes : (t.derived.all.flatMap Row.classes).Nodup ∧ ∀ ref,
    ref ∈ t.derived.all.flatMap Row.classes ↔ t.module.HasClass ref ∧ ¬s.module.HasClass ref
  functions : (t.derived.all.flatMap Row.functions).Nodup ∧ ∀ ref,
    ref ∈ t.derived.all.flatMap Row.functions ↔
      t.module.HasFunction ref ∧ ¬s.module.HasFunction ref
  fields : (t.derived.all.flatMap Row.fields).Nodup ∧ ∀ ref,
    ref ∈ t.derived.all.flatMap Row.fields ↔ t.module.HasField ref ∧ ¬s.module.HasField ref

theorem asks_appended {s t : Session} (hs : s.derived = .empty) (h : s.Asks t) : s.Appended t := by
  obtain ⟨new, added, hm, hnodup, -⟩ := h.makes
  have hall : t.derived.all.Perm added := by
    have hperm := all_recordAll s.derived added
    rw [← hm.derived, hs] at hperm
    exact hperm
  have hclasses := hall.flatMap_right Row.classes
  have hfunctions := hall.flatMap_right Row.functions
  have hfields := hall.flatMap_right Row.fields
  rw [hm.classes] at hclasses
  rw [hm.functions] at hfunctions
  rw [hm.fields] at hfields
  have hclassSize := hclasses.length_eq
  have hfunctionSize := hfunctions.length_eq
  have hfieldSize := hfields.length_eq
  rw [length_classes_all, List.length_map, List.length_range'] at hclassSize
  rw [length_functions_all, List.length_map, List.length_range'] at hfunctionSize
  rw [length_fields_all, List.length_map, List.length_range'] at hfieldSize
  constructor
  case oldClasses => exact fun ref c => hm.class?_of_some
  case oldFunctions => exact fun ref f => hm.function?_of_some
  case oldFields => exact fun ref f => hm.field?_of_some
  case entries => rw [hm.module, Module.append]
  case properties => rw [hm.module, Module.append]
  case topLevel => rw [hm.module, Module.append]
  case fieldCount => rw [hfieldSize, hm.module, Module.append, Array.size_append]
  case classCount => rw [hclassSize, hm.module, Module.append, Array.size_append]
  case functionCount => rw [hfunctionSize, hm.module, Module.append, Array.size_append]
  case keys => exact (hall.map Row.key).nodup_iff.mpr hnodup
  case classes =>
    simp only [hm.module, Module.HasClass, Module.append, Array.size_append]
    exact nodup_of_perm_range (fun _ => rfl) (fun _ => rfl) hclasses
  case functions =>
    simp only [hm.module, Module.HasFunction, Module.append, Array.size_append]
    exact nodup_of_perm_range (fun _ => rfl) (fun _ => rfl) hfunctions
  case fields =>
    simp only [hm.module, Module.HasField, Module.append, Array.size_append]
    exact nodup_of_perm_range (fun _ => rfl) (fun _ => rfl) hfields

theorem asks_appended_companionUnit :
    let ask (r : Request) (s : Session) := (exec r.work s).2
    let t := ask (.staticPair ⟨1⟩) (ask (.staticPair ⟨0⟩) companionUnit)
    let u := ask (.staticPair ⟨4⟩) (ask (.instanceField ⟨1⟩) t)
    companionUnit.derived = .empty ∧ companionUnit.Asks u ∧ u.module.functions.size = 6 ∧
      u.module.fields.size = 1 ∧ companionUnit.Appended u := by
  intro ask t u
  have hmember : (exec (Derive.staticPair ⟨0⟩) companionUnit).1 = .ok ⟨⟨2⟩, ⟨0⟩⟩ := rfl
  have hexternal : (exec (Derive.staticPair ⟨1⟩) (ask (.staticPair ⟨0⟩) companionUnit)).1 =
      .ok ⟨⟨3⟩, ⟨4⟩⟩ := by
    decide +kernel
  have hfield : (exec (Derive.instanceField ⟨1⟩) t).1 = .ok ⟨0⟩ := by decide +kernel
  -- the last key is a function that was made for the second pair
  have hlast : (exec (Derive.staticPair ⟨4⟩) (ask (.instanceField ⟨1⟩) t)).1 =
      .ok ⟨⟨5⟩, ⟨4⟩⟩ := by
    decide +kernel
  have hasks : companionUnit.Asks u :=
    (((Asks.start.next (.staticPair ⟨0⟩) hmember).next (.staticPair ⟨1⟩) hexternal).next
      (.instanceField ⟨1⟩) hfield).next (.staticPair ⟨4⟩) hlast
  exact ⟨rfl, hasks, by decide +kernel, by decide +kernel, asks_appended rfl hasks⟩

end Session

end ClrCompiler.Decl
