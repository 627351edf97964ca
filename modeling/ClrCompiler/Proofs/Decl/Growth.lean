import ClrCompiler.Proofs.Decl.StaticPairs
import ClrCompiler.Proofs.Naming
import Mathlib.Data.List.Nodup
import Mathlib.Data.List.Perm.Basic

/-! Growth of a session: new declarations stand at the end of the unit, and each is recorded in one
row of one table. -/

namespace ClrCompiler.Decl

open Interner

namespace Derived

inductive Key where
  | entryField (ref : EntryRef)
  | instanceField (ref : ClassRef)
  | interfaceCompanionField (ref : ClassRef)
  | staticPair (ref : FunctionRef)
  | defaultImpls (ref : ClassRef)
  | redirection (ref : FunctionRef)
  deriving DecidableEq

inductive Row where
  | entryField (ref : EntryRef) (field : FieldRef)
  | instanceField (ref : ClassRef) (field : FieldRef)
  | interfaceCompanionField (ref : ClassRef) (field : FieldRef)
  | staticPair (ref : FunctionRef) (pair : StaticPair)
  | defaultImpls (ref impls : ClassRef)
  | redirection (ref bridge : FunctionRef)
  deriving DecidableEq

namespace Row

def key : Row → Key
  | .entryField ref _ => .entryField ref
  | .instanceField ref _ => .instanceField ref
  | .interfaceCompanionField ref _ => .interfaceCompanionField ref
  | .staticPair ref _ => .staticPair ref
  | .defaultImpls ref _ => .defaultImpls ref
  | .redirection ref _ => .redirection ref

def classes : Row → List ClassRef
  | .defaultImpls _ impls => [impls]
  | _ => []

/-- The functions made for a row: a member that stands for itself in its pair is not one of
them. -/
def functions : Row → List FunctionRef
  | .staticPair ref pair =>
    if pair.companion = ref then [pair.static] else [pair.static, pair.companion]
  | .redirection _ bridge => [bridge]
  | _ => []

def fields : Row → List FieldRef
  | .entryField _ field => [field]
  | .instanceField _ field => [field]
  | .interfaceCompanionField _ field => [field]
  | _ => []

end Row

def record (d : Derived) : Row → Derived
  | .entryField ref field => Table.entryFields.record d ref field
  | .instanceField ref field => Table.instanceFields.record d ref field
  | .interfaceCompanionField ref field => Table.interfaceCompanionFields.record d ref field
  | .staticPair ref pair => Table.staticPairs.record d ref pair
  | .defaultImpls ref impls => Table.defaultImpls.record d ref impls
  | .redirection ref bridge => Table.redirections.record d ref bridge

def at? (d : Derived) : Key → Option Row
  | .entryField ref => (d.entryFields.lookup ref).map (.entryField ref)
  | .instanceField ref => (d.instanceFields.lookup ref).map (.instanceField ref)
  | .interfaceCompanionField ref =>
    (d.interfaceCompanionFields.lookup ref).map (.interfaceCompanionField ref)
  | .staticPair ref => (d.staticPairs.lookup ref).map (.staticPair ref)
  | .defaultImpls ref => (d.defaultImpls.lookup ref).map (.defaultImpls ref)
  | .redirection ref => (d.redirections.lookup ref).map (.redirection ref)

lemma map_lookup_append {κ α : Type} [DecidableEq κ] (xs : List (κ × α)) (key ref : κ) (a : α)
    (f : κ → α → Row) :
    ((xs ++ [(ref, a)]).lookup key).map (f key) =
      ((xs.lookup key).map (f key)).or (if ref = key then some (f ref a) else none) := by
  rw [List.lookup_append]
  by_cases h : ref = key
  · subst h
    cases xs.lookup ref <;> simp
  · have hne : (key == ref) = false := by simpa using Ne.symm h
    cases xs.lookup key <;> simp [List.lookup_cons, h, hne]

lemma at?_record (d : Derived) (e : Row) (k : Key) :
    (d.record e).at? k = (d.at? k).or (if e.key = k then some e else none) := by
  cases e <;> cases k <;>
    simp [record, at?, Row.key, Table.entryFields, Table.instanceFields,
      Table.interfaceCompanionFields, Table.staticPairs, Table.defaultImpls, Table.redirections,
      map_lookup_append]

def recordAll (d : Derived) (added : List Row) : Derived := added.foldl record d

lemma recordAll_append (d : Derived) (xs ys : List Row) :
    d.recordAll (xs ++ ys) = (d.recordAll xs).recordAll ys :=
  List.foldl_append

lemma at?_recordAll (d : Derived) (added : List Row) (k : Key) :
    (d.recordAll added).at? k = (d.at? k).or (added.find? (·.key = k)) := by
  induction added generalizing d with
  | nil => exact Option.or_none.symm
  | cons e rest ih =>
    have hstep : (d.recordAll (e :: rest)).at? k = ((d.record e).recordAll rest).at? k := rfl
    rw [hstep, ih, at?_record, Option.or_assoc, List.find?_cons]
    by_cases he : e.key = k <;> simp [he]

lemma size_record (d : Derived) (e : Row) : (d.record e).size = d.size + 1 := by
  cases e <;>
    simp [record, size, Table.entryFields, Table.instanceFields, Table.interfaceCompanionFields,
      Table.staticPairs, Table.defaultImpls, Table.redirections] <;>
    omega

lemma size_recordAll (d : Derived) (added : List Row) :
    (d.recordAll added).size = d.size + added.length := by
  induction added generalizing d with
  | nil => rfl
  | cons e rest ih =>
    have hstep : (d.recordAll (e :: rest)).size = ((d.record e).recordAll rest).size := rfl
    rw [hstep, ih, size_record, List.length_cons]
    omega

end Derived

structure Additions where
  classes : Array Class
  functions : Array Function
  fields : Array Field

namespace Module

def append (m : Module) (new : Additions) : Module :=
  { m with
    classes := m.classes ++ new.classes
    functions := m.functions ++ new.functions
    fields := m.fields ++ new.fields }

variable {m : Module} {new : Additions}

lemma class?_append {ref : ClassRef} (h : m.HasClass ref) :
    (m.append new).class? ref = m.class? ref :=
  Array.getElem?_append_left h

lemma function?_append {ref : FunctionRef} (h : m.HasFunction ref) :
    (m.append new).function? ref = m.function? ref :=
  Array.getElem?_append_left h

lemma field?_append {ref : FieldRef} (h : m.HasField ref) :
    (m.append new).field? ref = m.field? ref :=
  Array.getElem?_append_left h

end Module

lemma nodup_of_perm_range {α : Type} {mk : Nat → α} {index : α → Nat} (hmk : ∀ a, mk (index a) = a)
    (hindex : ∀ n, index (mk n) = n) {refs : List α} {first count : Nat}
    (h : refs.Perm ((List.range' first count).map mk)) :
    refs.Nodup ∧ ∀ ref, ref ∈ refs ↔ index ref < first + count ∧ ¬index ref < first := by
  have hinjective : Function.Injective mk := fun m n he => by
    rw [← hindex m, he, hindex]
  refine ⟨h.nodup_iff.mpr ((List.nodup_range').map hinjective), fun ref => ?_⟩
  rw [h.mem_iff, List.mem_map]
  constructor
  · rintro ⟨n, hn, rfl⟩
    rw [List.mem_range'_1] at hn
    rw [hindex]
    omega
  · rintro ⟨hlt, hge⟩
    exact ⟨index ref, List.mem_range'_1.mpr (by omega), hmk ref⟩

open Derived

section

variable {α : Type} {mk : Nat → α} {index : α → Nat} {refs : Row → List α} {added : List Row}

lemma exists_row_of_range (hmk : ∀ a, mk (index a) = a) (hindex : ∀ n, index (mk n) = n)
    {first count : Nat} (h : added.flatMap refs = (List.range' first count).map mk) {a : α}
    (hlt : index a < first + count) (hge : ¬index a < first) : ∃ e ∈ added, a ∈ refs e :=
  List.mem_flatMap.mp (((nodup_of_perm_range hmk hindex (.of_eq h)).2 a).mpr ⟨hlt, hge⟩)

lemma old_or_recorded {β : Type} (hmk : ∀ a, mk (index a) = a) (hindex : ∀ n, index (mk n) = n)
    {old xs : Array β} (h : added.flatMap refs = (List.range' old.size xs.size).map mk) {b : β}
    (hb : b ∈ old ++ xs) :
    b ∈ old ∨ ∃ e ∈ added, ∃ a ∈ refs e, (old ++ xs)[index a]? = some b := by
  obtain ⟨i, hi⟩ := Array.mem_iff_getElem?.mp hb
  by_cases hin : i < old.size
  · rw [Array.getElem?_append_left hin] at hi
    exact .inl (Array.mem_of_getElem? hi)
  · have hlt : i < (old ++ xs).size := (Array.getElem?_eq_some_iff.mp hi).1
    rw [Array.size_append, ← hindex i] at hlt
    obtain ⟨e, he, ha⟩ := exists_row_of_range hmk hindex h hlt (by rwa [hindex])
    exact .inr ⟨e, he, mk i, ha, by rwa [hindex]⟩

end

namespace Session

/-- `u` is `s` with the declarations `new`, which are recorded by the rows `added` in this
order. -/
structure Makes (s : Session) (new : Additions) (added : List Row) (u : Session) : Prop where
  module : u.module = s.module.append new
  derived : u.derived = s.derived.recordAll added
  classes : added.flatMap Row.classes =
    (List.range' s.module.classes.size new.classes.size).map ClassRef.mk
  functions : added.flatMap Row.functions =
    (List.range' s.module.functions.size new.functions.size).map FunctionRef.mk
  fields : added.flatMap Row.fields =
    (List.range' s.module.fields.size new.fields.size).map FieldRef.mk
  names : Later s.names u.names
  settings : u.settings = s.settings
  suspendMains : u.suspendMains = s.suspendMains

namespace Makes

variable {s t u : Session} {new new' : Additions} {added added' : List Row}

lemma refl (s : Session) : s.Makes ⟨#[], #[], #[]⟩ [] s where
  module := by simp [Module.append]
  derived := rfl
  classes := rfl
  functions := rfl
  fields := rfl
  names := .refl
  settings := rfl
  suspendMains := rfl

lemma trans (h : s.Makes new added t) (k : t.Makes new' added' u) :
    s.Makes ⟨new.classes ++ new'.classes, new.functions ++ new'.functions,
      new.fields ++ new'.fields⟩ (added ++ added') u := by
  have hrange {α : Type} (mk : Nat → α) (start m n : Nat) :
      (List.range' start m).map mk ++ (List.range' (start + m) n).map mk =
        (List.range' start (m + n)).map mk := by
    rw [← List.map_append, List.range'_append_1]
  have hsizes : t.module = s.module.append new := h.module
  have hclasses := k.classes
  have hfunctions := k.functions
  have hfields := k.fields
  simp only [hsizes, Module.append, Array.size_append] at hclasses hfunctions hfields
  constructor
  · rw [k.module, h.module]
    simp [Module.append, Array.append_assoc]
  · rw [k.derived, h.derived, recordAll_append]
  · rw [List.flatMap_append, h.classes, hclasses, hrange, Array.size_append]
  · rw [List.flatMap_append, h.functions, hfunctions, hrange, Array.size_append]
  · rw [List.flatMap_append, h.fields, hfields, hrange, Array.size_append]
  · exact h.names.trans k.names
  · rw [k.settings, h.settings]
  · rw [k.suspendMains, h.suspendMains]

lemma class?_of_some (h : s.Makes new added u) {ref : ClassRef} {c : Class}
    (hc : s.module.class? ref = some c) : u.module.class? ref = some c := by
  rw [h.module, Module.class?_append (Array.getElem?_eq_some_iff.mp hc).1, hc]

lemma function?_of_some (h : s.Makes new added u) {ref : FunctionRef} {f : Function}
    (hf : s.module.function? ref = some f) : u.module.function? ref = some f := by
  rw [h.module, Module.function?_append (Array.getElem?_eq_some_iff.mp hf).1, hf]

lemma field?_of_some (h : s.Makes new added u) {ref : FieldRef} {f : Field}
    (hf : s.module.field? ref = some f) : u.module.field? ref = some f := by
  rw [h.module, Module.field?_append (Array.getElem?_eq_some_iff.mp hf).1, hf]

lemma at?_of_some (h : s.Makes new added u) {k : Key} {e : Row}
    (he : s.derived.at? k = some e) : u.derived.at? k = some e := by
  rw [h.derived, at?_recordAll, he, Option.some_or]

end Makes

end Session

end ClrCompiler.Decl
