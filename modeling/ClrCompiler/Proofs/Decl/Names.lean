import ClrCompiler.Decl.Module
import Mathlib.Data.List.Basic

/-! The names that a unit mentions. -/

namespace ClrCompiler

def Package.names (p : Package) : List Name := [p.name]

def ClassId.names (id : ClassId) : List Name := id.package.names ++ [id.relative, id.short]

mutual

def TypeRef.names : TypeRef → List Name
  | ⟨id, _, arguments⟩ => id.names ++ TypeRef.namesAll arguments

def TypeRef.namesAll : List TypeRef → List Name
  | [] => []
  | t :: ts => TypeRef.names t ++ TypeRef.namesAll ts

end

namespace Decl

def Parent.names : Parent → List Name
  | .inPackage package => package.names
  | _ => []

def Class.names (c : Class) : List Name :=
  c.id.names ++ c.parent.names ++ c.typeParameters ++ c.annotations.flatMap ClassId.names

def Param.names (p : Param) : List Name := p.name :: p.type.names

mutual

def Expr.names : Expr → List Name
  | .call _ typeArguments arguments => typeArguments ++ Expr.namesAll arguments
  | .field _ => []
  | .value _ _ => []

def Expr.namesAll : List Expr → List Name
  | [] => []
  | e :: es => Expr.names e ++ Expr.namesAll es

end

def Body.names : Body → List Name
  | .expression value => value.names
  | .block statements => statements.flatMap Expr.names

def Function.names (f : Function) : List Name :=
  f.name :: f.parent.names ++ f.returnType.names ++ f.typeParameters ++
    f.params.flatMap Param.names ++ f.annotations.flatMap ClassId.names ++
    f.body.toList.flatMap Body.names

def Field.names (f : Field) : List Name := f.name :: f.type.names ++ f.parent.names

def Property.names (p : Property) : List Name := p.name :: p.parent.names

def Module.names (m : Module) : List Name :=
  m.name :: m.classes.toList.flatMap Class.names ++ m.functions.toList.flatMap Function.names ++
    m.fields.toList.flatMap Field.names ++ m.entries.toList.map EnumEntry.name ++
    m.properties.toList.flatMap Property.names

def Module.accessed? (m : Module) (ref : FunctionRef) : Option Property :=
  (m.function? ref).bind fun f => f.property.bind fun p => (m.property? p).filter fun property =>
    property.getter = some ref ∨ property.setter = some ref

def Session.NamesStored (s : Session) : Prop := ∀ n ∈ s.module.names, n.raw < s.names.size

lemma Expr.namesAll_eq_flatMap (es : List Expr) : namesAll es = es.flatMap names := by
  induction es with
  | nil => rfl
  | cons e es ih => rw [namesAll, ih, List.flatMap_cons]

namespace Module

variable {m : Module} {n : Name}

lemma mem_names : n ∈ m.names ↔ n = m.name ∨ (∃ c ∈ m.classes, n ∈ c.names) ∨
    (∃ f ∈ m.functions, n ∈ f.names) ∨ (∃ f ∈ m.fields, n ∈ f.names) ∨
    (∃ e ∈ m.entries, e.name = n) ∨ ∃ p ∈ m.properties, n ∈ p.names := by
  simp only [names, List.cons_append, List.mem_cons, List.mem_append, List.mem_flatMap,
    List.mem_map, Array.mem_toList_iff, or_assoc]

lemma names_of_class {ref : ClassRef} {c : Class} (hc : m.class? ref = some c) :
    c.names ⊆ m.names :=
  fun _ hn => mem_names.mpr (.inr (.inl ⟨c, Array.mem_of_getElem? hc, hn⟩))

lemma names_of_function {ref : FunctionRef} {f : Function} (hf : m.function? ref = some f) :
    f.names ⊆ m.names :=
  fun _ hn => mem_names.mpr (.inr (.inr (.inl ⟨f, Array.mem_of_getElem? hf, hn⟩)))

lemma name_of_entry {ref : EntryRef} {e : EnumEntry} (he : m.entry? ref = some e) :
    e.name ∈ m.names :=
  mem_names.mpr (.inr (.inr (.inr (.inr (.inl ⟨e, Array.mem_of_getElem? he, rfl⟩)))))

lemma names_of_property {ref : PropertyRef} {p : Property} (hp : m.property? ref = some p) :
    p.names ⊆ m.names :=
  fun _ hn => mem_names.mpr (.inr (.inr (.inr (.inr (.inr ⟨p, Array.mem_of_getElem? hp, hn⟩)))))

lemma accessed?_eq_some {ref : FunctionRef} {p : Property} : m.accessed? ref = some p ↔
    ∃ f owner, m.function? ref = some f ∧ f.property = some owner ∧ m.property? owner = some p ∧
      (p.getter = some ref ∨ p.setter = some ref) := by
  simp only [accessed?, Option.bind_eq_some_iff, Option.filter_eq_some_iff, decide_eq_true_eq,
    exists_and_left]

lemma name_of_accessed {ref : FunctionRef} {p : Property} (h : m.accessed? ref = some p) :
    p.name ∈ m.names := by
  obtain ⟨_, _, -, -, hp, -⟩ := accessed?_eq_some.mp h
  exact names_of_property hp List.mem_cons_self

end Module

end Decl

end ClrCompiler
