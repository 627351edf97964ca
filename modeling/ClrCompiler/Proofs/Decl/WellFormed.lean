import ClrCompiler.Decl.Module
import Mathlib.Data.List.Basic

/-! Units in which every reference leads to a declaration. -/

namespace ClrCompiler.Decl

namespace Module

def HasClass (m : Module) (ref : ClassRef) : Prop := ref.index < m.classes.size

def HasFunction (m : Module) (ref : FunctionRef) : Prop := ref.index < m.functions.size

def HasField (m : Module) (ref : FieldRef) : Prop := ref.index < m.fields.size

def HasEntry (m : Module) (ref : EntryRef) : Prop := ref.index < m.entries.size

def HasProperty (m : Module) (ref : PropertyRef) : Prop := ref.index < m.properties.size

def HasParent (m : Module) : Parent → Prop
  | .inPackage _ => True
  | .inClass c => m.HasClass c
  | .inFunction f => m.HasFunction f

def HasMember (m : Module) : Member → Prop
  | .classDecl c => m.HasClass c
  | .function f => m.HasFunction f
  | .field f => m.HasField f
  | .property p => m.HasProperty p
  | .entry e => m.HasEntry e

end Module

inductive Expr.Within (m : Module) : Expr → Prop
  | call {target : FunctionRef} {typeArguments : List Name} {arguments : List Expr} :
      m.HasFunction target → (∀ a ∈ arguments, Within m a) →
        Within m (.call target typeArguments arguments)
  | field {ref : FieldRef} : m.HasField ref → Within m (.field ref)
  | value {function : FunctionRef} (position : Nat) :
      m.HasFunction function → Within m (.value function position)

def Body.Within (m : Module) : Body → Prop
  | .expression value => value.Within m
  | .block statements => ∀ e ∈ statements, e.Within m

structure Function.Within (m : Module) (f : Function) : Prop where
  parent : m.HasParent f.parent
  overridden : ∀ g ∈ f.overridden, m.HasFunction g
  property : ∀ p ∈ f.property, m.HasProperty p
  attributeOwner : ∀ g ∈ f.attributeOwner, m.HasFunction g
  body : ∀ b ∈ f.body, b.Within m

structure Module.WellFormed (m : Module) : Prop where
  topLevel : ∀ c ∈ m.topLevel, m.HasClass c
  classParents : ∀ c ∈ m.classes, m.HasParent c.parent
  classMembers : ∀ c ∈ m.classes, ∀ member ∈ c.members, m.HasMember member
  functions : ∀ f ∈ m.functions, f.Within m
  fieldParents : ∀ f ∈ m.fields, m.HasParent f.parent
  entryOwners : ∀ e ∈ m.entries, m.HasClass e.owner
  propertyParents : ∀ p ∈ m.properties, m.HasParent p.parent
  getters : ∀ p ∈ m.properties, ∀ f ∈ p.getter, m.HasFunction f
  setters : ∀ p ∈ m.properties, ∀ f ∈ p.setter, m.HasFunction f

namespace Module

variable {m : Module}

lemma class?_isSome {ref : ClassRef} (h : m.HasClass ref) : (m.class? ref).isSome := by
  simpa [class?, HasClass] using h

lemma property?_isSome {ref : PropertyRef} (h : m.HasProperty ref) : (m.property? ref).isSome := by
  simpa [property?, HasProperty] using h

lemma HasParent.hasClass {p : Parent} (h : m.HasParent p) {owner : ClassRef}
    (ho : p.class? = some owner) : m.HasClass owner := by
  cases p with
  | inClass c =>
    cases ho
    exact h
  | inPackage _ => cases ho
  | inFunction _ => cases ho

lemma WellFormed.outer {ref : ClassRef} {c : Class} (h : m.WellFormed)
    (hc : m.class? ref = some c) {o : ClassRef} (ho : c.parent.class? = some o) :
    (m.class? o).isSome :=
  class?_isSome ((h.classParents c (Array.mem_of_getElem? hc)).hasClass ho)

lemma WellFormed.property {ref : FunctionRef} {f : Function} (h : m.WellFormed)
    (hf : m.function? ref = some f) {p : PropertyRef} (hp : f.property = some p) :
    (m.property? p).isSome :=
  property?_isSome ((h.functions f (Array.mem_of_getElem? hf)).property p hp)

end Module

end ClrCompiler.Decl
