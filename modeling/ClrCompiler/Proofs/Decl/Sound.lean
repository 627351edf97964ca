import ClrCompiler.Proofs.Decl.WellFormed
import Mathlib.Order.Defs.Unbundled

/-! Units in which also every read of a parameter finds one. A unit stays so when a declaration is
added whose references lead to declarations, and when a function is replaced by one with the same
parameters. -/

namespace ClrCompiler.Decl

inductive Expr.ReadsParams (m : Module) : Expr → Prop
  | call {target : FunctionRef} {typeArguments : List Name} {arguments : List Expr} :
      (∀ a ∈ arguments, ReadsParams m a) → ReadsParams m (.call target typeArguments arguments)
  | field (ref : FieldRef) : ReadsParams m (.field ref)
  | value {ref : FunctionRef} {f : Function} {position : Nat} :
      m.function? ref = some f → position < f.params.length → ReadsParams m (.value ref position)

def Body.expressions : Body → List Expr
  | .expression value => [value]
  | .block statements => statements

def Function.ReadsParams (m : Module) (f : Function) : Prop :=
  ∀ b ∈ f.body, ∀ e ∈ b.expressions, e.ReadsParams m

structure Module.Sound (m : Module) : Prop where
  wellFormed : m.WellFormed
  reads : ∀ f ∈ m.functions, f.ReadsParams m

structure Module.Extends (m n : Module) : Prop where
  classes : m.classes.size ≤ n.classes.size
  functions : ∀ ref f, m.function? ref = some f →
    ∃ g, n.function? ref = some g ∧ g.params = f.params
  fields : m.fields.size ≤ n.fields.size
  entries : m.entries.size ≤ n.entries.size
  properties : m.properties.size ≤ n.properties.size

lemma Module.function?_isSome {m : Module} {ref : FunctionRef} :
    (m.function? ref).isSome ↔ m.HasFunction ref := by
  simp [function?, HasFunction]

namespace Module.Extends

variable {m n : Module}

instance : Std.Refl Module.Extends :=
  ⟨fun _ =>
    ⟨Nat.le_refl _, fun _ f hf => ⟨f, hf, rfl⟩, Nat.le_refl _, Nat.le_refl _, Nat.le_refl _⟩⟩

instance : IsTrans Module Module.Extends where
  trans _ _ _ h k :=
    { classes := Nat.le_trans h.classes k.classes
      functions := by
        intro ref f hf
        obtain ⟨g, hg, hfg⟩ := h.functions ref f hf
        obtain ⟨g', hg', hgg'⟩ := k.functions ref g hg
        exact ⟨g', hg', hgg'.trans hfg⟩
      fields := Nat.le_trans h.fields k.fields
      entries := Nat.le_trans h.entries k.entries
      properties := Nat.le_trans h.properties k.properties }

lemma hasClass (h : m.Extends n) {ref : ClassRef} (hr : m.HasClass ref) : n.HasClass ref :=
  Nat.lt_of_lt_of_le hr h.classes

lemma hasFunction (h : m.Extends n) {ref : FunctionRef} (hr : m.HasFunction ref) :
    n.HasFunction ref := by
  obtain ⟨f, hf⟩ := Option.isSome_iff_exists.mp (function?_isSome.mpr hr)
  obtain ⟨g, hg, -⟩ := h.functions ref f hf
  exact function?_isSome.mp (hg ▸ rfl)

lemma hasField (h : m.Extends n) {ref : FieldRef} (hr : m.HasField ref) : n.HasField ref :=
  Nat.lt_of_lt_of_le hr h.fields

lemma hasEntry (h : m.Extends n) {ref : EntryRef} (hr : m.HasEntry ref) : n.HasEntry ref :=
  Nat.lt_of_lt_of_le hr h.entries

lemma hasProperty (h : m.Extends n) {ref : PropertyRef} (hr : m.HasProperty ref) :
    n.HasProperty ref :=
  Nat.lt_of_lt_of_le hr h.properties

lemma hasParent (h : m.Extends n) {p : Parent} (hp : m.HasParent p) : n.HasParent p := by
  cases p with
  | inPackage package => trivial
  | inClass owner => exact h.hasClass hp
  | inFunction owner => exact h.hasFunction hp

lemma hasMember (h : m.Extends n) {member : Member} (hm : m.HasMember member) :
    n.HasMember member := by
  cases member with
  | classDecl ref => exact h.hasClass hm
  | function ref => exact h.hasFunction hm
  | field ref => exact h.hasField hm
  | property ref => exact h.hasProperty hm
  | entry ref => exact h.hasEntry hm

lemma expr (h : m.Extends n) {e : Expr} (he : e.Within m) : e.Within n := by
  induction he with
  | call ht _ ih => exact .call (h.hasFunction ht) ih
  | field hf => exact .field (h.hasField hf)
  | value position hf => exact .value position (h.hasFunction hf)

lemma readsParams (h : m.Extends n) {e : Expr} (he : e.ReadsParams m) : e.ReadsParams n := by
  induction he with
  | call _ ih => exact .call ih
  | field ref => exact .field ref
  | value hf hlt =>
    obtain ⟨g, hg, hparams⟩ := h.functions _ _ hf
    exact .value hg (hparams ▸ hlt)

lemma body (h : m.Extends n) {b : Body} (hb : b.Within m) : b.Within n := by
  cases b with
  | expression value => exact h.expr hb
  | block statements => exact fun e he => h.expr (hb e he)

lemma function (h : m.Extends n) {f : Function} (hf : f.Within m) : f.Within n where
  parent := h.hasParent hf.parent
  overridden g hg := h.hasFunction (hf.overridden g hg)
  property p hp := h.hasProperty (hf.property p hp)
  attributeOwner g hg := h.hasFunction (hf.attributeOwner g hg)
  body b hb := h.body (hf.body b hb)

lemma functionReads (h : m.Extends n) {f : Function} (hf : f.ReadsParams m) : f.ReadsParams n :=
  fun b hb e he => h.readsParams (hf b hb e he)

end Module.Extends

namespace Module

variable {m n : Module}

structure LeadsTo (m n : Module) : Prop where
  topLevel : ∀ c ∈ m.topLevel, n.HasClass c
  classParents : ∀ c ∈ m.classes, n.HasParent c.parent
  classMembers : ∀ c ∈ m.classes, ∀ member ∈ c.members, n.HasMember member
  functions : ∀ f ∈ m.functions, f.Within n
  reads : ∀ f ∈ m.functions, f.ReadsParams n
  fieldParents : ∀ f ∈ m.fields, n.HasParent f.parent
  entryOwners : ∀ e ∈ m.entries, n.HasClass e.owner
  propertyParents : ∀ p ∈ m.properties, n.HasParent p.parent
  getters : ∀ p ∈ m.properties, ∀ f ∈ p.getter, n.HasFunction f
  setters : ∀ p ∈ m.properties, ∀ f ∈ p.setter, n.HasFunction f

lemma Sound.leadsTo (h : m.Sound) (hx : m.Extends n) : m.LeadsTo n where
  topLevel c hc := hx.hasClass (h.wellFormed.topLevel c hc)
  classParents c hc := hx.hasParent (h.wellFormed.classParents c hc)
  classMembers c hc member hm := hx.hasMember (h.wellFormed.classMembers c hc member hm)
  functions f hf := hx.function (h.wellFormed.functions f hf)
  reads f hf := hx.functionReads (h.reads f hf)
  fieldParents f hf := hx.hasParent (h.wellFormed.fieldParents f hf)
  entryOwners e he := hx.hasClass (h.wellFormed.entryOwners e he)
  propertyParents p hp := hx.hasParent (h.wellFormed.propertyParents p hp)
  getters p hp f hf := hx.hasFunction (h.wellFormed.getters p hp f hf)
  setters p hp f hf := hx.hasFunction (h.wellFormed.setters p hp f hf)

lemma LeadsTo.sound (h : m.LeadsTo m) : m.Sound :=
  ⟨{ h with }, h.reads⟩

lemma extends_addField (m : Module) (f : Field) : m.Extends (m.addField f).2 :=
  { refl_of Module.Extends m with
    fields := by simp [addField] }

lemma Sound.addField (h : m.Sound) {f : Field} (hf : m.HasParent f.parent) :
    (m.addField f).2.Sound := by
  have hx := m.extends_addField f
  have hold := h.leadsTo hx
  exact LeadsTo.sound { hold with
    fieldParents := Array.forall_mem_push.mpr ⟨hx.hasParent hf, hold.fieldParents⟩ }

lemma extends_addFunction (m : Module) (f : Function) : m.Extends (m.addFunction f).2 :=
  { refl_of Module.Extends m with
    functions := by
      intro ref g hg
      have hlt : ref.index < m.functions.size := (Array.getElem?_eq_some_iff.mp hg).1
      refine ⟨g, ?_, rfl⟩
      rw [function?, addFunction, Array.getElem?_push, if_neg (Nat.ne_of_lt hlt)]
      exact hg }

lemma Sound.addFunction (h : m.Sound) {f : Function} (hf : f.Within m) (hr : f.ReadsParams m) :
    (m.addFunction f).2.Sound := by
  have hx := m.extends_addFunction f
  have hold := h.leadsTo hx
  exact LeadsTo.sound { hold with
    functions := Array.forall_mem_push.mpr ⟨hx.function hf, hold.functions⟩
    reads := Array.forall_mem_push.mpr ⟨hx.functionReads hr, hold.reads⟩ }

lemma extends_addClass (m : Module) (c : Class) : m.Extends (m.addClass c).2 :=
  { refl_of Module.Extends m with
    classes := by simp [addClass] }

lemma hasClass_addClass (m : Module) (c : Class) : (m.addClass c).2.HasClass (m.addClass c).1 := by
  simp [HasClass, addClass]

lemma mem_topLevel_addClass {c : Class} {ref : ClassRef} (h : ref ∈ (m.addClass c).2.topLevel) :
    ref ∈ m.topLevel ∨ ref = (m.addClass c).1 := by
  rw [addClass] at h
  dsimp only at h
  split at h
  · simpa [addClass] using h
  · exact .inl h

lemma Sound.addClass (h : m.Sound) {c : Class} (hp : m.HasParent c.parent)
    (hm : ∀ member ∈ c.members, m.HasMember member) : (m.addClass c).2.Sound := by
  have hx := m.extends_addClass c
  have hold := h.leadsTo hx
  refine LeadsTo.sound { hold with
    topLevel := ?_
    classParents := Array.forall_mem_push.mpr ⟨hx.hasParent hp, hold.classParents⟩
    classMembers := Array.forall_mem_push.mpr
      ⟨fun member hin => hx.hasMember (hm member hin), hold.classMembers⟩ }
  intro d hd
  rcases mem_topLevel_addClass hd with hd | rfl
  · exact hold.topLevel d hd
  · exact m.hasClass_addClass c

lemma forall_mem_set {α : Type} {P : α → Prop} {xs : Array α} (h : ∀ x ∈ xs, P x) (i : Nat) {a : α}
    (ha : P a) : ∀ x ∈ xs.setIfInBounds i a, P x := by
  intro x hx
  rcases Array.mem_or_eq_of_mem_setIfInBounds hx with hx | rfl
  · exact h x hx
  · exact ha

lemma extends_setClass (m : Module) (ref : ClassRef) (c : Class) : m.Extends (m.setClass ref c) :=
  { refl_of Module.Extends m with
    classes := by simp [setClass] }

lemma Sound.setClass (h : m.Sound) (ref : ClassRef) {c : Class} (hp : m.HasParent c.parent)
    (hm : ∀ member ∈ c.members, m.HasMember member) : (m.setClass ref c).Sound := by
  have hx := m.extends_setClass ref c
  have hold := h.leadsTo hx
  exact LeadsTo.sound { hold with
    classParents := forall_mem_set hold.classParents ref.index (hx.hasParent hp)
    classMembers := forall_mem_set hold.classMembers ref.index
      fun member hin => hx.hasMember (hm member hin) }

section

variable {ref : FunctionRef} {f g : Function}

lemma extends_setFunction (hf : m.function? ref = some f) (hparams : g.params = f.params) :
    m.Extends (m.setFunction ref g) :=
  { refl_of Module.Extends m with
    functions := by
      intro other f' hf'
      rw [function?, setFunction, Array.getElem?_setIfInBounds]
      by_cases he : ref.index = other.index
      · have hlt : ref.index < m.functions.size := (Array.getElem?_eq_some_iff.mp hf).1
        have hsame : f' = f := by
          rw [function?, ← he] at hf'
          exact Option.some.inj (hf'.symm.trans hf)
        rw [if_pos he, if_pos hlt, hsame]
        exact ⟨g, rfl, hparams⟩
      · rw [if_neg he]
        exact ⟨f', hf', rfl⟩ }

lemma Sound.setFunction (h : m.Sound) (hf : m.function? ref = some f)
    (hparams : g.params = f.params) (hg : g.Within m) (hr : g.ReadsParams m) :
    (m.setFunction ref g).Sound := by
  have hx := extends_setFunction hf hparams
  have hold := h.leadsTo hx
  exact LeadsTo.sound { hold with
    functions := forall_mem_set hold.functions ref.index (hx.function hg)
    reads := forall_mem_set hold.reads ref.index (hx.functionReads hr) }

end

end Module

end ClrCompiler.Decl
