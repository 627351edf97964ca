import ClrCompiler.Proofs.Decl.Growth
import ClrCompiler.Proofs.Decl.Names
import Mathlib.Data.List.Nodup
import Mathlib.Logic.Equiv.Basic

/-! Renumbering of a unit. References and names are permuted; a declaration whose references and
names all stay where they are stays as it is. -/

namespace ClrCompiler

section

variable (σ : Name → Name)

def Package.rename (p : Package) : Package := ⟨σ p.name⟩

def ClassId.rename (id : ClassId) : ClassId :=
  ⟨id.package.rename σ, σ id.relative, σ id.short⟩

mutual

def TypeRef.rename : TypeRef → TypeRef
  | ⟨id, nullable, arguments⟩ => ⟨id.rename σ, nullable, TypeRef.renameAll arguments⟩

def TypeRef.renameAll : List TypeRef → List TypeRef
  | [] => []
  | t :: ts => TypeRef.rename t :: TypeRef.renameAll ts

end

end

section

variable {σ : Name → Name}

lemma map_eq_self {α : Type} {f : α → α} {xs : List α} (h : ∀ x ∈ xs, f x = x) : xs.map f = xs :=
  (List.map_congr_left h).trans xs.map_id

lemma Package.rename_eq_self {p : Package} (h : ∀ n ∈ p.names, σ n = n) : p.rename σ = p := by
  rw [rename, h p.name (by simp [names])]

lemma ClassId.rename_eq_self {id : ClassId} (h : ∀ n ∈ id.names, σ n = n) : id.rename σ = id := by
  have hpackage : id.package.rename σ = id.package :=
    Package.rename_eq_self fun n hn => h n (List.mem_append_left _ hn)
  rw [rename, hpackage, h id.relative (by simp [names]), h id.short (by simp [names])]

mutual

theorem TypeRef.rename_eq_self : ∀ t : TypeRef, (∀ n ∈ t.names, σ n = n) → t.rename σ = t
  | ⟨id, nullable, arguments⟩, h => by
    rw [names, List.forall_mem_append] at h
    rw [rename, id.rename_eq_self h.1, TypeRef.renameAll_eq_self arguments h.2]

theorem TypeRef.renameAll_eq_self :
    ∀ ts : List TypeRef, (∀ n ∈ TypeRef.namesAll ts, σ n = n) → TypeRef.renameAll σ ts = ts
  | [], _ => rfl
  | t :: ts, h => by
    rw [namesAll, List.forall_mem_append] at h
    rw [renameAll, TypeRef.rename_eq_self t h.1, TypeRef.renameAll_eq_self ts h.2]

end

end

namespace Decl

structure Renaming where
  classes : Equiv.Perm ClassRef
  functions : Equiv.Perm FunctionRef
  fields : Equiv.Perm FieldRef
  names : Equiv.Perm Name

section

variable (ρ : Renaming)

def Parent.rename : Parent → Parent
  | .inPackage package => .inPackage (package.rename ρ.names)
  | .inClass owner => .inClass (ρ.classes owner)
  | .inFunction owner => .inFunction (ρ.functions owner)

def Member.rename : Member → Member
  | .classDecl ref => .classDecl (ρ.classes ref)
  | .function ref => .function (ρ.functions ref)
  | .field ref => .field (ρ.fields ref)
  | .property ref => .property ref
  | .entry ref => .entry ref

def Class.rename (c : Class) : Class :=
  { c with
    id := c.id.rename ρ.names
    parent := c.parent.rename ρ
    typeParameters := c.typeParameters.map ρ.names
    annotations := c.annotations.map (ClassId.rename ρ.names)
    members := c.members.map (Member.rename ρ) }

def Param.rename (p : Param) : Param :=
  { p with name := ρ.names p.name, type := p.type.rename ρ.names }

mutual

def Expr.rename : Expr → Expr
  | .call target typeArguments arguments =>
    .call (ρ.functions target) (typeArguments.map ρ.names) (Expr.renameAll arguments)
  | .field ref => .field (ρ.fields ref)
  | .value function position => .value (ρ.functions function) position

def Expr.renameAll : List Expr → List Expr
  | [] => []
  | e :: es => Expr.rename e :: Expr.renameAll es

end

def Body.rename : Body → Body
  | .expression value => .expression (value.rename ρ)
  | .block statements => .block (statements.map (Expr.rename ρ))

def Function.rename (f : Function) : Function where
  name := ρ.names f.name
  parent := f.parent.rename ρ
  status := f.status
  origin := f.origin
  returnType := f.returnType.rename ρ.names
  typeParameters := f.typeParameters.map ρ.names
  params := f.params.map (Param.rename ρ)
  annotations := f.annotations.map (ClassId.rename ρ.names)
  overridden := f.overridden.map ρ.functions
  property := f.property
  attributeOwner := f.attributeOwner.map ρ.functions
  body := f.body.map (Body.rename ρ)

def Field.rename (f : Field) : Field :=
  { f with
    name := ρ.names f.name
    type := f.type.rename ρ.names
    parent := f.parent.rename ρ }

def EnumEntry.rename (e : EnumEntry) : EnumEntry := ⟨ρ.names e.name, ρ.classes e.owner⟩

def Property.rename (p : Property) : Property :=
  ⟨ρ.names p.name, p.parent.rename ρ, p.getter.map ρ.functions, p.setter.map ρ.functions⟩

def StaticPair.rename (p : StaticPair) : StaticPair :=
  ⟨ρ.functions p.static, ρ.functions p.companion⟩

end

structure Renaming.Fixes (ρ : Renaming) (s : Session) : Prop where
  classes : ∀ ref, s.module.HasClass ref → ρ.classes ref = ref
  functions : ∀ ref, s.module.HasFunction ref → ρ.functions ref = ref
  fields : ∀ ref, s.module.HasField ref → ρ.fields ref = ref
  names : ∀ n, n.raw < s.names.size → ρ.names n = n

lemma Expr.renameAll_eq_map (ρ : Renaming) (es : List Expr) :
    renameAll ρ es = es.map (rename ρ) := by
  induction es with
  | nil => rfl
  | cons e es ih => rw [renameAll, ih, List.map_cons]

namespace Renaming.Fixes

variable {ρ : Renaming} {s : Session}

lemma parent (h : ρ.Fixes s) {p : Parent} (hp : s.module.HasParent p)
    (hn : ∀ n ∈ p.names, n.raw < s.names.size) : p.rename ρ = p := by
  cases p with
  | inPackage package =>
    rw [Parent.rename, Package.rename_eq_self fun n hin => h.names n (hn n hin)]
  | inClass owner => rw [Parent.rename, h.classes owner hp]
  | inFunction owner => rw [Parent.rename, h.functions owner hp]

lemma member (h : ρ.Fixes s) {member : Member} (hm : s.module.HasMember member) :
    member.rename ρ = member := by
  cases member with
  | classDecl ref => rw [Member.rename, h.classes ref hm]
  | function ref => rw [Member.rename, h.functions ref hm]
  | field ref => rw [Member.rename, h.fields ref hm]
  | property ref => rfl
  | entry ref => rfl

lemma classId (h : ρ.Fixes s) {id : ClassId} (hn : ∀ n ∈ id.names, n.raw < s.names.size) :
    id.rename ρ.names = id :=
  ClassId.rename_eq_self fun n hin => h.names n (hn n hin)

lemma classIds (h : ρ.Fixes s) {ids : List ClassId}
    (hn : ∀ n ∈ ids.flatMap ClassId.names, n.raw < s.names.size) :
    ids.map (ClassId.rename ρ.names) = ids :=
  map_eq_self fun _ hid => h.classId fun n hin => hn n (List.mem_flatMap_of_mem hid hin)

lemma type (h : ρ.Fixes s) {t : TypeRef} (hn : ∀ n ∈ t.names, n.raw < s.names.size) :
    t.rename ρ.names = t :=
  t.rename_eq_self fun n hin => h.names n (hn n hin)

lemma allNames (h : ρ.Fixes s) {ns : List Name} (hn : ∀ n ∈ ns, n.raw < s.names.size) :
    ns.map ρ.names = ns :=
  map_eq_self fun n hin => h.names n (hn n hin)

lemma expr (h : ρ.Fixes s) {e : Expr} (he : e.Within s.module)
    (hn : ∀ n ∈ e.names, n.raw < s.names.size) : e.rename ρ = e := by
  induction he with
  | @call target typeArguments arguments ht _ ih =>
    rw [Expr.names, List.forall_mem_append, Expr.namesAll_eq_flatMap] at hn
    rw [Expr.rename, Expr.renameAll_eq_map, h.functions target ht, h.allNames hn.1,
      map_eq_self fun a ha => ih a ha fun n hin => hn.2 n (List.mem_flatMap_of_mem ha hin)]
  | field hf => rw [Expr.rename, h.fields _ hf]
  | value position hf => rw [Expr.rename, h.functions _ hf]

lemma body (h : ρ.Fixes s) {b : Body} (hb : b.Within s.module)
    (hn : ∀ n ∈ b.names, n.raw < s.names.size) : b.rename ρ = b := by
  cases b with
  | expression value => rw [Body.rename, h.expr hb hn]
  | block statements =>
    rw [Body.rename, map_eq_self fun e he => h.expr (hb e he) fun n hin =>
      hn n (List.mem_flatMap_of_mem he hin)]

lemma classDecl (h : ρ.Fixes s) {c : Class} (hp : s.module.HasParent c.parent)
    (hm : ∀ member ∈ c.members, s.module.HasMember member)
    (hn : ∀ n ∈ c.names, n.raw < s.names.size) : c.rename ρ = c := by
  simp only [Class.names, List.forall_mem_append] at hn
  obtain ⟨⟨⟨hid, hparent⟩, hparameters⟩, hannotations⟩ := hn
  rw [Class.rename, h.classId hid, h.parent hp hparent, h.allNames hparameters,
    h.classIds hannotations, map_eq_self fun member hin => h.member (hm member hin)]

lemma param (h : ρ.Fixes s) {p : Param} (hn : ∀ n ∈ p.names, n.raw < s.names.size) :
    p.rename ρ = p := by
  rw [Param.names, List.forall_mem_cons] at hn
  rw [Param.rename, h.names p.name hn.1, h.type hn.2]

lemma functionDecl (h : ρ.Fixes s) {f : Function} (hf : f.Within s.module)
    (hn : ∀ n ∈ f.names, n.raw < s.names.size) : f.rename ρ = f := by
  simp only [Function.names, List.cons_append, List.forall_mem_cons, List.forall_mem_append] at hn
  obtain ⟨hname, ⟨⟨⟨⟨hparent, htype⟩, hparameters⟩, hparams⟩, hannotations⟩, hbody⟩ := hn
  have howner : f.attributeOwner.map ρ.functions = f.attributeOwner := by
    cases ho : f.attributeOwner with
    | none => rfl
    | some g => rw [Option.map_some, h.functions g (hf.attributeOwner g ho)]
  have hrenamed : f.body.map (Body.rename ρ) = f.body := by
    cases hb : f.body with
    | none => rfl
    | some b =>
      rw [Option.map_some, h.body (hf.body b hb) fun n hin =>
        hbody n (List.mem_flatMap_of_mem (by simp [hb]) hin)]
  rw [Function.rename, h.names f.name hname, h.parent hf.parent hparent, h.type htype,
    h.allNames hparameters, h.classIds hannotations, howner, hrenamed,
    map_eq_self fun g hg => h.functions g (hf.overridden g hg),
    map_eq_self fun p hp => h.param fun n hin => hparams n (List.mem_flatMap_of_mem hp hin)]

lemma fieldDecl (h : ρ.Fixes s) {f : Field} (hp : s.module.HasParent f.parent)
    (hn : ∀ n ∈ f.names, n.raw < s.names.size) : f.rename ρ = f := by
  simp only [Field.names, List.cons_append, List.forall_mem_cons, List.forall_mem_append] at hn
  rw [Field.rename, h.names f.name hn.1, h.type hn.2.1, h.parent hp hn.2.2]

lemma propertyDecl (h : ρ.Fixes s) {p : Property} (hp : s.module.HasParent p.parent)
    (hg : ∀ f ∈ p.getter, s.module.HasFunction f) (hs : ∀ f ∈ p.setter, s.module.HasFunction f)
    (hn : ∀ n ∈ p.names, n.raw < s.names.size) : p.rename ρ = p := by
  have haccessor {accessor : Option FunctionRef} (ha : ∀ f ∈ accessor, s.module.HasFunction f) :
      accessor.map ρ.functions = accessor := by
    cases accessor with
    | none => rfl
    | some f => rw [Option.map_some, h.functions f (ha f rfl)]
  rw [Property.names, List.forall_mem_cons] at hn
  rw [Property.rename, h.names p.name hn.1, h.parent hp hn.2, haccessor hg, haccessor hs]

end Renaming.Fixes

structure Renaming.Keeps (ρ : Renaming) (s : Session) : Prop extends ρ.Fixes s where
  name_eq : ρ.names s.module.name = s.module.name
  class_eq : ∀ c ∈ s.module.classes, c.rename ρ = c
  function_eq : ∀ f ∈ s.module.functions, f.rename ρ = f
  field_eq : ∀ f ∈ s.module.fields, f.rename ρ = f
  entry_eq : ∀ e ∈ s.module.entries, e.rename ρ = e
  property_eq : ∀ p ∈ s.module.properties, p.rename ρ = p

lemma Renaming.Fixes.keeps {ρ : Renaming} {s : Session} (h : ρ.Fixes s)
    (hw : s.module.WellFormed) (hn : s.NamesStored) : ρ.Keeps s := by
  simp only [Session.NamesStored, Module.names, List.cons_append, List.forall_mem_cons,
    List.forall_mem_append] at hn
  obtain ⟨hname, ⟨⟨⟨hclasses, hfunctions⟩, hfields⟩, hentries⟩, hproperties⟩ := hn
  refine ⟨h, h.names _ hname, ?_, ?_, ?_, ?_, ?_⟩
  · intro c hc
    exact h.classDecl (hw.classParents c hc) (hw.classMembers c hc) fun n hin =>
      hclasses n (List.mem_flatMap_of_mem (Array.mem_toList_iff.mpr hc) hin)
  · intro f hf
    exact h.functionDecl (hw.functions f hf) fun n hin =>
      hfunctions n (List.mem_flatMap_of_mem (Array.mem_toList_iff.mpr hf) hin)
  · intro f hf
    exact h.fieldDecl (hw.fieldParents f hf) fun n hin =>
      hfields n (List.mem_flatMap_of_mem (Array.mem_toList_iff.mpr hf) hin)
  · intro e he
    rw [EnumEntry.rename, h.classes e.owner (hw.entryOwners e he), h.names e.name
      (hentries _ (List.mem_map_of_mem (Array.mem_toList_iff.mpr he)))]
  · intro p hp
    exact h.propertyDecl (hw.propertyParents p hp) (hw.getters p hp) (hw.setters p hp) fun n hin =>
      hproperties n (List.mem_flatMap_of_mem (Array.mem_toList_iff.mpr hp) hin)

section

variable (ρ : Renaming)

open Derived

def Derived.Key.rename : Key → Key
  | .entryField ref => .entryField ref
  | .instanceField ref => .instanceField (ρ.classes ref)
  | .interfaceCompanionField ref => .interfaceCompanionField (ρ.classes ref)
  | .staticPair ref => .staticPair (ρ.functions ref)
  | .defaultImpls ref => .defaultImpls (ρ.classes ref)
  | .redirection ref => .redirection (ρ.functions ref)

def Derived.Row.rename : Row → Row
  | .entryField ref field => .entryField ref (ρ.fields field)
  | .instanceField ref field => .instanceField (ρ.classes ref) (ρ.fields field)
  | .interfaceCompanionField ref field =>
    .interfaceCompanionField (ρ.classes ref) (ρ.fields field)
  | .staticPair ref pair => .staticPair (ρ.functions ref) (pair.rename ρ)
  | .defaultImpls ref impls => .defaultImpls (ρ.classes ref) (ρ.classes impls)
  | .redirection ref bridge => .redirection (ρ.functions ref) (ρ.functions bridge)

/-- `v` is `u` with other numbers: what stands at a reference of `u` stands, renamed, at the renamed
reference of `v`, and the tables have the renamed rows. -/
structure Session.Renumbered (u v : Session) : Prop where
  name : v.module.name = ρ.names u.module.name
  classes : ∀ ref, v.module.class? (ρ.classes ref) = (u.module.class? ref).map (Class.rename ρ)
  functions : ∀ ref,
    v.module.function? (ρ.functions ref) = (u.module.function? ref).map (Function.rename ρ)
  fields : ∀ ref, v.module.field? (ρ.fields ref) = (u.module.field? ref).map (Field.rename ρ)
  entries : v.module.entries = u.module.entries.map (EnumEntry.rename ρ)
  properties : v.module.properties = u.module.properties.map (Property.rename ρ)
  topLevel : v.module.topLevel = u.module.topLevel.map ρ.classes
  tables : ∀ k : Key, v.derived.at? (k.rename ρ) = (u.derived.at? k).map (Row.rename ρ)
  tableSize : v.derived.size = u.derived.size
  names : ∀ n, v.names.lookup? (ρ.names n) = u.names.lookup? n
  settings : v.settings = u.settings
  suspendMains : v.suspendMains = u.suspendMains.map ρ.classes

end

lemma exists_perm_map_eq {α : Type} [DecidableEq α] {xs ys : List α} (h : xs.Perm ys)
    (hn : xs.Nodup) : ∃ σ : Equiv.Perm α, xs.map σ = ys ∧ ∀ a, a ∉ xs → σ a = a := by
  induction h with
  | nil => exact ⟨.refl α, rfl, fun _ _ => rfl⟩
  | @cons x xs ys _ ih =>
    obtain ⟨hx, hn⟩ := List.nodup_cons.mp hn
    obtain ⟨σ, hmap, hfix⟩ := ih hn
    refine ⟨σ, by rw [List.map_cons, hmap, hfix x hx], fun a ha => hfix a ?_⟩
    exact fun hin => ha (List.mem_cons_of_mem x hin)
  | swap x y xs =>
    simp only [List.nodup_cons, List.mem_cons, not_or] at hn
    obtain ⟨⟨hyx, hy⟩, hx, -⟩ := hn
    refine ⟨Equiv.swap x y, ?_, fun a ha => ?_⟩
    · have hrest : xs.map (Equiv.swap x y) = xs := map_eq_self fun a ha =>
        Equiv.swap_apply_of_ne_of_ne (fun he => hx (he ▸ ha)) fun he => hy (he ▸ ha)
      rw [List.map_cons, List.map_cons, hrest, Equiv.swap_apply_right, Equiv.swap_apply_left]
    · simp only [List.mem_cons, not_or] at ha
      exact Equiv.swap_apply_of_ne_of_ne ha.2.1 ha.1
  | @trans xs ys zs hxy _ ih₁ ih₂ =>
    obtain ⟨σ, hσ, hfix⟩ := ih₁ hn
    obtain ⟨τ, hτ, hfix'⟩ := ih₂ (hxy.nodup_iff.mp hn)
    refine ⟨σ.trans τ, ?_, fun a ha => ?_⟩
    · rw [← hτ, ← hσ, List.map_map]
      rfl
    · rw [Equiv.trans_apply, hfix a ha, hfix' a fun hin => ha (hxy.mem_iff.mpr hin)]

/-- Items that have references on two sides, the same number on both: when the references of one
side are those of the other, rearranged, each item's are taken to its own. -/
lemma exists_renumbering {α β : Type} [DecidableEq α] {left right : β → List α} {xs : List β}
    (hlength : ∀ x ∈ xs, (left x).length = (right x).length)
    (h : (xs.flatMap left).Perm (xs.flatMap right)) (hn : (xs.flatMap left).Nodup) :
    ∃ σ : Equiv.Perm α, (∀ x ∈ xs, (left x).map σ = right x) ∧
      ∀ a, a ∉ xs.flatMap left → σ a = a := by
  obtain ⟨σ, hmap, hfix⟩ := exists_perm_map_eq h hn
  refine ⟨σ, ?_, hfix⟩
  clear h hn hfix
  induction xs with
  | nil => simp
  | cons x xs ih =>
    rw [List.forall_mem_cons] at hlength ⊢
    rw [List.flatMap_cons, List.flatMap_cons, List.map_append] at hmap
    obtain ⟨hhead, hrest⟩ := List.append_inj hmap (by rw [List.length_map, hlength.1])
    exact ⟨hhead, ih hlength.2 hrest⟩

end Decl

namespace Interner

lemma get?_of_mem {i : Interner} {text : String} (h : text ∈ i.texts) :
    i.get? text = some (i.intern text).1 := by
  have hget := get?_intern i text
  have hsame : (i.intern text).2 = i := by
    obtain ⟨n, hn⟩ := Option.isSome_iff_exists.mp (List.isSome_idxOf?.mpr h)
    simp [intern, get?, hn]
  rwa [hsame] at hget

lemma exists_renaming {s u v : Interner} (hs : s.Reachable) (hu : Later s u) (hv : Later s v)
    (h : ∀ text, text ∈ u.texts ↔ text ∈ v.texts) :
    ∃ σ : Equiv.Perm Name, (∀ n, n.raw < s.size → σ n = n) ∧
      (∀ text n, u.get? text = some n → v.get? text = some (σ n)) ∧
      ∀ n, v.lookup? (σ n) = u.lookup? n := by
  have hun : u.texts.Nodup := hu.nodup hs.nodup
  have hvn : v.texts.Nodup := hv.nodup hs.nodup
  have hsize : u.size = v.size := ((List.perm_ext_iff_of_nodup hun hvn).mpr h).length_eq
  have hget {i : Interner} (hi : ∀ text, text ∈ u.texts ↔ text ∈ i.texts) {text : String}
      (ht : text ∈ u.texts) : i.get? text = some (i.intern text).1 := get?_of_mem ((hi text).mp ht)
  -- the names of the texts of `u` in either interner
  have hmem {i : Interner} (hn : i.texts.Nodup) (hi : ∀ text, text ∈ u.texts ↔ text ∈ i.texts)
      (n : Name) : n ∈ u.texts.map (fun text => (i.intern text).1) ↔ n.raw < i.size := by
    rw [List.mem_map]
    constructor
    · rintro ⟨text, ht, rfl⟩
      exact lt_of_get? (hget hi ht)
    · intro hlt
      have hstored := get?_text hn hlt
      refine ⟨i.text n, (hi _).mpr (List.mem_of_getElem? (lookup?_of_get? hstored)), ?_⟩
      rw [intern_of_get? hstored]
  have hnodup {i : Interner} (hi : ∀ text, text ∈ u.texts ↔ text ∈ i.texts) :
      (u.texts.map fun text => (i.intern text).1).Nodup := by
    refine (List.nodup_map_iff_inj_on hun).mpr fun a ha b hb hab => ?_
    rw [← text_of_get? (hget hi ha), ← text_of_get? (hget hi hb), hab]
  have hperm : (u.texts.map fun text => (u.intern text).1).Perm
      (u.texts.map fun text => (v.intern text).1) := by
    refine (List.perm_ext_iff_of_nodup (hnodup fun _ => Iff.rfl) (hnodup h)).mpr fun n => ?_
    rw [hmem hun (fun _ => Iff.rfl), hmem hvn h, hsize]
  obtain ⟨σ, hmap, hfix⟩ := Decl.exists_perm_map_eq hperm (hnodup fun _ => Iff.rfl)
  rw [List.map_map, List.map_inj_left] at hmap
  have hrenamed {text : String} {n : Name} (hn : u.get? text = some n) :
      v.get? text = some (σ n) := by
    have ht : text ∈ u.texts := List.mem_of_getElem? (lookup?_of_get? hn)
    have hname : (u.intern text).1 = n := by rw [intern_of_get? hn]
    rw [hget h ht, ← hname]
    exact congrArg some (hmap text ht).symm
  refine ⟨σ, fun n hn => ?_, fun text n => hrenamed, fun n => ?_⟩
  · have hold := get?_text hs.nodup hn
    exact Option.some.inj ((hrenamed (hu.get? hold)).symm.trans (hv.get? hold))
  · by_cases hn : n.raw < u.size
    · have hstored := get?_text hun hn
      rw [lookup?_of_get? hstored, lookup?_of_get? (hrenamed hstored)]
    · have hout : ¬n.raw < v.size := hsize ▸ hn
      rw [hfix n (fun hin => hn ((hmem hun (fun _ => Iff.rfl) n).mp hin)), lookup?, lookup?,
        List.getElem?_eq_none (Nat.le_of_not_lt hn), List.getElem?_eq_none (Nat.le_of_not_lt hout)]

end Interner

end ClrCompiler
