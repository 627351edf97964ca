import ClrCompiler.Proofs.Decl.Sound
import ClrCompiler.Proofs.Decl.Work
import ClrCompiler.Proofs.Lookup

/-! Sessions in which every stored reference leads to a declaration, and rules for work that keeps
them so. -/

namespace ClrCompiler.Decl

open Work

def Module.HasPair (m : Module) (pair : StaticPair) : Prop :=
  m.HasFunction pair.static ∧ m.HasFunction pair.companion

lemma Module.Extends.hasPair {m n : Module} (h : m.Extends n) {pair : StaticPair}
    (hp : m.HasPair pair) : n.HasPair pair :=
  ⟨h.hasFunction hp.1, h.hasFunction hp.2⟩

structure Derived.Within (m : Module) (d : Derived) : Prop where
  entryFields : ∀ p ∈ d.entryFields, m.HasEntry p.1 ∧ m.HasField p.2
  instanceFields : ∀ p ∈ d.instanceFields, m.HasClass p.1 ∧ m.HasField p.2
  interfaceCompanionFields :
    ∀ p ∈ d.interfaceCompanionFields, m.HasClass p.1 ∧ m.HasField p.2
  staticPairs : ∀ p ∈ d.staticPairs, m.HasFunction p.1 ∧ m.HasPair p.2
  defaultImpls : ∀ p ∈ d.defaultImpls, m.HasClass p.1 ∧ m.HasClass p.2
  redirections : ∀ p ∈ d.redirections, m.HasFunction p.1 ∧ m.HasFunction p.2

lemma Derived.Within.extend {m n : Module} {d : Derived} (h : d.Within m) (hx : m.Extends n) :
    d.Within n where
  entryFields p hp := (h.entryFields p hp).imp hx.hasEntry hx.hasField
  instanceFields p hp := (h.instanceFields p hp).imp hx.hasClass hx.hasField
  interfaceCompanionFields p hp := (h.interfaceCompanionFields p hp).imp hx.hasClass hx.hasField
  staticPairs p hp := (h.staticPairs p hp).imp hx.hasFunction hx.hasPair
  defaultImpls p hp := (h.defaultImpls p hp).imp hx.hasClass hx.hasClass
  redirections p hp := (h.redirections p hp).imp hx.hasFunction hx.hasFunction

structure Session.WellFormed (s : Session) : Prop where
  sound : s.module.Sound
  derived : s.derived.Within s.module
  suspendMains : ∀ c ∈ s.suspendMains, s.module.HasClass c

lemma Session.WellFormed.withModule {s : Session} (h : s.WellFormed) {n : Module} (hn : n.Sound)
    (hx : s.module.Extends n) : ({ s with module := n } : Session).WellFormed where
  sound := hn
  derived := h.derived.extend hx
  suspendMains c hc := hx.hasClass (h.suspendMains c hc)

lemma Session.WellFormed.withNames {s : Session} (h : s.WellFormed) (names : Interner) :
    ({ s with names := names } : Session).WellFormed :=
  ⟨h.sound, h.derived, h.suspendMains⟩

structure Derived.Table.Checks {κ α : Type} (table : Derived.Table κ α) (K : Module → κ → Prop)
    (V : Module → α → Prop) : Prop where
  found : ∀ {m : Module} {d : Derived}, d.Within m → ∀ p ∈ table.entries d, V m p.2
  recorded : ∀ {m : Module} {d : Derived} {key : κ} {a : α}, d.Within m → K m key → V m a →
    (table.record d key a).Within m

section

open Derived.Table

lemma checks_entryFields : entryFields.Checks Module.HasEntry Module.HasField where
  found h p hp := (h.entryFields p hp).2
  recorded h hk ha := { h with
    entryFields := List.forall_mem_append.mpr ⟨h.entryFields, by simpa using ⟨hk, ha⟩⟩ }

lemma checks_instanceFields : instanceFields.Checks Module.HasClass Module.HasField where
  found h p hp := (h.instanceFields p hp).2
  recorded h hk ha := { h with
    instanceFields := List.forall_mem_append.mpr ⟨h.instanceFields, by simpa using ⟨hk, ha⟩⟩ }

lemma checks_interfaceCompanionFields :
    interfaceCompanionFields.Checks Module.HasClass Module.HasField where
  found h p hp := (h.interfaceCompanionFields p hp).2
  recorded h hk ha := { h with
    interfaceCompanionFields :=
      List.forall_mem_append.mpr ⟨h.interfaceCompanionFields, by simpa using ⟨hk, ha⟩⟩ }

lemma checks_staticPairs : staticPairs.Checks Module.HasFunction Module.HasPair where
  found h p hp := (h.staticPairs p hp).2
  recorded h hk ha := { h with
    staticPairs := List.forall_mem_append.mpr ⟨h.staticPairs, by simpa using ⟨hk, ha⟩⟩ }

lemma checks_defaultImpls : defaultImpls.Checks Module.HasClass Module.HasClass where
  found h p hp := (h.defaultImpls p hp).2
  recorded h hk ha := { h with
    defaultImpls := List.forall_mem_append.mpr ⟨h.defaultImpls, by simpa using ⟨hk, ha⟩⟩ }

lemma checks_redirections : redirections.Checks Module.HasFunction Module.HasFunction where
  found h p hp := (h.redirections p hp).2
  recorded h hk ha := { h with
    redirections := List.forall_mem_append.mpr ⟨h.redirections, by simpa using ⟨hk, ha⟩⟩ }

end

namespace Work

/-- Run on `s`, `x` leaves a well-formed session with all declarations of `s`. Its result satisfies
`P`; if it has none, its failure satisfies `E`. -/
structure Safe {α : Type} (E : Failure → Prop) (s : Session) (x : Work α)
    (P : α → Module → Prop) : Prop where
  wellFormed : (exec x s).2.WellFormed
  kept : s.module.Extends (exec x s).2.module
  ok : ∀ a, (exec x s).1 = .ok a → P a (exec x s).2.module
  error : ∀ e, (exec x s).1 = .error e → E e

namespace Safe

variable {α β κ : Type} {E : Failure → Prop} {s t : Session} {x : Work α} {f : α → Work β}
  {P : α → Module → Prop} {Q : β → Module → Prop}

lemma of_ok {a : α} (h : exec x s = (.ok a, t)) (ht : t.WellFormed)
    (hx : s.module.Extends t.module) (ha : P a t.module) : Safe E s x P := by
  constructor <;> rw [h]
  · exact ht
  · exact hx
  · rintro b ⟨⟩
    exact ha
  · rintro e ⟨⟩

lemma of_error {e : Failure} (h : exec x s = (.error e, t)) (ht : t.WellFormed)
    (hx : s.module.Extends t.module) (he : E e) : Safe E s x P := by
  constructor <;> rw [h]
  · exact ht
  · exact hx
  · rintro a ⟨⟩
  · rintro e' ⟨⟩
    exact he

lemma pure {a : α} (hs : s.WellFormed) (ha : P a s.module) : Safe E s (pure a) P :=
  of_ok rfl hs (refl_of Module.Extends _) ha

lemma throw {e : Failure} (hs : s.WellFormed) (he : E e) : Safe E s (throw e) P :=
  of_error rfl hs (refl_of Module.Extends _) he

lemma mono {R : α → Module → Prop} (h : Safe E s x P)
    (hp : ∀ a m, s.module.Extends m → P a m → R a m) : Safe E s x R :=
  { h with ok := fun a ha => hp a _ h.kept (h.ok a ha) }

lemma bind (hx : Safe E s x P) (hf : ∀ a t, t.WellFormed → s.module.Extends t.module →
    P a t.module → Safe E t (f a) Q) : Safe E s (x >>= f) Q := by
  obtain ⟨hwell, hkept, hok, herror⟩ := hx
  rcases h : exec x s with ⟨e | a, t⟩ <;> rw [h] at hwell hkept hok herror
  · exact of_error (exec_bind_error h) hwell hkept (herror e rfl)
  · have hnext := hf a t hwell hkept (hok a rfl)
    constructor <;> rw [exec_bind_ok h]
    · exact hnext.wellFormed
    · exact trans_of Module.Extends hkept hnext.kept
    · exact hnext.ok
    · exact hnext.error

lemma ends (h : Safe E s x P) : ∃ u, u.WellFormed ∧ s.module.Extends u.module ∧
    ((∃ a, exec x s = (.ok a, u) ∧ P a u.module) ∨ ∃ e, exec x s = (.error e, u) ∧ E e) := by
  obtain ⟨hwell, hkept, hok, herror⟩ := h
  rcases hr : exec x s with ⟨e | a, u⟩ <;> rw [hr] at hwell hkept hok herror
  · exact ⟨u, hwell, hkept, .inr ⟨e, rfl, herror e rfl⟩⟩
  · exact ⟨u, hwell, hkept, .inl ⟨a, rfl, hok a rfl⟩⟩

lemma read {a : α} (h : exec x s = (.ok a, s)) (hf : Safe E s (f a) Q) : Safe E s (x >>= f) Q := by
  constructor <;> rw [exec_bind_ok h]
  · exact hf.wellFormed
  · exact hf.kept
  · exact hf.ok
  · exact hf.error

lemma readClass {f : Class → Work β} {ref : ClassRef} (h : s.module.HasClass ref)
    (hf : ∀ c, s.module.class? ref = some c → Safe E s (f c) Q) :
    Safe E s (classOf ref >>= f) Q := by
  obtain ⟨c, hc⟩ := Option.isSome_iff_exists.mp (Module.class?_isSome h)
  exact read (exec_classOf_eq_ok.mpr ⟨hc, rfl⟩) (hf c hc)

lemma readFunction {f : Function → Work β} {ref : FunctionRef} (h : s.module.HasFunction ref)
    (hf : ∀ g, s.module.function? ref = some g → Safe E s (f g) Q) :
    Safe E s (functionOf ref >>= f) Q := by
  obtain ⟨g, hg⟩ := Option.isSome_iff_exists.mp (Module.function?_isSome.mpr h)
  exact read (exec_functionOf_eq_ok.mpr ⟨hg, rfl⟩) (hf g hg)

lemma readOuter {f : Option Class → Work β} {ref : ClassRef} (hs : s.WellFormed)
    (h : s.module.HasClass ref) (hf : ∀ outer, Safe E s (f outer) Q) :
    Safe E s (outerOf ref >>= f) Q := by
  obtain ⟨c, hc⟩ := Option.isSome_iff_exists.mp (Module.class?_isSome h)
  have hin : ∀ o, c.parent.class? = some o → (s.module.class? o).isSome :=
    fun o ho => hs.sound.wellFormed.outer hc ho
  exact read (exec_outerOf_eq_ok.mpr ⟨⟨c, hc, hin⟩, rfl, rfl⟩) (hf _)

lemma addField {g : Field} (hs : s.WellFormed) (hg : s.module.HasParent g.parent) :
    Safe E s (addField g) fun ref m => m.HasField ref := by
  have hx := s.module.extends_addField g
  refine of_ok rfl (hs.withModule (hs.sound.addField hg) hx) hx ?_
  simp [Module.HasField]

lemma addFunction {g : Function} (hs : s.WellFormed) (hg : g.Within s.module)
    (hr : g.ReadsParams s.module) :
    Safe E s (addFunction g) fun ref m => (ref, m) = s.module.addFunction g := by
  have hx := s.module.extends_addFunction g
  exact of_ok rfl (hs.withModule (hs.sound.addFunction hg hr) hx) hx rfl

lemma setFunction {ref : FunctionRef} {g h : Function} (hs : s.WellFormed)
    (hg : s.module.function? ref = some g) (hparams : h.params = g.params)
    (hh : h.Within s.module) (hr : h.ReadsParams s.module) :
    Safe E s (setFunction ref h) fun _ _ => True := by
  have hx := Module.extends_setFunction hg hparams
  exact of_ok rfl (hs.withModule (hs.sound.setFunction hg hparams hh hr) hx) hx trivial

lemma addClass {c : Class} (hs : s.WellFormed) (hp : s.module.HasParent c.parent)
    (hm : ∀ member ∈ c.members, s.module.HasMember member) :
    Safe E s (addClass c) fun ref m => m.HasClass ref := by
  have hx := s.module.extends_addClass c
  exact of_ok rfl (hs.withModule (hs.sound.addClass hp hm) hx) hx (s.module.hasClass_addClass c)

lemma addMember {ref : ClassRef} {member : Member} (hs : s.WellFormed) (h : s.module.HasClass ref)
    (hm : s.module.HasMember member) : Safe E s (addMember ref member) fun _ _ => True := by
  refine readClass h fun c hc => ?_
  have hin := Array.mem_of_getElem? hc
  let d : Class := { c with members := c.members ++ [member] }
  have hmembers : ∀ other ∈ d.members, s.module.HasMember other :=
    List.forall_mem_append.mpr ⟨hs.sound.wellFormed.classMembers c hin, by simpa using hm⟩
  have hsound := hs.sound.setClass ref (c := d) (hs.sound.wellFormed.classParents c hin) hmembers
  have hx := s.module.extends_setClass ref d
  exact of_ok rfl (hs.withModule hsound hx) hx trivial

lemma naming {action : Naming α} (hs : s.WellFormed) :
    Safe E s (naming action) fun _ m => m = s.module :=
  of_ok (exec_naming action s) (hs.withNames _) (refl_of Module.Extends _) rfl

lemma once [BEq κ] [LawfulBEq κ] {table : Derived.Table κ α} {K : Module → κ → Prop}
    {V : Module → α → Prop} (hc : table.Checks K V) {key : κ} (hs : s.WellFormed)
    (hk : ∀ {m : Module}, s.module.Extends m → K m key) (hx : Safe E s x fun a m => V m a) :
    Safe E s (once table key x) fun a m => V m a := by
  refine read (x := get) (a := s) rfl ?_
  cases h : (table.entries s.derived).lookup key with
  | some a => exact pure hs (hc.found hs.derived (key, a) (mem_of_lookup h))
  | none =>
    refine hx.bind fun a t ht hkept ha => ?_
    have hrecorded := hc.recorded ht.derived (hk hkept) ha
    exact of_ok rfl ⟨ht.sound, hrecorded, ht.suspendMains⟩ (refl_of Module.Extends _) ha

end Safe

end Work

end ClrCompiler.Decl
