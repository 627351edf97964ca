import ClrCompiler.Decl.Lowering
import ClrCompiler.Proofs.Decl.Requests
import ClrCompiler.Proofs.Naming

/-! Declarations and names have numbers of 32 bits. Work on a unit adds a bounded number of them, so
it stays within that range where there is room for as many. -/

namespace ClrCompiler.Decl

open Work Derive Lowering

/-- `n` more declarations of each kind and `n` more names still get numbers. -/
structure Session.HasRoom (s : Session) (n : Nat) : Prop where
  classes : s.module.classes.size + n ≤ UInt32.size
  functions : s.module.functions.size + n ≤ UInt32.size
  fields : s.module.fields.size + n ≤ UInt32.size
  names : s.names.size + n ≤ UInt32.size

structure Session.GrowsBy (n : Nat) (s t : Session) : Prop where
  classes : t.module.classes.size ≤ s.module.classes.size + n
  functions : t.module.functions.size ≤ s.module.functions.size + n
  fields : t.module.fields.size ≤ s.module.fields.size + n
  names : t.names.size ≤ s.names.size + n

namespace Session.GrowsBy

variable {s t u : Session} {n k : Nat}

lemma refl (n : Nat) (s : Session) : GrowsBy n s s := by
  constructor <;> exact Nat.le_add_right _ n

lemma trans (h : GrowsBy n s t) (hk : GrowsBy k t u) : GrowsBy (n + k) s u := by
  obtain ⟨hc, hf, hg, hn⟩ := h
  obtain ⟨kc, kf, kg, kn⟩ := hk
  constructor <;> omega

lemma mono (h : GrowsBy n s t) (hk : n ≤ k) : GrowsBy k s t := by
  obtain ⟨hc, hf, hg, hn⟩ := h
  constructor <;> omega

lemma hasRoom (h : GrowsBy n s t) (hs : s.HasRoom (k + n)) : t.HasRoom k := by
  obtain ⟨hc, hf, hg, hn⟩ := h
  obtain ⟨kc, kf, kg, kn⟩ := hs
  constructor <;> omega

instance : Std.Refl (GrowsBy n) := ⟨refl n⟩

instance : IsTrans Session (GrowsBy 0) := ⟨fun _ _ _ h k => h.trans k⟩

end Session.GrowsBy

open Session

abbrev Work.Costs {α : Type} (n : Nat) (x : Work α) : Prop := Moves (GrowsBy n) x

section

variable {α β κ : Type} {x : Work α} {f : α → Work β} {n k : Nat}

lemma Work.Costs.le (hx : x.Costs n) (hk : n ≤ k) : x.Costs k := fun s => (hx s).mono hk

lemma Work.Costs.bind (hx : x.Costs n) (hf : ∀ a, (f a).Costs k) : (x >>= f).Costs (n + k) := by
  intro s
  have hs := hx s
  rcases h : exec x s with ⟨e | a, t⟩ <;> rw [h] at hs
  · rw [exec_bind_error h]
    exact hs.mono (Nat.le_add_right n k)
  · rw [exec_bind_ok h]
    exact hs.trans (hf a t)

lemma Work.Costs.read (hx : x.Costs 0) (hf : ∀ a, (f a).Costs n) : (x >>= f).Costs n := by
  have h := hx.bind hf
  rwa [Nat.zero_add] at h

lemma Work.Costs.give (hx : x.Costs n) (g : α → β) : (x >>= fun a => pure (g a)).Costs n :=
  hx.bind (k := 0) fun _ => Moves.pure _

lemma Work.Costs.once [BEq κ] {table : Derived.Table κ α} {key : κ} (hx : x.Costs n) :
    (once table key x).Costs n := by
  refine Costs.read Moves.get fun s => ?_
  cases (table.entries s.derived).lookup key with
  | some a => exact Moves.pure a
  | none =>
    have hrecord (a : α) : (modify fun s => { s with derived := table.record s.derived key a } :
        Work PUnit).Costs 0 := .modify fun s => by constructor <;> exact Nat.le_refl _
    exact hx.bind fun a => (hrecord a).give _

lemma Work.Costs.forM {xs : List α} {g : α → Work Unit} (hg : ∀ a, (g a).Costs 1) :
    (xs.forM g).Costs xs.length := by
  induction xs with
  | nil => exact Moves.pure ()
  | cons a rest ih =>
    have h := (hg a).bind fun _ => ih
    rwa [Nat.add_comm] at h

end

lemma costs_addClass (c : Class) : (addClass c).Costs 1 :=
  .allocate fun s => by constructor <;> simp [Module.addClass]

lemma costs_addFunction (f : Function) : (addFunction f).Costs 1 :=
  .allocate fun s => by constructor <;> simp [Module.addFunction]

lemma costs_addField (f : Field) : (addField f).Costs 1 :=
  .allocate fun s => by constructor <;> simp [Module.addField]

lemma costs_setFunction (ref : FunctionRef) (f : Function) : (setFunction ref f).Costs 0 :=
  .modify fun s => by constructor <;> simp [Module.setFunction]

lemma costs_addMember (ref : ClassRef) (member : Member) : (addMember ref member).Costs 0 := by
  refine Costs.read (.classOf ref) fun c => .modify fun s => ?_
  constructor <;> simp [Module.setClass]

lemma costs_intern (text : String) : (intern text).Costs 1 := by
  intro s
  have hsize : (s.names.intern text).2.size ≤ s.names.size + 1 := by
    rcases Interner.texts_intern s.names text with h | ⟨-, h⟩ <;> simp [Interner.size, h]
  exact ⟨Nat.le_succ _, Nat.le_succ _, Nat.le_succ _, hsize⟩

lemma costs_platformName (ref : FunctionRef) : (platformName ref).Costs 1 := by
  refine Costs.read (.functionOf ref) fun f => ?_
  cases f.property with
  | none => exact .pure _
  | some p =>
    refine Costs.read (.propertyOf p) fun property => ?_
    split
    · exact Costs.read (.textOf _) fun _ => costs_intern _
    · split
      · exact Costs.read (.textOf _) fun _ => costs_intern _
      · exact .pure _

lemma costs_instanceField (ref : ClassRef) : (instanceField ref).Costs 1 :=
  .once (.read (.classOf ref) fun _ => .read (.outerOf ref) fun _ => .read .get fun _ =>
    costs_addField _)

lemma costs_forwarder (owner : ClassRef) (target : FunctionRef) (isStatic : Bool) :
    (forwarder owner target isStatic).Costs 4 := by
  have hreceiver (c : Class) : (forwarderReceiver c isStatic).Costs 1 := by
    rw [forwarderReceiver]
    split
    · exact .pure _
    · exact (costs_intern _).give _
  have hargument (f : Function) : (receiverArgument target f).Costs 1 := by
    rw [receiverArgument]
    split
    · exact .read (.parentClass target) fun c => (costs_instanceField c).give _
    · exact .pure _
  refine .read (.classOf owner) fun c => .read (.functionOf target) fun f => ?_
  refine (costs_platformName target).bind (k := 3) fun name => ?_
  refine (hreceiver c).bind (k := 2) fun own => (costs_addFunction _).bind (k := 1) fun ref => ?_
  exact (hargument f).bind (k := 0) fun receiver => (costs_setFunction _ _).give _

lemma costs_newStaticPair (ref : FunctionRef) : (newStaticPair ref).Costs 5 := by
  refine .read (.parentClass ref) fun companionRef => .read (.classOf companionRef) fun c => ?_
  split
  · refine .read (.functionOf ref) fun f => ?_
    split
    · have hsibling : (staticSibling ref c.parent).Costs 1 :=
        .read (.functionOf ref) fun _ => costs_addFunction _
      exact hsibling.bind (k := 4) fun static => (costs_forwarder companionRef static false).give _
    · cases c.parent.class? with
      | none => exact .throw _
      | some owner =>
        exact ((costs_forwarder owner ref true).give _).le (by decide)
  · exact .throw _

lemma Request.costs (r : Request) : r.work.Costs 5 := by
  have hone {α : Type} {x : Work α} (h : x.Costs 1) : x.Costs 5 := h.le (by decide)
  cases r with
  | entryField ref =>
    exact hone (.once (.read (.entryOf ref) fun entry => .read (.classOf entry.owner) fun _ =>
      costs_addField _))
  | instanceField ref => exact hone (costs_instanceField ref)
  | privateInstanceField ref =>
    refine hone (.read (.classOf ref) fun c => .read (moves_companionOwner ref c) fun outer => ?_)
    split
    · exact .once (costs_addField _)
    · exact costs_instanceField ref
  | staticPair ref => exact .once (costs_newStaticPair ref)
  | defaultImpls ref =>
    refine .once (.read (.classOf ref) fun c => ?_)
    have hnested : (nested c.id .defaultImpls).Costs 1 :=
      .read (.textOf _) fun _ => .read (.textOf _) fun _ => (costs_intern _).give _
    exact (hnested.bind fun _ => costs_addClass _).le (by decide)
  | redirection ref =>
    refine hone (.once (.read (.functionOf ref) fun f => ?_))
    split
    · exact .read (.parentClass ref) fun owner => .read (.classOf owner) fun _ => costs_addFunction _
    · exact .throw _

lemma costs_findFunction (accepts : Function → Bool) (refs : List FunctionRef) :
    (findFunction accepts refs).Costs 0 := by
  induction refs with
  | nil => exact .pure none
  | cons ref rest ih =>
    refine .read (.functionOf ref) fun f => ?_
    split
    · exact .pure _
    · exact ih

lemma costs_addEntryPoint (ref : ClassRef) : (addEntryPoint ref).Costs 1 := by
  have hreport : (reportSuspendMain ref).Costs 1 :=
    .modify fun s => by constructor <;> exact Nat.le_succ _
  refine .read (.classOf ref) fun c => .read (costs_findFunction _ _) fun withArgs => ?_
  cases withArgs with
  | some p =>
    dsimp only
    split
    · exact hreport
    · exact .pure _
  | none =>
    refine .read (costs_findFunction _ _) fun plain => ?_
    cases plain with
    | none => exact .pure _
    | some p =>
      dsimp only
      split
      · exact hreport
      · exact (costs_addFunction _).bind fun _ => costs_addMember _ _

lemma Lowering.Pass.growsBy (p : Pass) (s : Session) :
    GrowsBy s.module.classes.size s (exec p.run s).2 := by
  have hlength (condition : Class → Bool) :
      (classesWhere s.module condition).length ≤ s.module.classes.size := by
    refine (List.length_filter_le _ _).trans ?_
    simp [Module.classRefs]
  cases p with
  | entryPoints => exact (Costs.forM costs_addEntryPoint s).mono (hlength _)
  | objectFields =>
    have hfield (ref : ClassRef) : (instanceField ref >>= fun field =>
        addMember ref (.field field)).Costs 1 :=
      (costs_instanceField ref).bind fun _ => costs_addMember _ _
    exact (Costs.forM hfield s).mono (hlength _)

end ClrCompiler.Decl
