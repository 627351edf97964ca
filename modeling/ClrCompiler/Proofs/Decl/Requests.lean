import ClrCompiler.Proofs.Decl.Work
import Mathlib.Data.List.Infix

/-! Derived declarations are made once: whatever is asked for or edited in between, asking again gives
the same declaration and changes nothing. -/

namespace ClrCompiler.Decl

open Work Derive

inductive Request where
  | entryField (ref : EntryRef)
  | instanceField (ref : ClassRef)
  | privateInstanceField (ref : ClassRef)
  | staticPair (ref : FunctionRef)
  | defaultImpls (ref : ClassRef)
  | redirection (ref : FunctionRef)

namespace Request

def Result : Request → Type
  | .entryField _ => FieldRef
  | .instanceField _ => FieldRef
  | .privateInstanceField _ => FieldRef
  | .staticPair _ => StaticPair
  | .defaultImpls _ => ClassRef
  | .redirection _ => FunctionRef

def work : (r : Request) → Work r.Result
  | .entryField ref => Derive.entryField ref
  | .instanceField ref => Derive.instanceField ref
  | .privateInstanceField ref => Derive.privateInstanceField ref
  | .staticPair ref => Derive.staticPair ref
  | .defaultImpls ref => Derive.defaultImpls ref
  | .redirection ref => Derive.redirection ref

end Request

/-- A change of the unit by its user; what is set may differ from what was there in any way. -/
inductive Edit where
  | addClass (c : Class)
  | addFunction (f : Function)
  | addField (f : Field)
  | addEntry (e : EnumEntry)
  | addProperty (p : Property)
  | addMember (ref : ClassRef) (member : Member)
  | setClass (ref : ClassRef) (c : Class)
  | setFunction (ref : FunctionRef) (f : Function)
  | setProperty (ref : PropertyRef) (p : Property)
  | intern (text : String)

def Edit.work : Edit → Work Unit
  | .addClass c => discard (Work.addClass c)
  | .addFunction f => discard (Work.addFunction f)
  | .addField f => discard (Work.addField f)
  | .addEntry e => discard (Work.addEntry e)
  | .addProperty p => discard (Work.addProperty p)
  | .addMember ref member => Work.addMember ref member
  | .setClass ref c => Work.setClass ref c
  | .setFunction ref f => Work.setFunction ref f
  | .setProperty ref p => Work.setProperty ref p
  | .intern text => discard (Work.intern text)

inductive Step where
  | request (r : Request)
  | edit (e : Edit)

namespace Session

def step (s : Session) : Step → Session
  | .request r => (exec r.work s).2
  | .edit e => (exec e.work s).2

def run (s : Session) (steps : List Step) : Session := steps.foldl step s

def KeepsClasses (s t : Session) : Prop := ∃ added, t.module.classes = s.module.classes ++ added

structure Adds (s t : Session) : Prop where
  derived : t.derived = s.derived
  classes : KeepsClasses s t

structure Grows (s t : Session) : Prop where
  entryFields : s.derived.entryFields <+: t.derived.entryFields
  instanceFields : s.derived.instanceFields <+: t.derived.instanceFields
  interfaceCompanionFields :
    s.derived.interfaceCompanionFields <+: t.derived.interfaceCompanionFields
  staticPairs : s.derived.staticPairs <+: t.derived.staticPairs
  defaultImpls : s.derived.defaultImpls <+: t.derived.defaultImpls
  redirections : s.derived.redirections <+: t.derived.redirections
  classes : s.module.classes.size ≤ t.module.classes.size

lemma keepsClasses_of_eq {s t : Session} (h : t.module.classes = s.module.classes) :
    KeepsClasses s t :=
  ⟨#[], by rw [h, Array.append_empty]⟩

instance : Std.Refl KeepsClasses := ⟨fun _ => keepsClasses_of_eq rfl⟩

instance : IsTrans Session KeepsClasses where
  trans _ _ _ h k := by
    obtain ⟨a, ha⟩ := h
    obtain ⟨b, hb⟩ := k
    exact ⟨a ++ b, by rw [hb, ha, Array.append_assoc]⟩

lemma KeepsClasses.class? {s t : Session} (h : KeepsClasses s t) {ref : ClassRef} {c : Class}
    (hc : s.module.class? ref = some c) : t.module.class? ref = some c := by
  obtain ⟨added, ha⟩ := h
  have hlt : ref.index < s.module.classes.size := (Array.getElem?_eq_some_iff.mp hc).1
  rw [Module.class?, ha, Array.getElem?_append_left hlt]
  exact hc

lemma adds_of_eq {s t : Session} (hd : t.derived = s.derived)
    (hc : t.module.classes = s.module.classes) : Adds s t :=
  ⟨hd, keepsClasses_of_eq hc⟩

lemma Adds.keeps {κ α : Type} (table : Derived.Table κ α) (s t : Session) (h : Adds s t) :
    table.Keeps s t := by
  rw [Derived.Table.Keeps, h.derived]

instance : Std.Refl Adds := ⟨fun _ => adds_of_eq rfl rfl⟩

instance : IsTrans Session Adds where
  trans _ _ _ h k := ⟨k.derived.trans h.derived, trans_of KeepsClasses h.classes k.classes⟩

lemma grows_of_derived_eq {s t : Session} (hd : t.derived = s.derived)
    (hc : s.module.classes.size ≤ t.module.classes.size) : Grows s t := by
  constructor
  case classes => exact hc
  all_goals
    rw [hd]

lemma Adds.grows {s t : Session} (h : Adds s t) : Grows s t := by
  obtain ⟨added, ha⟩ := h.classes
  refine grows_of_derived_eq h.derived ?_
  rw [ha, Array.size_append]
  omega

instance : Std.Refl Grows := ⟨fun _ => grows_of_derived_eq rfl le_rfl⟩

instance : IsTrans Session Grows where
  trans _ _ _ h k :=
    { entryFields := h.entryFields.trans k.entryFields
      instanceFields := h.instanceFields.trans k.instanceFields
      interfaceCompanionFields := h.interfaceCompanionFields.trans k.interfaceCompanionFields
      staticPairs := h.staticPairs.trans k.staticPairs
      defaultImpls := h.defaultImpls.trans k.defaultImpls
      redirections := h.redirections.trans k.redirections
      classes := h.classes.trans k.classes }

end Session

open Session

section

lemma moves_addField (f : Field) : Moves Adds (addField f) := Moves.allocate fun _ => adds_of_eq rfl rfl

lemma moves_addFunction (f : Function) : Moves Adds (addFunction f) :=
  Moves.allocate fun _ => adds_of_eq rfl rfl

lemma moves_setFunction (ref : FunctionRef) (f : Function) : Moves Adds (setFunction ref f) :=
  Moves.modify fun _ => adds_of_eq rfl rfl

lemma moves_intern (text : String) : Moves Adds (intern text) :=
  Moves.naming _ fun _ _ => adds_of_eq rfl rfl

lemma moves_platformName (ref : FunctionRef) : Moves Adds (platformName ref) := by
  refine (Moves.functionOf ref).bind fun f => ?_
  cases f.property with
  | none => exact .pure _
  | some p =>
    refine (Moves.propertyOf p).bind fun property => ?_
    split
    · exact (Moves.textOf _).bind fun _ => moves_intern _
    · split
      · exact (Moves.textOf _).bind fun _ => moves_intern _
      · exact .pure _

lemma moves_newEntryField (ref : EntryRef) : Moves Adds (newEntryField ref) :=
  (Moves.entryOf ref).bind fun entry => (Moves.classOf entry.owner).bind fun _ => moves_addField _

lemma moves_newInstanceField (ref : ClassRef) : Moves Adds (newInstanceField ref) :=
  (Moves.classOf ref).bind fun _ => (Moves.outerOf ref).bind fun _ =>
    Moves.get.bind fun _ => moves_addField _

lemma moves_staticSibling (ref : FunctionRef) (owner : Parent) :
    Moves Adds (staticSibling ref owner) :=
  (Moves.functionOf ref).bind fun _ => moves_addFunction _

lemma moves_newRedirection (ref : FunctionRef) : Moves Adds (newRedirection ref) := by
  refine (Moves.functionOf ref).bind fun f => ?_
  split
  · exact (Moves.parentClass ref).bind fun owner => (Moves.classOf owner).bind fun _ =>
      moves_addFunction _
  · exact .throw _

lemma moves_addClass (c : Class) : Moves Adds (addClass c) := by
  refine Moves.allocate fun s => ⟨rfl, #[c], ?_⟩
  rw [Module.addClass, Array.push_eq_append]

lemma moves_newDefaultImpls (ref : ClassRef) : Moves Adds (newDefaultImpls ref) :=
  (Moves.classOf ref).bind fun _ => (Moves.nested _ _ fun _ _ => adds_of_eq rfl rfl).bind fun _ =>
    moves_addClass _

def Records {κ α : Type} (R : Session → Session → Prop) (table : Derived.Table κ α) : Prop :=
  ∀ s key a, R s { s with derived := table.record s.derived key a }

structure Allows (R : Session → Session → Prop) : Prop where
  adds : ∀ s t, Adds s t → R s t
  entryFields : Records R .entryFields
  instanceFields : Records R .instanceFields
  interfaceCompanionFields : Records R .interfaceCompanionFields
  staticPairs : Records R .staticPairs
  defaultImpls : Records R .defaultImpls
  redirections : Records R .redirections

variable {R : Session → Session → Prop} [Std.Refl R] [IsTrans Session R]

lemma moves_companionOwner (ref : ClassRef) (c : Class) : Moves R (companionOwner ref c) := by
  rw [companionOwner]
  split
  · exact .outerOf ref
  · exact .pure _

lemma moves_forwarder (hadds : ∀ s t, Adds s t → R s t) (hrecord : Records R .instanceFields)
    (owner : ClassRef) (target : FunctionRef) (isStatic : Bool) :
    Moves R (forwarder owner target isStatic) := by
  have hreceiver : ∀ c, Moves R (forwarderReceiver c isStatic) := by
    intro c
    rw [forwarderReceiver]
    split
    · exact .pure _
    · exact ((moves_intern _).mono hadds).bind fun _ => .pure _
  have hargument : ∀ f, Moves R (receiverArgument target f) := by
    intro f
    rw [receiverArgument]
    split
    · refine .bind (.parentClass target) fun companion => .bind ?_ fun _ => .pure _
      exact ((moves_newInstanceField companion).mono hadds).once fun s => hrecord s companion
    · exact .pure _
  refine .bind (.classOf owner) fun c => .bind (.functionOf target) fun f => ?_
  refine ((moves_platformName target).mono hadds).bind fun name => (hreceiver c).bind fun _ => ?_
  refine ((moves_addFunction _).mono hadds).bind fun ref => (hargument f).bind fun _ => ?_
  exact ((moves_setFunction _ _).mono hadds).bind fun _ => .pure _

lemma moves_newStaticPair (hadds : ∀ s t, Adds s t → R s t) (hrecord : Records R .instanceFields)
    (ref : FunctionRef) : Moves R (newStaticPair ref) := by
  refine .bind (.parentClass ref) fun companionRef => ?_
  refine .bind (.classOf companionRef) fun companion => ?_
  split
  · refine .bind (.functionOf ref) fun f => ?_
    split
    · exact ((moves_staticSibling ref _).mono hadds).bind fun static =>
        (moves_forwarder hadds hrecord companionRef static false).bind fun _ => .pure _
    · cases companion.parent.class? with
      | none => exact .throw _
      | some owner => exact (moves_forwarder hadds hrecord owner ref true).bind fun _ => .pure _
  · exact .throw _

lemma Request.moves (h : Allows R) (r : Request) : Moves R r.work := by
  have hfield (ref : ClassRef) : Moves R (Derive.instanceField ref) :=
    ((moves_newInstanceField ref).mono h.adds).once fun s => h.instanceFields s ref
  cases r with
  | entryField ref =>
    exact ((moves_newEntryField ref).mono h.adds).once fun s => h.entryFields s ref
  | instanceField ref => exact hfield ref
  | privateInstanceField ref =>
    refine .bind (.classOf ref) fun c => (moves_companionOwner ref c).bind fun outer => ?_
    split
    · exact ((moves_addField _).mono h.adds).once fun s => h.interfaceCompanionFields s ref
    · exact hfield ref
  | staticPair ref =>
    exact (moves_newStaticPair h.adds h.instanceFields ref).once fun s => h.staticPairs s ref
  | defaultImpls ref =>
    exact ((moves_newDefaultImpls ref).mono h.adds).once fun s => h.defaultImpls s ref
  | redirection ref =>
    exact ((moves_newRedirection ref).mono h.adds).once fun s => h.redirections s ref

end

lemma allows_grows : Allows Grows where
  adds _ _ h := h.grows
  entryFields s ref field := by constructor <;> simp [Derived.Table.entryFields]
  instanceFields s ref field := by constructor <;> simp [Derived.Table.instanceFields]
  interfaceCompanionFields s ref field := by
    constructor <;> simp [Derived.Table.interfaceCompanionFields]
  staticPairs s ref pair := by constructor <;> simp [Derived.Table.staticPairs]
  defaultImpls s ref impls := by constructor <;> simp [Derived.Table.defaultImpls]
  redirections s ref bridge := by constructor <;> simp [Derived.Table.redirections]

lemma allows_keepsClasses : Allows KeepsClasses where
  adds _ _ h := h.classes
  entryFields _ _ _ := keepsClasses_of_eq rfl
  instanceFields _ _ _ := keepsClasses_of_eq rfl
  interfaceCompanionFields _ _ _ := keepsClasses_of_eq rfl
  staticPairs _ _ _ := keepsClasses_of_eq rfl
  defaultImpls _ _ _ := keepsClasses_of_eq rfl
  redirections _ _ _ := keepsClasses_of_eq rfl

lemma Edit.moves_grows (e : Edit) : Moves Grows e.work := by
  have hedit (g : Session → Session) (hd : ∀ s, (g s).derived = s.derived)
      (hc : ∀ s, s.module.classes.size ≤ (g s).module.classes.size) :
      Moves Grows (modify g : Work PUnit) :=
    .modify fun s => grows_of_derived_eq (hd s) (hc s)
  have hset (ref : ClassRef) (c : Class) : Moves Grows (Work.setClass ref c) := by
    apply hedit
    · exact fun _ => rfl
    · simp [Module.setClass]
  cases e with
  | addClass c => exact ((moves_addClass c).mono allows_grows.adds).bind fun _ => .pure _
  | addFunction f => exact ((moves_addFunction f).mono allows_grows.adds).bind fun _ => .pure _
  | addField f => exact ((moves_addField f).mono allows_grows.adds).bind fun _ => .pure _
  | addEntry e => exact fun s => grows_of_derived_eq rfl le_rfl
  | addProperty p => exact fun s => grows_of_derived_eq rfl le_rfl
  | addMember ref member => exact .bind (.classOf ref) fun c => hset ref _
  | setClass ref c => exact hset ref c
  | setFunction ref f => exact (moves_setFunction ref f).mono allows_grows.adds
  | setProperty ref p => exact fun s => grows_of_derived_eq rfl le_rfl
  | intern text => exact ((moves_intern text).mono allows_grows.adds).bind fun _ => .pure _

namespace Session

lemma grows_step (s : Session) (step : Step) : Grows s (s.step step) := by
  cases step with
  | request r => exact r.moves allows_grows s
  | edit e => exact e.moves_grows s

lemma grows_run (s : Session) (steps : List Step) : Grows s (s.run steps) := by
  induction steps generalizing s with
  | nil => exact refl_of Grows s
  | cons step steps ih => exact trans_of Grows (grows_step s step) (ih (s.step step))

end Session

def Module.inInterface (m : Module) (ref : ClassRef) : Bool :=
  (m.outer? ref).any (·.kind.isInterface)

/-- A private instance field depends on whether its class is a companion, on where the class stands
and on whether an interface is around it. No other request looks at the unit again. -/
def Request.Unedited (before after : Module) : Request → Prop
  | .privateInstanceField ref =>
    (after.class? ref).map (fun c => (c.isCompanion, c.parent)) =
        (before.class? ref).map (fun c => (c.isCompanion, c.parent)) ∧
      after.inInterface ref = before.inInterface ref
  | _ => True

lemma lookup_of_continued {κ α : Type} [BEq κ] {table later : List (κ × α)} (h : table <+: later)
    {key : κ} {a : α} (ha : table.lookup key = some a) : later.lookup key = some a := by
  obtain ⟨rest, rfl⟩ := h
  rw [List.lookup_append, ha, Option.some_or]

section

variable {s t : Session} {ref : ClassRef} {c : Class}

lemma exec_privateInstanceField (hc : s.module.class? ref = some c)
    (hin : c.isCompanion = true → ∀ o, c.parent.class? = some o → (s.module.class? o).isSome) :
    exec (Derive.privateInstanceField ref) s =
      if c.isCompanion && s.module.inInterface ref then
        exec (once .interfaceCompanionFields ref (newInterfaceCompanionField ref c)) s
      else exec (Derive.instanceField ref) s := by
  rw [Derive.privateInstanceField, exec_bind_ok (exec_classOf_eq_ok.mpr ⟨hc, rfl⟩)]
  cases hcomp : c.isCompanion with
  | false =>
    have howner : exec (companionOwner ref c) s = (.ok none, s) := by
      simp [companionOwner, hcomp, exec_pure]
    rw [exec_bind_ok howner]
    simp
  | true =>
    have howner : exec (companionOwner ref c) s = (.ok (s.module.outer? ref), s) := by
      rw [companionOwner, if_pos hcomp]
      exact exec_outerOf_eq_ok.mpr ⟨⟨c, hc, hin hcomp⟩, rfl, rfl⟩
    rw [exec_bind_ok howner, Module.inInterface, Bool.true_and]
    split <;> rfl

lemma class?_of_exec_privateInstanceField {field : FieldRef}
    (h : exec (Derive.privateInstanceField ref) s = (.ok field, t)) :
    ∃ c, s.module.class? ref = some c ∧
      (c.isCompanion = true → ∀ o, c.parent.class? = some o → (s.module.class? o).isSome) := by
  simp only [Derive.privateInstanceField, exec_bind_eq_ok, exec_classOf_eq_ok] at h
  obtain ⟨c, _, ⟨hc, rfl⟩, outer, _, howner, -⟩ := h
  refine ⟨c, hc, fun hcomp => ?_⟩
  rw [companionOwner, if_pos hcomp] at howner
  obtain ⟨⟨k, hk, hin⟩, -⟩ := exec_outerOf_eq_ok.mp howner
  rw [hc] at hk
  cases hk
  exact hin

end

lemma Session.KeepsClasses.outer? {s t : Session} (h : KeepsClasses s t) {ref : ClassRef} {c : Class}
    (hc : s.module.class? ref = some c)
    (hin : ∀ o, c.parent.class? = some o → (s.module.class? o).isSome) :
    t.module.outer? ref = s.module.outer? ref := by
  rw [Module.outer?, Module.outer?, hc, h.class? hc, Option.bind_some, Option.bind_some]
  cases hp : c.parent.class? with
  | none => rfl
  | some o =>
    obtain ⟨k, hk⟩ := Option.isSome_iff_exists.mp (hin o hp)
    rw [Option.bind_some, Option.bind_some, hk, h.class? hk]

lemma privateInstanceField_repeats {before after later : Session} {ref : ClassRef} {field : FieldRef}
    (h : exec (Derive.privateInstanceField ref) before = (.ok field, after))
    (hg : Grows after later)
    (hu : (Request.privateInstanceField ref).Unedited after.module later.module) :
    exec (Derive.privateInstanceField ref) later = (.ok field, later) := by
  obtain ⟨c, hc, hin⟩ := class?_of_exec_privateInstanceField h
  have hkeeps : KeepsClasses before (exec (Derive.privateInstanceField ref) before).2 :=
    (Request.privateInstanceField ref).moves allows_keepsClasses before
  rw [h] at hkeeps
  obtain ⟨hsite, hinterface⟩ := hu
  rw [hkeeps.class? hc, Option.map_some, Option.map_eq_some_iff] at hsite
  obtain ⟨d, hd, hsite⟩ := hsite
  injection hsite with hcomp hparent
  have hind : d.isCompanion = true →
      ∀ o, d.parent.class? = some o → (later.module.class? o).isSome := by
    intro hd o ho
    rw [hcomp] at hd
    rw [hparent] at ho
    obtain ⟨k, hk⟩ := Option.isSome_iff_exists.mp (hin hd o ho)
    have hlt := (Array.getElem?_eq_some_iff.mp (hkeeps.class? hk)).1
    simpa [Module.class?] using hlt.trans_le hg.classes
  -- the table is chosen again by reading the unit, so the same branch has to be taken
  have hbranch : (c.isCompanion && later.module.inInterface ref) =
      (c.isCompanion && before.module.inInterface ref) := by
    cases hc' : c.isCompanion with
    | false => rfl
    | true => rw [hinterface, Module.inInterface, hkeeps.outer? hc (hin hc'), ← Module.inInterface]
  rw [exec_privateInstanceField hc hin] at h
  rw [exec_privateInstanceField hd hind, hcomp, hbranch]
  split at h
  · rw [if_pos ‹_›]
    have hrecorded := lookup_of_exec_once ((moves_addField _).mono (Adds.keeps _)) h
    exact exec_once_of_some (lookup_of_continued hg.interfaceCompanionFields hrecorded)
  · rw [if_neg ‹_›]
    have hrecorded := lookup_of_exec_once ((moves_newInstanceField ref).mono (Adds.keeps _)) h
    exact exec_once_of_some (lookup_of_continued hg.instanceFields hrecorded)

theorem Request.repeats {r : Request} {before after : Session} {result : r.Result}
    (h : exec r.work before = (.ok result, after)) (steps : List Step)
    (hu : r.Unedited after.module (after.run steps).module) :
    exec r.work (after.run steps) = (.ok result, after.run steps) := by
  have hg := grows_run after steps
  cases r with
  | entryField ref =>
    have hrecorded := lookup_of_exec_once ((moves_newEntryField ref).mono (Adds.keeps _)) h
    exact exec_once_of_some (lookup_of_continued hg.entryFields hrecorded)
  | instanceField ref =>
    have hrecorded := lookup_of_exec_once ((moves_newInstanceField ref).mono (Adds.keeps _)) h
    exact exec_once_of_some (lookup_of_continued hg.instanceFields hrecorded)
  | privateInstanceField ref => exact privateInstanceField_repeats h hg hu
  | staticPair ref =>
    have hinstance : Records Derived.Table.staticPairs.Keeps .instanceFields := fun _ _ _ => rfl
    have hrecorded := lookup_of_exec_once (moves_newStaticPair (Adds.keeps _) hinstance ref) h
    exact exec_once_of_some (lookup_of_continued hg.staticPairs hrecorded)
  | defaultImpls ref =>
    have hrecorded := lookup_of_exec_once ((moves_newDefaultImpls ref).mono (Adds.keeps _)) h
    exact exec_once_of_some (lookup_of_continued hg.defaultImpls hrecorded)
  | redirection ref =>
    have hrecorded := lookup_of_exec_once ((moves_newRedirection ref).mono (Adds.keeps _)) h
    exact exec_once_of_some (lookup_of_continued hg.redirections hrecorded)

def interfaceUnit : Session :=
  let owner := Class.make Standard.comparable .interface (.inPackage Standard.comparable.package)
  let companion :=
    Class.make ⟨Standard.comparable.package, .companion, .companion⟩ .object (.inClass ⟨0⟩)
  let marked := { companion with status := companion.status.withFlags (.of [.companion]) }
  ⟨.new, { Module.empty .companion with classes := #[owner, marked] }, .empty, .standard, []⟩

theorem Request.repeats_interfaceUnit :
    let r := Request.privateInstanceField ⟨1⟩
    let after := (exec r.work interfaceUnit).2
    let steps := [Step.edit (.setClass ⟨0⟩ (.make Standard.any .annotationClass (.inClass ⟨1⟩))),
      Step.request (.instanceField ⟨1⟩), Step.request (.staticPair ⟨7⟩)]
    exec r.work interfaceUnit = (.ok (⟨0⟩ : FieldRef), after) ∧
      r.Unedited after.module (after.run steps).module ∧
      exec r.work (after.run steps) = (.ok (⟨0⟩ : FieldRef), after.run steps) := by
  intro r after steps
  have hfirst : exec r.work interfaceUnit = (.ok (⟨0⟩ : FieldRef), after) := rfl
  have hunedited : r.Unedited after.module (after.run steps).module := by
    refine ⟨?_, ?_⟩ <;> decide +kernel
  exact ⟨hfirst, hunedited, Request.repeats hfirst steps hunedited⟩

end ClrCompiler.Decl
