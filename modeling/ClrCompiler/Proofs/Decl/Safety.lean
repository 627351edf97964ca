import ClrCompiler.Decl.Lowering
import ClrCompiler.Proofs.Decl.SafeWork
import ClrCompiler.Proofs.Decl.StaticPairs
import ClrCompiler.Proofs.Naming

/-! Work stays within a unit: no request with a known key and no lowering pass reaches for a
declaration that does not exist. A request fails only for what its key stands for or for a name that
the interner does not have. -/

namespace ClrCompiler.Decl

open Work Derive

section

variable {E : Failure → Prop} {s : Session}

lemma safe_newEntryField {ref : EntryRef} (hs : s.WellFormed) (h : s.module.HasEntry ref) :
    Safe E s (newEntryField ref) fun field m => m.HasField field := by
  have hsome : (s.module.entry? ref).isSome := by
    simpa [Module.entry?, Module.HasEntry] using h
  obtain ⟨entry, hentry⟩ := Option.isSome_iff_exists.mp hsome
  have howner := hs.sound.wellFormed.entryOwners entry (Array.mem_of_getElem? hentry)
  refine .read (exec_ofOption_eq_ok.mpr ⟨hentry, rfl⟩) ?_
  exact .readClass howner fun _ _ => .addField hs howner

lemma safe_instanceField {ref : ClassRef} (hs : s.WellFormed) (h : s.module.HasClass ref) :
    Safe E s (instanceField ref) fun field m => m.HasField field := by
  refine .once checks_instanceFields hs (fun hx => hx.hasClass h) ?_
  refine .readClass h fun c hc => .readOuter hs h fun outer => ?_
  refine .read (x := get) (a := s) rfl (.addField hs ?_)
  rw [instanceFieldFor]
  dsimp only
  split
  · exact hs.sound.wellFormed.classParents c (Array.mem_of_getElem? hc)
  · exact h

lemma safe_privateInstanceField {ref : ClassRef} (hs : s.WellFormed) (h : s.module.HasClass ref) :
    Safe E s (privateInstanceField ref) fun field m => m.HasField field := by
  have hrest (c : Class) (outer : Option Class) : Safe E s
      (if outer.any (·.kind.isInterface) then
        Work.once .interfaceCompanionFields ref (newInterfaceCompanionField ref c)
      else instanceField ref) fun field m => m.HasField field := by
    split
    · exact .once checks_interfaceCompanionFields hs (fun hx => hx.hasClass h) (.addField hs h)
    · exact safe_instanceField hs h
  refine .readClass h fun c _ => ?_
  rw [companionOwner]
  split
  · exact .readOuter hs h fun outer => hrest c outer
  · exact hrest c none

lemma safe_nested {id : ClassId} {name : Name} (hs : s.WellFormed)
    (he : ∀ n ∈ [id.relative, name], s.names.size ≤ n.raw → E .outOfBounds) :
    Safe E s (nested id name) fun _ m => m = s.module := by
  by_cases hid : id.relative.raw < s.names.size
  · by_cases hname : name.raw < s.names.size
    · exact .of_ok (exec_nested hid hname) (hs.withNames _) (refl_of Module.Extends _) rfl
    · have hmissing := Nat.not_lt.mp hname
      exact .of_error (exec_nested_error (.inr hmissing)) hs (refl_of Module.Extends _)
        (he name (by simp) hmissing)
  · have hmissing := Nat.not_lt.mp hid
    exact .of_error (exec_nested_error (.inl hmissing)) hs (refl_of Module.Extends _)
      (he id.relative (by simp) hmissing)

lemma hasFunction_of_some {m : Module} {ref : FunctionRef} {f : Function}
    (h : m.function? ref = some f) : m.HasFunction ref :=
  Module.function?_isSome.mp (h ▸ rfl)

lemma function?_of_addFunction {m n : Module} {ref : FunctionRef} {f : Function}
    (h : (ref, n) = m.addFunction f) : n.function? ref = some f := by
  cases h
  exact Array.getElem?_push_size

lemma safe_platformName {ref : FunctionRef} {f : Function} (hs : s.WellFormed)
    (hf : s.module.function? ref = some f)
    (he : ∀ p, s.module.accessed? ref = some p → s.names.size ≤ p.name.raw → E .outOfBounds) :
    Safe E s (platformName ref) fun _ m => m = s.module := by
  by_cases hn : ∀ p, s.module.accessed? ref = some p → p.name.raw < s.names.size
  · obtain ⟨name, names, h⟩ :=
      exec_platformName hf (fun p hp => hs.sound.wellFormed.property hf hp) hn
    exact .of_ok h (hs.withNames names) (refl_of Module.Extends _) rfl
  · push Not at hn
    obtain ⟨p, hp, hmissing⟩ := hn
    exact .of_error (exec_platformName_error hp hmissing) hs (refl_of Module.Extends _)
      (he p hp hmissing)

lemma safe_forwarderReceiver (owner : Class) (isStatic : Bool) (hs : s.WellFormed) :
    Safe E s (forwarderReceiver owner isStatic) fun _ m => m = s.module := by
  obtain ⟨own, names, h, -⟩ := exec_forwarderReceiver (s := s) owner isStatic
  exact .of_ok h (hs.withNames names) (refl_of Module.Extends _) rfl

lemma hasClass_of_parent {ref : FunctionRef} {f : Function} {c : ClassRef} (hs : s.WellFormed)
    (hf : s.module.function? ref = some f) (hc : f.parent.class? = some c) :
    s.module.HasClass c :=
  (hs.sound.wellFormed.functions f (Array.mem_of_getElem? hf)).parent.hasClass hc

lemma safe_receiverArgument {targetRef : FunctionRef} {target : Function} (hs : s.WellFormed)
    (ht : s.module.function? targetRef = some target)
    (hclass : target.dispatchReceiver.isSome = true → ∃ c, target.parent.class? = some c) :
    Safe E s (receiverArgument targetRef target) fun arguments m =>
      ∀ a ∈ arguments, a.Within m ∧ a.ReadsParams m := by
  rw [receiverArgument]
  split
  · obtain ⟨c, hc⟩ := hclass ‹_›
    refine .read (exec_parentClass_eq_ok.mpr ⟨⟨target, ht, hc⟩, rfl⟩) ?_
    refine (safe_instanceField hs (hasClass_of_parent hs ht hc)).bind fun field t hw _ hfield => ?_
    refine .pure hw fun a ha => ?_
    rw [List.mem_singleton.mp ha]
    exact ⟨.field hfield, .field field⟩
  · exact .pure hs (by simp)

lemma mem_passedOn {ref : FunctionRef} {params : List Param} {e : Expr}
    (h : e ∈ passedOn ref params) : ∃ position < params.length, e = .value ref position := by
  obtain ⟨⟨p, i⟩, hp, rfl⟩ := List.mem_map.mp h
  have hin := List.mem_zipIdx (List.mem_filter.mp hp).1
  exact ⟨i, by omega, rfl⟩

section

variable {m : Module}

lemma reads_of_body_eq_none {f : Function} (h : f.body = none) : f.ReadsParams m := by
  intro b hb
  rw [h] at hb
  cases hb

lemma within_forwarderHead {ownerRef : ClassRef} {targetRef : FunctionRef} (owner : Class)
    (target : Function) (name : Name) (receiver : Option Param) (ho : m.HasClass ownerRef)
    (ht : m.HasFunction targetRef) :
    (forwarderHead ownerRef owner targetRef target name receiver).Within m := by
  constructor
  case parent => exact ho
  case attributeOwner => simpa [forwarderHead] using ht
  all_goals
    simp [forwarderHead, Function.make]

variable {ref targetRef : FunctionRef} {head g : Function} {receiver : List Expr}

lemma within_callThrough (hhead : head.Within m) (href : m.HasFunction ref)
    (ht : m.HasFunction targetRef) (hr : ∀ a ∈ receiver, a.Within m) :
    (callThrough ref head targetRef receiver).Within m := by
  refine { hhead with body := ?_ }
  rintro b ⟨⟩
  refine .call ht (List.forall_mem_append.mpr ⟨hr, fun e he => ?_⟩)
  obtain ⟨position, -, rfl⟩ := mem_passedOn he
  exact .value position href

lemma reads_callThrough (hg : m.function? ref = some g) (hparams : g.params = head.params)
    (hr : ∀ a ∈ receiver, a.ReadsParams m) :
    (callThrough ref head targetRef receiver).ReadsParams m := by
  rintro b ⟨⟩ e he
  rw [List.mem_singleton.mp he]
  refine .call (List.forall_mem_append.mpr ⟨hr, fun e he => ?_⟩)
  obtain ⟨position, hlt, rfl⟩ := mem_passedOn he
  exact .value hg (hparams ▸ hlt)

end

lemma safe_forwarder {ownerRef : ClassRef} {targetRef : FunctionRef} {target : Function}
    {isStatic : Bool} (hs : s.WellFormed) (ho : s.module.HasClass ownerRef)
    (ht : s.module.function? targetRef = some target)
    (he : ∀ p, s.module.accessed? targetRef = some p → s.names.size ≤ p.name.raw → E .outOfBounds)
    (hclass : target.dispatchReceiver.isSome = true → ∃ c, target.parent.class? = some c) :
    Safe E s (forwarder ownerRef targetRef isStatic) fun ref m => m.HasFunction ref := by
  refine .readClass ho fun owner _ => .read (exec_functionOf_eq_ok.mpr ⟨ht, rfl⟩) ?_
  refine (safe_platformName hs ht he).bind fun name t htw _ hts => ?_
  refine (safe_forwarderReceiver owner isStatic htw).bind fun own u huw _ hus => ?_
  rw [← hus.trans hts] at ho ht
  have htarget := hasFunction_of_some ht
  have hhead := within_forwarderHead owner target name own ho htarget
  refine (Safe.addFunction huw hhead (reads_of_body_eq_none rfl)).bind fun ref v hvw hx hadded => ?_
  have hstored := function?_of_addFunction hadded
  injection hadded with _ hv
  have hfound : v.module.function? targetRef = some target := by
    rw [hv]
    exact function?_push ht
  refine (safe_receiverArgument hvw hfound hclass).bind fun receiver w hww hvx hreceiver => ?_
  -- only the parameters of the forwarder are known to be as they were added
  obtain ⟨g, hg, hparams⟩ := hvx.functions ref _ hstored
  have hux := trans_of Module.Extends hx hvx
  have href := hasFunction_of_some hg
  refine .bind (.setFunction (h := callThrough ref _ targetRef receiver) hww hg hparams.symm ?_ ?_)
    fun _ z hzw hwx _ => ?_
  · exact within_callThrough (hux.function hhead) href (hux.hasFunction htarget)
      fun a ha => (hreceiver a ha).1
  · exact reads_callThrough hg hparams fun a ha => (hreceiver a ha).2
  · exact .pure hzw (hwx.hasFunction href)

end

def Request.KeyIn (m : Module) : Request → Prop
  | .entryField ref => m.HasEntry ref
  | .instanceField ref => m.HasClass ref
  | .privateInstanceField ref => m.HasClass ref
  | .staticPair ref => m.HasFunction ref
  | .defaultImpls ref => m.HasClass ref
  | .redirection ref => m.HasFunction ref

def Request.ResultIn (m : Module) : (r : Request) → r.Result → Prop
  | .entryField _, field => m.HasField field
  | .instanceField _, field => m.HasField field
  | .privateInstanceField _, field => m.HasField field
  | .staticPair _, pair => m.HasPair pair
  | .defaultImpls _, impls => m.HasClass impls
  | .redirection _, bridge => m.HasFunction bridge

inductive Request.Refused (m : Module) : Request → Failure → Prop
  | pairNotInClass {ref : FunctionRef} {f : Function} :
      m.function? ref = some f → f.parent.class? = none →
      Refused m (.staticPair ref) (.notInClass ref f.parent)
  | pairNotOfCompanion {ref : FunctionRef} {f : Function} {owner : ClassRef} {c : Class} :
      m.function? ref = some f → f.parent.class? = some owner → m.class? owner = some c →
      c.isCompanion = false → Refused m (.staticPair ref) (.notCompanionMember ref)
  | companionNotNested {ref : FunctionRef} {f : Function} {owner : ClassRef} {c : Class} :
      m.function? ref = some f → f.isExternal = false → f.parent.class? = some owner →
      m.class? owner = some c → c.isCompanion = true → c.parent.class? = none →
      Refused m (.staticPair ref) (.companionNotNested owner c.parent)
  | bridgeNotInClass {ref : FunctionRef} {f : Function} :
      m.function? ref = some f → f.isFakeOverride = true → f.parent.class? = none →
      Refused m (.redirection ref) (.notInClass ref f.parent)
  | bridgeNotInherited {ref : FunctionRef} {f : Function} :
      m.function? ref = some f → f.isFakeOverride = false →
      Refused m (.redirection ref) (.notFakeOverride ref)

/-- The names whose texts a request puts together: an accessor is called after its property, and the
class of default implementations after the class it belongs to. -/
def Request.reads (m : Module) : Request → List Name
  | .staticPair ref =>
    if (m.function? ref).any Function.isExternal then []
    else (m.accessed? ref).toList.map Property.name
  | .defaultImpls ref => (m.class? ref).toList.flatMap fun c => [c.id.relative, .defaultImpls]
  | _ => []

/-- All that a request on `s` may fail for: what its key stands for, or a name without a text. -/
inductive Request.Fails (s : Session) (r : Request) : Failure → Prop
  | refused {e : Failure} : r.Refused s.module e → Fails s r e
  | unreadable {n : Name} : n ∈ r.reads s.module → s.names.size ≤ n.raw → Fails s r .outOfBounds

section

variable {s : Session} (hr : s.names.Reachable) (hn : s.NamesStored)
include hr hn

lemma Request.reads_stored (r : Request) : ∀ n ∈ r.reads s.module, n.raw < s.names.size := by
  cases r with
  | staticPair ref =>
    rw [reads]
    split
    · simp
    · rintro n hin
      obtain ⟨p, hp, rfl⟩ := List.mem_map.mp hin
      exact hn p.name (Module.name_of_accessed (Option.mem_toList.mp hp))
  | defaultImpls ref =>
    rintro n hin
    obtain ⟨c, hc, hin⟩ := List.mem_flatMap.mp hin
    rcases List.mem_pair.mp hin with rfl | rfl
    · exact hn _ (Module.names_of_class (Option.mem_toList.mp hc) (by simp [Class.names, ClassId.names]))
    · exact Nat.lt_of_lt_of_le (by decide : _ < Interner.new.size) (Interner.Later.size_le hr)
  | entryField _ => exact fun n h => nomatch h
  | instanceField _ => exact fun n h => nomatch h
  | privateInstanceField _ => exact fun n h => nomatch h
  | redirection _ => exact fun n h => nomatch h

lemma Request.Fails.refused_of_stored {r : Request} {e : Failure} (h : r.Fails s e) :
    r.Refused s.module e := by
  cases h with
  | refused h => exact h
  | unreadable hread hmissing =>
    exact absurd (r.reads_stored hr hn _ hread) (Nat.not_lt.mpr hmissing)

end

section

variable {s : Session} {ref : FunctionRef}

lemma Work.Safe.readParent {β : Type} {E : Failure → Prop} {next : ClassRef → Work β}
    {Q : β → Module → Prop} {f : Function} (hs : s.WellFormed)
    (hf : s.module.function? ref = some f)
    (he : f.parent.class? = none → E (.notInClass ref f.parent))
    (hnext : ∀ owner, f.parent.class? = some owner → s.module.HasClass owner →
      Safe E s (next owner) Q) :
    Safe E s (parentClass ref >>= next) Q := by
  cases hp : f.parent.class? with
  | none =>
    exact .of_error (exec_bind_error (exec_parentClass_error hf hp)) hs
      (refl_of Module.Extends _) (he hp)
  | some owner =>
    refine .read (exec_parentClass_eq_ok.mpr ⟨⟨f, hf, hp⟩, rfl⟩) ?_
    exact hnext owner hp (hasClass_of_parent hs hf hp)

lemma within_siblingFor {m : Module} {f : Function} {parent : Parent} (hf : f.Within m)
    (href : m.HasFunction ref) (hp : m.HasParent parent) : (siblingFor ref f parent).Within m where
  parent := hp
  overridden _ h := nomatch h
  property := hf.property
  attributeOwner := by simpa [siblingFor] using href
  body _ h := nomatch h

lemma within_bridgeFor {m : Module} {f : Function} {ownerRef : ClassRef} (owner : Class)
    (hf : f.Within m) (ho : m.HasClass ownerRef) : (bridgeFor ownerRef owner f).Within m where
  parent := ho
  overridden := hf.overridden
  property := hf.property
  attributeOwner _ h := nomatch h
  body _ h := nomatch h

lemma safe_newStaticPair (hs : s.WellFormed) (h : s.module.HasFunction ref) :
    Safe ((Request.staticPair ref).Fails s) s (newStaticPair ref)
      fun pair m => m.HasPair pair := by
  obtain ⟨f, hf⟩ := Option.isSome_iff_exists.mp (Module.function?_isSome.mpr h)
  have hwithin := hs.sound.wellFormed.functions f (Array.mem_of_getElem? hf)
  refine .readParent hs hf (fun hp => .refused (.pairNotInClass hf hp)) fun companionRef hp hc => ?_
  refine .readClass hc fun companion hcompanion => ?_
  have hparent := hs.sound.wellFormed.classParents companion (Array.mem_of_getElem? hcompanion)
  split <;> rename_i hcomp
  · refine .read (exec_functionOf_eq_ok.mpr ⟨hf, rfl⟩) ?_
    split <;> rename_i hexternal
    · have hsibling := within_siblingFor hwithin h hparent
      refine .bind (.read (exec_functionOf_eq_ok.mpr ⟨hf, rfl⟩)
        (.addFunction hs hsibling (reads_of_body_eq_none rfl))) fun static t ht hx hadded => ?_
      have hstored := function?_of_addFunction hadded
      -- the static copy has no receiver, so it is called without an instance
      have hreceiver : (siblingFor ref f companion.parent).dispatchReceiver = none :=
        Function.dispatchReceiver_eq_none f.nonDispatchParams_isDispatch
      have hunknown : t.module.accessed? static = none := by
        injection hadded with hstatic hmodule
        rw [hstatic, hmodule]
        exact accessed?_of_new hs.sound.wellFormed (Nat.lt_irrefl _) rfl
      refine (safe_forwarder ht (hx.hasClass hc) hstored (by simp [hunknown])
        (by simp [hreceiver])).bind fun forwarder u hu htx hforwarder => ?_
      exact .pure hu ⟨htx.hasFunction (hasFunction_of_some hstored), hforwarder⟩
    · have hmember : f.isExternal = false := by simpa using hexternal
      cases howner : companion.parent.class? with
      | none => exact .throw hs (.refused (.companionNotNested hf hmember hp hcompanion hcomp howner))
      | some owner =>
        have ho : s.module.HasClass owner := hparent.hasClass howner
        have hread {p : Property} (hp : s.module.accessed? ref = some p) :
            p.name ∈ (Request.staticPair ref).reads s.module := by
          simp [Request.reads, hf, hmember, hp]
        refine (safe_forwarder hs ho hf (fun p hp hmissing => .unreadable (hread hp) hmissing)
          fun _ => ⟨companionRef, hp⟩).bind fun static t ht hx hstatic => ?_
        exact .pure ht ⟨hstatic, hx.hasFunction h⟩
  · exact .throw hs (.refused (.pairNotOfCompanion hf hp hcompanion (by simpa using hcomp)))

lemma safe_newDefaultImpls {ref : ClassRef} (hs : s.WellFormed) (h : s.module.HasClass ref) :
    Safe ((Request.defaultImpls ref).Fails s) s (newDefaultImpls ref)
      fun impls m => m.HasClass impls := by
  refine .readClass h fun c hc => (safe_nested hs fun n hn hmissing => ?_).bind
    fun id t ht _ hsame => .addClass ht ?_ (by simp [Class.make])
  · exact .unreadable (by simpa [Request.reads, hc] using hn) hmissing
  · rw [hsame]
    exact h

lemma safe_newRedirection (hs : s.WellFormed) (h : s.module.HasFunction ref) :
    Safe ((Request.redirection ref).Fails s) s (newRedirection ref)
      fun bridge m => m.HasFunction bridge := by
  refine .readFunction h fun f hf => ?_
  split <;> rename_i hfake
  · refine .readParent hs hf (fun hp => .refused (.bridgeNotInClass hf hfake hp)) fun ownerRef _ ho => ?_
    refine .readClass ho fun owner _ => ?_
    have hbridge := within_bridgeFor owner
      (hs.sound.wellFormed.functions f (Array.mem_of_getElem? hf)) ho
    refine (Safe.addFunction hs hbridge (reads_of_body_eq_none rfl)).mono ?_
    exact fun bridge m _ hadded => hasFunction_of_some (function?_of_addFunction hadded)
  · exact .throw hs (.refused (.bridgeNotInherited hf (by simpa using hfake)))

end

lemma Request.safe {s : Session} (hs : s.WellFormed) (r : Request) (hk : r.KeyIn s.module) :
    Safe (r.Fails s) s r.work fun a m => r.ResultIn m a := by
  cases r with
  | entryField ref =>
    exact .once checks_entryFields hs (fun hx => hx.hasEntry hk) (safe_newEntryField hs hk)
  | instanceField ref => exact safe_instanceField hs hk
  | privateInstanceField ref => exact safe_privateInstanceField hs hk
  | staticPair ref =>
    exact .once checks_staticPairs hs (fun hx => hx.hasFunction hk) (safe_newStaticPair hs hk)
  | defaultImpls ref =>
    exact .once checks_defaultImpls hs (fun hx => hx.hasClass hk) (safe_newDefaultImpls hs hk)
  | redirection ref =>
    exact .once checks_redirections hs (fun hx => hx.hasFunction hk) (safe_newRedirection hs hk)

section

open Lowering

variable {E : Failure → Prop} {s : Session}

lemma exec_findFunction (accepts : Function → Bool) {refs : List FunctionRef}
    (h : ∀ ref ∈ refs, s.module.HasFunction ref) :
    ∃ found, exec (findFunction accepts refs) s = (.ok found, s) ∧
      ∀ p ∈ found, s.module.HasFunction p.1 := by
  induction refs with
  | nil => exact ⟨none, rfl, by simp⟩
  | cons ref rest ih =>
    obtain ⟨f, hf⟩ := Option.isSome_iff_exists.mp
      (Module.function?_isSome.mpr (h ref List.mem_cons_self))
    rw [findFunction, exec_bind_ok (exec_functionOf_eq_ok.mpr ⟨hf, rfl⟩)]
    split
    · refine ⟨some (ref, f), rfl, ?_⟩
      rintro p ⟨⟩
      exact hasFunction_of_some hf
    · exact ih fun other ho => h other (List.mem_cons_of_mem ref ho)

lemma Module.WellFormed.classFunctions {m : Module} {ref : ClassRef} {c : Class} (h : m.WellFormed)
    (hc : m.class? ref = some c) : ∀ f ∈ c.functions, m.HasFunction f := by
  intro f hf
  obtain ⟨member, hm, hmember⟩ := List.mem_filterMap.mp hf
  have hin := h.classMembers c (Array.mem_of_getElem? hc) member hm
  cases member with
  | function g =>
    cases hmember
    exact hin
  | classDecl _ => cases hmember
  | field _ => cases hmember
  | property _ => cases hmember
  | entry _ => cases hmember

lemma safe_reportSuspendMain {ref : ClassRef} (hs : s.WellFormed) (h : s.module.HasClass ref) :
    Safe E s (reportSuspendMain ref) fun _ _ => True := by
  refine .of_ok rfl ⟨hs.sound, hs.derived, ?_⟩ (refl_of Module.Extends _) trivial
  exact List.forall_mem_append.mpr ⟨hs.suspendMains, by simpa using h⟩

lemma within_entryPoint {m : Module} {owner : ClassRef} {main : FunctionRef} (ho : m.HasClass owner)
    (hm : m.HasFunction main) : (entryPoint owner main).Within m where
  parent := ho
  overridden _ h := nomatch h
  property _ h := nomatch h
  attributeOwner _ h := nomatch h
  body := by
    rintro b ⟨⟩ e he
    rw [List.mem_singleton.mp he]
    exact .call hm (by simp)

lemma reads_entryPoint (m : Module) (owner : ClassRef) (main : FunctionRef) :
    (entryPoint owner main).ReadsParams m := by
  rintro b ⟨⟩ e he
  rw [List.mem_singleton.mp he]
  exact .call (by simp)

lemma safe_addEntryPoint {ref : ClassRef} (hs : s.WellFormed) (h : s.module.HasClass ref) :
    Safe E s (addEntryPoint ref) fun _ _ => True := by
  refine .readClass h fun c hc => ?_
  have hfunctions := hs.sound.wellFormed.classFunctions hc
  obtain ⟨withArgs, hwith, -⟩ := exec_findFunction isMainWithArgs hfunctions
  obtain ⟨plain, hplain, hin⟩ := exec_findFunction isPlainMain hfunctions
  refine .read hwith ?_
  cases withArgs with
  | some p =>
    dsimp only
    split
    · exact safe_reportSuspendMain hs h
    · exact .pure hs trivial
  | none =>
    refine .read hplain ?_
    cases plain with
    | none => exact .pure hs trivial
    | some p =>
      have hmain := hin p rfl
      dsimp only
      split
      · exact safe_reportSuspendMain hs h
      · refine .bind (.addFunction hs (within_entryPoint h hmain) (reads_entryPoint _ _ _))
          fun entry t ht hx hadded => ?_
        exact .addMember ht (hx.hasClass h) (hasFunction_of_some (function?_of_addFunction hadded))

lemma Work.Safe.forM {α : Type} {xs : List α} {g : α → Work Unit} (hs : s.WellFormed)
    (hg : ∀ a ∈ xs, ∀ t, t.WellFormed → s.module.Extends t.module →
      Safe E t (g a) fun _ _ => True) :
    Safe E s (xs.forM g) fun _ _ => True := by
  induction xs generalizing s with
  | nil => exact .pure hs trivial
  | cons a rest ih =>
    refine (hg a List.mem_cons_self s hs (refl_of Module.Extends _)).bind fun _ t ht hx _ => ?_
    refine ih ht fun b hb u hu hu' => ?_
    exact hg b (List.mem_cons_of_mem a hb) u hu (trans_of Module.Extends hx hu')

lemma hasClass_of_mem_classesWhere {m : Module} {condition : Class → Bool} {ref : ClassRef}
    (h : ref ∈ classesWhere m condition) : m.HasClass ref := by
  obtain ⟨i, hi, rfl⟩ := List.mem_map.mp (List.mem_filter.mp h).1
  exact List.mem_range.mp hi

lemma Lowering.Pass.safe (p : Pass) (hs : s.WellFormed) : Safe E s p.run fun _ _ => True := by
  cases p with
  | entryPoints =>
    refine .read (x := get) (a := s) rfl (.forM hs fun ref href t ht hx => ?_)
    exact safe_addEntryPoint ht (hx.hasClass (hasClass_of_mem_classesWhere href))
  | objectFields =>
    refine .read (x := get) (a := s) rfl (.forM hs fun ref href t ht hx => ?_)
    have hclass := hx.hasClass (hasClass_of_mem_classesWhere href)
    refine (safe_instanceField ht hclass).bind fun field u hu hux hfield => ?_
    exact .addMember hu (hux.hasClass hclass) hfield

end

inductive Session.Reaches (s : Session) : Session → Prop
  | start : Reaches s s
  | request {t : Session} (r : Request) :
      Reaches s t → r.KeyIn t.module → Reaches s (exec r.work t).2
  | pass {t : Session} (p : Lowering.Pass) : Reaches s t → Reaches s (exec p.run t).2

lemma Session.Reaches.wellFormed {s t : Session} (h : s.Reaches t) (hs : s.WellFormed) :
    t.WellFormed := by
  induction h with
  | start => exact hs
  | request r _ hk ih => exact (r.safe ih hk).wellFormed
  | pass p _ ih => exact (p.safe (E := fun _ => False) ih).wellFormed

/-- A file class with a `main`, a companion in it with an external member that reads its parameter,
and a function that stands in no class. -/
def fileUnit : Session :=
  let package := Parent.inPackage Standard.any.package
  let file := { Class.make Standard.any .plain package with
    status := Status.publicFinal.withFlags (.of [.fileClass])
    members := [.classDecl ⟨1⟩, .function ⟨0⟩] }
  let companion :=
    { Class.make ⟨Standard.any.package, .companion, .companion⟩ .object (.inClass ⟨0⟩) with
      status := Status.publicFinal.withFlags (.of [.companion])
      members := [.function ⟨1⟩] }
  let main := Function.make .mainFunction (.inClass ⟨0⟩) .unit
  let member := { Function.make .int (.inClass ⟨1⟩) .unit with
    status := Status.publicFinal.withFlags (.of [.external])
    params := [⟨.companion, companion.type, .dispatch⟩, ⟨.int, .unit, .regular⟩]
    body := some (.block [.call ⟨0⟩ [] [], .value ⟨1⟩ 1]) }
  let free := Function.make .any package .unit
  let unit := { Module.empty .companion with
    classes := #[file, companion]
    functions := #[main, member, free]
    topLevel := [⟨0⟩] }
  ⟨.new, unit, .empty, .standard, []⟩

lemma fileUnit_wellFormed : fileUnit.WellFormed := by
  have hmain : fileUnit.module.HasFunction ⟨0⟩ := (by decide : 0 < 3)
  have hmember : fileUnit.module.HasFunction ⟨1⟩ := (by decide : 1 < 3)
  have hcompanion : fileUnit.module.HasClass ⟨1⟩ := (by decide : 1 < 2)
  have hfunctions : ∀ f ∈ fileUnit.module.functions,
      f.Within fileUnit.module ∧ f.ReadsParams fileUnit.module := by
    intro f hf
    simp only [fileUnit, List.mem_toArray, List.mem_cons, List.not_mem_nil, or_false] at hf
    rcases hf with rfl | rfl | rfl
    · refine ⟨?_, reads_of_body_eq_none rfl⟩
      constructor <;> simp [Function.make, Module.HasParent, Module.HasClass, fileUnit]
    · have hcall : Expr.Within fileUnit.module (.call ⟨0⟩ [] []) := .call hmain (by simp)
      have hread : Expr.ReadsParams fileUnit.module (.value ⟨1⟩ 1) := .value rfl (by decide)
      refine ⟨⟨hcompanion, ?_, ?_, ?_, ?_⟩, ?_⟩
      iterate 3 simp [Function.make]
      · rintro b ⟨⟩
        exact List.forall_mem_cons.mpr ⟨hcall, by simpa using .value 1 hmember⟩
      · rintro b ⟨⟩
        exact List.forall_mem_cons.mpr ⟨.call (by simp), by simpa using hread⟩
    · refine ⟨?_, reads_of_body_eq_none rfl⟩
      constructor <;> simp [Function.make, Module.HasParent]
  have hmodule : fileUnit.module.WellFormed := by
    constructor
    case functions => exact fun f hf => (hfunctions f hf).1
    all_goals
      simp [fileUnit, Module.empty, Class.make, Module.HasClass, Module.HasFunction,
        Module.HasParent, Module.HasMember]
  refine ⟨⟨hmodule, fun f hf => (hfunctions f hf).2⟩, ?_, ?_⟩
  · constructor <;> simp [fileUnit, Derived.empty]
  · simp [fileUnit]

end ClrCompiler.Decl
