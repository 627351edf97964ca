import ClrCompiler.Proofs.Decl.Commute
import ClrCompiler.Proofs.Decl.Room

/-! Requests that fail: all that a request is refused for is found out before it changes anything,
and what is recorded is never refused. -/

namespace ClrCompiler.Decl

open Work Derive

def Work.Succeeds {α : Type} (x : Work α) (s : Session) : Prop := ∃ a t, exec x s = (.ok a, t)

/-- Work that gives a result on `s`, or fails for something that `E` holds for before it has changed
anything. -/
def Work.Ends {α : Type} (E : Failure → Prop) (x : Work α) (s : Session) : Prop :=
  x.Succeeds s ∨ ∃ e, E e ∧ exec x s = (.error e, s)

section

variable {α β κ : Type} {s : Session}

lemma Work.Succeeds.bind {x : Work α} {f : α → Work β} {a : α} {t : Session}
    (hx : exec x s = (.ok a, t)) (hf : (f a).Succeeds t) : (x >>= f).Succeeds s := by
  obtain ⟨b, u, h⟩ := hf
  exact ⟨b, u, (exec_bind_ok hx).trans h⟩

variable [BEq κ] {table : Derived.Table κ α} {key : κ} {make : Work α}

lemma Work.Succeeds.once (h : make.Succeeds s) : (once table key make).Succeeds s := by
  obtain ⟨a, t, h⟩ := h
  cases hl : (table.entries s.derived).lookup key with
  | some b => exact ⟨b, s, exec_once_of_some hl⟩
  | none => exact ⟨a, _, exec_once_of_none hl h⟩

lemma exec_once_eq_error {e : Failure} {t : Session} :
    exec (once table key make) s = (.error e, t) ↔
      (table.entries s.derived).lookup key = none ∧ exec make s = (.error e, t) := by
  constructor
  · intro h
    have hl := lookup_of_exec_once_error h
    refine ⟨hl, ?_⟩
    rcases hm : exec make s with ⟨_ | a, u⟩
    · rw [once, exec_get_bind, hl] at h
      change exec (make >>= _) s = _ at h
      rw [exec_bind_error hm] at h
      exact h
    · rw [exec_once_of_none hl hm] at h
      cases h
  · rintro ⟨hl, hm⟩
    rw [once, exec_get_bind, hl]
    exact exec_bind_error hm

end

section

variable {s : Session}

lemma succeeds_newEntryField (hw : s.module.WellFormed) {ref : EntryRef}
    (h : s.module.HasEntry ref) : (newEntryField ref).Succeeds s := by
  have hsome : (s.module.entry? ref).isSome := by
    simpa [Module.entry?, Module.HasEntry] using h
  obtain ⟨entry, hentry⟩ := Option.isSome_iff_exists.mp hsome
  obtain ⟨owner, howner⟩ := Option.isSome_iff_exists.mp
    (Module.class?_isSome (hw.entryOwners entry (Array.mem_of_getElem? hentry)))
  refine .bind (exec_entryOf_eq_ok.mpr ⟨hentry, rfl⟩) ?_
  exact .bind (exec_classOf_eq_ok.mpr ⟨howner, rfl⟩) ⟨_, _, exec_addField _ s⟩

end

section

variable {s : Session} {ref : ClassRef} (hw : s.module.WellFormed) (h : s.module.HasClass ref)
include hw h

lemma succeeds_instanceField : (instanceField ref).Succeeds s := by
  obtain ⟨c, hc⟩ := Option.isSome_iff_exists.mp (Module.class?_isSome h)
  obtain ⟨t, ht, -⟩ := exec_instanceField hc fun o ho => hw.outer hc ho
  exact ⟨_, t, ht⟩

lemma succeeds_privateInstanceField : (privateInstanceField ref).Succeeds s := by
  obtain ⟨c, hc⟩ := Option.isSome_iff_exists.mp (Module.class?_isSome h)
  have hexec := exec_privateInstanceField hc fun _ o ho => hw.outer hc ho
  split at hexec
  · obtain ⟨field, t, hfield⟩ : (once .interfaceCompanionFields ref
        (newInterfaceCompanionField ref c)).Succeeds s := .once ⟨_, _, exec_addField _ s⟩
    exact ⟨field, t, hexec.trans hfield⟩
  · obtain ⟨field, t, hfield⟩ := succeeds_instanceField hw h
    exact ⟨field, t, hexec.trans hfield⟩

omit hw in
lemma newDefaultImpls_ends : (newDefaultImpls ref).Ends ((Request.defaultImpls ref).Fails s) s := by
  obtain ⟨c, hc⟩ := Option.isSome_iff_exists.mp (Module.class?_isSome h)
  have hclass := exec_classOf_eq_ok.mpr ⟨hc, rfl⟩
  have hfails {n : Name} (hn : n ∈ [c.id.relative, .defaultImpls]) (hmissing : s.names.size ≤ n.raw) :
      (Request.defaultImpls ref).Fails s .outOfBounds :=
    .unreadable (by simpa [Request.reads, hc] using hn) hmissing
  by_cases hpath : c.id.relative.raw < s.names.size
  · by_cases hlast : Name.defaultImpls.raw < s.names.size
    · refine .inl (.bind hclass (.bind ((exec_nested hpath hlast).trans (exec_naming _ s)) ?_))
      exact ⟨_, _, exec_addClass _ _⟩
    · have hmissing := Nat.not_lt.mp hlast
      refine .inr ⟨_, hfails (by simp) hmissing, ?_⟩
      rw [newDefaultImpls, exec_bind_ok hclass]
      exact exec_bind_error (exec_nested_error (.inr hmissing))
  · have hmissing := Nat.not_lt.mp hpath
    refine .inr ⟨_, hfails (by simp) hmissing, ?_⟩
    rw [newDefaultImpls, exec_bind_ok hclass]
    exact exec_bind_error (exec_nested_error (.inl hmissing))

end

section

variable {s : Session} {ref : FunctionRef} {f : Function} {e : Failure}

lemma exec_newStaticPair_refused (h : (Request.staticPair ref).Refused s.module e) :
    exec (newStaticPair ref) s = (.error e, s) := by
  cases h with
  | pairNotInClass hf hp => exact exec_bind_error (exec_parentClass_error hf hp)
  | pairNotOfCompanion hf hp hc hcomp =>
    rw [newStaticPair, exec_bind_ok (exec_parentClass_eq_ok.mpr ⟨⟨_, hf, hp⟩, rfl⟩),
      exec_bind_ok (exec_classOf_eq_ok.mpr ⟨hc, rfl⟩), hcomp]
    rfl
  | companionNotNested hf hmember hp hc hcomp ho =>
    rw [exec_newStaticPair hf hp hc hcomp, hmember, ho]
    rfl

lemma exec_newRedirection_refused (h : (Request.redirection ref).Refused s.module e) :
    exec (newRedirection ref) s = (.error e, s) := by
  cases h with
  | bridgeNotInherited hf hfake =>
    rw [newRedirection, exec_bind_ok (exec_functionOf_eq_ok.mpr ⟨hf, rfl⟩), hfake]
    rfl
  | bridgeNotInClass hf hfake hp =>
    rw [newRedirection, exec_bind_ok (exec_functionOf_eq_ok.mpr ⟨hf, rfl⟩), if_pos hfake]
    exact exec_bind_error (exec_parentClass_error hf hp)

variable (hw : s.module.WellFormed) (hf : s.module.function? ref = some f)
include hw hf

lemma exists_parent {owner : ClassRef} (hp : f.parent.class? = some owner) :
    ∃ c, s.module.class? owner = some c :=
  Option.isSome_iff_exists.mp (Module.class?_isSome
    ((hw.functions f (Array.mem_of_getElem? hf)).parent.hasClass hp))

section

variable {companionRef : ClassRef} {companion : Class} (hp : f.parent.class? = some companionRef)
  (hc : s.module.class? companionRef = some companion) (hcomp : companion.isCompanion = true)
include hp hc hcomp

lemma succeeds_externalPair (hexternal : f.isExternal = true) : (newStaticPair ref).Succeeds s := by
  let copy := siblingFor ref f companion.parent
  let added : Session := { s with module := (s.module.addFunction copy).2 }
  have hreceiver : copy.dispatchReceiver = none :=
    Function.dispatchReceiver_eq_none f.nonDispatchParams_isDispatch
  have hadded : added.module.function? ⟨s.module.functions.size⟩ = some copy :=
    Array.getElem?_push_size
  have hsibling : exec (staticSibling ref companion.parent) s =
      (.ok ⟨s.module.functions.size⟩, added) :=
    exec_bind_ok (exec_functionOf_eq_ok.mpr ⟨hf, rfl⟩)
  have hunknown : added.module.accessed? ⟨s.module.functions.size⟩ = none :=
    accessed?_of_new hw (Nat.lt_irrefl _) rfl
  obtain ⟨_, _, t, hforwarder, -⟩ := exec_forwarder (s := added) companionRef false hc hadded
    (fun p hp => hw.property hf hp) (by simp [hunknown]) fun h => by rw [hreceiver] at h; cases h
  rw [Succeeds, exec_newStaticPair hf hp hc hcomp, if_pos hexternal]
  exact Succeeds.bind hsibling (.bind hforwarder ⟨_, t, rfl⟩)

/-- The name of a forwarder is found before the forwarder is added. -/
lemma memberPair_ends (hmember : f.isExternal = false) {ownerRef : ClassRef}
    (ho : companion.parent.class? = some ownerRef) :
    (newStaticPair ref).Ends ((Request.staticPair ref).Fails s) s := by
  obtain ⟨owner, howner⟩ := Option.isSome_iff_exists.mp (hw.outer hc ho)
  rw [Ends, Succeeds, exec_newStaticPair hf hp hc hcomp, hmember, ho]
  by_cases hn : ∀ p, s.module.accessed? ref = some p → p.name.raw < s.names.size
  · obtain ⟨_, _, t, hforwarder, -⟩ := exec_forwarder companionRef true howner hf
      (fun p hp => hw.property hf hp) hn fun _ => ⟨hp, companion, hc, fun o ho => hw.outer hc ho⟩
    exact .inl (Succeeds.bind hforwarder ⟨_, t, rfl⟩)
  · push Not at hn
    obtain ⟨p, haccess, hmissing⟩ := hn
    have hread : p.name ∈ (Request.staticPair ref).reads s.module := by
      simp [Request.reads, hf, hmember, haccess]
    refine .inr ⟨_, .unreadable hread hmissing, exec_bind_error ?_⟩
    rw [forwarder, exec_bind_ok (exec_classOf_eq_ok.mpr ⟨howner, rfl⟩),
      exec_bind_ok (exec_functionOf_eq_ok.mpr ⟨hf, rfl⟩)]
    exact exec_bind_error (exec_platformName_error haccess hmissing)

end

lemma newStaticPair_ends : (newStaticPair ref).Ends ((Request.staticPair ref).Fails s) s := by
  have hrefused {e : Failure} (h : (Request.staticPair ref).Refused s.module e) :
      (newStaticPair ref).Ends ((Request.staticPair ref).Fails s) s :=
    .inr ⟨e, .refused h, exec_newStaticPair_refused h⟩
  cases hp : f.parent.class? with
  | none => exact hrefused (.pairNotInClass hf hp)
  | some companionRef =>
    obtain ⟨companion, hc⟩ := exists_parent hw hf hp
    cases hcomp : companion.isCompanion with
    | false => exact hrefused (.pairNotOfCompanion hf hp hc hcomp)
    | true =>
      cases hexternal : f.isExternal with
      | true => exact .inl (succeeds_externalPair hw hf hp hc hcomp hexternal)
      | false =>
        cases ho : companion.parent.class? with
        | none => exact hrefused (.companionNotNested hf hexternal hp hc hcomp ho)
        | some owner => exact memberPair_ends hw hf hp hc hcomp hexternal ho

lemma newRedirection_ends : (newRedirection ref).Ends ((Request.redirection ref).Fails s) s := by
  have hrefused {e : Failure} (h : (Request.redirection ref).Refused s.module e) :
      (newRedirection ref).Ends ((Request.redirection ref).Fails s) s :=
    .inr ⟨e, .refused h, exec_newRedirection_refused h⟩
  cases hfake : f.isFakeOverride with
  | false => exact hrefused (.bridgeNotInherited hf hfake)
  | true =>
    cases hp : f.parent.class? with
    | none => exact hrefused (.bridgeNotInClass hf hfake hp)
    | some ownerRef =>
      obtain ⟨owner, ho⟩ := exists_parent hw hf hp
      refine .inl (.bind (exec_functionOf_eq_ok.mpr ⟨hf, rfl⟩) ?_)
      rw [if_pos hfake]
      refine .bind (exec_parentClass_eq_ok.mpr ⟨⟨f, hf, hp⟩, rfl⟩) ?_
      exact .bind (exec_classOf_eq_ok.mpr ⟨ho, rfl⟩) ⟨_, _, exec_addFunction _ s⟩

end

lemma refused_staticPair_iff {m : Module} {ref : FunctionRef} {f : Function}
    (hf : m.function? ref = some f) : (∃ e, (Request.staticPair ref).Refused m e) ↔
      f.parent.class? = none ∨ ∃ companionRef companion, f.parent.class? = some companionRef ∧
        m.class? companionRef = some companion ∧
        (companion.isCompanion = false ∨
          f.isExternal = false ∧ companion.parent.class? = none) := by
  constructor
  · rintro ⟨e, h⟩
    cases h with
    | pairNotInClass hf' hp =>
      cases hf.symm.trans hf'
      exact .inl hp
    | pairNotOfCompanion hf' hp hc hcomp =>
      cases hf.symm.trans hf'
      exact .inr ⟨_, _, hp, hc, .inl hcomp⟩
    | companionNotNested hf' hmember hp hc hcomp ho =>
      cases hf.symm.trans hf'
      exact .inr ⟨_, _, hp, hc, .inr ⟨hmember, ho⟩⟩
  · rintro (hp | ⟨companionRef, companion, hp, hc, hcomp | ⟨hmember, ho⟩⟩)
    · exact ⟨_, .pairNotInClass hf hp⟩
    · exact ⟨_, .pairNotOfCompanion hf hp hc hcomp⟩
    · -- of two reasons the first one is given
      cases hcomp : companion.isCompanion with
      | false => exact ⟨_, .pairNotOfCompanion hf hp hc hcomp⟩
      | true => exact ⟨_, .companionNotNested hf hmember hp hc hcomp ho⟩

lemma refused_redirection_iff {m : Module} {ref : FunctionRef} {f : Function}
    (hf : m.function? ref = some f) : (∃ e, (Request.redirection ref).Refused m e) ↔
      f.isFakeOverride = false ∨ f.parent.class? = none := by
  constructor
  · rintro ⟨e, h⟩
    cases h with
    | bridgeNotInherited hf' hfake =>
      cases hf.symm.trans hf'
      exact .inl hfake
    | bridgeNotInClass hf' _ hp =>
      cases hf.symm.trans hf'
      exact .inr hp
  · rintro (hfake | hp)
    · exact ⟨_, .bridgeNotInherited hf hfake⟩
    · cases hfake : f.isFakeOverride with
      | false => exact ⟨_, .bridgeNotInherited hf hfake⟩
      | true => exact ⟨_, .bridgeNotInClass hf hfake hp⟩

section

variable {α κ : Type} [BEq κ] {s : Session} {table : Derived.Table κ α} {key : κ} {make : Work α}
  {E : Failure → Prop} (hends : make.Ends E s)
include hends

lemma exec_once_fails_iff (herror : ∀ e, E e → exec make s = (.error e, s)) :
    (∃ e t, exec (once table key make) s = (.error e, t)) ↔
      (table.entries s.derived).lookup key = none ∧ ∃ e, E e := by
  simp only [exec_once_eq_error]
  constructor
  · rintro ⟨e, t, hl, hm⟩
    refine ⟨hl, ?_⟩
    rcases hends with ⟨a, u, hok⟩ | ⟨e', he, -⟩
    · cases hok.symm.trans hm
    · exact ⟨e', he⟩
  · rintro ⟨hl, e, he⟩
    exact ⟨e, s, hl, herror e he⟩

lemma exec_once_unchanged {e : Failure} {t : Session}
    (h : exec (once table key make) s = (.error e, t)) : t = s ∧ E e := by
  have hm := (exec_once_eq_error.mp h).2
  rcases hends with ⟨a, u, hok⟩ | ⟨e', he, herror⟩
  · cases hok.symm.trans hm
  · cases herror.symm.trans hm
    exact ⟨rfl, he⟩

end

lemma Work.Succeeds.not_error {α : Type} {x : Work α} {s t : Session} {e : Failure}
    (h : x.Succeeds s) : exec x s ≠ (.error e, t) := by
  obtain ⟨a, u, hok⟩ := h
  rw [hok]
  simp

lemma Request.unchanged {s t : Session} (hw : s.module.WellFormed) (r : Request)
    (hk : r.KeyIn s.module) {e : Failure} (h : exec r.work s = (.error e, t)) :
    t = s ∧ r.Fails s e := by
  have hfunction {ref : FunctionRef} (h : s.module.HasFunction ref) :=
    Option.isSome_iff_exists.mp (Module.function?_isSome.mpr h)
  cases r with
  | entryField ref => exact absurd h (Succeeds.once (succeeds_newEntryField hw hk)).not_error
  | instanceField ref => exact absurd h (succeeds_instanceField hw hk).not_error
  | privateInstanceField ref => exact absurd h (succeeds_privateInstanceField hw hk).not_error
  | staticPair ref =>
    obtain ⟨f, hf⟩ := hfunction hk
    exact exec_once_unchanged (newStaticPair_ends hw hf) h
  | defaultImpls ref => exact exec_once_unchanged (newDefaultImpls_ends hk) h
  | redirection ref =>
    obtain ⟨f, hf⟩ := hfunction hk
    exact exec_once_unchanged (newRedirection_ends hw hf) h

-- a class that is called by a name of another interner
example :
    let package := Standard.any.package
    let foreign := Class.make (.topLevel package ⟨1000⟩) .plain (.inPackage package)
    let s : Session := { fileUnit with module := fileUnit.module.setClass ⟨0⟩ foreign }
    (exec (Request.defaultImpls ⟨0⟩).work s).1 = .error .outOfBounds := rfl

section

variable {α : Type} {s : Session} {r : Request} {x : Work α} (hr : s.names.Reachable)
  (hn : s.NamesStored)
include hr hn

lemma Work.Ends.refused_of_stored (h : x.Ends (r.Fails s) s) : x.Ends (r.Refused s.module) s :=
  h.imp_right fun ⟨e, he, herror⟩ => ⟨e, he.refused_of_stored hr hn, herror⟩

lemma succeeds_newDefaultImpls {ref : ClassRef} (h : s.module.HasClass ref) :
    (newDefaultImpls ref).Succeeds s := by
  rcases (newDefaultImpls_ends h).refused_of_stored hr hn with hok | ⟨e, he, -⟩
  · exact hok
  · cases he

end

theorem Request.failure_unchanged {s : Session} (hw : s.module.WellFormed) :
    (∀ r : Request, r.KeyIn s.module → ∀ e t, exec r.work s = (.error e, t) → t = s ∧ r.Fails s e) ∧
    (∀ (r : Request) (n : Nat), s.HasRoom (n + 5) → (exec r.work s).2.HasRoom n) ∧
    (s.names.Reachable → s.NamesStored →
      (∀ ref f, s.module.function? ref = some f →
        ((∃ e t, exec (Derive.staticPair ref) s = (.error e, t)) ↔
          s.derived.staticPairs.lookup ref = none ∧
            (f.parent.class? = none ∨ ∃ companionRef companion,
              f.parent.class? = some companionRef ∧
              s.module.class? companionRef = some companion ∧
              (companion.isCompanion = false ∨
                f.isExternal = false ∧ companion.parent.class? = none)))) ∧
      (∀ ref f, s.module.function? ref = some f →
        ((∃ e t, exec (Derive.redirection ref) s = (.error e, t)) ↔
          s.derived.redirections.lookup ref = none ∧
            (f.isFakeOverride = false ∨ f.parent.class? = none))) ∧
      (∀ ref, s.module.HasEntry ref → ∃ field t, exec (Derive.entryField ref) s = (.ok field, t)) ∧
      ∀ ref, s.module.HasClass ref →
        (∃ field t, exec (Derive.instanceField ref) s = (.ok field, t)) ∧
        (∃ field t, exec (Derive.privateInstanceField ref) s = (.ok field, t)) ∧
        ∃ impls t, exec (Derive.defaultImpls ref) s = (.ok impls, t)) := by
  refine ⟨fun r hk e t h => r.unchanged hw hk h, fun r n h => (r.costs s).hasRoom h,
    fun hr hn => ⟨fun ref f hf => ?_, fun ref f hf => ?_, ?_, ?_⟩⟩
  · rw [← refused_staticPair_iff hf]
    exact exec_once_fails_iff ((newStaticPair_ends hw hf).refused_of_stored hr hn)
      fun _ => exec_newStaticPair_refused
  · rw [← refused_redirection_iff hf]
    exact exec_once_fails_iff ((newRedirection_ends hw hf).refused_of_stored hr hn)
      fun _ => exec_newRedirection_refused
  · exact fun ref h => Succeeds.once (succeeds_newEntryField hw h)
  · exact fun ref h => ⟨succeeds_instanceField hw h, succeeds_privateInstanceField hw h,
      Succeeds.once (succeeds_newDefaultImpls hr hn h)⟩

def recordedUnit : Session :=
  { fileUnit with derived := Derived.Table.staticPairs.record .empty ⟨2⟩ ⟨⟨0⟩, ⟨2⟩⟩ }

theorem Request.failure_unchanged_recordedUnit :
    recordedUnit.module.WellFormed ∧ recordedUnit.names.Reachable ∧ recordedUnit.NamesStored ∧
      (∃ e, exec (Derive.staticPair ⟨0⟩) recordedUnit = (.error e, recordedUnit)) ∧
      (∃ e, exec (Derive.redirection ⟨1⟩) recordedUnit = (.error e, recordedUnit)) ∧
      ¬(∃ e t, exec (Derive.staticPair ⟨1⟩) recordedUnit = (.error e, t)) ∧
      ¬∃ e t, exec (Derive.staticPair ⟨2⟩) recordedUnit = (.error e, t) := by
  have hw : recordedUnit.module.WellFormed := fileUnit_wellFormed.sound.wellFormed
  have hr : recordedUnit.names.Reachable := .refl
  have hn : recordedUnit.NamesStored := by
    rw [Session.NamesStored]
    decide
  obtain ⟨hunchanged, -, hstored⟩ := failure_unchanged hw
  obtain ⟨hpair, hbridge, -⟩ := hstored hr hn
  have hmain : recordedUnit.module.function? ⟨0⟩ = some _ := rfl
  have hmember : recordedUnit.module.function? ⟨1⟩ = some _ := rfl
  have hfree : recordedUnit.module.function? ⟨2⟩ = some _ := rfl
  refine ⟨hw, hr, hn, ?_, ?_, ?_, ?_⟩
  · obtain ⟨e, t, h⟩ := (hpair ⟨0⟩ _ hmain).mpr ⟨rfl, .inr ⟨⟨0⟩, _, rfl, rfl, .inl rfl⟩⟩
    exact ⟨e, (hunchanged (.staticPair ⟨0⟩) (by decide : 0 < 3) e t h).1 ▸ h⟩
  · obtain ⟨e, t, h⟩ := (hbridge ⟨1⟩ _ hmember).mpr ⟨rfl, .inl rfl⟩
    exact ⟨e, (hunchanged (.redirection ⟨1⟩) (by decide : 1 < 3) e t h).1 ▸ h⟩
  · rw [hpair ⟨1⟩ _ hmember]
    rintro ⟨-, hp | ⟨companionRef, companion, hp, hc, hcomp | ⟨hexternal, -⟩⟩⟩
    · cases hp
    · cases hp
      cases hc
      cases hcomp
    · cases hexternal
  · rw [hpair ⟨2⟩ _ hfree]
    rintro ⟨hrecorded, -⟩
    cases hrecorded

end ClrCompiler.Decl
