import ClrCompiler.Proofs.Decl.Made
import ClrCompiler.Proofs.Decl.Renaming
import ClrCompiler.Proofs.Decl.SafeWork

/-! Derived declarations are named by what is stored: their names are names of the declarations they
are derived from, known ones, or new ones of the interner. -/

namespace ClrCompiler.Decl

open Derive Derived Interner

section

variable {P : Name → Prop}

lemma Class.names_type {c : Class} (hc : ∀ n ∈ c.names, P n) : ∀ n ∈ c.type.names, P n := by
  simp only [Class.names, List.forall_mem_append] at hc
  have htype : c.type.names = c.id.names ++ [] := rfl
  rw [htype, List.append_nil]
  exact hc.1.1.1

lemma Class.names_parent {c : Class} (hc : ∀ n ∈ c.names, P n) : ∀ n ∈ c.parent.names, P n := by
  simp only [Class.names, List.forall_mem_append] at hc
  exact hc.1.1.2

lemma names_siblingFor {f : Function} {owner : Parent} (ref : FunctionRef)
    (hf : ∀ n ∈ f.names, P n) (ho : ∀ n ∈ owner.names, P n) :
    ∀ n ∈ (siblingFor ref f owner).names, P n := by
  simp only [Function.names, siblingFor, List.cons_append, List.forall_mem_cons,
    List.forall_mem_append, List.forall_mem_flatMap] at hf ⊢
  obtain ⟨hname, ⟨⟨⟨⟨-, htype⟩, hparameters⟩, hparams⟩, hannotations⟩, -⟩ := hf
  refine ⟨hname, ⟨⟨⟨⟨ho, htype⟩, hparameters⟩, fun p hp => ?_⟩, hannotations⟩, by simp⟩
  exact hparams p (List.mem_of_mem_filter hp)

lemma names_forwarderHead {target : Function} {name : Name} {receiver : Option Param}
    (ownerRef : ClassRef) (owner : Class) (targetRef : FunctionRef)
    (hf : ∀ n ∈ target.names, P n) (hname : P name)
    (hreceiver : ∀ p ∈ receiver, ∀ n ∈ p.names, P n) :
    ∀ n ∈ (forwarderHead ownerRef owner targetRef target name receiver).names, P n := by
  simp only [Function.names, forwarderHead, Function.make, Parent.names, List.cons_append,
    List.forall_mem_cons, List.forall_mem_append, List.forall_mem_flatMap] at hf ⊢
  obtain ⟨-, ⟨⟨⟨⟨-, htype⟩, hparameters⟩, hparams⟩, hannotations⟩, -⟩ := hf
  refine ⟨hname, ⟨⟨⟨⟨by simp, htype⟩, hparameters⟩, ?_, fun p hp => ?_⟩, hannotations⟩, by simp⟩
  · exact fun p hp => hreceiver p (Option.mem_toList.mp hp)
  · exact hparams p (List.mem_of_mem_filter hp)

lemma names_callThrough {head : Function} {receiver : List Expr} (ref targetRef : FunctionRef)
    (hf : ∀ n ∈ head.names, P n) (hreceiver : ∀ e ∈ receiver, e.names = []) :
    ∀ n ∈ (callThrough ref head targetRef receiver).names, P n := by
  have hpassed : ∀ e ∈ receiver ++ passedOn ref head.params, e.names = [] := by
    rw [List.forall_mem_append, passedOn, List.forall_mem_map]
    exact ⟨hreceiver, fun _ _ => rfl⟩
  have hcall : (receiver ++ passedOn ref head.params).flatMap Expr.names = [] :=
    List.flatMap_eq_nil_iff.mpr hpassed
  simp only [Function.names, callThrough, Option.toList_some, List.flatMap_singleton, Body.names,
    Expr.names, Expr.namesAll_eq_flatMap, hcall, List.append_nil, List.cons_append,
    List.forall_mem_cons, List.forall_mem_append] at hf ⊢
  obtain ⟨hname, hrest, -⟩ := hf
  exact ⟨hname, hrest, hrest.1.1.2⟩

lemma names_bridgeFor {f : Function} {owner : Class} (ownerRef : ClassRef)
    (hf : ∀ n ∈ f.names, P n) (ho : ∀ n ∈ owner.names, P n) :
    ∀ n ∈ (bridgeFor ownerRef owner f).names, P n := by
  simp only [Function.names, bridgeFor, Parent.names, List.cons_append, List.forall_mem_cons,
    List.forall_mem_append, List.forall_mem_flatMap, List.forall_mem_map] at hf ⊢
  obtain ⟨hname, ⟨⟨⟨⟨-, htype⟩, hparameters⟩, hparams⟩, hannotations⟩, -⟩ := hf
  refine ⟨hname, ⟨⟨⟨⟨by simp, htype⟩, hparameters⟩, fun p hp => ?_⟩, hannotations⟩, by simp⟩
  have hnames := hparams p hp
  simp only [Param.names, List.forall_mem_cons] at hnames ⊢
  split
  · exact ⟨hnames.1, Class.names_type ho⟩
  · exact hnames

lemma names_defaultImplsFor {id : ClassId} (ref : ClassRef) (hid : ∀ n ∈ id.names, P n) :
    ∀ n ∈ (defaultImplsFor ref id).names, P n := by
  simpa [Class.names, defaultImplsFor, Class.make, Parent.names] using hid

lemma names_instanceFieldFor {c : Class} (settings : Settings) (ref : ClassRef)
    (outer : Option Class) (hc : ∀ n ∈ c.names, P n) (hname : P .instanceField) :
    ∀ n ∈ (instanceFieldFor settings ref c outer).names, P n := by
  have hshort : P c.name := hc _ (by simp [Class.names, ClassId.names, Class.name])
  simp only [Field.names, instanceFieldFor, List.cons_append, List.forall_mem_cons,
    List.forall_mem_append]
  split
  · exact ⟨hshort, Class.names_type hc, Class.names_parent hc⟩
  · exact ⟨hname, Class.names_type hc, by simp [Parent.names]⟩

end

structure Derived.Row.NamesIn (P : Name → Prop) (m : Module) (e : Row) : Prop where
  classes : ∀ ref ∈ e.classes, ∀ c, m.class? ref = some c → ∀ n ∈ c.names, P n
  functions : ∀ ref ∈ e.functions, ∀ f, m.function? ref = some f → ∀ n ∈ f.names, P n
  fields : ∀ ref ∈ e.fields, ∀ f, m.field? ref = some f → ∀ n ∈ f.names, P n

section

variable {s t : Session} {e : Row} {P : Name → Prop}

lemma namesIn_field {field : FieldRef} {f : Field} (hf : t.module.field? field = some f)
    (hn : ∀ n ∈ f.names, P n) (he : e.fields = [field]) (hc : e.classes = [])
    (hg : e.functions = []) : e.NamesIn P t.module := by
  refine ⟨by simp [hc], by simp [hg], ?_⟩
  rw [he, List.forall_mem_singleton]
  intro g hg'
  cases hf.symm.trans hg'
  exact hn

lemma namesIn_functions (hf : ∀ ref ∈ e.functions, ∃ f, t.module.function? ref = some f ∧
      ∀ n ∈ f.names, P n) (hc : e.classes = []) (hg : e.fields = []) :
    e.NamesIn P t.module := by
  refine ⟨by simp [hc], fun ref href f hf' => ?_, by simp [hg]⟩
  obtain ⟨g, hg', hn⟩ := hf ref href
  cases hg'.symm.trans hf'
  exact hn

lemma Derived.Row.Described.namesIn (he : e.Described s t) (hold : ∀ n ∈ s.module.names, P n)
    (hknown : ∀ n : Name, n.raw < Interner.new.size → P n)
    (hnew : ∀ text n, t.names.get? text = some n → P n) : e.NamesIn P t.module := by
  have hclass {ref : ClassRef} {c : Class} (hc : s.module.class? ref = some c) :
      ∀ n ∈ c.names, P n := fun n hn => hold n (Module.names_of_class hc hn)
  have hfunction {ref : FunctionRef} {f : Function} (hf : s.module.function? ref = some f) :
      ∀ n ∈ f.names, P n := fun n hn => hold n (Module.names_of_function hf hn)
  cases he with
  | @entryField ref field entry owner hentry howner hfield =>
    refine namesIn_field hfield ?_ rfl rfl rfl
    simp only [Field.names, entryFieldFor, Parent.names, List.append_nil, List.forall_mem_cons]
    exact ⟨hold _ (Module.name_of_entry hentry), Class.names_type (hclass howner)⟩
  | instanceField hc hfield =>
    exact namesIn_field hfield
      (names_instanceFieldFor _ _ _ (hclass hc) (hknown _ (by decide))) rfl rfl rfl
  | interfaceCompanionField hc hfield =>
    refine namesIn_field hfield ?_ rfl rfl rfl
    simp only [Field.names, interfaceCompanionFieldFor, Parent.names, List.append_nil,
      List.forall_mem_cons]
    exact ⟨hknown _ (by decide), Class.names_type (hclass hc)⟩
  | @memberPair ref static f _ _ _ _ name receiver hf _ _ _ _ _ _ hname hreceiver hstatic =>
    have hstored : P name := by
      rw [PlatformName] at hname
      split at hname
      · exact hnew _ _ hname
      · rw [hname]
        exact hfunction hf _ (by simp [Function.names])
    have hplain : ∀ e ∈ receiver, e.names = [] := by
      rw [ReceiverIn] at hreceiver
      split at hreceiver
      · obtain ⟨field, -, rfl⟩ := hreceiver
        simp [Expr.names]
      · simp [hreceiver]
    refine namesIn_functions ?_ rfl rfl
    simp only [Row.functions, if_true, List.forall_mem_singleton]
    exact ⟨_, hstatic, names_callThrough _ _
      (names_forwarderHead _ _ _ (hfunction hf) hstored (by simp)) hplain⟩
  | @externalPair ref static forwarder f companionRef companion this hf _ _ hc _ hthis hne hstatic
      hforwarder =>
    have hcopy := names_siblingFor ref (hfunction hf) (Class.names_parent (hclass hc))
    have hreceiver : ∀ p ∈ some (Param.mk this companion.type .dispatch), ∀ n ∈ p.names, P n := by
      rintro _ ⟨⟩
      rw [Param.names, List.forall_mem_cons]
      exact ⟨hnew _ _ hthis, Class.names_type (hclass hc)⟩
    refine namesIn_functions ?_ rfl rfl
    simp only [Row.functions, hne, if_false, List.forall_mem_cons]
    refine ⟨⟨_, hstatic, hcopy⟩, ⟨_, hforwarder, ?_⟩, by simp⟩
    exact names_callThrough _ _ (names_forwarderHead _ _ _ hcopy
      (hfunction hf _ (by simp [Function.names])) hreceiver) (by simp)
  | @defaultImpls ref impls c relative hc hrelative himpls =>
    have hid : ∀ n ∈ c.id.package.names, P n := fun n hn =>
      hclass hc n (by simp [Class.names, ClassId.names, hn])
    refine ⟨?_, by simp [Row.functions], by simp [Row.fields]⟩
    rw [Row.classes, List.forall_mem_singleton]
    intro made hmade
    cases himpls.symm.trans hmade
    refine names_defaultImplsFor _ ?_
    simp only [ClassId.names, List.forall_mem_append, List.forall_mem_cons]
    exact ⟨hid, hnew _ _ hrelative, hknown _ (by decide), by simp⟩
  | redirection hf _ _ ho hbridge =>
    refine namesIn_functions ?_ rfl rfl
    simp only [Row.functions, List.forall_mem_singleton]
    exact ⟨_, hbridge, names_bridgeFor _ (hfunction hf) (hclass ho)⟩

lemma Session.Makes.namesStored {new : Additions} {added : List Row} (h : s.Makes new added t)
    (hd : s.Describes added t) (hr : s.names.Reachable) (hn : s.NamesStored) : t.NamesStored := by
  have hsize := h.names.size_le
  have hold : ∀ n ∈ s.module.names, n.raw < t.names.size := fun n hin => (hn n hin).trans_le hsize
  have hrows : ∀ e ∈ added, e.NamesIn (fun n => n.raw < t.names.size) t.module := fun e he =>
    (hd.rows e he).namesIn hold (fun n hknown => hknown.trans_le ((Later.size_le hr).trans hsize))
      fun _ _ hget => lt_of_get? hget
  obtain ⟨names, _, derived, settings, suspendMains⟩ := t
  obtain rfl := h.module
  intro n hin
  rcases Module.mem_names.mp hin with rfl | ⟨c, hc, hin⟩ | ⟨f, hf, hin⟩ | ⟨f, hf, hin⟩ | hentry
  · exact hold _ (Module.mem_names.mpr (.inl rfl))
  · rcases old_or_recorded (fun _ => rfl) (fun _ => rfl) h.classes hc with
      hc | ⟨e, he, ref, href, hc⟩
    · exact hold n (Module.mem_names.mpr (.inr (.inl ⟨c, hc, hin⟩)))
    · exact (hrows e he).classes ref href c hc n hin
  · rcases old_or_recorded (fun _ => rfl) (fun _ => rfl) h.functions hf with
      hf | ⟨e, he, ref, href, hf⟩
    · exact hold n (Module.mem_names.mpr (.inr (.inr (.inl ⟨f, hf, hin⟩))))
    · exact (hrows e he).functions ref href f hf n hin
  · rcases old_or_recorded (fun _ => rfl) (fun _ => rfl) h.fields hf with
      hf | ⟨e, he, ref, href, hf⟩
    · exact hold n (Module.mem_names.mpr (.inr (.inr (.inr (.inl ⟨f, hf, hin⟩)))))
    · exact (hrows e he).fields ref href f hf n hin
  · exact hold n (Module.mem_names.mpr (.inr (.inr (.inr (.inr hentry)))))

end

structure Session.Complete (s : Session) : Prop extends s.WellFormed where
  reachable : s.names.Reachable
  namesStored : s.NamesStored

end ClrCompiler.Decl
