import ClrCompiler.Decl.Derive
import Mathlib.Order.Defs.Unbundled

/-! What work on a unit gives and leaves behind, operation by operation. -/

namespace ClrCompiler.Decl

def Module.outer? (m : Module) (ref : ClassRef) : Option Class :=
  (m.class? ref).bind fun c => c.parent.class?.bind m.class?

def Derived.Table.Keeps {κ α : Type} (table : Derived.Table κ α) (s t : Session) : Prop :=
  table.entries t.derived = table.entries s.derived

instance {κ α : Type} (table : Derived.Table κ α) : Std.Refl table.Keeps := ⟨fun _ => rfl⟩

instance {κ α : Type} (table : Derived.Table κ α) : IsTrans Session table.Keeps :=
  ⟨fun _ _ _ h k => Eq.trans k h⟩

namespace Work

def exec {α : Type} (x : Work α) (s : Session) : Except Failure α × Session := (ExceptT.run x).run s

section

variable {α β κ : Type} {x : Work α} {f : α → Work β} {s t u : Session} {a : α} {b : β}

lemma exec_pure (a : α) (s : Session) : exec (pure a) s = (.ok a, s) := rfl

lemma exec_throw (e : Failure) (s : Session) : exec (throw e : Work α) s = (.error e, s) := rfl

lemma exec_bind (x : Work α) (f : α → Work β) (s : Session) :
    exec (x >>= f) s = match exec x s with
      | (.ok a, t) => exec (f a) t
      | (.error e, t) => (.error e, t) := by
  have hrun : exec (x >>= f) s = ((ExceptT.bindCont f (exec x s).1).run (exec x s).2) := rfl
  rw [hrun]
  rcases exec x s with ⟨_ | _, _⟩ <;> rfl

lemma exec_bind_ok (h : exec x s = (.ok a, t)) : exec (x >>= f) s = exec (f a) t := by
  rw [exec_bind, h]

lemma exec_bind_error {e : Failure} (h : exec x s = (.error e, t)) :
    exec (x >>= f) s = (.error e, t) := by
  rw [exec_bind, h]

lemma exec_bind_eq_ok : exec (x >>= f) s = (.ok b, u) ↔
    ∃ a t, exec x s = (.ok a, t) ∧ exec (f a) t = (.ok b, u) := by
  constructor
  · intro h
    rcases hx : exec x s with ⟨e | a, t⟩
    · rw [exec_bind_error hx] at h
      cases h
    · exact ⟨a, t, rfl, by rwa [exec_bind_ok hx] at h⟩
  · rintro ⟨a, t, hx, hf⟩
    rw [exec_bind_ok hx, hf]

lemma exec_get_bind (f : Session → Work β) (s : Session) : exec (get >>= f) s = exec (f s) s := rfl

lemma exec_ofOption_eq_ok {o : Option α} : exec (ofOption o) s = (.ok a, t) ↔ o = some a ∧ t = s := by
  cases o with
  | none => simp [ofOption, exec_throw]
  | some b => simp [ofOption, exec_pure, eq_comm]

lemma exec_naming (action : Naming α) (s : Session) :
    exec (naming action) s = (.ok (action.run s.names).1, { s with names := (action.run s.names).2 }) :=
  rfl

end

section

variable {s t : Session}

lemma exec_classOf_eq_ok {ref : ClassRef} {c : Class} :
    exec (classOf ref) s = (.ok c, t) ↔ s.module.class? ref = some c ∧ t = s :=
  exec_ofOption_eq_ok

lemma exec_functionOf_eq_ok {ref : FunctionRef} {f : Function} :
    exec (functionOf ref) s = (.ok f, t) ↔ s.module.function? ref = some f ∧ t = s :=
  exec_ofOption_eq_ok

lemma exec_propertyOf_eq_ok {ref : PropertyRef} {p : Property} :
    exec (propertyOf ref) s = (.ok p, t) ↔ s.module.property? ref = some p ∧ t = s :=
  exec_ofOption_eq_ok

lemma exec_textOf_eq_ok {n : Name} {text : String} :
    exec (textOf n) s = (.ok text, t) ↔ s.names.lookup? n = some text ∧ t = s :=
  exec_ofOption_eq_ok

lemma exec_textOf {n : Name} (h : n.raw < s.names.size) :
    exec (textOf n) s = (.ok (s.names.text n), s) := by
  refine exec_textOf_eq_ok.mpr ⟨?_, rfl⟩
  rw [Interner.text, Interner.lookup?, List.getElem?_eq_getElem h, Option.getD_some]

lemma exec_textOf_error {n : Name} (h : s.names.size ≤ n.raw) :
    exec (textOf n) s = (.error .outOfBounds, s) := by
  have hnone : s.names.lookup? n = none := List.getElem?_eq_none h
  rw [textOf, exec_get_bind, hnone]
  rfl

lemma text_of_exec_textOf {n : Name} {text : String} (h : exec (textOf n) s = (.ok text, t)) :
    text = s.names.text n ∧ t = s := by
  obtain ⟨htext, rfl⟩ := exec_textOf_eq_ok.mp h
  exact ⟨by rw [Interner.text, htext, Option.getD_some], rfl⟩

lemma exec_nested {id : ClassId} {name : Name} (hid : id.relative.raw < s.names.size)
    (hname : name.raw < s.names.size) :
    exec (nested id name) s = exec (naming (id.nested name)) s := by
  rw [nested, exec_bind_ok (exec_textOf hid), exec_bind_ok (exec_textOf hname)]
  rfl

lemma exec_nested_error {id : ClassId} {name : Name}
    (h : s.names.size ≤ id.relative.raw ∨ s.names.size ≤ name.raw) :
    exec (nested id name) s = (.error .outOfBounds, s) := by
  by_cases hid : id.relative.raw < s.names.size
  · have hname := h.resolve_left (Nat.not_le.mpr hid)
    rw [nested, exec_bind_ok (exec_textOf hid)]
    exact exec_bind_error (exec_textOf_error hname)
  · exact exec_bind_error (exec_textOf_error (Nat.not_lt.mp hid))

lemma exec_nested_eq_ok {id made : ClassId} {name : Name}
    (h : exec (nested id name) s = (.ok made, t)) :
    exec (naming (id.nested name)) s = (.ok made, t) := by
  by_cases hid : id.relative.raw < s.names.size
  · by_cases hname : name.raw < s.names.size
    · rwa [exec_nested hid hname] at h
    · rw [exec_nested_error (.inr (Nat.not_lt.mp hname))] at h
      cases h
  · rw [exec_nested_error (.inl (Nat.not_lt.mp hid))] at h
    cases h

lemma exec_parentClass_eq_ok {ref : FunctionRef} {owner : ClassRef} :
    exec (parentClass ref) s = (.ok owner, t) ↔
      (∃ f, s.module.function? ref = some f ∧ f.parent.class? = some owner) ∧ t = s := by
  simp only [parentClass, exec_bind_eq_ok, exec_functionOf_eq_ok]
  constructor
  · rintro ⟨f, _, ⟨hf, rfl⟩, h⟩
    cases hp : f.parent.class? with
    | none => simp [hp, exec_throw] at h
    | some c =>
      simp only [hp, exec_pure, Prod.mk.injEq, Except.ok.injEq] at h
      exact ⟨⟨f, hf, hp.trans (congrArg some h.1)⟩, h.2.symm⟩
  · rintro ⟨⟨f, hf, hp⟩, rfl⟩
    exact ⟨f, t, ⟨hf, rfl⟩, by simp [hp, exec_pure]⟩

lemma exec_parentClass_error {ref : FunctionRef} {f : Function}
    (hf : s.module.function? ref = some f) (hp : f.parent.class? = none) :
    exec (parentClass ref) s = (.error (.notInClass ref f.parent), s) := by
  rw [parentClass, exec_bind_ok (exec_functionOf_eq_ok.mpr ⟨hf, rfl⟩), hp]
  rfl

lemma exec_outerOf_eq_ok {ref : ClassRef} {outer : Option Class} :
    exec (outerOf ref) s = (.ok outer, t) ↔
      (∃ c, s.module.class? ref = some c ∧
        ∀ o, c.parent.class? = some o → (s.module.class? o).isSome) ∧
        outer = s.module.outer? ref ∧ t = s := by
  simp only [outerOf, outerClass, exec_bind_eq_ok, exec_classOf_eq_ok, exec_pure, Prod.mk.injEq,
    Except.ok.injEq, Module.outer?]
  constructor
  · rintro ⟨_, _, ⟨c, _, ⟨hc, rfl⟩, rfl, rfl⟩, h⟩
    cases hp : c.parent.class? with
    | none =>
      simp only [hp, exec_pure, Prod.mk.injEq, Except.ok.injEq] at h
      exact ⟨⟨c, hc, by simp [hp]⟩, by simp [hc, hp, h.1], h.2.symm⟩
    | some o =>
      simp only [hp, exec_bind_eq_ok, exec_classOf_eq_ok, exec_pure, Prod.mk.injEq,
        Except.ok.injEq] at h
      obtain ⟨k, _, ⟨hk, rfl⟩, rfl, rfl⟩ := h
      exact ⟨⟨c, hc, by simp [hp, hk]⟩, by simp [hc, hp, hk], rfl⟩
  · rintro ⟨⟨c, hc, hin⟩, rfl, rfl⟩
    refine ⟨_, _, ⟨c, t, ⟨hc, rfl⟩, rfl, rfl⟩, ?_⟩
    cases hp : c.parent.class? with
    | none => simp [hc, hp, exec_pure]
    | some o =>
      obtain ⟨k, hk⟩ := Option.isSome_iff_exists.mp (hin o hp)
      simp only [exec_bind_eq_ok, exec_classOf_eq_ok]
      exact ⟨k, t, ⟨hk, rfl⟩, by simp [hc, hp, hk, exec_pure]⟩

end

def Moves {α : Type} (R : Session → Session → Prop) (x : Work α) : Prop := ∀ s, R s (exec x s).2

namespace Moves

variable {α β κ : Type} {R : Session → Session → Prop} {x : Work α}

lemma mono {Q : Session → Session → Prop} (h : Moves Q x) (hq : ∀ s t, Q s t → R s t) : Moves R x :=
  fun s => hq _ _ (h s)

lemma modify {g : Session → Session} (h : ∀ s, R s (g s)) : Moves R (modify g : Work PUnit) := h

lemma naming (action : Naming α) (h : ∀ s names, R s { s with names := names }) :
    Moves R (naming action) :=
  fun s => h s _

lemma allocate {add : Module → α × Module} (h : ∀ s, R s { s with module := (add s.module).2 }) :
    Moves R (allocate add) := h

lemma bind [IsTrans Session R] {f : α → Work β} (hx : Moves R x) (hf : ∀ a, Moves R (f a)) : Moves R (x >>= f) := by
  intro s
  have hs := hx s
  rcases h : exec x s with ⟨e | a, t⟩ <;> rw [h] at hs
  · rwa [exec_bind_error h]
  · rw [exec_bind_ok h]
    exact trans_of R hs (hf a t)

variable [Std.Refl R]

lemma pure (a : α) : Moves R (pure a : Work α) := fun s => refl_of R s

lemma throw (e : Failure) : Moves R (throw e : Work α) := fun s => refl_of R s

lemma get : Moves R (get : Work Session) := fun s => refl_of R s

lemma ofOption (o : Option α) : Moves R (ofOption o) := by
  cases o with
  | none => exact throw _
  | some a => exact pure a

variable [IsTrans Session R]

lemma classOf (ref : ClassRef) : Moves R (classOf ref) := get.bind fun _ => ofOption _

lemma functionOf (ref : FunctionRef) : Moves R (functionOf ref) := get.bind fun _ => ofOption _

lemma entryOf (ref : EntryRef) : Moves R (entryOf ref) := get.bind fun _ => ofOption _

lemma propertyOf (ref : PropertyRef) : Moves R (propertyOf ref) := get.bind fun _ => ofOption _

lemma textOf (n : Name) : Moves R (textOf n) := get.bind fun _ => ofOption _

lemma nested (id : ClassId) (name : Name) (h : ∀ s names, R s { s with names := names }) :
    Moves R (nested id name) :=
  (textOf _).bind fun _ => (textOf _).bind fun _ => (naming _ h).bind fun _ => pure _

lemma parentClass (ref : FunctionRef) : Moves R (parentClass ref) := by
  refine (functionOf ref).bind fun f => ?_
  cases f.parent.class? with
  | none => exact throw _
  | some c => exact pure c

lemma outerOf (ref : ClassRef) : Moves R (outerOf ref) := by
  refine ((classOf ref).bind fun c => pure c.parent.class?).bind fun outer => ?_
  cases outer with
  | none => exact pure none
  | some o => exact (classOf o).bind fun c => pure (some c)

lemma once [BEq κ] {table : Derived.Table κ α} {key : κ} (hx : Moves R x)
    (hr : ∀ s a, R s { s with derived := table.record s.derived key a }) :
    Moves R (once table key x) := by
  refine get.bind fun s => ?_
  cases (table.entries s.derived).lookup key with
  | some a => exact pure a
  | none => exact hx.bind fun a => (modify fun s => hr s a).bind fun _ => pure a

end Moves

section

variable {α κ : Type} [BEq κ] {table : Derived.Table κ α} {key : κ} {make : Work α}
  {s t : Session} {a : α}

lemma exec_once_of_some (h : (table.entries s.derived).lookup key = some a) :
    exec (once table key make) s = (.ok a, s) := by
  rw [once, exec_get_bind, h]
  rfl

lemma exec_once_of_none (h : (table.entries s.derived).lookup key = none)
    (hm : exec make s = (.ok a, t)) :
    exec (once table key make) s =
      (.ok a, { t with derived := table.record t.derived key a }) := by
  rw [once, exec_get_bind, h]
  exact exec_bind_ok hm

lemma lookup_of_exec_once [LawfulBEq κ] (hmake : Moves table.Keeps make)
    (h : exec (once table key make) s = (.ok a, t)) :
    (table.entries t.derived).lookup key = some a := by
  cases hs : (table.entries s.derived).lookup key with
  | some b =>
    rw [exec_once_of_some hs] at h
    cases h
    exact hs
  | none =>
    rcases hm : exec make s with ⟨e | b, u⟩
    · rw [once, exec_get_bind, hs] at h
      change exec (make >>= _) s = _ at h
      rw [exec_bind_error hm] at h
      cases h
    · have hu : table.Keeps s u := by simpa only [hm] using hmake s
      rw [Derived.Table.Keeps] at hu
      rw [exec_once_of_none hs hm] at h
      cases h
      rw [table.entries_record, hu, List.lookup_append, hs]
      simp

end

end Work

end ClrCompiler.Decl
