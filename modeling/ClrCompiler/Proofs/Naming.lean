import ClrCompiler.Identity
import Mathlib.Data.List.Basic

/-! Names are given out once and for all: work that stores texts can be run again at any later state
of the interner, gives the same value there and stores nothing more. -/

namespace ClrCompiler

namespace Interner

inductive Later (s : Interner) : Interner → Prop
  | refl : Later s s
  | intern {t : Interner} (text : String) : Later s t → Later s (t.intern text).2

def Reachable (i : Interner) : Prop := Later .new i

lemma Later.trans {s t u : Interner} (h : Later s t) (k : Later t u) : Later s u := by
  induction k with
  | refl => exact h
  | intern text _ ih => exact ih.intern text

lemma later_intern (s : Interner) (text : String) : Later s (s.intern text).2 :=
  Later.refl.intern text

lemma texts_intern (s : Interner) (text : String) :
    (s.intern text).2.texts = s.texts ∨
      text ∉ s.texts ∧ (s.intern text).2.texts = s.texts ++ [text] := by
  cases h : s.get? text with
  | some n => exact Or.inl (by simp only [Interner.intern, h])
  | none =>
    have hfresh : text ∉ s.texts := by
      simpa only [get?, Option.map_eq_none_iff, List.idxOf?_eq_none_iff] using h
    exact Or.inr ⟨hfresh, by simp only [Interner.intern, h]⟩

lemma mem_texts_intern {s : Interner} {text other : String} :
    other ∈ (s.intern text).2.texts ↔ other ∈ s.texts ∨ other = text := by
  cases h : s.get? text with
  | some n =>
    have hstored : text ∈ s.texts := by
      apply List.isSome_idxOf?.mp
      obtain ⟨raw, hraw, -⟩ := Option.map_eq_some_iff.mp h
      rw [hraw]
      rfl
    simp only [Interner.intern, h]
    exact ⟨.inl, fun ho => ho.elim id fun he => he ▸ hstored⟩
  | none => simp [Interner.intern, h]

lemma Later.texts {s t : Interner} (h : Later s t) : s.texts <+: t.texts := by
  induction h with
  | refl => exact List.prefix_refl _
  | @intern t text _ ih =>
    rcases texts_intern t text with he | ⟨_, he⟩
    · rwa [he]
    · rw [he]
      exact ih.trans (List.prefix_append _ _)

lemma Later.nodup {s t : Interner} (h : Later s t) (hs : s.texts.Nodup) : t.texts.Nodup := by
  induction h with
  | refl => exact hs
  | @intern t text _ ih =>
    rcases texts_intern t text with he | ⟨hfresh, he⟩
    · rwa [he]
    · rw [he]
      refine List.nodup_append.mpr ⟨ih, List.pairwise_singleton _ _, ?_⟩
      rintro a ha b hb rfl
      exact hfresh (List.mem_singleton.mp hb ▸ ha)

lemma knownTexts_nodup : Name.knownTexts.Nodup := by decide +kernel

lemma Reachable.nodup {i : Interner} (h : i.Reachable) : i.texts.Nodup :=
  Later.nodup h knownTexts_nodup

lemma Later.antisymm {s t : Interner} (h : Later s t) (k : Later t s) : s = t := by
  have he : s.texts = t.texts :=
    h.texts.eq_of_length (Nat.le_antisymm h.texts.length_le k.texts.length_le)
  cases s
  cases t
  simpa using he

lemma Later.size_le {s t : Interner} (h : Later s t) : s.size ≤ t.size := h.texts.length_le

lemma Later.lookup? {s t : Interner} (h : Later s t) {n : Name} (hn : n.raw < s.size) :
    t.lookup? n = s.lookup? n := by
  obtain ⟨rest, hr⟩ := h.texts
  simp only [Interner.lookup?, ← hr, List.getElem?_append_left hn]

lemma Later.text {s t : Interner} (h : Later s t) {n : Name} (hn : n.raw < s.size) :
    t.text n = s.text n := by
  simp only [Interner.text, h.lookup? hn]

lemma Later.get? {s t : Interner} (h : Later s t) {text : String} {n : Name}
    (hn : s.get? text = some n) : t.get? text = some n := by
  obtain ⟨rest, hr⟩ := h.texts
  obtain ⟨raw, hraw, rfl⟩ := Option.map_eq_some_iff.mp hn
  have happ : t.texts.idxOf? text = some raw := by
    rw [← hr, List.idxOf?, List.findIdx?_append]
    rw [List.idxOf?] at hraw
    rw [hraw, Option.some_or]
  simp only [Interner.get?, happ, Option.map_some]

lemma lookup?_of_get? {s : Interner} {text : String} {n : Name} (h : s.get? text = some n) :
    s.lookup? n = some text := by
  obtain ⟨raw, hraw, rfl⟩ := Option.map_eq_some_iff.mp h
  obtain ⟨hlt, he, -⟩ := List.idxOf?_eq_some_iff.mp hraw
  exact List.getElem?_eq_some_iff.mpr ⟨hlt, he⟩

lemma lt_of_get? {s : Interner} {text : String} {n : Name} (h : s.get? text = some n) :
    n.raw < s.size :=
  (List.getElem?_eq_some_iff.mp (lookup?_of_get? h)).1

lemma text_of_get? {s : Interner} {text : String} {n : Name} (h : s.get? text = some n) :
    s.text n = text := by
  simp only [Interner.text, lookup?_of_get? h, Option.getD_some]

lemma intern_of_get? {s : Interner} {text : String} {n : Name} (h : s.get? text = some n) :
    s.intern text = (n, s) := by
  simp only [intern, h]

lemma get?_intern (s : Interner) (text : String) :
    (s.intern text).2.get? text = some (s.intern text).1 := by
  simp only [intern]
  split
  · assumption
  · rename_i h
    have hnone : s.texts.findIdx? (· == text) = none := by
      simpa only [get?, Option.map_eq_none_iff, List.idxOf?] using h
    simp [get?, List.idxOf?, List.findIdx?_append, hnone, size]

lemma get?_text {i : Interner} (h : i.texts.Nodup) {n : Name} (hn : n.raw < i.size) :
    i.get? (i.text n) = some n := by
  have hl : i.lookup? n = some (i.text n) := by
    simp only [Interner.text, lookup?, List.getElem?_eq_getElem hn, Option.getD_some]
  have hmem : i.text n ∈ i.texts := List.mem_of_getElem? hl
  obtain ⟨raw, hraw⟩ := Option.isSome_iff_exists.mp (List.isSome_idxOf?.mpr hmem)
  have hg : i.get? (i.text n) = some ⟨raw⟩ := by simp only [get?, hraw, Option.map_some]
  have he : raw = n.raw := (List.getElem?_inj (lt_of_get? hg) h).mp
    ((lookup?_of_get? hg).trans hl.symm)
  rw [hg, he]

lemma text_injective {i : Interner} (h : i.texts.Nodup) {m n : Name} (hm : m.raw < i.size)
    (hn : n.raw < i.size) (he : i.text m = i.text n) : m = n := by
  have hg := get?_text h hm
  rw [he, get?_text h hn] at hg
  exact (Option.some.inj hg).symm

end Interner

namespace Naming

open Interner

def eval {α : Type} (x : Naming α) (i : Interner) : α := (x.run i).1

/-- From `s` on, a computation only adds texts, and once it has run, running it again gives the same
value and adds nothing. -/
def Replays {α : Type} (s : Interner) (x : Naming α) : Prop :=
  ∀ t, Later s t → Later t (x.run t).2 ∧ ∀ u, Later (x.run t).2 u → x.run u = (x.eval t, u)

section

variable {α β : Type} {s t : Interner} {x : Naming α} {f : α → Naming β}

lemma run_bind (x : Naming α) (f : α → Naming β) (s : Interner) :
    (x >>= f).run s = (f (x.eval s)).run (x.run s).2 := rfl

@[simp] lemma eval_pure (a : α) (s : Interner) : (pure a : Naming α).eval s = a := rfl

lemma Replays.mono (h : Replays s x) (hl : Later s t) : Replays t x :=
  fun u hu => h u (hl.trans hu)

lemma Replays.later (h : Replays s x) : Later s (x.run s).2 := (h s (Later.refl)).1

lemma Replays.again (h : Replays s x) (hl : Later (x.run s).2 t) : x.run t = (x.eval s, t) :=
  (h s (Later.refl)).2 t hl

lemma Replays.eval_eq (h : Replays s x) (hl : Later (x.run s).2 t) : x.eval t = x.eval s := by
  rw [eval, h.again hl]

lemma replays_pure (s : Interner) (a : α) : Replays s (pure a : Naming α) :=
  fun _ _ => ⟨Later.refl, fun _ _ => rfl⟩

lemma Replays.bind (hx : Replays s x)
    (hf : ∀ t, Later s t → Replays (x.run t).2 (f (x.eval t))) : Replays s (x >>= f) := by
  intro t ht
  have hxt := hx.mono ht
  have hft := hf t ht
  rw [run_bind]
  refine ⟨hxt.later.trans hft.later, fun u hu => ?_⟩
  have hxu := hxt.again (hft.later.trans hu)
  rw [run_bind, eval, hxu]
  exact hft.again hu

lemma Replays.andThen (hx : Replays s x) (hf : ∀ a, Replays s (f a)) : Replays s (x >>= f) :=
  hx.bind fun _ ht => (hf _).mono (ht.trans (hx.mono ht).later)

def Settled (s : Interner) (x : Naming α) : Prop := (x.run s).2 = s

lemma Replays.settled (h : Replays s x) (hl : Later (x.run s).2 t) : Settled t x := by
  rw [Settled, h.again hl]

lemma get?_of_settled {text : String} (h : Settled s (Naming.intern text)) :
    s.get? text = some (s.intern text).1 := by
  have hg := get?_intern s text
  rwa [show (s.intern text).2 = s from h] at hg

lemma Settled.of_bind (h : Settled s (x >>= f)) (hx : Replays s x)
    (hf : Replays (x.run s).2 (f (x.eval s))) : Settled s x := by
  have hback : Later (x.run s).2 s := by
    have hl := hf.later
    rwa [← run_bind, h] at hl
  exact hback.antisymm hx.later

lemma replays_intern (s : Interner) (text : String) : Replays s (Naming.intern text) := by
  intro t _
  refine ⟨later_intern t text, fun u hu => ?_⟩
  exact intern_of_get? (hu.get? (get?_intern t text))

lemma Replays.mapM {as : List α} (h : ∀ a ∈ as, Replays s (f a)) : Replays s (as.mapM f) := by
  induction as with
  | nil => exact replays_pure s []
  | cons a as ih =>
    rw [List.mapM_cons]
    have ha := h a List.mem_cons_self
    have has := ih fun b hb => h b (List.mem_cons_of_mem a hb)
    exact ha.andThen fun b => has.andThen fun bs => replays_pure s (b :: bs)

lemma eval_mapM {as : List α} (h : ∀ a ∈ as, Replays s (f a))
    (hl : Later ((as.mapM f).run s).2 t) : (as.mapM f).eval s = as.map fun a => (f a).eval t := by
  induction as generalizing s with
  | nil => rfl
  | cons a as ih =>
    have ha := h a List.mem_cons_self
    have has : ∀ b ∈ as, Replays ((f a).run s).2 (f b) :=
      fun b hb => (h b (List.mem_cons_of_mem a hb)).mono ha.later
    rw [List.mapM_cons] at hl ⊢
    have hrest : Later ((as.mapM f).run ((f a).run s).2).2 t := hl
    have hhead : (f a).eval t = (f a).eval s :=
      ha.eval_eq ((Replays.mapM has).later.trans hrest)
    rw [List.map_cons, hhead, ← ih has hrest]
    rfl

lemma Settled.of_mapM {as : List α} (h : Settled s (as.mapM f)) (hf : ∀ a ∈ as, Replays s (f a)) :
    ∀ a ∈ as, Settled s (f a) := by
  induction as with
  | nil => exact fun a ha => absurd ha List.not_mem_nil
  | cons a as ih =>
    have ha := hf a List.mem_cons_self
    have has : ∀ b ∈ as, Replays s (f b) := fun b hb => hf b (List.mem_cons_of_mem a hb)
    rw [List.mapM_cons] at h
    have hhead : Settled s (f a) := h.of_bind ha
      (((Replays.mapM has).mono ha.later).andThen fun bs => replays_pure _ _)
    have htail : Settled s (as.mapM f) := by
      have ht : ((as.mapM f).run ((f a).run s).2).2 = s := h
      rwa [hhead] at ht
    rintro b (_ | ⟨_, hb⟩)
    · exact hhead
    · exact ih htail has b hb

lemma forall_eval_mapM {P : β → Prop} {as : List α} (h : ∀ a ∈ as, ∀ i, P ((f a).eval i)) :
    ∀ b ∈ (as.mapM f).eval s, P b := by
  induction as generalizing s with
  | nil => exact fun b hb => absurd hb List.not_mem_nil
  | cons a as ih =>
    rw [List.mapM_cons]
    have hcons : (do let b ← f a; let bs ← as.mapM f; pure (b :: bs)).eval s =
        (f a).eval s :: (as.mapM f).eval ((f a).run s).2 := rfl
    rw [hcons]
    rintro b (_ | ⟨_, hb⟩)
    · exact h a List.mem_cons_self s
    · exact ih (fun c hc => h c (List.mem_cons_of_mem a hc)) b hb

end

end Naming

end ClrCompiler
