import ClrCompiler.Proofs.Decl.Appends
import ClrCompiler.Proofs.Decl.Determined
import ClrCompiler.Proofs.Decl.Safety

/-! Requests commute: what one makes is nothing that another reads, so in either order they make the
same declarations under other numbers. -/

namespace ClrCompiler.Decl

open Work Derived Interner Session

def Derived.Key.In (m : Module) : Key → Prop
  | .entryField ref => m.HasEntry ref
  | .instanceField ref => m.HasClass ref
  | .interfaceCompanionField ref => m.HasClass ref
  | .staticPair ref => m.HasFunction ref
  | .defaultImpls ref => m.HasClass ref
  | .redirection ref => m.HasFunction ref

section

variable {s t u : Session} {new : Additions} {added : List Row} {e : Row} {k : Key}

namespace Session.Makes

lemma class?_eq (h : s.Makes new added t) {ref : ClassRef} (hc : s.module.HasClass ref) :
    t.module.class? ref = s.module.class? ref := by
  rw [h.module, Module.class?_append hc]

lemma function?_eq (h : s.Makes new added t) {ref : FunctionRef} (hf : s.module.HasFunction ref) :
    t.module.function? ref = s.module.function? ref := by
  rw [h.module, Module.function?_append hf]

lemma entry?_eq (h : s.Makes new added t) (ref : EntryRef) :
    t.module.entry? ref = s.module.entry? ref := by
  rw [h.module]
  rfl

lemma property?_eq (h : s.Makes new added t) (ref : PropertyRef) :
    t.module.property? ref = s.module.property? ref := by
  rw [h.module]
  rfl

lemma keepsClasses (h : s.Makes new added t) : KeepsClasses s t :=
  ⟨new.classes, by rw [h.module]; rfl⟩

lemma outer?_eq (h : s.Makes new added t) (hw : s.module.WellFormed) {ref : ClassRef}
    (hc : s.module.HasClass ref) : t.module.outer? ref = s.module.outer? ref := by
  obtain ⟨c, hc⟩ := Option.isSome_iff_exists.mp (Module.class?_isSome hc)
  exact h.keepsClasses.outer? hc fun o ho => hw.outer hc ho

end Session.Makes

lemma accessorText?_eq (h : s.Makes new added t) (hn : s.NamesStored) (ref : FunctionRef)
    (f : Function) : t.accessorText? ref f = s.accessorText? ref f := by
  rw [accessorText?, accessorText?]
  cases f.property with
  | none => rfl
  | some p =>
    rw [Option.bind_some, Option.bind_some, h.property?_eq]
    cases hp : s.module.property? p with
    | none => rfl
    | some property =>
      have hname := hn _ (Module.names_of_property hp List.mem_cons_self)
      rw [Option.bind_some, Option.bind_some, h.names.text hname]

lemma implsPath_eq (h : s.Makes new added t) (hs : s.Complete) {ref : ClassRef} {c : Class}
    (hc : s.module.class? ref = some c) : t.implsPath c = s.implsPath c := by
  have hknown : Name.defaultImpls.raw < s.names.size :=
    Nat.lt_of_lt_of_le (by decide : _ < Interner.new.size) (Later.size_le hs.reachable)
  have hrelative := hs.namesStored c.id.relative
    (Module.names_of_class hc (by simp [Class.names, ClassId.names]))
  rw [implsPath, implsPath, ClassId.nestedPath, ClassId.nestedPath, h.names.text hrelative,
    h.names.text hknown]

lemma first_eq (h : s.Makes new added t) (hk : k.In s.module) :
    k.first t.module = k.first s.module := by
  cases k with
  | staticPair ref => rw [Key.first, Key.first, h.function?_eq hk]
  | entryField _ => rfl
  | instanceField _ => rfl
  | interfaceCompanionField _ => rfl
  | defaultImpls _ => rfl
  | redirection _ => rfl

lemma texts_eq (h : s.Makes new added t) (hs : s.Complete) (hk : k.In s.module) :
    k.texts t = k.texts s := by
  cases k with
  | staticPair ref => simp only [Key.texts, h.function?_eq hk, accessorText?_eq h hs.namesStored]
  | defaultImpls ref =>
    rw [Key.texts, Key.texts, h.class?_eq hk]
    cases hc : s.module.class? ref with
    | none => rfl
    | some c => simp only [Option.toList_some, List.map_cons, List.map_nil, implsPath_eq h hs hc]
  | entryField _ => rfl
  | instanceField _ => rfl
  | interfaceCompanionField _ => rfl
  | redirection _ => rfl

lemma Session.Makes.class?_of_parent (h : s.Makes new added t) {p : Parent} {ref : ClassRef}
    {c : Class} (hin : s.module.HasParent p) (hp : p.class? = some ref)
    (hc : t.module.class? ref = some c) : s.module.class? ref = some c := by
  rwa [h.class?_eq (hin.hasClass hp)] at hc

lemma Derived.Row.Described.before (he : e.Described t u) (h : s.Makes new added t)
    (hs : s.Complete) (hk : e.key.In s.module) : e.Described s u := by
  have hw := hs.sound.wellFormed
  cases he with
  | @entryField ref field entry owner hentry howner hfield =>
    rw [h.entry?_eq] at hentry
    rw [h.class?_eq (hw.entryOwners entry (Array.mem_of_getElem? hentry))] at howner
    exact .entryField hentry howner hfield
  | instanceField hc hfield =>
    rw [h.class?_eq hk] at hc
    rw [h.settings, h.outer?_eq hw hk] at hfield
    exact .instanceField hc hfield
  | interfaceCompanionField hc hfield =>
    rw [h.class?_eq hk] at hc
    exact .interfaceCompanionField hc hfield
  | @memberPair ref _ f _ _ companion _ name _ hf hmember hp hc hcomp hparent ho hname hreceiver
      hstatic =>
    rw [h.function?_eq hk] at hf
    have hcompanion := h.class?_of_parent (hw.functions f (Array.mem_of_getElem? hf)).parent hp hc
    have howner := h.class?_of_parent
      (hw.classParents companion (Array.mem_of_getElem? hcompanion)) hparent ho
    have hown : PlatformName s u ref f name := by
      rwa [PlatformName, accessorText?_eq h hs.namesStored] at hname
    exact .memberPair hf hmember hp hcompanion hcomp hparent howner hown hreceiver hstatic
  | @externalPair _ _ _ f _ _ _ hf hexternal hp hc hcomp hthis hne hstatic hforwarder =>
    rw [h.function?_eq hk] at hf
    have hcompanion := h.class?_of_parent (hw.functions f (Array.mem_of_getElem? hf)).parent hp hc
    exact .externalPair hf hexternal hp hcompanion hcomp hthis hne hstatic hforwarder
  | defaultImpls hc hpath himpls =>
    rw [h.class?_eq hk] at hc
    rw [implsPath_eq h hs hc] at hpath
    exact .defaultImpls hc hpath himpls
  | @redirection _ _ f _ _ hf hfake hp ho hbridge =>
    rw [h.function?_eq hk] at hf
    have howner := h.class?_of_parent (hw.functions f (Array.mem_of_getElem? hf)).parent hp ho
    exact .redirection hf hfake hp howner hbridge

end

lemma Renaming.Fixes.key {ρ : Renaming} {s : Session} (h : ρ.Fixes s) {k : Key}
    (hk : k.In s.module) : k.rename ρ = k := by
  cases k with
  | entryField _ => rfl
  | instanceField ref => rw [Key.rename, h.classes ref hk]
  | interfaceCompanionField ref => rw [Key.rename, h.classes ref hk]
  | staticPair ref => rw [Key.rename, h.functions ref hk]
  | defaultImpls ref => rw [Key.rename, h.classes ref hk]
  | redirection ref => rw [Key.rename, h.functions ref hk]

namespace Derived.Key

variable {m : Module} {d later : Derived} {k l x : Key}

lemma mem_lacking_later (h : ∀ x, later.at? x = none ↔ d.at? x = none ∧ x ∉ k.lacking m d) :
    x ∈ k.lacking m d ∨ x ∈ l.lacking m later ↔ x ∈ k.lacking m d ∨ x ∈ l.lacking m d := by
  constructor
  · rintro (hx | hx)
    · exact .inl hx
    · obtain ⟨hl, hnone, hin⟩ := mem_lacking.mp hx
      exact .inr (mem_lacking.mpr ⟨((h l).mp hl).1, ((h x).mp hnone).1, hin⟩)
  · rintro (hx | hx)
    · exact .inl hx
    · by_cases hmade : x ∈ k.lacking m d
      · exact .inl hmade
      · obtain ⟨hl, hnone, hin⟩ := mem_lacking.mp hx
        have hlater := (h x).mpr ⟨hnone, hmade⟩
        refine .inr (mem_lacking.mpr ⟨(h l).mpr ⟨hl, fun hlk => hmade ?_⟩, hlater, hin⟩)
        -- a key that was made for another one needs nothing itself
        obtain ⟨hk, -, hfirst | rfl⟩ := mem_lacking.mp hlk
        · obtain ⟨_, _, ref, -, -, -, rfl⟩ := exists_of_mem_first hfirst
          obtain hx | rfl := hin
          · cases hx
          · exact hlk
        · exact mem_lacking.mpr ⟨hk, hnone, hin⟩

end Derived.Key

namespace Request

def key (m : Module) : Request → Key
  | .entryField ref => .entryField ref
  | .instanceField ref => .instanceField ref
  | .privateInstanceField ref =>
    if inInterface m ref then .interfaceCompanionField ref else .instanceField ref
  | .staticPair ref => .staticPair ref
  | .defaultImpls ref => .defaultImpls ref
  | .redirection ref => .redirection ref

section

variable {s t : Session} {new : Additions} {added : List Row} {m : Module} {r : Request}

lemma key_row (m : Module) (r : Request) (a : r.Result) : (r.row m a).key = r.key m := by
  cases r with
  | privateInstanceField ref =>
    simp only [row, key]
    split <;> rfl
  | entryField _ => rfl
  | instanceField _ => rfl
  | staticPair _ => rfl
  | defaultImpls _ => rfl
  | redirection _ => rfl

lemma key_in (h : r.KeyIn m) : (r.key m).In m := by
  cases r with
  | privateInstanceField ref =>
    rw [key]
    split <;> exact h
  | entryField _ => exact h
  | instanceField _ => exact h
  | staticPair _ => exact h
  | defaultImpls _ => exact h
  | redirection _ => exact h

lemma row_eq (h : s.Makes new added t) (hw : s.module.WellFormed) (hk : r.KeyIn s.module)
    (a : r.Result) : r.row t.module a = r.row s.module a := by
  cases r with
  | privateInstanceField ref =>
    have hsame : inInterface t.module ref = inInterface s.module ref := by
      rw [inInterface, inInterface, Module.inInterface, Module.inInterface, h.class?_eq hk,
        h.outer?_eq hw hk]
    simp only [row, hsame]
  | entryField _ => rfl
  | instanceField _ => rfl
  | staticPair _ => rfl
  | defaultImpls _ => rfl
  | redirection _ => rfl

lemma KeyIn.extend {n : Module} (hk : r.KeyIn m) (h : m.Extends n) : r.KeyIn n := by
  cases r with
  | entryField _ => exact h.hasEntry hk
  | instanceField _ => exact h.hasClass hk
  | privateInstanceField _ => exact h.hasClass hk
  | staticPair _ => exact h.hasFunction hk
  | defaultImpls _ => exact h.hasClass hk
  | redirection _ => exact h.hasFunction hk

end

end Request

def Session.MakesFor (s : Session) (keys : List Key) (t : Session) : Prop :=
  ∃ new added, s.Makes new added t ∧ s.Describes added t ∧ added.map Row.key = keys

section

variable {s t u : Session} {keys : List Key}

lemma Session.MakesFor.refl (s : Session) : s.MakesFor [] s :=
  ⟨_, [], .refl s, ⟨by simp, by simp⟩, rfl⟩

lemma Session.MakesFor.at?_eq_none (h : s.MakesFor keys t) (k : Key) :
    t.derived.at? k = none ↔ s.derived.at? k = none ∧ k ∉ keys := by
  obtain ⟨new, added, hm, -, rfl⟩ := h
  rw [hm.derived, at?_recordAll, Option.or_eq_none_iff, List.find?_eq_none]
  simp

lemma Derived.Key.in_of_mem_lacking {k x : Key} (hw : s.module.WellFormed) (hk : k.In s.module)
    {d : Derived} (h : x ∈ k.lacking s.module d) : x.In s.module := by
  obtain ⟨-, -, hfirst | rfl⟩ := Key.mem_lacking.mp h
  · obtain ⟨_, f, c, rfl, hf, hc, rfl⟩ := Key.exists_of_mem_first hfirst
    exact (hw.functions f (Array.mem_of_getElem? hf)).parent.hasClass hc
  · exact hk

lemma Session.MakesFor.complete (h : s.MakesFor keys t) (hs : s.Complete) (ht : t.WellFormed) :
    t.Complete := by
  obtain ⟨new, added, hm, hd, -⟩ := h
  exact ⟨ht, hs.reachable.trans hm.names, hm.namesStored hd hs.reachable hs.namesStored⟩

lemma Session.MakesFor.request (h : s.MakesFor keys t) (hs : s.Complete) (ht : t.WellFormed)
    {r : Request} (hk : r.KeyIn s.module) {a : r.Result} (ha : exec r.work t = (.ok a, u)) :
    s.MakesFor (keys ++ (r.key s.module).lacking s.module t.derived) u ∧
      u.derived.at? (r.key s.module) = some (r.row s.module a) ∧
      ∀ k e, t.derived.at? k = some e → u.derived.at? k = some e := by
  obtain ⟨new, added, hm, hd, rfl⟩ := h
  obtain ⟨new', added', hm', hkeys, hat, hd'⟩ := r.obtains ha
  have hw := hs.sound.wellFormed
  replace hd' := hd' ht.sound.wellFormed
  rw [Request.row_eq hm hw hk, Request.key_row] at hkeys hat
  rw [Key.lacking, first_eq hm (Request.key_in hk), ← Key.lacking] at hkeys
  refine ⟨⟨_, added ++ added', hm.trans hm', ?_, by rw [List.map_append, hkeys]⟩, hat,
    fun k e => hm'.at?_of_some⟩
  have hin : ∀ e ∈ added', e.key.In s.module := by
    intro e he
    have hmem := List.mem_map_of_mem (f := Row.key) he
    rw [hkeys] at hmem
    exact Key.in_of_mem_lacking hw (Request.key_in hk) hmem
  constructor
  · rw [List.forall_mem_append]
    refine ⟨fun e he => (hd.rows e he).makes hm', fun e he => ?_⟩
    exact (hd'.rows e he).before hm hs (hin e he)
  · intro text
    have hsame : (∃ e ∈ added', text ∈ e.key.texts t) ↔ ∃ e ∈ added', text ∈ e.key.texts s :=
      exists_congr fun e => and_congr_right fun he => by rw [texts_eq hm hs (hin e he)]
    rw [hd'.texts, hd.texts, hsame, or_assoc]
    simp only [List.mem_append, or_and_right, exists_or]

end

section

variable {s t u : Session} {new : Additions} {added : List Row} {q : Request} {failure : Failure}

lemma Request.Refused.before (hf : q.Refused t.module failure) (h : s.Makes new added t)
    (hw : s.module.WellFormed) (hk : q.KeyIn s.module) : q.Refused s.module failure := by
  have hparent {f : Function} {ref : FunctionRef} (hf : s.module.function? ref = some f) :=
    (hw.functions f (Array.mem_of_getElem? hf)).parent
  cases hf with
  | pairNotInClass hf hp =>
    rw [h.function?_eq hk] at hf
    exact .pairNotInClass hf hp
  | pairNotOfCompanion hf hp hc hcomp =>
    rw [h.function?_eq hk] at hf
    exact .pairNotOfCompanion hf hp (h.class?_of_parent (hparent hf) hp hc) hcomp
  | companionNotNested hf hmember hp hc hcomp ho =>
    rw [h.function?_eq hk] at hf
    exact .companionNotNested hf hmember hp (h.class?_of_parent (hparent hf) hp hc) hcomp ho
  | bridgeNotInClass hf hfake hp =>
    rw [h.function?_eq hk] at hf
    exact .bridgeNotInClass hf hfake hp
  | bridgeNotInherited hf hfake =>
    rw [h.function?_eq hk] at hf
    exact .bridgeNotInherited hf hfake

lemma Derived.Row.Described.member {ref : FunctionRef} {pair : StaticPair}
    (h : (Row.staticPair ref pair).Described s u) : ∃ f companionRef companion,
      s.module.function? ref = some f ∧ f.parent.class? = some companionRef ∧
      s.module.class? companionRef = some companion ∧ companion.isCompanion = true ∧
      (f.isExternal = false → companion.parent.class? ≠ none) := by
  cases h with
  | memberPair hf _ hp hc hcomp hparent =>
    exact ⟨_, _, _, hf, hp, hc, hcomp, fun _ => by simp [hparent]⟩
  | externalPair hf hexternal hp hc hcomp =>
    exact ⟨_, _, _, hf, hp, hc, hcomp, fun hmember => by simp [hmember] at hexternal⟩

lemma Request.Refused.not_described (hf : q.Refused s.module failure) {e : Row}
    (he : e.Described s u) : e.key ≠ q.key s.module := by
  intro hk
  cases hf with
  | pairNotInClass hf hp =>
    cases e <;> cases hk
    obtain ⟨f, _, _, hf', hp', -⟩ := he.member
    cases hf.symm.trans hf'
    cases hp.symm.trans hp'
  | pairNotOfCompanion hf hp hc hcomp =>
    cases e <;> cases hk
    obtain ⟨f, _, _, hf', hp', hc', hcomp', -⟩ := he.member
    cases hf.symm.trans hf'
    cases hp.symm.trans hp'
    cases hc.symm.trans hc'
    cases hcomp.symm.trans hcomp'
  | companionNotNested hf hmember hp hc _ ho =>
    cases e <;> cases hk
    obtain ⟨f, _, _, hf', hp', hc', -, ho'⟩ := he.member
    cases hf.symm.trans hf'
    cases hp.symm.trans hp'
    cases hc.symm.trans hc'
    exact ho' hmember ho
  | bridgeNotInClass hf _ hp =>
    cases e <;> cases hk
    cases he with
    | redirection hf' _ hp' =>
      cases hf.symm.trans hf'
      cases hp.symm.trans hp'
  | bridgeNotInherited hf hfake =>
    cases e <;> cases hk
    cases he with
    | redirection hf' hfake' =>
      cases hf.symm.trans hf'
      cases hfake.symm.trans hfake'

lemma lookup_of_exec_once_error {κ α : Type} [BEq κ] {table : Derived.Table κ α} {key : κ}
    {make : Work α} (h : exec (once table key make) s = (.error failure, t)) :
    (table.entries s.derived).lookup key = none := by
  cases hl : (table.entries s.derived).lookup key with
  | none => rfl
  | some a =>
    rw [exec_once_of_some hl] at h
    cases h

lemma Request.Refused.not_recorded {m n : Module} (hf : q.Refused m failure)
    (he : exec q.work s = (.error failure, t)) : s.derived.at? (q.key n) = none := by
  cases hf <;> exact congrArg (Option.map _) (lookup_of_exec_once_error he)

lemma Request.leads {r : Request} {a : r.Result} (hs : s.WellFormed) (hk : r.KeyIn s.module)
    (ha : exec r.work s = (.ok a, t)) : t.WellFormed ∧ s.module.Extends t.module := by
  have hsafe := r.safe hs hk
  rw [← show (exec r.work s).2 = t by rw [ha]]
  exact ⟨hsafe.wellFormed, hsafe.kept⟩

lemma Session.MakesFor.succeeds {v : Session} {keys : List Key} {b : q.Result}
    (h : s.MakesFor keys t) (hs : s.Complete) (ht : t.WellFormed)
    (hx : s.module.Extends t.module) (hk : q.KeyIn s.module)
    (hb : exec q.work s = (.ok b, v)) : ∃ b' w, exec q.work t = (.ok b', w) := by
  obtain ⟨w, -, -, ⟨b', hb', -⟩ | ⟨failure, he, hfails⟩⟩ := (q.safe ht (hk.extend hx)).ends
  · exact ⟨b', w, hb'⟩
  · have hcomplete := h.complete hs ht
    have hrefused := hfails.refused_of_stored hcomplete.reachable hcomplete.namesStored
    -- what it would be refused for was so before, when it made a row
    have hnone := ((h.at?_eq_none _).mp (hrefused.not_recorded (n := s.module) he)).1
    obtain ⟨_, added, hm, -, -⟩ := h
    have hbefore := hrefused.before hm hs.sound.wellFormed hk
    obtain ⟨⟨_, made, -, hd, hkeys⟩, -⟩ := (MakesFor.refl s).request hs hs.toWellFormed hk hb
    have hmem : q.key s.module ∈ made.map Row.key := by
      rw [hkeys, List.nil_append]
      exact Key.mem_lacking.mpr ⟨hnone, hnone, .inr rfl⟩
    obtain ⟨e, hin, hkey⟩ := List.mem_map.mp hmem
    exact absurd hkey (hbefore.not_described (hd.rows e hin))

end

def Request.rename (ρ : Renaming) : (r : Request) → r.Result → r.Result
  | .entryField _, field => ρ.fields field
  | .instanceField _, field => ρ.fields field
  | .privateInstanceField _, field => ρ.fields field
  | .staticPair _, pair => pair.rename ρ
  | .defaultImpls _, impls => ρ.classes impls
  | .redirection _, bridge => ρ.functions bridge

lemma Request.eq_rename_of_row {ρ : Renaming} {m : Module} {r : Request} {a b : r.Result}
    (h : r.row m b = (r.row m a).rename ρ) : b = r.rename ρ a := by
  cases r with
  | entryField ref => exact (Row.entryField.inj h).2
  | instanceField ref => exact (Row.instanceField.inj h).2
  | privateInstanceField ref =>
    simp only [row] at h
    split at h
    · exact (Row.interfaceCompanionField.inj h).2
    · exact (Row.instanceField.inj h).2
  | staticPair ref => exact (Row.staticPair.inj h).2
  | defaultImpls ref => exact (Row.defaultImpls.inj h).2
  | redirection ref => exact (Row.redirection.inj h).2

lemma Session.MakesFor.perm {s t v : Session} {m : Module} {k l : Key}
    (ht : s.MakesFor (k.lacking m s.derived) t) (hv : s.MakesFor (l.lacking m s.derived) v) :
    (k.lacking m s.derived ++ l.lacking m t.derived).Perm
        (l.lacking m s.derived ++ k.lacking m v.derived) ∧
      (l.lacking m s.derived ++ k.lacking m v.derived).Nodup := by
  have hnodup {k l : Key} {t : Session} (ht : s.MakesFor (k.lacking m s.derived) t) :
      (k.lacking m s.derived ++ l.lacking m t.derived).Nodup := by
    refine List.nodup_append.mpr ⟨Key.nodup_lacking _ _ _, Key.nodup_lacking _ _ _, ?_⟩
    rintro x hx _ hmem rfl
    exact ((ht.at?_eq_none x).mp (Key.at?_of_mem_lacking hmem)).2 hx
  refine ⟨(List.perm_ext_iff_of_nodup (hnodup ht) (hnodup hv)).mpr fun x => ?_, hnodup hv⟩
  rw [List.mem_append, List.mem_append, Key.mem_lacking_later ht.at?_eq_none,
    Key.mem_lacking_later hv.at?_eq_none, or_comm]

/-- Two requests for declarations of `s`, each of which succeeds on `s`, succeed in either order,
and both orders lead to the same session with the same results, but for the numbers of what was made and
of the names that were stored. -/
theorem Request.commute {s t v : Session} (hs : s.Complete) {r q : Request}
    (hkr : r.KeyIn s.module) (hkq : q.KeyIn s.module) {a : r.Result} {b : q.Result}
    (ha : exec r.work s = (.ok a, t)) (hb : exec q.work s = (.ok b, v)) :
    ∃ (ρ : Renaming) (a' : r.Result) (b' : q.Result) (t' v' : Session),
      exec q.work t = (.ok b', t') ∧ exec r.work v = (.ok a', v') ∧ t'.Complete ∧ v'.Complete ∧
        ρ.Fixes s ∧ t'.Renumbered ρ v' ∧ a' = r.rename ρ a ∧ b = q.rename ρ b' := by
  have hw := hs.toWellFormed
  obtain ⟨ht, htx⟩ := leads hw hkr ha
  obtain ⟨hv, hvx⟩ := leads hw hkq hb
  obtain ⟨hst, hrt, -⟩ := (MakesFor.refl s).request hs hw hkr ha
  obtain ⟨hsv, hqv, -⟩ := (MakesFor.refl s).request hs hw hkq hb
  obtain ⟨b', t', hb'⟩ := hst.succeeds hs ht htx hkq hb
  obtain ⟨a', v', ha'⟩ := hsv.succeeds hs hv hvx hkr ha
  obtain ⟨hst', hqt', hkept⟩ := hst.request hs ht hkq hb'
  obtain ⟨hsv', hrv', hkept'⟩ := hsv.request hs hv hkr ha'
  have ht' := hst'.complete hs (leads ht (hkq.extend htx) hb').1
  have hv' := hsv'.complete hs (leads hv (hkr.extend hvx) ha').1
  -- the keys that rows are made for are the same in both orders
  obtain ⟨hperm, hnodup⟩ := hst.perm hsv
  obtain ⟨_, added, hm, hd, hkeys⟩ := hst'
  obtain ⟨_, added', hm', hd', hkeys'⟩ := hsv'
  obtain ⟨ρ, hfix, hren⟩ := exists_renumbered hs hm hm' hd hd'
    (by rw [hkeys, hkeys']; exact hperm) (by rw [hkeys']; exact hnodup)
  refine ⟨ρ, a', b', t', v', hb', ha', ht', hv', hfix, hren,
    eq_rename_of_row (m := s.module) ?_, eq_rename_of_row (m := s.module) ?_⟩
  · have htable := hren.tables (r.key s.module)
    rw [hfix.key (key_in hkr), hrv', hkept _ _ hrt] at htable
    exact Option.some.inj htable
  · have htable := hren.tables (q.key s.module)
    rw [hfix.key (key_in hkq), hkept' _ _ hqv, hqt'] at htable
    exact Option.some.inj htable

lemma companionUnit_wellFormed : companionUnit.WellFormed := by
  have hfunctions : ∀ f ∈ companionUnit.module.functions,
      f.Within companionUnit.module ∧ f.ReadsParams companionUnit.module := by
    intro f hf
    simp only [companionUnit, List.mem_toArray, List.mem_cons, List.not_mem_nil, or_false] at hf
    rcases hf with rfl | rfl <;> refine ⟨?_, reads_of_body_eq_none rfl⟩ <;>
      constructor <;> simp [Function.make, Module.HasParent, Module.HasClass, companionUnit]
  refine ⟨⟨?_, fun f hf => (hfunctions f hf).2⟩, ?_, ?_⟩
  · constructor
    case functions => exact fun f hf => (hfunctions f hf).1
    all_goals simp [companionUnit, Module.empty, Class.make, Module.HasClass, Module.HasParent]
  · constructor <;> simp [companionUnit, Derived.empty]
  · simp [companionUnit]

theorem Request.commute_companionUnit :
    let t := (exec (Derive.staticPair ⟨0⟩) companionUnit).2
    let v := (exec (Derive.staticPair ⟨1⟩) companionUnit).2
    companionUnit.Complete ∧
      ∃ (ρ : Renaming) (t' v' : Session),
        exec (Derive.staticPair ⟨1⟩) t = (.ok ⟨⟨3⟩, ⟨4⟩⟩, t') ∧
        exec (Derive.staticPair ⟨0⟩) v = (.ok ⟨⟨4⟩, ⟨0⟩⟩, v') ∧ t'.Renumbered ρ v' ∧
        ρ.functions ⟨2⟩ = ⟨4⟩ ∧ ρ.functions ⟨3⟩ = ⟨2⟩ ∧ ρ.functions ⟨4⟩ = ⟨3⟩ := by
  intro t v
  have hstored : companionUnit.NamesStored := by
    rw [NamesStored]
    decide
  have hcomplete : companionUnit.Complete := ⟨companionUnit_wellFormed, .refl, hstored⟩
  have hmember : exec (Derive.staticPair ⟨0⟩) companionUnit = (.ok ⟨⟨2⟩, ⟨0⟩⟩, t) :=
    Prod.ext rfl rfl
  have hexternal : (exec (Derive.staticPair ⟨1⟩) companionUnit).1 = .ok ⟨⟨2⟩, ⟨3⟩⟩ := by
    decide +kernel
  have hsecond : (exec (Derive.staticPair ⟨1⟩) t).1 = .ok ⟨⟨3⟩, ⟨4⟩⟩ := by decide +kernel
  have hsecond' : (exec (Derive.staticPair ⟨0⟩) v).1 = .ok ⟨⟨4⟩, ⟨0⟩⟩ := by decide +kernel
  obtain ⟨ρ, a', b', t', v', hb', ha', -, -, -, hren, hra, hqb⟩ :=
    Request.commute hcomplete (r := .staticPair ⟨0⟩) (q := .staticPair ⟨1⟩)
      (by decide : 0 < 2) (by decide : 1 < 2) hmember (Prod.ext hexternal rfl)
  have hw : exec (Derive.staticPair ⟨1⟩) t = (.ok b', t') := hb'
  have hx : exec (Derive.staticPair ⟨0⟩) v = (.ok a', v') := ha'
  rw [hw] at hsecond
  rw [hx] at hsecond'
  cases hsecond
  cases hsecond'
  have hforward := StaticPair.mk.inj hra
  have hpair := StaticPair.mk.inj hqb
  exact ⟨hcomplete, ρ, t', v', hw, hx, hren, hforward.1.symm, hpair.1.symm, hpair.2.symm⟩

end ClrCompiler.Decl
