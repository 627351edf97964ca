import ClrCompiler.Proofs.Decl.EntryPoints
import ClrCompiler.Proofs.Decl.Refusals

/-! What every session keeps, however requests and lowering passes follow each other: its references
and its names lead somewhere. With that no request runs into anything but a documented refusal. -/

namespace ClrCompiler.Decl

open Work Derive Lowering Session

namespace Session.NamesStored

variable {s : Session}

lemma addFunction (hn : s.NamesStored) {f : Function} (hf : ∀ n ∈ f.names, n.raw < s.names.size) :
    ({ s with module := (s.module.addFunction f).2 } : Session).NamesStored := by
  intro n hin
  rcases Module.mem_names.mp hin with rfl | hc | ⟨g, hg, hname⟩ | hrest
  · exact hn _ (Module.mem_names.mpr (.inl rfl))
  · exact hn n (Module.mem_names.mpr (.inr (.inl hc)))
  · rcases Array.mem_push.mp hg with hg | rfl
    · exact hn n (Module.mem_names.mpr (.inr (.inr (.inl ⟨g, hg, hname⟩))))
    · exact hf n hname
  · exact hn n (Module.mem_names.mpr (.inr (.inr (.inr hrest))))

lemma setMembers (hn : s.NamesStored) {ref : ClassRef} {c : Class}
    (hc : s.module.class? ref = some c) (members : List Member) :
    ({ s with module := s.module.setClass ref { c with members := members } } :
      Session).NamesStored := by
  intro n hin
  rcases Module.mem_names.mp hin with rfl | ⟨d, hd, hname⟩ | hrest
  · exact hn _ (Module.mem_names.mpr (.inl rfl))
  · rcases Array.mem_or_eq_of_mem_setIfInBounds hd with hd | rfl
    · exact hn n (Module.mem_names.mpr (.inr (.inl ⟨d, hd, hname⟩)))
    · exact hn n (Module.names_of_class hc hname)
  · exact hn n (Module.mem_names.mpr (.inr (.inr hrest)))

end Session.NamesStored

section

variable {s : Session}

lemma Session.Complete.request (hs : s.Complete) (r : Request) (hk : r.KeyIn s.module) :
    (exec r.work s).2.Complete := by
  rcases h : exec r.work s with ⟨e | a, t⟩
  · obtain ⟨rfl, -⟩ := r.unchanged hs.sound.wellFormed hk h
    exact hs
  · obtain ⟨hmade, -⟩ := (MakesFor.refl s).request hs hs.toWellFormed hk h
    exact hmade.complete hs (Request.leads hs.toWellFormed hk h).1

lemma names_entryPoint (owner : ClassRef) (main : FunctionRef) (hr : s.names.Reachable) :
    ∀ n ∈ (entryPoint owner main).names, n.raw < s.names.size := by
  have hsame : (entryPoint owner main).names = (entryPoint ⟨0⟩ ⟨0⟩).names := rfl
  have hknown : ∀ n ∈ (entryPoint ⟨0⟩ ⟨0⟩).names, n.raw < Interner.new.size := by decide
  intro n hn
  rw [hsame] at hn
  exact (hknown n hn).trans_le (Interner.Later.size_le hr)

variable {ref : ClassRef}

lemma complete_addEntryPoint (hs : s.Complete) (h : s.module.HasClass ref) :
    (exec (addEntryPoint ref) s).2.Complete ∧
      s.module.Extends (exec (addEntryPoint ref) s).2.module := by
  have hsafe := safe_addEntryPoint (E := fun _ => False) hs.toWellFormed h
  obtain ⟨c, hc⟩ := Option.isSome_iff_exists.mp (Module.class?_isSome h)
  obtain ⟨log, hexec⟩ := exec_addEntryPoint hc (hs.sound.wellFormed.classFunctions hc)
  have hstored : (exec (addEntryPoint ref) s).2.NamesStored := by
    rw [hexec]
    cases entryMain? s.module c with
    | none => exact hs.namesStored
    | some main =>
      have hadded := hs.namesStored.addFunction (names_entryPoint ref main hs.reachable)
      exact hadded.setMembers hc _
  have hreachable : (exec (addEntryPoint ref) s).2.names.Reachable := by
    rw [hexec]
    exact hs.reachable
  exact ⟨⟨hsafe.wellFormed, hreachable, hstored⟩, hsafe.kept⟩

lemma complete_addMember {member : Member} (hs : s.Complete) (h : s.module.HasClass ref)
    (hm : s.module.HasMember member) : (exec (addMember ref member) s).2.Complete ∧
      s.module.Extends (exec (addMember ref member) s).2.module := by
  have hsafe := Safe.addMember (E := fun _ => False) hs.toWellFormed h hm
  obtain ⟨c, hc⟩ := Option.isSome_iff_exists.mp (Module.class?_isSome h)
  have hexec : exec (addMember ref member) s = _ := exec_addMember hc
  have hstored : (exec (addMember ref member) s).2.NamesStored := by
    rw [hexec]
    exact hs.namesStored.setMembers hc _
  have hreachable : (exec (addMember ref member) s).2.names.Reachable := by
    rw [hexec]
    exact hs.reachable
  exact ⟨⟨hsafe.wellFormed, hreachable, hstored⟩, hsafe.kept⟩

lemma complete_forM {refs : List ClassRef} {g : ClassRef → Work Unit} (hs : s.Complete)
    (hin : ∀ ref ∈ refs, s.module.HasClass ref)
    (hg : ∀ ref t, t.Complete → t.module.HasClass ref →
      (exec (g ref) t).2.Complete ∧ t.module.Extends (exec (g ref) t).2.module) :
    (exec (refs.forM g) s).2.Complete := by
  induction refs generalizing s with
  | nil => exact hs
  | cons ref rest ih =>
    obtain ⟨hcomplete, hkept⟩ := hg ref s hs (hin ref List.mem_cons_self)
    change (exec (g ref >>= fun _ => rest.forM g) s).2.Complete
    rcases h : exec (g ref) s with ⟨e | ⟨⟩, t⟩ <;> rw [h] at hcomplete hkept
    · rw [exec_bind_error h]
      exact hcomplete
    · rw [exec_bind_ok h]
      exact ih hcomplete fun other ho => hkept.hasClass (hin other (List.mem_cons_of_mem ref ho))

lemma Session.Complete.pass (hs : s.Complete) (p : Pass) : (exec p.run s).2.Complete := by
  cases p with
  | entryPoints =>
    exact complete_forM hs (fun _ => hasClass_of_mem_classesWhere)
      fun ref t ht h => complete_addEntryPoint ht h
  | objectFields =>
    refine complete_forM hs (fun _ => hasClass_of_mem_classesWhere) fun ref t ht h => ?_
    have hcomplete := ht.request (.instanceField ref) h
    have hsafe := safe_instanceField (E := fun _ => False) ht.toWellFormed h
    obtain ⟨u, -, hx, ⟨field, hok, hfield⟩ | ⟨_, -, ⟨⟩⟩⟩ := hsafe.ends
    change (exec (instanceField ref) t).2.Complete at hcomplete
    rw [hok] at hcomplete
    rw [exec_bind_ok hok]
    have hmember : u.module.HasMember (.field field) := hfield
    obtain ⟨hadded, hkept⟩ := complete_addMember hcomplete (hx.hasClass h) hmember
    exact ⟨hadded, trans_of Module.Extends hx hkept⟩

lemma Session.Reaches.complete {t : Session} (h : s.Reaches t) (hs : s.Complete) : t.Complete := by
  induction h with
  | start => exact hs
  | request r _ hk ih => exact ih.request r hk
  | pass p _ ih => exact ih.pass p

end

theorem Session.work_within {s t : Session} (hs : s.WellFormed) (h : s.Reaches t) :
    t.WellFormed ∧
      (∀ r : Request, r.KeyIn t.module → ∃ u, u.WellFormed ∧ t.module.Extends u.module ∧
        (∀ n, t.HasRoom (n + 5) → u.HasRoom n) ∧
        ((∃ a, exec r.work t = (.ok a, u) ∧ r.ResultIn u.module a) ∨
          ∃ e, exec r.work t = (.error e, u) ∧ r.Fails t e)) ∧
      (∀ p : Lowering.Pass, ∃ u, u.WellFormed ∧ t.module.Extends u.module ∧
        (∀ n, t.HasRoom (n + t.module.classes.size) → u.HasRoom n) ∧ exec p.run t = (.ok (), u)) ∧
      (s.names.Reachable → s.NamesStored → t.Complete ∧
        ∀ r : Request, r.KeyIn t.module → ∀ e u, exec r.work t = (.error e, u) →
          r.Refused t.module e) := by
  have ht := h.wellFormed hs
  refine ⟨ht, fun r hk => ?_, fun p => ?_, fun hr hn => ?_⟩
  · obtain ⟨u, hu, hx, hend⟩ := (r.safe ht hk).ends
    have hexec : (exec r.work t).2 = u := by
      rcases hend with ⟨a, ha, -⟩ | ⟨e, he, -⟩
      · rw [ha]
      · rw [he]
    exact ⟨u, hu, hx, fun n hroom => hexec ▸ (r.costs t).hasRoom hroom, hend⟩
  · obtain ⟨u, hu, hx, ⟨⟨⟩, hok, -⟩ | ⟨_, -, ⟨⟩⟩⟩ := (p.safe (E := fun _ => False) ht).ends
    have hgrows := p.growsBy t
    rw [hok] at hgrows
    exact ⟨u, hu, hx, fun n => hgrows.hasRoom, hok⟩
  · have hcomplete := h.complete ⟨hs, hr, hn⟩
    refine ⟨hcomplete, fun r hk e u he => ?_⟩
    obtain ⟨-, hfails⟩ := r.unchanged ht.sound.wellFormed hk he
    exact hfails.refused_of_stored hcomplete.reachable hcomplete.namesStored

theorem Session.work_within_fileUnit :
    let t := (exec Lowering.Pass.entryPoints.run (exec (Request.staticPair ⟨1⟩).work fileUnit).2).2
    fileUnit.WellFormed ∧ fileUnit.names.Reachable ∧ fileUnit.NamesStored ∧ fileUnit.Reaches t ∧
      t.module.functions.size = 6 ∧ t.Complete ∧
      ∃ u, u.WellFormed ∧ exec (Request.staticPair ⟨2⟩).work t =
        (.error (.notInClass ⟨2⟩ (.inPackage Standard.any.package)), u) := by
  intro t
  have hr : fileUnit.names.Reachable := .refl
  have hn : fileUnit.NamesStored := by
    rw [NamesStored]
    decide
  have hreaches : fileUnit.Reaches t :=
    .pass .entryPoints (.request (.staticPair ⟨1⟩) .start (by decide : 1 < 3))
  have hsize : t.module.functions.size = 6 := rfl
  have hkey : (Request.staticPair ⟨2⟩).KeyIn t.module := by
    rw [Request.KeyIn, Module.HasFunction, hsize]
    decide
  have hresult : (exec (Request.staticPair ⟨2⟩).work t).1 =
      .error (.notInClass ⟨2⟩ (.inPackage Standard.any.package)) := rfl
  obtain ⟨-, hrequest, -, hstored⟩ := work_within fileUnit_wellFormed hreaches
  refine ⟨fileUnit_wellFormed, hr, hn, hreaches, hsize, (hstored hr hn).1, ?_⟩
  obtain ⟨u, hu, -, -, ⟨a, ha, -⟩ | ⟨e, he, -⟩⟩ := hrequest (.staticPair ⟨2⟩) hkey
  · rw [ha] at hresult
    cases hresult
  · rw [he] at hresult
    cases hresult
    exact ⟨u, hu, he⟩

end ClrCompiler.Decl
