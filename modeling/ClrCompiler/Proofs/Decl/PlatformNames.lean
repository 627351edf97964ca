import ClrCompiler.Proofs.Decl.Commute
import ClrCompiler.Proofs.Decl.Signatures

/-! Platform names of derived functions. A property knows its accessors by their references, so a
copy of an accessor is called by the accessor's own name and not after the property; what is made
for the accessor without a copy keeps the platform name. -/

namespace ClrCompiler.Decl

open Work Derive Derived Interner Session

def Session.platformText? (s : Session) (ref : FunctionRef) : Option String :=
  match exec (platformName ref) s with
  | (.ok name, t) => some (t.names.text name)
  | (.error _, _) => none

section

variable {s u : Session} {new : Additions} {added : List Row} {ref other : FunctionRef}
  {f g : Function}

lemma platformText?_eq (hf : s.module.function? ref = some f)
    (hp : ∀ p, f.property = some p → (s.module.property? p).isSome)
    (hn : ∀ p, s.module.accessed? ref = some p → p.name.raw < s.names.size) :
    s.platformText? ref = some ((s.accessorText? ref f).getD (s.names.text f.name)) := by
  obtain ⟨name, names, h⟩ := exec_platformName hf hp hn
  obtain ⟨rfl, ht⟩ := exec_platformName_ok hf h
  rw [platformText?, h, ht, platformNaming]
  cases s.accessorText? ref f with
  | none => rfl
  | some text => exact congrArg some (text_of_get? (get?_intern s.names text))

lemma text_name_eq (h : s.Makes new added u) (hn : s.NamesStored)
    (hf : s.module.function? ref = some f) : u.names.text f.name = s.names.text f.name :=
  h.names.text (hn _ (Module.names_of_function hf List.mem_cons_self))

lemma stored_of_accessed (h : s.Makes new added u) (hn : s.NamesStored) :
    ∀ p, u.module.accessed? other = some p → p.name.raw < u.names.size := by
  intro p hp
  obtain ⟨_, _, -, -, hproperty, -⟩ := Module.accessed?_eq_some.mp hp
  rw [h.property?_eq] at hproperty
  exact (hn p.name (Module.names_of_property hproperty List.mem_cons_self)).trans_le h.names.size_le

lemma platformText?_old (h : s.Makes new added u) (hw : s.module.WellFormed) (hn : s.NamesStored)
    (hf : s.module.function? ref = some f) :
    u.platformText? ref = some ((s.accessorText? ref f).getD (s.names.text f.name)) := by
  have hproperty : ∀ p, f.property = some p → (u.module.property? p).isSome := by
    intro p hp
    rw [h.property?_eq]
    exact hw.property hf hp
  rw [platformText?_eq (h.function?_of_some hf) hproperty (stored_of_accessed h hn),
    accessorText?_eq h hn, text_name_eq h hn hf]

lemma platformText?_new {text : String} (h : s.Makes new added u) (hw : s.module.WellFormed)
    (hn : s.NamesStored) (hg : u.module.function? other = some g)
    (hnew : ¬s.module.HasFunction other)
    (hp : ∀ p, g.property = some p → (s.module.property? p).isSome)
    (hname : u.names.text g.name = text) : u.platformText? other = some text := by
  have hproperty : ∀ p, g.property = some p → (u.module.property? p).isSome := by
    intro p hprop
    rw [h.property?_eq]
    exact hp p hprop
  rw [platformText?_eq hg hproperty (stored_of_accessed h hn), accessorText?_eq h hn,
    accessorText?_of_new hw hnew, Option.getD_none, hname]

lemma PlatformName.text {name : Name} (h : PlatformName s u ref f name) :
    u.names.text name = (s.accessorText? ref f).getD (u.names.text f.name) := by
  rw [PlatformName] at h
  cases ht : s.accessorText? ref f with
  | none =>
    rw [ht] at h
    rw [h, Option.getD_none]
  | some text =>
    rw [ht] at h
    rw [text_of_get? h, Option.getD_some]

lemma Derived.Row.Described.platformText? {pair : StaticPair}
    (hd : (Row.staticPair ref pair).Described s u) (h : s.Makes new added u)
    (hw : s.module.WellFormed) (hn : s.NamesStored) (hf : s.module.function? ref = some f)
    (hnew : ∀ other ∈ (Row.staticPair ref pair).functions, ¬s.module.HasFunction other) :
    let text := if f.isExternal then s.names.text f.name
      else (s.accessorText? ref f).getD (s.names.text f.name)
    u.platformText? pair.static = some text ∧ u.platformText? pair.companion = some text := by
  have hown := text_name_eq h hn hf
  cases hd with
  | memberPair hf' hmember _ _ _ _ _ hname _ hstatic =>
    cases hf.symm.trans hf'
    rw [hmember, if_neg Bool.false_ne_true]
    refine ⟨?_, platformText?_old h hw hn hf⟩
    refine platformText?_new h hw hn hstatic (hnew _ ?_) (fun p hp => by cases hp) ?_
    · simp [Row.functions]
    · rw [← hown]
      exact hname.text
  | externalPair hf' hexternal _ _ _ _ hne hstatic hforwarder =>
    cases hf.symm.trans hf'
    rw [if_pos hexternal]
    simp only [Row.functions, if_neg hne, List.forall_mem_cons] at hnew
    obtain ⟨hnewStatic, hnewForwarder, -⟩ := hnew
    refine ⟨?_, ?_⟩
    · exact platformText?_new h hw hn hstatic hnewStatic (fun p hp => hw.property hf hp) hown
    · exact platformText?_new h hw hn hforwarder hnewForwarder (fun p hp => by cases hp) hown

end

theorem derived_platformText {s : Session} (hw : s.module.WellFormed) (hn : s.NamesStored)
    {ref : FunctionRef} {f : Function} (hf : s.module.function? ref = some f) :
    let own := s.names.text f.name
    let text := (s.accessorText? ref f).getD own
    s.platformText? ref = some text ∧
    (∀ pair t u, s.derived.staticPairs.lookup ref = none →
      exec (staticPair ref) s = (.ok pair, t) → t.Asks u →
        u.platformText? ref = some text ∧
        u.platformText? pair.static = some (if f.isExternal then own else text) ∧
        u.platformText? pair.companion = some (if f.isExternal then own else text)) ∧
    ∀ bridge t u, s.derived.redirections.lookup ref = none →
      exec (redirection ref) s = (.ok bridge, t) → t.Asks u →
        u.platformText? ref = some text ∧ u.platformText? bridge = some own := by
  intro own text
  refine ⟨platformText?_eq hf (fun p hp => hw.property hf hp)
    fun p hp => hn p.name (Module.name_of_accessed hp), ?_, ?_⟩
  · intro pair t u hnone h hlater
    obtain ⟨new, added, hm, -, hd, hnew⟩ := Asks.described (r := .staticPair ref) hw
      (congrArg (Option.map _) hnone) h hlater
    exact ⟨platformText?_old hm hw hn hf, hd.platformText? hm hw hn hf hnew⟩
  · intro bridge t u hnone h hlater
    obtain ⟨new, added, hm, -, hd, hnew⟩ := Asks.described (r := .redirection ref) hw
      (congrArg (Option.map _) hnone) h hlater
    refine ⟨platformText?_old hm hw hn hf, ?_⟩
    cases hd with
    | redirection hf' _ _ _ hbridge =>
      cases hf.symm.trans hf'
      have hown := text_name_eq hm hn hf
      exact platformText?_new hm hw hn hbridge (hnew _ (List.mem_singleton_self _))
        (fun p hp => hw.property hf hp) hown

lemma propertyUnit_namesStored : propertyUnit.NamesStored := by
  rw [NamesStored]
  decide

theorem derived_platformText_propertyUnit :
    let t := (exec (staticPair ⟨1⟩) propertyUnit).2
    propertyUnit.module.WellFormed ∧ propertyUnit.NamesStored ∧
      t.platformText? ⟨1⟩ = some "set_List" ∧ t.platformText? ⟨3⟩ = some "set_List" ∧
      (exec (redirection ⟨2⟩) propertyUnit).2.platformText? ⟨3⟩ = some "Collection" := by
  intro t
  have hw := propertyUnit_wellFormed
  have hn := propertyUnit_namesStored
  have hsetter : propertyUnit.module.function? ⟨1⟩ = some _ := rfl
  have hinherited : propertyUnit.module.function? ⟨2⟩ = some _ := rfl
  have hpair : (exec (staticPair ⟨1⟩) propertyUnit).1 = .ok ⟨⟨3⟩, ⟨1⟩⟩ := by decide +kernel
  have hbridge : (exec (redirection ⟨2⟩) propertyUnit).1 = .ok ⟨3⟩ := by decide +kernel
  obtain ⟨-, hpairs, -⟩ := derived_platformText hw hn hsetter
  obtain ⟨-, -, hbridges⟩ := derived_platformText hw hn hinherited
  obtain ⟨hold, hstatic, -⟩ := hpairs _ t t rfl (Prod.ext hpair rfl) .start
  obtain ⟨-, hnamed⟩ := hbridges _ _ _ rfl (Prod.ext hbridge rfl) .start
  exact ⟨hw, hn, hold, hstatic, hnamed⟩

/-- The external getter is called after its property, but neither function of its pair is; nor is
the bridge of the inherited getter. -/
theorem copied_accessor_renamed :
    let t := (exec (staticPair ⟨0⟩) propertyUnit).2
    let u := (exec (redirection ⟨2⟩) propertyUnit).2
    propertyUnit.module.WellFormed ∧ propertyUnit.NamesStored ∧
      exec (staticPair ⟨0⟩) propertyUnit = (.ok ⟨⟨3⟩, ⟨4⟩⟩, t) ∧
      t.platformText? ⟨0⟩ = some "get_List" ∧ t.platformText? ⟨3⟩ = some "Iterator" ∧
      t.platformText? ⟨4⟩ = some "Iterator" ∧
      exec (redirection ⟨2⟩) propertyUnit = (.ok ⟨3⟩, u) ∧
      u.platformText? ⟨2⟩ = some "get_Map" ∧ u.platformText? ⟨3⟩ = some "Collection" := by
  intro t u
  have hpair : (exec (staticPair ⟨0⟩) propertyUnit).1 = .ok ⟨⟨3⟩, ⟨4⟩⟩ := by decide +kernel
  have hbridge : (exec (redirection ⟨2⟩) propertyUnit).1 = .ok ⟨3⟩ := by decide +kernel
  refine ⟨propertyUnit_wellFormed, propertyUnit_namesStored, Prod.ext hpair rfl, ?_, ?_, ?_,
    Prod.ext hbridge rfl, ?_, ?_⟩ <;> decide +kernel

end ClrCompiler.Decl
