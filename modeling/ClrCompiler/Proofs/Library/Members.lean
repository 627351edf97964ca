import ClrCompiler.Proofs.Library.Signatures

/-! The members of a type, their order and the names of their parameters. A type that is no object
splits its members between its class and its companion; the constructors of a file class are the
exception. Parameters without a name are named by their position, which is a new name only as long
as no other parameter has been given it. -/

namespace ClrCompiler.Library

open Interner Naming Metadata

def ParametersNamed (i : Interner) (given : List Metadata.Parameter)
    (parameters : List Symbol.Parameter) : Prop :=
  List.Forall₂ (fun g p => i.get? (parameterName g.2 g.1.name) = some p.name)
    given.zipIdx parameters

structure FunctionOf (index : Index) (i : Interner) (shape : Shape) (holder : ClassId)
    (inCompanion : Bool) (m : Method) (f : Symbol.Function) : Prop where
  signature : FunctionResolved index i m f
  parameterNames : ParametersNamed i m.parameters f.parameters
  arity : f.parameters.length = m.parameters.length
  id : f.id = if shape = .object then .topLevel holder.package f.name else .member holder f.name
  owner : f.owner = some holder
  isStatic : f.status.isStatic = m.isStatic
  marked : f.isAnnotated Standard.clrStatic = inCompanion

structure ConstructorOf (index : Index) (i : Interner) (holder : ClassId)
    (c : Metadata.Constructor) (x : Symbol.Constructor) : Prop where
  parameters : ParametersResolved index i c.parameters x.parameters
  parameterNames : ParametersNamed i c.parameters x.parameters
  id : x.id = .constructorOf holder
  owner : x.owner = holder
  returnType : x.returnType = .nonNull holder
  receiver : x.receiver = if c.isStatic then none else some (.nonNull holder)

def FunctionsFrom (index : Index) (i : Interner) (shape : Shape) (c : Symbol.Class)
    (ms : List Method) : Prop :=
  List.Forall₂ (FunctionOf index i shape c.id c.isCompanion) ms c.functions

def ConstructorsFrom (index : Index) (i : Interner) (c : Symbol.Class)
    (cs : List Metadata.Constructor) : Prop :=
  List.Forall₂ (ConstructorOf index i c.id) cs c.constructors

lemma filter_not_append_perm {α : Type} (p : α → Bool) (xs : List α) :
    (xs.filter (fun x => !p x) ++ xs.filter p).Perm xs :=
  List.perm_append_comm.trans (List.filter_append_perm p xs)

section

variable {index : Index}

lemma ensures_parametersNamed (s : Interner) (index : Index) (given : List Metadata.Parameter) :
    Ensures s (parameters index given) fun u ps => ParametersNamed u given ps := by
  refine .forall₂_mapM fun g _ t _ => (ensures_intern t _).bind fun v name _ hname => ?_
  refine (ensures_typeResolved v index g.1.type).bind fun w type hw _ => ?_
  exact .pure fun u hu => hname u (hw.trans hu)

lemma ensures_functionOf {s : Interner} {shape : Shape} {id : CallableId} {owner : ClassId}
    {marks : List ClassId} {inCompanion : Bool} {node : Method}
    (hname : s.get? node.name = some id.name)
    (hid : id = if shape = .object then .topLevel owner.package id.name else .member owner id.name)
    (hmarks : marks.contains Standard.clrStatic = inCompanion) :
    Ensures s (function index id owner marks node) fun u f =>
      FunctionOf index u shape owner inCompanion node f := by
  have hresolved : Ensures s (function index id owner marks node) fun u f =>
      FunctionResolved index u node f := ensures_functionResolved id owner marks hname
  have hnamed : Ensures s (function index id owner marks node) fun u f =>
      ParametersNamed u node.parameters f.parameters :=
    (ensures_typeResolved s index node.returnType).bind fun t _ _ _ =>
      (ensures_parametersNamed t index node.parameters).bind fun _ _ _ hps => .pure hps
  refine ⟨hresolved.1, fun u hu => ?_⟩
  have hnames := hnamed.2 u hu
  have hstatic : ((function index id owner marks node).eval s).status.isStatic = node.isStatic := by
    change (if node.isStatic then _ else _ : Status).isStatic = _
    cases node.isStatic <;> rfl
  exact ⟨hresolved.2 u hu, hnames, by simpa using hnames.length_eq.symm, hid, rfl, hstatic, hmarks⟩

lemma ensures_freeOf (s : Interner) (index : Index) (owner : ClassId) (node : Method) :
    Ensures s (freeFunction index owner node) fun u f =>
      FunctionOf index u .object owner false node f :=
  (ensures_intern s node.name).bind fun t _ _ hname => ensures_functionOf (hname t .refl) rfl rfl

lemma ensures_memberOf {s : Interner} {shape : Shape} (hs : shape ≠ .object) {owner : ClassId}
    {marks : List ClassId} {inCompanion : Bool} {node : Method}
    (hmarks : marks.contains Standard.clrStatic = inCompanion) :
    Ensures s (memberFunction index owner marks node) fun u f =>
      FunctionOf index u shape owner inCompanion node f :=
  (ensures_intern s node.name).bind fun t _ _ hname =>
    ensures_functionOf (hname t .refl) (if_neg hs).symm hmarks

lemma ensures_constructorOf (s : Interner) (index : Index) (owner : ClassId)
    (node : Metadata.Constructor) :
    Ensures s (constructor index owner node) fun u x => ConstructorOf index u owner node x := by
  have hnamed := ensures_parametersNamed s index node.parameters
  have hresolved := ensures_parametersResolved s index node.parameters
  exact ⟨hnamed.1, fun u hu => ⟨hresolved.2 u hu, hnamed.2 u hu, rfl, rfl, rfl, rfl⟩⟩

abbrev MadeFrom (index : Index) (i : Interner) (node : TypeNode) (c : Symbol.Class) : Prop :=
  MembersRelated (FunctionOf index i node.shape c.id c.isCompanion) (ConstructorOf index i c.id)
    node c

section

variable {i : Interner} {node : TypeNode} {c : Symbol.Class}

lemma MembersRelated.members {inCompanion : Bool} (h : MadeFrom index i node c)
    (hc : c.isCompanion = inCompanion) :
    FunctionsFrom index i node.shape c (methodsOf node inCompanion) ∧
      ConstructorsFrom index i c (constructorsOf node inCompanion) := by
  subst hc
  exact ⟨h.functions, h.constructors⟩

lemma MembersRelated.statics (h : MadeFrom index i node c) (hc : c.isCompanion = true) :
    FunctionsFrom index i node.shape c (node.methods.filter (·.isStatic)) ∧
      ConstructorsFrom index i c (node.constructors.filter (·.isStatic)) := h.members hc

lemma MembersRelated.members_of_plain (h : MadeFrom index i node c) (hs : node.shape = .plain)
    (hc : c.isCompanion = false) :
    FunctionsFrom index i .plain c (node.methods.filter (!·.isStatic)) ∧
      ConstructorsFrom index i c (node.constructors.filter (!·.isStatic)) := by
  simpa [hs, methodsOf, constructorsOf] using h.members hc

lemma MembersRelated.members_of_fileClass (h : MadeFrom index i node c)
    (hs : node.shape = .fileClass) (hc : c.isCompanion = false) :
    FunctionsFrom index i .fileClass c node.methods ∧ c.constructors = [] := by
  simpa [hs, methodsOf, constructorsOf, ConstructorsFrom] using h.members hc

end

lemma ensures_primaryOf (s : Interner) (index : Index) (id : ClassId) (node : TypeNode) :
    Ensures s (primary index id node) fun u c =>
      MadeFrom index u node c ∧ c.isCompanion = false := by
  have hmembers : Ensures s (primary index id node) fun u c =>
      MembersRelated (FunctionOf index u node.shape id false) (ConstructorOf index u id) node c :=
    ensures_primaryMembers (fun hs t m => hs ▸ ensures_freeOf t index id m)
      (fun hs t m => ensures_memberOf hs rfl) fun t c => ensures_constructorOf t index id c
  refine ⟨hmembers.1, fun u hu => ⟨?_, primary_isCompanion id⟩⟩
  unfold MadeFrom
  rw [primary_id, primary_isCompanion]
  exact hmembers.2 u hu

lemma ensures_companionOf (s : Interner) (index : Index) (owner : ClassId) {node : TypeNode}
    (hs : node.shape ≠ .object) :
    Ensures s (companion index owner node) fun u c =>
      MadeFrom index u node c ∧ c.isCompanion := by
  have hmembers : Ensures s (companion index owner node) fun u c =>
      MembersRelated (FunctionOf index u node.shape c.id true) (ConstructorOf index u c.id)
        node c :=
    ensures_companionMembers (fun _ t m => ensures_memberOf hs rfl)
      fun id t c => ensures_constructorOf t index id c
  exact ⟨hmembers.1, fun u hu => ⟨hmembers.2 u hu, rfl⟩⟩

lemma ensures_build {s : Interner} {node : TypeNode} {P : Interner → List Symbol.Class → Prop}
    (h : ∀ t id, Ensures t (symbols index id node) P) :
    Ensures s (build index node) fun u b => P u b.symbols := by
  have hid : Ensures s node.classId fun _ _ => True :=
    ⟨(node.replays_classId s).later, fun _ _ => trivial⟩
  exact hid.bind fun t id _ _ => (h t id).bind fun v cs _ hcs => .pure hcs

lemma ensures_object (s : Interner) (index : Index) {node : TypeNode} (hs : node.shape = .object) :
    Ensures s (build index node) fun u b => ∃ self, b.symbols = [self] ∧
      self.isCompanion = false ∧ MadeFrom index u node self := by
  have hc : node.shape.hasCompanion = false := by simp [Shape.hasCompanion, hs]
  refine ensures_build (P := fun u cs => ∃ self, cs = [self] ∧ self.isCompanion = false ∧
    MadeFrom index u node self) fun t id => ?_
  simp only [symbols, hc]
  refine (ensures_primaryOf t index id node).bind fun v self _ hself => .pure fun u hu => ?_
  exact ⟨self, rfl, (hself u hu).2, (hself u hu).1⟩

lemma ensures_pair (s : Interner) (index : Index) {node : TypeNode} (hs : node.shape ≠ .object) :
    Ensures s (build index node) fun u b => ∃ self other, b.symbols = [self, other] ∧
      self.isCompanion = false ∧ other.isCompanion ∧ self.companion = some other.id ∧
      MadeFrom index u node self ∧ MadeFrom index u node other := by
  have hc : node.shape.hasCompanion = true := by simpa [Shape.hasCompanion] using hs
  refine ensures_build (P := fun u cs => ∃ self other, cs = [self, other] ∧
    self.isCompanion = false ∧ other.isCompanion ∧ self.companion = some other.id ∧
    MadeFrom index u node self ∧ MadeFrom index u node other) fun t id => ?_
  simp only [symbols, hc]
  refine (ensures_primaryOf t index id node).bind fun v self _ hself => ?_
  refine (ensures_companionOf v index id hs).bind fun w other hw hother => .pure fun u hu => ?_
  -- the names read for the companion come after those of the class and leave them as they are
  obtain ⟨hmade, hprimary⟩ := hself u (hw.trans hu)
  obtain ⟨hmade', hcompanion⟩ := hother u hu
  refine ⟨{ self with companion := some other.id }, other, rfl, hprimary, hcompanion, rfl, ?_,
    hmade'⟩
  exact ⟨hmade.functions, hmade.constructors⟩

end

theorem members_kept (i : Interner) (index : Index) (node : TypeNode) :
    let symbols := ((build index node).eval i).symbols
    let final := ((build index node).run i).2
    (node.shape = .plain → ∃ self other, symbols = [self, other] ∧
      self.isCompanion = false ∧ other.isCompanion = true ∧ self.companion = some other.id ∧
      FunctionsFrom index final .plain self (node.methods.filter (!·.isStatic)) ∧
      ConstructorsFrom index final self (node.constructors.filter (!·.isStatic)) ∧
      FunctionsFrom index final .plain other (node.methods.filter (·.isStatic)) ∧
      ConstructorsFrom index final other (node.constructors.filter (·.isStatic)) ∧
      (∃ ms, ms.Perm node.methods ∧
        List.Forall₂ (FunctionResolved index final) ms (self.functions ++ other.functions)) ∧
      ∃ cs, cs.Perm node.constructors ∧
        List.Forall₂ (fun c x => ParametersResolved index final c.parameters x.parameters) cs
          (self.constructors ++ other.constructors)) ∧
    (node.shape = .fileClass → ∃ self other, symbols = [self, other] ∧
      self.isCompanion = false ∧ other.isCompanion = true ∧ self.companion = some other.id ∧
      FunctionsFrom index final .fileClass self node.methods ∧
      FunctionsFrom index final .fileClass other (node.methods.filter (·.isStatic))) ∧
    (node.shape = .object → ∃ self, symbols = [self] ∧ self.isCompanion = false ∧
      FunctionsFrom index final .object self (node.methods.filter (·.isStatic))) := by
  intro symbols final
  refine ⟨fun hs => ?_, fun hs => ?_, fun hs => ?_⟩
  · obtain ⟨self, other, hsymbols, hself, hother, hpaired, hmade, hmade'⟩ :=
      (ensures_pair i index (by simp [hs])).2 final .refl
    obtain ⟨hfunctions, hconstructors⟩ := hmade.members_of_plain hs hself
    obtain ⟨hstatics, hinitializers⟩ := hmade'.statics hother
    rw [hs] at hstatics
    refine ⟨self, other, hsymbols, hself, hother, hpaired, hfunctions, hconstructors, hstatics,
      hinitializers, ⟨_, filter_not_append_perm (·.isStatic) node.methods, ?_⟩,
      ⟨_, filter_not_append_perm (·.isStatic) node.constructors, ?_⟩⟩
    · exact List.rel_append (hfunctions.imp fun _ _ h => h.signature)
        (hstatics.imp fun _ _ h => h.signature)
    · exact List.rel_append (hconstructors.imp fun _ _ h => h.parameters)
        (hinitializers.imp fun _ _ h => h.parameters)
  · obtain ⟨self, other, hsymbols, hself, hother, hpaired, hmade, hmade'⟩ :=
      (ensures_pair i index (by simp [hs])).2 final .refl
    obtain ⟨hfunctions, -⟩ := hmade.members_of_fileClass hs hself
    obtain ⟨hstatics, -⟩ := hmade'.statics hother
    rw [hs] at hstatics
    exact ⟨self, other, hsymbols, hself, hother, hpaired, hfunctions, hstatics⟩
  · obtain ⟨self, hsymbols, hself, hmade⟩ := (ensures_object i index hs).2 final .refl
    obtain ⟨hfunctions, -⟩ := hmade.members hself
    simp only [hs, methodsOf] at hfunctions
    exact ⟨self, hsymbols, hself, hfunctions⟩

def mixedType : TypeNode where
  scope := some "demo"
  name := "Widget"
  attributes := []
  methods := [⟨"draw", none, [⟨some "at", some "System.Int32"⟩], false⟩, ⟨"draw", none, [], true⟩,
    ⟨"hide", some "System.Void", [], false⟩]
  constructors := [⟨[], true⟩, ⟨[⟨none, none⟩], false⟩]

theorem members_kept_mixedType :
    mixedType.shape = .plain ∧ ∃ self other,
      ((build .empty mixedType).eval .new).symbols = [self, other] ∧
      self.functions.length = 2 ∧ other.functions.length = 1 ∧
      self.constructors.length = 1 ∧ other.constructors.length = 1 := by
  have hs : mixedType.shape = .plain := by decide
  obtain ⟨self, other, hsymbols, -, -, -, hfunctions, hconstructors, hstatics, hinitializers, -⟩ :=
    (members_kept .new .empty mixedType).1 hs
  exact ⟨hs, self, other, hsymbols, hfunctions.length_eq.symm, hstatics.length_eq.symm,
    hconstructors.length_eq.symm, hinitializers.length_eq.symm⟩

/-- In a file class only the static constructors survive, those of the companion. -/
theorem constructors_kept_iff (i : Interner) (index : Index) {node : TypeNode}
    (hs : node.shape ≠ .object) :
    let final := ((build index node).run i).2
    ∃ self other, ((build index node).eval i).symbols = [self, other] ∧
      self.isCompanion = false ∧ other.isCompanion = true ∧
      ConstructorsFrom index final other (node.constructors.filter (·.isStatic)) ∧
      (ConstructorsFrom index final self (node.constructors.filter (!·.isStatic)) ↔
        (node.shape = .fileClass → ∀ c ∈ node.constructors, c.isStatic)) ∧
      (node.shape = .fileClass → self.constructors = []) := by
  intro final
  obtain ⟨self, other, hsymbols, hself, hother, -, hmade, hmade'⟩ :=
    (ensures_pair i index hs).2 final .refl
  refine ⟨self, other, hsymbols, hself, hother, (hmade'.statics hother).2, ?_⟩
  cases hshape : node.shape with
  | object => exact absurd hshape hs
  | plain =>
    have hconstructors := (hmade.members_of_plain hshape hself).2
    exact ⟨⟨fun _ h => absurd h (by decide), fun _ => hconstructors⟩, fun h => absurd h (by decide)⟩
  | fileClass =>
    have hnone : self.constructors = [] := (hmade.members_of_fileClass hshape hself).2
    refine ⟨?_, fun _ => hnone⟩
    simp [ConstructorsFrom, hnone]

def fileWithConstructors : TypeNode :=
  ⟨some "demo", "MainKt", [fileClassAttribute], [], [⟨[⟨some "size", none⟩], false⟩, ⟨[], true⟩]⟩

theorem constructors_kept_iff_fileWithConstructors :
    fileWithConstructors.shape ≠ .object ∧ ∃ self other,
      ((build .empty fileWithConstructors).eval .new).symbols = [self, other] ∧
      self.constructors = [] ∧ other.constructors.length = 1 := by
  have hs : fileWithConstructors.shape ≠ .object := by decide
  obtain ⟨self, other, hsymbols, -, -, hstatics, -, hnone⟩ := constructors_kept_iff .new .empty hs
  exact ⟨hs, self, other, hsymbols, hnone (by decide), hstatics.length_eq.symm⟩

theorem fileClass_constructor_lost :
    let final := ((build .empty fileWithConstructors).run .new).2
    fileWithConstructors.shape = .fileClass ∧ ∃ self other,
      ((build .empty fileWithConstructors).eval .new).symbols = [self, other] ∧
      ¬ ConstructorsFrom .empty final self
        (fileWithConstructors.constructors.filter (!·.isStatic)) := by
  intro final
  have hs : fileWithConstructors.shape = .fileClass := by decide
  obtain ⟨self, other, hsymbols, hself, -, -, hmade, -⟩ :=
    (ensures_pair .new .empty (by simp [hs])).2 final .refl
  have hnone : self.constructors = [] := (hmade.members_of_fileClass hs hself).2
  refine ⟨hs, self, other, hsymbols, fun h => ?_⟩
  have hlength := h.length_eq
  rw [hnone] at hlength
  exact absurd hlength (by decide)

def givenName? (p : Metadata.Parameter) : Option String := p.name.filter (· ≠ "")

def givenNames (given : List Metadata.Parameter) : List String := given.filterMap givenName?

lemma parameterName_eq (position : Nat) (p : Metadata.Parameter) :
    parameterName position p.name = (givenName? p).getD ("p" ++ toString position) := by
  obtain ⟨name, type⟩ := p
  cases name with
  | none => rfl
  | some text =>
    by_cases h : text = ""
    · subst h
      rfl
    · simp [parameterName, givenName?, Option.filter, h]

lemma nodup_names_iff {i : Interner} {texts : List String} {names : List Name}
    (h : List.Forall₂ (fun t n => i.get? t = some n) texts names) : names.Nodup ↔ texts.Nodup := by
  have hmap : texts.map i.get? = names.map some := by
    induction h with
    | nil => rfl
    | cons ht _ ih => rw [List.map_cons, List.map_cons, ht, ih]
  have hinj : ∀ s ∈ texts, ∀ t ∈ texts, i.get? s = i.get? t → s = t := by
    intro s hs t _ he
    obtain ⟨n, -, hn⟩ : ∃ n ∈ names, some n = i.get? s := by
      rw [← List.mem_map, ← hmap]
      exact List.mem_map_of_mem hs
    exact (eq_iff_of_get? hn.symm (he ▸ hn.symm)).mp rfl
  have hsome : (names.map some).Nodup ↔ names.Nodup := by simp [List.Nodup, List.pairwise_map]
  rw [← hsome, ← hmap]
  exact ⟨List.Nodup.of_map _, fun ht => (List.nodup_map_iff_inj_on ht).mpr hinj⟩

/-- No given name is the one that a parameter without a name gets for its position. -/
def PositionsFree (given : List Metadata.Parameter) : Prop :=
  ∀ g ∈ given.zipIdx, givenName? g.1 = none → "p" ++ toString g.2 ∉ givenNames given

instance (given : List Metadata.Parameter) : Decidable (PositionsFree given) :=
  inferInstanceAs (Decidable (∀ g ∈ _, _ → _))

lemma position_injective {j k : Nat} (h : "p" ++ toString j = "p" ++ toString k) : j = k := by
  have hrepr : j.repr = k.repr := (String.append_right_inj "p").mp h
  have hdigits : Nat.toDigits 10 j = Nat.toDigits 10 k := by
    rw [← Nat.toList_repr, hrepr, Nat.toList_repr]
  rw [← Nat.ofDigitChars_ten_toDigits (n := j), hdigits, Nat.ofDigitChars_ten_toDigits]

lemma nodup_parameterNames_iff {given : List Metadata.Parameter} (h : (givenNames given).Nodup) :
    (given.zipIdx.map fun g => parameterName g.2 g.1.name).Nodup ↔ PositionsFree given := by
  have hfst : given.zipIdx.map Prod.fst = given := List.zipIdx_map_fst 0 given
  constructor
  · intro hnodup g hg hnone hin
    obtain ⟨p, hp, hname⟩ := List.mem_filterMap.mp hin
    obtain ⟨other, hother, rfl⟩ : ∃ other ∈ given.zipIdx, other.1 = p := by
      rw [← List.mem_map, hfst]
      exact hp
    have hsame : other = g := by
      refine List.inj_on_of_nodup_map hnodup hother hg ?_
      simp only [parameterName_eq, hname, hnone, Option.getD_some, Option.getD_none]
    rw [hsame, hnone] at hname
    cases hname
  · intro hfree
    have hgiven : given.zipIdx.Pairwise fun a b =>
        ∀ s, givenName? a.1 = some s → ∀ t, givenName? b.1 = some t → s ≠ t := by
      have hpairs := List.pairwise_filterMap.mp h
      rw [← hfst] at hpairs
      exact List.pairwise_map.mp hpairs
    have hpositions : given.zipIdx.Pairwise fun a b => a.2 < b.2 := by
      apply List.pairwise_map.mp
      rw [List.zipIdx_map_snd]
      exact List.pairwise_lt_range'
    apply List.pairwise_map.mpr
    refine List.Pairwise.imp_of_mem ?_ (hgiven.and hpositions)
    rintro a b ha hb ⟨hnames, hlt⟩
    have hmem {g : Metadata.Parameter × Nat} {s : String} (hg : g ∈ given.zipIdx)
        (hs : givenName? g.1 = some s) : s ∈ givenNames given :=
      List.mem_filterMap.mpr ⟨g.1, hfst ▸ List.mem_map_of_mem hg, hs⟩
    rw [parameterName_eq, parameterName_eq]
    -- two given names differ by hypothesis, two positions because one comes first; what is left is
    -- a given name against a position
    cases hl : givenName? a.1 with
    | none =>
      cases hr : givenName? b.1 with
      | none => exact fun he => Nat.ne_of_lt hlt (position_injective he)
      | some t =>
        intro he
        have hsame : "p" ++ toString a.2 = t := he
        exact hfree a ha hl (hsame ▸ hmem hb hr)
    | some s =>
      cases hr : givenName? b.1 with
      | none =>
        intro he
        have hsame : s = "p" ++ toString b.2 := he
        exact hfree b hb hr (hsame ▸ hmem ha hl)
      | some t => exact hnames s hl t hr

lemma nodup_parameters_iff (i : Interner) (index : Index) {given : List Metadata.Parameter}
    (h : (givenNames given).Nodup) :
    (((parameters index given).eval i).map (·.name)).Nodup ↔ PositionsFree given := by
  have hnamed := (ensures_parametersNamed i index given).2 _ .refl
  rw [← nodup_parameterNames_iff h]
  refine nodup_names_iff (i := ((parameters index given).run i).2) ?_
  rw [List.forall₂_map_left_iff, List.forall₂_map_right_iff]
  exact hnamed

theorem parameterNames_distinct_iff (i : Interner) (index : Index)
    {given : List Metadata.Parameter} (h : (givenNames given).Nodup) :
    ((((parameters index given).eval i).map (·.name)).Nodup ↔ PositionsFree given) ∧
      (∀ id owner annotations, ∀ m : Method, m.parameters = given →
        ((((function index id owner annotations m).eval i).parameters.map (·.name)).Nodup ↔
          PositionsFree given)) ∧
      ∀ owner, ∀ c : Metadata.Constructor, c.parameters = given →
        ((((constructor index owner c).eval i).parameters.map (·.name)).Nodup ↔
          PositionsFree given) := by
  refine ⟨nodup_parameters_iff i index h, fun id owner annotations m hm => ?_, fun owner c hc => ?_⟩
  · subst hm
    exact nodup_parameters_iff ((typeOf index m.returnType).run i).2 index h
  · subst hc
    exact nodup_parameters_iff i index h

def secondUnnamed : List Metadata.Parameter := [⟨some "p1", none⟩, ⟨none, none⟩]

theorem parameterNames_clash :
    (givenNames secondUnnamed).Nodup ∧
      ¬ (((parameters .empty secondUnnamed).eval .new).map (·.name)).Nodup := by
  decide +kernel

def swappedPositions : List Metadata.Parameter :=
  [⟨some "p1", none⟩, ⟨some "p0", none⟩, ⟨some "", none⟩, ⟨none, none⟩]

theorem parameterNames_distinct_iff_swappedPositions :
    (givenNames swappedPositions).Nodup ∧
      (((parameters .empty swappedPositions).eval .new).map (·.name)).Nodup := by
  have h : (givenNames swappedPositions).Nodup := by decide +kernel
  exact ⟨h, (parameterNames_distinct_iff .new .empty h).1.mpr (by decide +kernel)⟩

end ClrCompiler.Library
