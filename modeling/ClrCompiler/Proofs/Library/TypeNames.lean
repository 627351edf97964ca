import ClrCompiler.Proofs.Library.Listing
import ClrCompiler.Proofs.Library.Signatures
import ClrCompiler.Proofs.Text.Split

/-! Names and the types they reach. A name with a namespace is cut into parts, and its namespace is
put together again to the text the type was declared with. A bare name stands for the first type
that published it, where a type publishes the short name of its companion too. -/

namespace ClrCompiler

open Interner Naming Metadata

namespace Resolution

structure IsPart (text : String) : Prop where
  nonempty : text ≠ ""
  undotted : '.' ∉ text.toList
  unplussed : '+' ∉ text.toList

instance (text : String) : Decidable (IsPart text) :=
  decidable_of_iff (text ≠ "" ∧ '.' ∉ text.toList ∧ '+' ∉ text.toList)
    ⟨fun ⟨h, hd, hp⟩ => ⟨h, hd, hp⟩, fun ⟨h, hd, hp⟩ => ⟨h, hd, hp⟩⟩

lemma isSeparator_eq_false {text : String} (hd : '.' ∉ text.toList) (hp : '+' ∉ text.toList) :
    ∀ c ∈ text.toList, isSeparator c = false := by
  intro c hc
  have hdot : c ≠ '.' := fun he => hd (he ▸ hc)
  have hplus : c ≠ '+' := fun he => hp (he ▸ hc)
  simp [isSeparator, hdot, hplus]

lemma parts?_join {parts : List String} (hne : parts ≠ []) (h : ∀ part ∈ parts, IsPart part) :
    parts? (String.intercalate "." parts) = some parts := by
  have hsplit : Text.splitBy isSeparator (String.intercalate "." parts).toList =
      parts.map String.toList := by
    rw [String.toList_intercalate]
    refine Text.splitBy_intercalate (by decide) (by simpa using hne) fun part hpart => ?_
    obtain ⟨text, htext, rfl⟩ := List.mem_map.mp hpart
    exact isSeparator_eq_false (h text htext).undotted (h text htext).unplussed
  have hempty : (parts.map String.toList).any List.isEmpty = false := by
    simpa using fun part hpart => (h part hpart).nonempty
  have hback : (parts.map String.toList).map String.ofList = parts := by
    simp [Function.comp_def]
  rw [parts?, hsplit, hempty, hback]
  rfl

lemma lookup_wellKnown_of_undotted {text : String} (h : '.' ∉ text.toList) :
    wellKnown.lookup text = none := by
  have hdotted : ∀ entry ∈ wellKnown, '.' ∈ entry.1.toList := by decide
  refine List.lookup_eq_none_iff.mpr fun entry hentry => ?_
  simpa using fun he : text = entry.1 => h (he ▸ hdotted entry hentry)

section

variable {index : Index} {typeName last : String} {scope : List String} {i : Interner}

lemma eval_resolve (hknown : wellKnown.lookup typeName = none)
    (hparts : parts? typeName = some (scope ++ [last])) (isResult : Bool) :
    (resolve index typeName isResult).eval i =
      typeOf ((classOf index scope last).eval i) false isResult := by
  simp only [resolve, hknown, hparts, List.dropLast_concat, List.getLastD_concat]
  rfl

lemma resolve_empty (index : Index) (isResult : Bool) :
    resolve index "" isResult = pure .anyOrNull := by
  have hknown : wellKnown.lookup "" = none := lookup_wellKnown_of_undotted (by decide)
  have hparts : parts? "" = none := by decide
  simp only [resolve, hknown, hparts]

lemma eval_classOf_scoped {package : Package} {name : Name} (hne : scope ≠ [])
    (hscope : i.get? (String.intercalate "." scope) = some package.name)
    (hlast : i.get? last = some name) :
    (classOf index scope last).eval i = .topLevel package name := by
  have hbare : scope.isEmpty = false := by simpa using hne
  have hrest : (Package.ofSegments scope).eval (i.intern last).2 = package := by
    rw [intern_of_get? hlast]
    change Package.mk (i.intern (String.intercalate "." scope)).1 = package
    rw [intern_of_get? hscope]
  have hname : (i.intern last).1 = name := by rw [intern_of_get? hlast]
  simp only [classOf, hbare, Bool.false_and]
  change ClassId.topLevel ((Package.ofSegments scope).eval (i.intern last).2) (i.intern last).1 = _
  rw [hrest, hname]

lemma eval_classOf_bare (h : index.hasTopLevelClass .root (i.intern last).1 = true) :
    (classOf index [] last).eval i =
      .topLevel ((index.packageOfShortName (i.intern last).1).getD .root) (i.intern last).1 := by
  have hrun : (classOf index [] last).eval i =
      (if index.hasTopLevelClass .root (i.intern last).1 = true then
        (return .topLevel ((index.packageOfShortName (i.intern last).1).getD .root)
          (i.intern last).1 : Naming ClassId)
      else do
        return .topLevel (← Package.ofSegments []) (i.intern last).1).eval (i.intern last).2 := rfl
  rw [hrun, if_pos h]
  rfl

lemma parts?_bare {text : String} (h : IsPart text) : parts? text = some ([] ++ [text]) :=
  parts?_join (List.cons_ne_nil text []) (by simpa using h)

lemma eval_resolve_bare {text : String} (htext : IsPart text)
    (h : index.hasTopLevelClass .root (i.intern text).1 = true) (isResult : Bool) :
    (resolve index text isResult).eval i =
      typeOf (.topLevel ((index.packageOfShortName (i.intern text).1).getD .root)
        (i.intern text).1) false isResult := by
  rw [eval_resolve (lookup_wellKnown_of_undotted htext.undotted) (parts?_bare htext),
    eval_classOf_bare h]

end

lemma typeOf_classId (id : ClassId) (isValue isResult : Bool) :
    (typeOf id isValue isResult).classId = id := by
  rw [typeOf]
  split <;> rfl

lemma typeOf_nullable (id : ClassId) (isResult : Bool) :
    (typeOf id false isResult).nullable = true ↔ ¬(isResult = true ∧ id = Standard.unit) := by
  rw [typeOf]
  split <;> rename_i hunit
  · have hboth : isResult = true ∧ id = Standard.unit := by simpa using hunit
    simp [TypeRef.nonNull, hboth]
  · have hnot : ¬(isResult = true ∧ id = Standard.unit) := by simpa using hunit
    simp only [TypeRef.orNull, hnot, not_false_iff]

end Resolution

def Metadata.TypeNode.publishes (node : TypeNode) (short : String) : Bool :=
  node.name == short || node.shape.hasCompanion && short == "Companion"

namespace Library

abbrev declaredIndex (i : Interner) (nodes : List TypeNode) : Index :=
  .ofHistory (nodes.map fun node => (declaration node).eval i)

section

variable {i : Interner} {node : TypeNode} {nodes : List TypeNode}

lemma eval_declaration_classes (i : Interner) (node : TypeNode) :
    ((declaration node).eval i).classes = idOf i node ::
      if node.shape.hasCompanion then
        [((idOf i node).nested .companion).eval (node.classId.run i).2] else [] := by
  simp only [declaration]
  cases node.shape.hasCompanion <;> rfl

lemma hasTopLevelClass_declaredIndex (hi : i.Reachable) (package : Package) (name : Name) :
    (declaredIndex i nodes).hasTopLevelClass package name = true ↔
      ∃ node ∈ nodes, idOf i node = .topLevel package name := by
  rw [Index.hasTopLevelClass, decide_eq_true_iff, declaredIndex, Index.ofHistory,
    mem_foldl Index.classNames (Index.mem_classNames_record package name)]
  simp only [Index.empty, List.not_mem_nil, false_or, List.mem_map, exists_exists_and_eq_and]
  refine exists_congr fun node => and_congr_right fun _ => ?_
  constructor
  · intro hmem
    rcases mem_declaration_classes hi hmem with hid | ⟨-, hnested⟩
    · exact hid.symm
    · rw [ClassId.topLevel_isNested] at hnested
      cases hnested
  · intro hid
    rw [eval_declaration_classes, hid]
    exact List.mem_cons_self

lemma find?_declaration (hi : i.Reachable) (hs : Settled i node.classId) {short : String}
    {name : Name} (hname : i.get? short = some name) :
    (((declaration node).eval i).classes.find? (·.short == name)).map (·.package) =
      if node.publishes short then some (idOf i node).package else none := by
  have hself : (idOf i node).short = name ↔ node.name = short :=
    eq_iff_of_get? (idOf_shows hs).relative hname
  have hcompanion : Name.companion = name ↔ "Companion" = short :=
    eq_iff_of_get? (hi.get?_known rfl) hname
  rw [eval_declaration_classes, TypeNode.publishes]
  by_cases hown : node.name = short
  · simp [hown, hself.mpr hown]
  · have hother : ((idOf i node).short == name) = false := by simpa using mt hself.mp hown
    cases hc : node.shape.hasCompanion with
    | false => simp [hown, hother]
    | true =>
      rw [if_pos rfl, List.find?_cons, hother]
      by_cases hshort : "Companion" = short
      · simp [← hshort, ClassId.eval_nested, hcompanion.mpr hshort]
      · simp [hown, Ne.symm hshort, ClassId.eval_nested, mt hcompanion.mp hshort]

lemma packageOfShortName_declaredIndex (hi : i.Reachable)
    (hs : ∀ node ∈ nodes, Settled i node.classId) {short : String} {name : Name}
    (hname : i.get? short = some name) :
    (declaredIndex i nodes).packageOfShortName name =
      (nodes.find? (·.publishes short)).map fun node => (idOf i node).package := by
  rw [declaredIndex, Index.ofHistory, Index.packageOfShortName_foldl]
  change Option.or none _ = _
  rw [Option.none_or]
  induction nodes with
  | nil => rfl
  | cons node nodes ih =>
    obtain ⟨hnode, hnodes⟩ := List.forall_mem_cons.mp hs
    rw [List.map_cons, List.flatMap_cons, List.find?_append, Option.map_or, ih hnodes,
      find?_declaration hi hnode hname, List.find?_cons]
    cases node.publishes short <;> rfl

lemma idOf_of_get? {package : Package} {name : Name}
    (hpackage : i.get? node.scopeText = some package.name) (hname : i.get? node.name = some name) :
    idOf i node = .topLevel package name := by
  change ClassId.topLevel ⟨(i.intern node.scopeText).1⟩
    ((i.intern node.scopeText).2.intern node.name).1 = _
  rw [intern_of_get? hpackage, intern_of_get? hname]

lemma idOf_root (hi : i.Reachable) (hs : Settled i node.classId) (hroot : node.scopeText = "") :
    idOf i node = .topLevel .root (idOf i node).short :=
  idOf_of_get? (hroot ▸ hi.empty) (idOf_shows hs).relative

lemma eval_resolve_published (hi : i.Reachable) (hs : ∀ node ∈ nodes, Settled i node.classId)
    {text : String} {name : Name} (htext : Resolution.IsPart text) (hname : i.get? text = some name)
    (hroot : (declaredIndex i nodes).hasTopLevelClass .root name = true) {first : TypeNode}
    (hfirst : nodes.find? (·.publishes text) = some first) (isResult : Bool) :
    (Resolution.resolve (declaredIndex i nodes) text isResult).eval i =
      Resolution.typeOf (.topLevel (idOf i first).package name) false isResult := by
  have hintern : (i.intern text).1 = name := by rw [intern_of_get? hname]
  rw [← hintern] at hroot
  rw [Resolution.eval_resolve_bare htext hroot, hintern,
    packageOfShortName_declaredIndex hi hs hname, hfirst]
  rfl

/-- The namespace of a type consists of these segments, so that its full name can be cut into them
and the type's own name, and the full name has no fixed meaning. -/
structure FullyNamed (node : TypeNode) (segments : List String) : Prop where
  nonempty : segments ≠ []
  parts : ∀ segment ∈ segments, Resolution.IsPart segment
  scopeText : node.scopeText = String.intercalate "." segments
  name : Resolution.IsPart node.name
  notWellKnown : node.scopeText ++ "." ++ node.name ∉ Resolution.wellKnown.map Prod.fst

lemma FullyNamed.parts? {segments : List String} (h : FullyNamed node segments) :
    Resolution.parts? (node.scopeText ++ "." ++ node.name) = some (segments ++ [node.name]) := by
  have hjoin : node.scopeText ++ "." ++ node.name =
      String.intercalate "." (segments ++ [node.name]) := by
    rw [String.intercalate_append_of_ne_nil h.nonempty (List.cons_ne_nil _ _), ← h.scopeText,
      String.intercalate_singleton]
  rw [hjoin]
  refine Resolution.parts?_join (by simp) fun part hpart => ?_
  rcases List.mem_append.mp hpart with hpart | hpart
  · exact h.parts part hpart
  · exact List.mem_singleton.mp hpart ▸ h.name

lemma FullyNamed.eval_resolve {segments : List String} (h : FullyNamed node segments)
    (hs : Settled i node.classId) (index : Index) (isResult : Bool) :
    (Resolution.resolve index (node.scopeText ++ "." ++ node.name) isResult).eval i =
      Resolution.typeOf (idOf i node) false isResult := by
  have hlookup : Resolution.wellKnown.lookup (node.scopeText ++ "." ++ node.name) = none := by
    refine List.lookup_eq_none_iff.mpr fun entry hentry => ?_
    simpa using fun he => h.notWellKnown (List.mem_map.mpr ⟨entry, hentry, he.symm⟩)
  obtain ⟨hpackage, hrelative⟩ := idOf_shows hs
  -- the segments are joined to the very text that was stored for the namespace
  rw [h.scopeText] at hpackage
  rw [Resolution.eval_resolve hlookup h.parts?,
    Resolution.eval_classOf_scoped h.nonempty hpackage hrelative]
  rfl

/-- The texts that name a type: its full name, and for a type of the root its bare name, unless a
type of another namespace has published that name before. -/
inductive Names (nodes : List TypeNode) : String → TypeNode → Prop
  | full {node : TypeNode} {segments : List String} (hnode : node ∈ nodes)
      (hnamed : FullyNamed node segments) : Names nodes (node.scopeText ++ "." ++ node.name) node
  | bare {before after : List TypeNode} {node : TypeNode} (hnodes : nodes = before ++ node :: after)
      (hroot : node.scopeText = "") (hname : Resolution.IsPart node.name)
      (hfirst : ∀ other ∈ before, other.publishes node.name = true → other.scopeText = "") :
      Names nodes node.name node

lemma Names.mem {text : String} (h : Names nodes text node) : node ∈ nodes := by
  cases h with
  | full hnode => exact hnode
  | bare hnodes => simp [hnodes]

lemma Names.eval_resolve {text : String} (h : Names nodes text node) (hi : i.Reachable)
    (hs : ∀ node ∈ nodes, Settled i node.classId) (isResult : Bool) :
    (Resolution.resolve (declaredIndex i nodes) text isResult).eval i =
      Resolution.typeOf (idOf i node) false isResult := by
  have hmem := h.mem
  cases h with
  | full _ hnamed => exact hnamed.eval_resolve (hs node hmem) _ isResult
  | @bare before after _ hnodes hroot hname hfirst =>
    have hid := idOf_root hi (hs node hmem) hroot
    have hdeclared : (declaredIndex i nodes).hasTopLevelClass .root (idOf i node).short = true :=
      (hasTopLevelClass_declaredIndex hi _ _).mpr ⟨node, hmem, hid⟩
    -- the first type of the name is `node` or stands before it, so it is in the root as well
    obtain ⟨first, hfind, hscope⟩ : ∃ first, nodes.find? (·.publishes node.name) = some first ∧
        first.scopeText = "" := by
      rw [hnodes, List.find?_append]
      cases hbefore : before.find? (·.publishes node.name) with
      | some other =>
        have hpublishes : other.publishes node.name = true := by
          simpa using List.find?_some hbefore
        exact ⟨other, rfl, hfirst other (List.mem_of_find?_eq_some hbefore) hpublishes⟩
      | none => exact ⟨node, by simp [TypeNode.publishes], hroot⟩
    have hidFirst := idOf_root hi (hs first (List.mem_of_find?_eq_some hfind)) hscope
    have hget := (idOf_shows (hs node hmem)).relative
    rw [eval_resolve_published hi hs hname hget hdeclared hfind, hidFirst, hid]
    rfl

end

lemma resolve_ofAssemblies {names : Interner} (hn : names.Reachable)
    (assemblies : List (String × Assembly)) (implicitPackages : List String) {later : Interner}
    (hl : Later ((ofAssemblies assemblies implicitPackages).run names).2 later) :
    Resolution.resolve ((ofAssemblies assemblies implicitPackages).eval names).registry.index =
      Resolution.resolve (declaredIndex later (nodes assemblies)) := by
  have h := ofAssemblies_assembled hn assemblies implicitPackages
  have hfinal := later_declareAll hn assemblies implicitPackages
  rw [Resolution.resolve_congr h.sameClasses, ← declareAll_index hn _ hfinal,
    declareAll_index hn _ (hfinal.trans hl)]

lemma Assembled.classId_later {nodes : List TypeNode} {index : Index} {l : Library}
    {i later : Interner} (h : Assembled nodes index l i) (hl : Later i later) {node : TypeNode}
    (hn : node ∈ nodes) : Settled later node.classId ∧ idOf later node = idOf i node := by
  have hreplays := node.replays_classId i
  have hback : Later (node.classId.run i).2 later := by
    rwa [classId_settled h.reachable (h.built node hn)]
  exact ⟨hreplays.settled hback, hreplays.eval_eq hback⟩

lemma Assembled.classifier_isSome {nodes : List TypeNode} {index : Index} {l : Library}
    {i : Interner} (h : Assembled nodes index l i) {node : TypeNode} (hn : node ∈ nodes) :
    (l.registry.classifier (idOf i node)).isSome := by
  rw [idOf_eq_topLevel, h.classifier_topLevel_eq h.reachable.nodup, ← idOf_eq_topLevel]
  have hfound : (firstNode i nodes (idOf i node)).isSome :=
    List.find?_isSome.mpr ⟨node, hn, beq_self_eq_true _⟩
  obtain ⟨first, hfirst⟩ := Option.isSome_iff_exists.mp hfound
  rw [hfirst]
  exact builtSymbols_zero_isSome h.reachable (h.built first (List.mem_of_find?_eq_some hfirst))

theorem names_resolve {names : Interner} (hn : names.Reachable)
    (assemblies : List (String × Assembly)) (implicitPackages : List String) :
    let registry := ((ofAssemblies assemblies implicitPackages).eval names).registry
    let final := ((ofAssemblies assemblies implicitPackages).run names).2
    ∀ text node, Names (nodes assemblies) text node → ∀ later, Later final later →
      ∀ isResult : Bool,
        let type := (Resolution.resolve registry.index text isResult).eval later
        type.classId = node.classId.eval later ∧
          (registry.classifier type.classId).isSome ∧
          (type.nullable = true ↔ ¬(isResult = true ∧ type.classId = Standard.unit)) := by
  intro registry final text node hnames later hlater isResult type
  have h := ofAssemblies_assembled hn assemblies implicitPackages
  have hs : ∀ node ∈ nodes assemblies, Settled later node.classId :=
    fun node hnode => (h.classId_later hlater hnode).1
  have htype : type = Resolution.typeOf (idOf later node) false isResult := by
    change (Resolution.resolve registry.index text isResult).eval later = _
    rw [resolve_ofAssemblies hn assemblies implicitPackages hlater]
    exact hnames.eval_resolve (h.reachable.trans hlater) hs isResult
  have hid : type.classId = idOf later node := by
    rw [htype, Resolution.typeOf_classId]
  refine ⟨hid, ?_, ?_⟩
  · rw [hid, (h.classId_later hlater hnames.mem).2]
    exact h.classifier_isSome hnames.mem
  · rw [hid, htype]
    exact Resolution.typeOf_nullable _ isResult

def namedTypes : List TypeNode :=
  [⟨none, "A", [], [], []⟩, ⟨some "", "Companion", [objectAttribute], [], []⟩,
   ⟨some "kotlin", "Unit", [objectAttribute], [], []⟩]

theorem names_resolve_namedTypes :
    let assemblies := [("Demo", (⟨none, namedTypes⟩ : Assembly))]
    let registry := ((ofAssemblies assemblies []).eval .new).registry
    let final := ((ofAssemblies assemblies []).run .new).2
    let type text := (Resolution.resolve registry.index text true).eval final
    ∃ companion unit : TypeNode, Interner.new.Reachable ∧
      Names (nodes assemblies) "Companion" companion ∧
      Names (nodes assemblies) "kotlin.Unit" unit ∧
      (type "Companion").classId = companion.classId.eval final ∧
      (registry.classifier (type "Companion").classId).isSome ∧
      (type "kotlin.Unit").nullable = false := by
  intro assemblies registry final type
  let outer : TypeNode := ⟨none, "A", [], [], []⟩
  let companion : TypeNode := ⟨some "", "Companion", [objectAttribute], [], []⟩
  let unit : TypeNode := ⟨some "kotlin", "Unit", [objectAttribute], [], []⟩
  have hnodes : nodes assemblies = [outer] ++ companion :: [unit] :=
    nodes_eq_of_ascending (.refl _) (by decide)
  have hcompanion : Names (nodes assemblies) "Companion" companion :=
    .bare hnodes rfl (by decide) (by decide)
  have hnamed : FullyNamed unit ["kotlin"] := by
    constructor <;> decide
  have hunit : Names (nodes assemblies) "kotlin.Unit" unit :=
    .full (by simp [hnodes]) hnamed
  have hbare := names_resolve .refl assemblies [] _ _ hcompanion final .refl true
  have hfull := names_resolve .refl assemblies [] _ _ hunit final .refl true
  have hfinal : final.Reachable := (ofAssemblies_assembled .refl assemblies []).reachable
  have hid : unit.classId.eval final = Standard.unit :=
    idOf_of_get? (hfinal.get?_known rfl) (hfinal.get?_known rfl)
  refine ⟨companion, unit, .refl, hcompanion, hunit, hbare.1, hbare.2.1, ?_⟩
  simpa [hfull.1, hid] using hfull.2.2

def FirstDeclares (nodes : List TypeNode) (short : String) : Prop :=
  ∀ first, nodes.find? (·.publishes short) = some first →
    ∃ node ∈ nodes, node.scopeText = first.scopeText ∧ node.name = short

lemma firstDeclares_of_ne_companion (nodes : List TypeNode) {short : String}
    (h : short ≠ "Companion") : FirstDeclares nodes short := by
  intro first hfirst
  have hpublishes := List.find?_some hfirst
  have hname : first.name = short := by simpa [TypeNode.publishes, h] using hpublishes
  exact ⟨first, List.mem_of_find?_eq_some hfirst, rfl, hname⟩

theorem bareName_declared {names : Interner} (hn : names.Reachable) (nodes : List TypeNode) :
    let index := ((declareAll nodes).eval names).index
    ∀ later, Later ((declareAll nodes).run names).2 later → ∀ text : String,
      '.' ∉ text.toList → '+' ∉ text.toList →
      let name := (later.intern text).1
      index.hasTopLevelClass .root name = true → ∀ isResult,
        let type := (Resolution.resolve index text isResult).eval later
        (text = "" → type = .anyOrNull) ∧
          (text ≠ "" → (text = "Companion" → FirstDeclares nodes text) →
            index.hasTopLevelClass type.classId.package name = true ∧
              type.classId = .topLevel type.classId.package name) := by
  intro index later hlater text hdot hplus name hroot isResult type
  have hdeclare : Replays names (declareAll nodes) := replays_declareFrom hn .empty nodes
  have hi : later.Reachable := (hn.trans hdeclare.later).trans hlater
  have hs : ∀ node ∈ nodes, Settled later node.classId :=
    classId_settled_of_declareFrom hi (hdeclare.settled hlater)
  have hindex : index = declaredIndex later nodes := declareAll_index hn nodes hlater
  refine ⟨?_, fun hne hcompanion => ?_⟩
  · rintro rfl
    exact congrArg (·.eval later) (Resolution.resolve_empty index isResult)
  · have hfirst : FirstDeclares nodes text := by
      by_cases ht : text = "Companion"
      · exact hcompanion ht
      · exact firstDeclares_of_ne_companion nodes ht
    rw [hindex] at hroot
    obtain ⟨root, hmem, hid⟩ := (hasTopLevelClass_declaredIndex hi .root name).mp hroot
    have hget : later.get? root.name = some name := by
      have hrelative := (idOf_shows (hs root hmem)).relative
      rwa [hid] at hrelative
    -- a declared name is stored, so no other text has its number
    obtain rfl : text = root.name := (intern_eq_iff_of_get? hget).mp rfl
    have hfound : (nodes.find? (·.publishes root.name)).isSome :=
      List.find?_isSome.mpr ⟨root, hmem, by simp [TypeNode.publishes]⟩
    obtain ⟨first, hfind⟩ := Option.isSome_iff_exists.mp hfound
    obtain ⟨node, hnode, hscope, hname⟩ := hfirst first hfind
    have htype : type = _ :=
      hindex ▸ eval_resolve_published hi hs ⟨hne, hdot, hplus⟩ hget hroot hfind isResult
    have hclass : type.classId = .topLevel (idOf later first).package name := by
      rw [htype, Resolution.typeOf_classId]
    rw [hclass]
    refine ⟨?_, rfl⟩
    rw [hindex]
    refine (hasTopLevelClass_declaredIndex hi _ _).mpr ⟨node, hnode, idOf_of_get? ?_ ?_⟩
    · have hfirst := hs first (List.mem_of_find?_eq_some hfind)
      exact hscope ▸ (idOf_shows hfirst).package
    · exact hname ▸ hget

theorem bareName_declared_twice :
    let nodes : List TypeNode :=
      [⟨some "p", "Companion", [], [], []⟩, ⟨none, "Companion", [], [], []⟩]
    let index := ((declareAll nodes).eval .new).index
    let final := ((declareAll nodes).run .new).2
    let type := (Resolution.resolve index "Companion" true).eval final
    Interner.new.Reachable ∧ FirstDeclares nodes "Companion" ∧
      index.hasTopLevelClass .root .companion = true ∧
      index.hasTopLevelClass type.classId.package .companion = true ∧
      type.classId.package ≠ .root := by
  intro nodes index final type
  have hfirst : FirstDeclares nodes "Companion" := by
    intro first hfind
    have hp : (⟨some "p", "Companion", [], [], []⟩ : TypeNode) = first := Option.some.inj hfind
    exact ⟨_, List.mem_cons_self, hp ▸ rfl, rfl⟩
  have hroot : index.hasTopLevelClass .root .companion = true := by decide +kernel
  have hname : (final.intern "Companion").1 = .companion := by decide +kernel
  have h := bareName_declared .refl nodes final .refl "Companion" (by decide) (by decide)
    (hname ▸ hroot) true
  have hpackage : type.classId.package ≠ .root := by decide +kernel
  exact ⟨.refl, hfirst, hroot, hname ▸ (h.2 (by decide) fun _ => hfirst).1, hpackage⟩

/-- A companion hides a type of the root that is called like it, and no name reaches a type without
one. -/
theorem bareName_undeclared :
    let nodes : List TypeNode := [⟨some "p", "U", [], [], []⟩,
      ⟨none, "Companion", [objectAttribute], [], []⟩, ⟨none, "", [objectAttribute], [], []⟩]
    let index := ((declareAll nodes).eval .new).index
    let final := ((declareAll nodes).run .new).2
    ∀ text ∈ ["Companion", ""],
      let name := (final.intern text).1
      let type := (Resolution.resolve index text false).eval final
      index.hasTopLevelClass .root name = true ∧
        index.hasTopLevelClass type.classId.package name = false := by
  decide +kernel

end Library

end ClrCompiler
