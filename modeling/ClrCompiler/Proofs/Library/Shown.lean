import ClrCompiler.Listing
import ClrCompiler.Proofs.Library.Build
import ClrCompiler.Proofs.Lookup

/-! What a type shows in a listing can be read off its description: neither the numbers of its names
nor the other types of the library have a part in it. -/

namespace ClrCompiler

open Interner Naming

namespace Naming

/-- A computation only stores texts, and from then on `P` holds for its value. -/
def Ensures {α : Type} (s : Interner) (x : Naming α) (P : Interner → α → Prop) : Prop :=
  Later s (x.run s).2 ∧ ∀ u, Later (x.run s).2 u → P u (x.eval s)

section

variable {α β γ : Type} {s : Interner} {x : Naming α} {f : α → Naming β}
  {P : Interner → α → Prop} {Q : Interner → β → Prop}

lemma Ensures.pure {a : α} (h : ∀ u, Later s u → P u a) : Ensures s (pure a) P := ⟨.refl, h⟩

lemma Ensures.bind (hx : Ensures s x P)
    (hf : ∀ t a, Later s t → (∀ u, Later t u → P u a) → Ensures t (f a) Q) :
    Ensures s (x >>= f) Q := by
  obtain ⟨hlater, hx⟩ := hx
  obtain ⟨hnext, hq⟩ := hf _ _ hlater hx
  exact ⟨hlater.trans hnext, hq⟩

lemma Ensures.mono {R : Interner → α → Prop} (h : Ensures s x P)
    (hr : ∀ u a, Later s u → P u a → R u a) : Ensures s x R :=
  ⟨h.1, fun u hu => hr u _ (h.1.trans hu) (h.2 u hu)⟩

lemma Ensures.settled (h : Ensures s x P) (hs : Settled s x) {u : Interner} (hu : Later s u) :
    P u (x.eval s) := by
  apply h.2
  rwa [hs]

lemma ensures_intern (s : Interner) (text : String) :
    Ensures s (Naming.intern text) fun u n => u.get? text = some n :=
  ⟨later_intern s text, fun _ hu => hu.get? (get?_intern s text)⟩

lemma Ensures.mapM {as : List α} {g : Interner → β → γ} {spec : α → γ}
    (h : ∀ a ∈ as, ∀ t, Later s t → Ensures t (f a) fun u b => g u b = spec a) :
    Ensures s (as.mapM f) fun u bs => bs.map (g u) = as.map spec := by
  induction as generalizing s with
  | nil => exact .pure fun _ _ => rfl
  | cons a as ih =>
    rw [List.mapM_cons]
    refine (h a List.mem_cons_self s .refl).bind fun t b ht hb => ?_
    have hrest : Ensures t (as.mapM f) fun u bs => bs.map (g u) = as.map spec :=
      ih fun c hc u hu => h c (List.mem_cons_of_mem a hc) u (ht.trans hu)
    refine hrest.bind fun v bs hv hbs => .pure fun u hu => ?_
    rw [List.map_cons, List.map_cons, hb u (hv.trans hu), hbs u hu]

end

end Naming

namespace Interner

variable {i : Interner} {a b : String} {m n : Name}

lemma eq_iff_of_get? (ha : i.get? a = some m) (hb : i.get? b = some n) : m = n ↔ a = b := by
  constructor
  · rintro rfl
    rw [← text_of_get? ha, text_of_get? hb]
  · rintro rfl
    exact Option.some.inj (ha.symm.trans hb)

lemma Reachable.get?_known (hi : i.Reachable) (h : Interner.new.get? a = some n) :
    i.get? a = some n :=
  Later.get? hi h

lemma Reachable.empty (hi : i.Reachable) : i.get? "" = some .empty := hi.get?_known rfl

end Interner

namespace ClassId

def Known (id : ClassId) : Prop :=
  id.package.name.raw < Interner.new.size ∧ id.relative.raw < Interner.new.size

instance (id : ClassId) : Decidable id.Known := inferInstanceAs (Decidable (_ ∧ _))

lemma Known.text {id : ClassId} (h : id.Known) {i : Interner} (hi : i.Reachable) :
    id.text i = id.text .new := by
  rw [ClassId.text, ClassId.text, Package.text, Package.text, Later.text hi h.1, Later.text hi h.2]

structure Shows (i : Interner) (scope path : String) (id : ClassId) : Prop where
  package : i.get? scope = some id.package.name
  relative : i.get? path = some id.relative

def shown (scope path : String) : String := if scope = "" then path else scope ++ "/" ++ path

section

variable {i : Interner} {scope path : String} {id : ClassId}

lemma Shows.later (h : Shows i scope path id) {u : Interner} (hu : Later i u) :
    Shows u scope path id :=
  ⟨hu.get? h.package, hu.get? h.relative⟩

lemma Shows.text (h : Shows i scope path id) (hi : i.Reachable) : id.text i = shown scope path := by
  have hroot : id.package.isRoot = decide (scope = "") := by
    rw [Package.isRoot, Name.isEmpty, Bool.eq_iff_iff]
    simpa using eq_iff_of_get? h.package hi.empty
  rw [ClassId.text, shown, Package.text, hroot, text_of_get? h.package, text_of_get? h.relative]
  by_cases hs : scope = "" <;> simp [hs]

lemma ensures_nested (h : Shows i scope path id) (hi : i.Reachable) :
    Ensures i (id.nested .companion) fun u n => Shows u scope (path ++ ".Companion") n := by
  have hcompanion : i.text .companion = "Companion" :=
    text_of_get? (hi.get?_known (n := .companion) rfl)
  have hpath : nestedPath i id .companion = path ++ ".Companion" := by
    rw [nestedPath, text_of_get? h.relative, hcompanion, String.append_assoc]
    rfl
  rw [Ensures, run_nested, eval_nested, hpath]
  refine ⟨later_intern i _, fun u hu => ⟨?_, ?_⟩⟩
  · exact ((later_intern i _).trans hu).get? h.package
  · exact hu.get? (get?_intern i _)

end

end ClassId

def Index.RootFirst (index : Index) : Prop :=
  ∀ n, index.hasTopLevelClass .root n = true → index.packageOfShortName n = some .root

lemma Package.ensures_parse (s : Interner) (text : String) :
    Ensures s (Package.parse text) fun u p => u.get? text = some p.name :=
  (ensures_intern s text).bind fun _ _ _ hn => .pure fun u hu => hn u hu

namespace Resolution

lemma ensures_classOf {s : Interner} (hs : s.Reachable) {index : Index} (hr : index.RootFirst)
    (scope : List String) (last : String) :
    Ensures s (classOf index scope last) fun u id =>
      id.Shows u (String.intercalate "." scope) last ∧ id.isNested = false := by
  refine (ensures_intern s last).bind fun t short ht hshort => ?_
  split <;> rename_i hbare
  · obtain ⟨hscope, hclass⟩ := Bool.and_eq_true_iff.mp hbare
    refine .pure fun u hu => ⟨⟨?_, hshort u hu⟩, ClassId.topLevel_isNested _ _⟩
    rw [hr short hclass, List.isEmpty_iff.mp hscope]
    exact Reachable.empty ((hs.trans ht).trans hu)
  · refine (Package.ensures_parse t _).bind fun v package hv hpackage => .pure fun u hu => ?_
    exact ⟨⟨hpackage u hu, hshort u (hv.trans hu)⟩, ClassId.topLevel_isNested _ _⟩

lemma text_typeOf (id : ClassId) (isValue isResult : Bool) (u : Interner) :
    (typeOf id isValue isResult).text u =
      id.text u ++ if isValue || isResult && id == Standard.unit then "" else "?" := by
  rw [typeOf]
  split <;> simp [TypeRef.nonNull, TypeRef.orNull, TypeRef.text]

lemma known_of_lookup {typeName : String} {entry : ClassId × Bool}
    (h : wellKnown.lookup typeName = some entry) : entry.1.Known := by
  have hall : ∀ e ∈ wellKnown, e.2.1.Known := by decide
  exact hall (typeName, entry) (mem_of_lookup h)

lemma eq_unit_iff {i : Interner} (hi : i.Reachable) {scope path : String} {id : ClassId}
    (h : id.Shows i scope path) (hn : id.isNested = false) :
    id = Standard.unit ↔ scope = "kotlin" ∧ path = "Unit" := by
  have hscope := eq_iff_of_get? h.package (hi.get?_known (a := "kotlin") (n := .kotlin) rfl)
  have hpath := eq_iff_of_get? h.relative (hi.get?_known (a := "Unit") (n := .unit) rfl)
  have hshort : id.relative = id.short := by simpa [ClassId.isNested] using hn
  rw [← hscope, ← hpath]
  constructor
  · rintro rfl
    exact ⟨rfl, rfl⟩
  · rintro ⟨hp, hr⟩
    rw [ClassId.eq_topLevel_of_not_isNested hn, ← hshort, hr]
    obtain ⟨⟨p⟩, r, n⟩ := id
    cases hp
    rfl

end Resolution

namespace Library

open Metadata

namespace Shown

def type : Option String → String
  | none => TypeRef.anyOrNull.text .new
  | some typeName =>
    match Resolution.wellKnown.lookup typeName with
    | some (id, isValue) => (Resolution.typeOf id isValue true).text .new
    | none =>
      match Resolution.parts? typeName with
      | none => TypeRef.anyOrNull.text .new
      | some parts =>
        let scope := String.intercalate "." parts.dropLast
        let last := parts.getLastD ""
        ClassId.shown scope last ++ if scope = "kotlin" ∧ last = "Unit" then "" else "?"

def parameter (p : Metadata.Parameter × Nat) : String :=
  parameterName p.2 p.1.name ++ ": " ++ type p.1.type

def parameters (ps : List Metadata.Parameter) : String :=
  String.intercalate ", " (ps.zipIdx.map parameter)

def constructor (c : Metadata.Constructor) : String :=
  "    constructor(" ++ parameters c.parameters ++ ")"
    ++ (if c.isStatic then " static" else "") ++ "\n"

def function (marks : List ClassId) (m : Method) : String :=
  "    " ++ String.join (marks.map fun mark => "@" ++ mark.text .new ++ " ")
    ++ "fun " ++ m.name ++ "(" ++ parameters m.parameters ++ "): " ++ type m.returnType ++ "\n"

def ownConstructors (node : TypeNode) : List String :=
  match node.shape with
  | .plain => (node.constructors.filter (!·.isStatic)).map constructor
  | _ => []

def ownFunctions (node : TypeNode) : List String :=
  match node.shape with
  | .object => (node.methods.filter (·.isStatic)).map (function [])
  | .fileClass => node.methods.map (function [])
  | .plain => (node.methods.filter (!·.isStatic)).map (function [])

def staticConstructors (node : TypeNode) : List String :=
  (node.constructors.filter (·.isStatic)).map constructor

def staticFunctions (node : TypeNode) : List String :=
  (node.methods.filter (·.isStatic)).map (function [Standard.clrStatic])

def head (kind : ClassKind) (id : String) (companion : Option String) : String :=
  kind.keyword ++ " " ++ id ++ " [" ++ Status.publicFinal.visibility.keyword ++ " "
    ++ Status.publicFinal.modality.keyword ++ "]"
    ++ (match companion with
        | some id => " companion=" ++ id
        | none => "")
    ++ "\n"

def entries (node : TypeNode) : List (String × String) :=
  let id := ClassId.shown node.scopeText node.name
  let companion := ClassId.shown node.scopeText (node.name ++ ".Companion")
  let own := String.join (ownConstructors node) ++ String.join (ownFunctions node)
  let static := String.join (staticConstructors node) ++ String.join (staticFunctions node)
  if node.shape = .object then [(id, head .object id none ++ own)]
  else
    [(id, head .plain id (some companion) ++ own),
     (companion, head .object companion none ++ static)]

end Shown

section

variable {s : Interner} {index : Index}

lemma text_anyOrNull {u : Interner} (hu : u.Reachable) :
    TypeRef.anyOrNull.text u = TypeRef.anyOrNull.text .new := by
  have hany : Standard.any.Known := by decide
  simp [TypeRef.anyOrNull, TypeRef.orNull, TypeRef.text, hany.text hu]

lemma ensures_typeOf (hs : s.Reachable) (hr : index.RootFirst) (given : Option String) :
    Ensures s (typeOf index given) fun u t => t.text u = Shown.type given := by
  cases given with
  | none => exact .pure fun u hu => text_anyOrNull (hs.trans hu)
  | some typeName =>
    simp only [typeOf, Resolution.resolve, Shown.type]
    cases hknown : Resolution.wellKnown.lookup typeName with
    | some entry =>
      refine .pure fun u hu => ?_
      dsimp only
      rw [Resolution.text_typeOf, Resolution.text_typeOf,
        (Resolution.known_of_lookup hknown).text (hs.trans hu)]
    | none =>
      cases Resolution.parts? typeName with
      | none => exact .pure fun u hu => text_anyOrNull (hs.trans hu)
      | some parts =>
        refine (Resolution.ensures_classOf hs hr _ _).bind fun t id ht hid => .pure fun u hu => ?_
        obtain ⟨hshows, hn⟩ := hid u hu
        have hur : u.Reachable := (hs.trans ht).trans hu
        rw [Resolution.text_typeOf, hshows.text hur]
        simp [Resolution.eq_unit_iff hur hshows hn]

lemma ensures_parameters (hs : s.Reachable) (hr : index.RootFirst)
    (given : List Metadata.Parameter) :
    Ensures s (parameters index given) fun u ps =>
      Listing.parametersText u ps = Shown.parameters given := by
  have hall : Ensures s (parameters index given) fun u ps =>
      ps.map (Listing.parameterText u) = given.zipIdx.map Shown.parameter := by
    refine .mapM fun p _ t ht => ?_
    refine (ensures_intern t _).bind fun v name hv hname => ?_
    refine (ensures_typeOf ((hs.trans ht).trans hv) hr p.1.type).bind fun w type hw htype => ?_
    refine .pure fun u hu => ?_
    rw [Listing.parameterText, text_of_get? (hname u (hw.trans hu)), htype u hu]
    rfl
  refine hall.mono fun u ps _ hps => ?_
  rw [Listing.parametersText, hps]
  rfl

lemma constructorLine_eq {u : Interner} {c : Symbol.Constructor} {node : Metadata.Constructor}
    (hps : Listing.parametersText u c.parameters = Shown.parameters node.parameters)
    (hstatic : c.isStatic = node.isStatic) :
    Listing.constructorLine u c = Shown.constructor node := by
  unfold Listing.constructorLine Shown.constructor
  rw [hps, hstatic]

lemma ensures_constructor (hs : s.Reachable) (hr : index.RootFirst) (owner : ClassId)
    (node : Metadata.Constructor) :
    Ensures s (constructor index owner node) fun u c =>
      Listing.constructorLine u c = Shown.constructor node := by
  refine (ensures_parameters hs hr node.parameters).bind fun t ps _ hps => .pure fun u hu => ?_
  refine constructorLine_eq (hps u hu) ?_
  rw [Symbol.Constructor.isStatic]
  cases node.isStatic <;> rfl

lemma ensures_function (hs : s.Reachable) (hr : index.RootFirst) (id : CallableId) (owner : ClassId)
    {marks : List ClassId} (hmarks : ∀ mark ∈ marks, mark.Known) {node : Method}
    (hname : s.get? node.name = some id.name) :
    Ensures s (function index id owner marks node) fun u f =>
      Listing.functionLine u f = Shown.function marks node := by
  refine (ensures_typeOf hs hr node.returnType).bind fun t returnType ht htype => ?_
  refine (ensures_parameters (hs.trans ht) hr node.parameters).bind fun v ps hv hps => ?_
  refine .pure fun u hu => ?_
  have hu' : u.Reachable := ((hs.trans ht).trans hv).trans hu
  have hshown : u.text id.name = node.name :=
    text_of_get? (((ht.trans hv).trans hu).get? hname)
  have htexts : (marks.map fun mark => "@" ++ mark.text u ++ " ") =
      marks.map fun mark => "@" ++ mark.text .new ++ " " := by
    apply List.map_congr_left
    intro mark hm
    rw [(hmarks mark hm).text hu']
  unfold Listing.functionLine Shown.function Symbol.Function.name
  dsimp only
  rw [htexts, hshown, hps u hu, htype u (hv.trans hu)]

lemma ensures_freeFunction (hs : s.Reachable) (hr : index.RootFirst) (owner : ClassId)
    (node : Method) :
    Ensures s (freeFunction index owner node) fun u f =>
      Listing.functionLine u f = Shown.function [] node :=
  (ensures_intern s node.name).bind fun t name ht hname =>
    ensures_function (hs.trans ht) hr (.topLevel owner.package name) owner (by simp)
      (hname t .refl)

lemma ensures_memberFunction (hs : s.Reachable) (hr : index.RootFirst) (owner : ClassId)
    {marks : List ClassId} (hmarks : ∀ mark ∈ marks, mark.Known) (node : Method) :
    Ensures s (memberFunction index owner marks node) fun u f =>
      Listing.functionLine u f = Shown.function marks node :=
  (ensures_intern s node.name).bind fun t name ht hname =>
    ensures_function (hs.trans ht) hr (.member owner name) owner hmarks (hname t .refl)

lemma ensures_primary (hs : s.Reachable) (hr : index.RootFirst) (id : ClassId) (node : TypeNode) :
    Ensures s (primary index id node) fun u c =>
      c.constructors.map (Listing.constructorLine u) = Shown.ownConstructors node ∧
        c.functions.map (Listing.functionLine u) = Shown.ownFunctions node := by
  have hmember (t : Interner) (ht : Later s t) (m : Method) :
      Ensures t (memberFunction index id [] m) fun u f =>
        Listing.functionLine u f = Shown.function [] m :=
    ensures_memberFunction (hs.trans ht) hr id (by simp) m
  simp only [primary, Shown.ownConstructors, Shown.ownFunctions]
  cases node.shape with
  | object =>
    have hall : Ensures s ((node.methods.filter (·.isStatic)).mapM (freeFunction index id)) _ :=
      .mapM fun m _ t ht => ensures_freeFunction (hs.trans ht) hr id m
    exact hall.bind fun t fs _ hfs => .pure fun u hu => ⟨rfl, hfs u hu⟩
  | fileClass =>
    have hall : Ensures s (node.methods.mapM (memberFunction index id [])) _ :=
      .mapM fun m _ t ht => hmember t ht m
    exact hall.bind fun t fs _ hfs => .pure fun u hu => ⟨rfl, hfs u hu⟩
  | plain =>
    have hfirst : Ensures s
        ((node.constructors.filter (!·.isStatic)).mapM (constructor index id)) _ :=
      .mapM fun c _ t ht => ensures_constructor (hs.trans ht) hr id c
    refine hfirst.bind fun t cs ht hcs => ?_
    have hnext : Ensures t
        ((node.methods.filter (!·.isStatic)).mapM (memberFunction index id [])) _ :=
      .mapM fun m _ v hv => hmember v (ht.trans hv) m
    exact hnext.bind fun v fs hv hfs => .pure fun u hu => ⟨hcs u (hv.trans hu), hfs u hu⟩

lemma ensures_companion (hs : s.Reachable) (hr : index.RootFirst) (owner : ClassId)
    (node : TypeNode) :
    Ensures s (companion index owner node) fun u c =>
      c.constructors.map (Listing.constructorLine u) = Shown.staticConstructors node ∧
        c.functions.map (Listing.functionLine u) = Shown.staticFunctions node := by
  have hmarks : ∀ mark ∈ [Standard.clrStatic], mark.Known := by decide
  have hid : Ensures s (owner.nested .companion) fun _ _ => True :=
    ⟨later_intern s _, fun _ _ => trivial⟩
  refine hid.bind fun t id ht _ => ?_
  have hfirst : Ensures t ((node.constructors.filter (·.isStatic)).mapM (constructor index id)) _ :=
    .mapM fun c _ v hv => ensures_constructor ((hs.trans ht).trans hv) hr id c
  refine hfirst.bind fun v cs hv hcs => ?_
  have hnext : Ensures v ((node.methods.filter (·.isStatic)).mapM
      (memberFunction index id [Standard.clrStatic])) _ :=
    .mapM fun m _ w hw => ensures_memberFunction (((hs.trans ht).trans hv).trans hw) hr id hmarks m
  exact hnext.bind fun w fs hw hfs => .pure fun u hu => ⟨hcs u (hw.trans hu), hfs u hu⟩

end

lemma classText_eq {u : Interner} {c : Symbol.Class} {kind : ClassKind} {id : String}
    {companion : Option String} {constructors functions : List String} (hkind : c.kind = kind)
    (hid : c.id.text u = id) (hcompanion : c.companion.map (·.text u) = companion)
    (hv : c.status.visibility = Status.publicFinal.visibility)
    (hm : c.status.modality = Status.publicFinal.modality)
    (hcs : c.constructors.map (Listing.constructorLine u) = constructors)
    (hfs : c.functions.map (Listing.functionLine u) = functions) :
    (c.id.text u, Listing.classText u c) =
      (id, Shown.head kind id companion ++ (String.join constructors ++ String.join functions)) := by
  have hhead : Listing.classHead u c = Shown.head kind id companion := by
    unfold Listing.classHead Shown.head
    rw [hkind, hid, hv, hm, ← hcompanion]
    cases c.companion <;> rfl
  rw [Listing.classText, hhead, hcs, hfs, String.append_assoc, hid]

section

variable {i : Interner} {index : Index} {node : TypeNode}

lemma idOf_shows (h : Settled i node.classId) :
    (idOf i node).Shows i node.scopeText node.name := by
  have hid : Ensures i node.classId fun u id => id.Shows u node.scopeText node.name := by
    refine (Package.ensures_parse i _).bind fun t package _ hpackage => ?_
    refine (ensures_intern t _).bind fun v name hv hname => .pure fun u hu => ?_
    exact ⟨hpackage u (hv.trans hu), hname u hu⟩
  exact hid.settled h .refl

lemma companionId_shows (hi : i.Reachable) (hb : Settled i (build index node))
    (hs : node.shape ≠ .object) :
    (((idOf i node).nested .companion).eval i).Shows i node.scopeText (node.name ++ ".Companion") :=
  (ClassId.ensures_nested (idOf_shows (classId_settled hi hb)) hi).settled
    (companionId_settled hi hb hs) .refl

lemma shown_builtSymbols (hi : i.Reachable) (hr : index.RootFirst)
    (hb : Settled i (build index node)) {u : Interner} (hu : Later i u) :
    (builtSymbols i index node).map (fun c => (c.id.text u, Listing.classText u c)) =
      Shown.entries node := by
  have hur : u.Reachable := hi.trans hu
  let self := (primary index (idOf i node) node).eval i
  obtain ⟨hcs, hfs⟩ :=
    (ensures_primary hi hr (idOf i node) node).settled (primary_settled hi hb) hu
  have hid : self.id.text u = ClassId.shown node.scopeText node.name := by
    rw [primary_id, ((idOf_shows (classId_settled hi hb)).later hu).text hur]
  have hkind : self.kind = if node.shape = .object then .object else .plain := primary_kind _
  have hstatus : self.status = .publicFinal := primary_status _
  have hv : self.status.visibility = Status.publicFinal.visibility := by rw [hstatus]
  have hm : self.status.modality = Status.publicFinal.modality := by rw [hstatus]
  by_cases hs : node.shape = .object
  · have hnone : self.companion.map (·.text u) = none := by
      rw [primary_companion]
      rfl
    have hself := classText_eq (hkind.trans (if_pos hs)) hid hnone hv hm hcs hfs
    rw [builtSymbols_of_object hi hb hs, Shown.entries, if_pos hs]
    exact congrArg (fun e => [e]) hself
  · let other := (companion index (idOf i node) node).eval i
    obtain ⟨hscs, hsfs⟩ :=
      (ensures_companion hi hr (idOf i node) node).settled (companion_settled hi hb hs) hu
    have hother : other.id.text u = ClassId.shown node.scopeText (node.name ++ ".Companion") := by
      rw [companion_id, ((companionId_shows hi hb hs).later hu).text hur]
    have hsome : (some other.id).map (·.text u) =
        some (ClassId.shown node.scopeText (node.name ++ ".Companion")) := by
      rw [Option.map_some, hother]
    have hself := classText_eq (c := { self with companion := some other.id })
      (hkind.trans (if_neg hs)) hid hsome hv hm hcs hfs
    have hnone : other.companion.map (·.text u) = none := rfl
    have hstatic := classText_eq (c := other) rfl hother hnone rfl rfl hscs hsfs
    rw [builtSymbols_of_hasCompanion hi hb hs, Shown.entries, if_neg hs]
    exact congrArg₂ List.cons hself (congrArg (fun e => [e]) hstatic)

end

end Library

end ClrCompiler
