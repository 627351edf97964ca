import ClrCompiler.Metadata.Json
import ClrCompiler.Proofs.Json.Reads
import Mathlib.Order.MinMax

/-! Assembly descriptions are read back as they were written, also when members that only repeat a
default are left out. -/

namespace ClrCompiler

namespace Json

def Value.isDefault : Value → Bool
  | .null => true
  | .boolean false => true
  | .list [] => true
  | _ => false

mutual

/-- The second value is the first one without some members that hold a default, at any depth. -/
inductive Pruned : Value → Value → Prop where
  | null : Pruned .null .null
  | boolean (b : Bool) : Pruned (.boolean b) (.boolean b)
  | text (s : String) : Pruned (.text s) (.text s)
  | list {vs ws : List Value} (h : PrunedItems vs ws) : Pruned (.list vs) (.list ws)
  | object {ms ns : List (String × Value)} (h : PrunedMembers ms ns) : Pruned (.object ms) (.object ns)

inductive PrunedItems : List Value → List Value → Prop where
  | nil : PrunedItems [] []
  | cons {v w : Value} {vs ws : List Value} (h : Pruned v w) (hs : PrunedItems vs ws) :
      PrunedItems (v :: vs) (w :: ws)

inductive PrunedMembers : List (String × Value) → List (String × Value) → Prop where
  | nil : PrunedMembers [] []
  | keep {key : String} {v w : Value} {ms ns : List (String × Value)} (h : Pruned v w)
      (hs : PrunedMembers ms ns) : PrunedMembers ((key, v) :: ms) ((key, w) :: ns)
  | drop {key : String} {v : Value} {ms ns : List (String × Value)} (h : v.isDefault)
      (hs : PrunedMembers ms ns) : PrunedMembers ((key, v) :: ms) ns

end

mutual

lemma Pruned.refl : ∀ v, Pruned v v
  | .null => .null
  | .boolean b => .boolean b
  | .text s => .text s
  | .list vs => .list (PrunedItems.refl vs)
  | .object ms => .object (PrunedMembers.refl ms)

lemma PrunedItems.refl : ∀ vs, PrunedItems vs vs
  | [] => .nil
  | v :: vs => .cons (Pruned.refl v) (PrunedItems.refl vs)

lemma PrunedMembers.refl : ∀ ms, PrunedMembers ms ms
  | [] => .nil
  | (_, v) :: ms => .keep (Pruned.refl v) (PrunedMembers.refl ms)

end

mutual

lemma Pruned.depth_le : ∀ {v w : Value}, Pruned v w → w.depth ≤ v.depth
  | _, _, .null => Nat.le_refl _
  | _, _, .boolean _ => Nat.le_refl _
  | _, _, .text _ => Nat.le_refl _
  | _, _, .list h => Nat.succ_le_succ (PrunedItems.depth_le h)
  | _, _, .object h => Nat.succ_le_succ (PrunedMembers.depth_le h)

lemma PrunedItems.depth_le : ∀ {vs ws : List Value}, PrunedItems vs ws →
    Value.depthItems ws ≤ Value.depthItems vs
  | _, _, .nil => Nat.le_refl _
  | _, _, .cons h hs => max_le_max (Pruned.depth_le h) (PrunedItems.depth_le hs)

lemma PrunedMembers.depth_le : ∀ {ms ns : List (String × Value)}, PrunedMembers ms ns →
    Value.depthMembers ns ≤ Value.depthMembers ms
  | _, _, .nil => Nat.le_refl _
  | _, _, .keep h hs => max_le_max (Pruned.depth_le h) (PrunedMembers.depth_le hs)
  | _, _, .drop _ hs => Nat.le_trans (PrunedMembers.depth_le hs) (Nat.le_max_right _ _)

end

lemma Value.depth_optional (s : Option String) : (optional s).depth = 0 := by
  cases s <;> rfl

lemma Value.depth_list_map_le {α : Type} {write : α → Value} {n : Nat}
    (h : ∀ a, (write a).depth ≤ n) (as : List α) : (list (as.map write)).depth ≤ n + 1 := by
  apply Nat.succ_le_succ
  induction as with
  | nil => exact Nat.zero_le n
  | cons a as ih => exact max_le (h a) ih

def ReadsPruned {α : Type} (reader : Reader α) (v : Value) (a : α) : Prop :=
  ∀ bound w, Pruned v w → Reads bound reader w a

namespace ReadsPruned

lemma text (s : String) : ReadsPruned .text (.text s) s := by
  rintro bound _ (_ | _)
  exact Reads.text bound s

lemma boolean (b : Bool) : ReadsPruned .boolean (.boolean b) b := by
  rintro bound _ (_ | _)
  exact Reads.boolean bound b

lemma optionalText (s : Option String) : ReadsPruned (.optional .text) (.optional s) s := by
  intro bound w hw
  have he : w = .optional s := by cases s <;> cases hw <;> rfl
  rw [he]
  exact Reads.optionalText bound s

lemma list {α : Type} {reader : Reader α} {write : α → Value}
    (h : ∀ a, ReadsPruned reader (write a) a) (as : List α) :
    ReadsPruned (.list reader) (.list (as.map write)) as := by
  rintro bound _ (_ | _ | _ | ⟨hws⟩)
  rename_i ws
  refine (Reads.list ?_).mono (Nat.le_succ bound)
  induction as generalizing ws with
  | nil =>
    cases hws
    exact .nil
  | cons a as ih =>
    cases hws with
    | cons hw hws => exact .cons (h a bound _ hw) (ih hws)

end ReadsPruned

namespace Fills

variable {σ α : Type} {bound : Nat} {fields : List (Field σ)} {P : σ → Prop} {reader : Reader α}
  {key : String} {v : Value} {ms ns : List (String × Value)} {a : α}
  {get : σ → Option α} {put : σ → α → σ}

lemma member (fill : Option α → σ) (hn : PrunedMembers ((key, v) :: ms) ns)
    (hfield : fields.find? (·.name == key) = some (.slot key get put reader))
    (hnew : get (fill none) = none) (hput : put (fill none) a = fill (some a))
    (hread : ReadsPruned reader v a)
    (hrest : ∀ slot ns, slot = some a ∨ slot = none ∧ v.isDefault → PrunedMembers ms ns →
      ∃ t, Fills bound fields (fill slot) ns t ∧ P t) :
    ∃ t, Fills bound fields (fill none) ns t ∧ P t := by
  cases hn with
  | keep hw hs =>
    obtain ⟨t, ht, hp⟩ := hrest (some a) _ (.inl rfl) hs
    rw [← hput] at ht
    exact ⟨t, .slot hfield hnew (hread bound _ hw) ht, hp⟩
  | drop hd hs => exact hrest none _ (.inr ⟨rfl, hd⟩) hs

lemma required (fill : Option α → σ) (hn : PrunedMembers ((key, v) :: ms) ns)
    (hfield : fields.find? (·.name == key) = some (.slot key get put reader))
    (hnew : get (fill none) = none) (hput : put (fill none) a = fill (some a))
    (hread : ReadsPruned reader v a) (hv : v.isDefault = false)
    (hrest : ∀ ns, PrunedMembers ms ns → ∃ t, Fills bound fields (fill (some a)) ns t ∧ P t) :
    ∃ t, Fills bound fields (fill none) ns t ∧ P t := by
  refine member fill hn hfield hnew hput hread ?_
  rintro slot ns (rfl | ⟨-, hd⟩) hns
  · exact hrest ns hns
  · rw [hv] at hd
    cases hd

lemma optional {default : α} (fill : Option α → σ) (hn : PrunedMembers ((key, v) :: ms) ns)
    (hfield : fields.find? (·.name == key) = some (.slot key get put reader))
    (hnew : get (fill none) = none) (hput : put (fill none) a = fill (some a))
    (hread : ReadsPruned reader v a) (hv : v.isDefault → a = default)
    (hrest : ∀ slot ns, slot.getD default = a → PrunedMembers ms ns →
      ∃ t, Fills bound fields (fill slot) ns t ∧ P t) :
    ∃ t, Fills bound fields (fill none) ns t ∧ P t := by
  refine member fill hn hfield hnew hput hread ?_
  rintro slot ns (rfl | ⟨rfl, hd⟩) hns
  · exact hrest (some a) ns rfl hns
  · exact hrest none ns (hv hd).symm hns

end Fills

lemma ReadsPruned.record {σ α : Type} {record : Record σ α} {ms : List (String × Value)} {a : α}
    (h : ∀ bound ns, PrunedMembers ms ns → ∃ s, Fills bound record.fields record.start ns s ∧
      record.finish s .missingField = .ok a) :
    ReadsPruned record.reader (.object ms) a := by
  rintro bound _ (_ | _ | _ | _ | ⟨hns⟩)
  obtain ⟨s, hs, hfinish⟩ := h bound _ hns
  exact (hs.reads record hfinish).mono (Nat.le_succ bound)

end Json

namespace Metadata

open Json

lemma optional_isDefault {s : Option String} (h : (Value.optional s).isDefault) : s = none := by
  cases s with
  | none => rfl
  | some s => cases h

lemma list_isDefault {α : Type} {write : α → Value} {as : List α}
    (h : (Value.list (as.map write)).isDefault) : as = [] := by
  cases as with
  | nil => rfl
  | cons a as => cases h

lemma boolean_isDefault {b : Bool} (h : (Value.boolean b).isDefault) : b = false := by
  cases b with
  | false => rfl
  | true => cases h

lemma Parameter.reads (p : Parameter) : ReadsPruned record.reader p.toJson p := by
  apply ReadsPruned.record
  intro bound ns hns
  refine Fills.optional (fun name => Slots.mk name none) hns rfl rfl rfl (.optionalText p.name)
    optional_isDefault fun name ns hname hns => ?_
  refine Fills.optional (fun type => Slots.mk name type) hns rfl rfl rfl (.optionalText p.type)
    optional_isDefault fun type ns htype hns => ?_
  cases hns
  exact ⟨_, .nil _, by simp only [record, hname, htype]⟩

lemma Constructor.reads (c : Constructor) : ReadsPruned record.reader c.toJson c := by
  apply ReadsPruned.record
  intro bound ns hns
  refine Fills.optional (fun ps => Slots.mk ps none) hns rfl rfl rfl
    (.list Parameter.reads c.parameters) list_isDefault fun ps ns hps hns => ?_
  refine Fills.optional (fun b => Slots.mk ps b) hns rfl rfl rfl (.boolean c.isStatic)
    boolean_isDefault fun b ns hb hns => ?_
  cases hns
  exact ⟨_, .nil _, by simp only [record, hps, hb]⟩

lemma Method.reads (m : Method) : ReadsPruned record.reader m.toJson m := by
  apply ReadsPruned.record
  intro bound ns hns
  refine Fills.required (fun name => Slots.mk name none none none) hns rfl rfl rfl (.text m.name)
    rfl fun ns hns => ?_
  refine Fills.optional (fun type => Slots.mk (some m.name) type none none) hns rfl rfl rfl
    (.optionalText m.returnType) optional_isDefault fun type ns htype hns => ?_
  refine Fills.optional (fun ps => Slots.mk (some m.name) type ps none) hns rfl rfl rfl
    (.list Parameter.reads m.parameters) list_isDefault fun ps ns hps hns => ?_
  refine Fills.optional (fun b => Slots.mk (some m.name) type ps b) hns rfl rfl rfl
    (.boolean m.isStatic) boolean_isDefault fun b ns hb hns => ?_
  cases hns
  refine ⟨_, .nil _, ?_⟩
  simp only [record, htype, hps, hb]
  rfl

lemma TypeNode.reads (t : TypeNode) : ReadsPruned record.reader t.toJson t := by
  apply ReadsPruned.record
  intro bound ns hns
  refine Fills.optional (fun scope => Slots.mk scope none none none none) hns rfl rfl rfl
    (.optionalText t.scope) optional_isDefault fun scope ns hscope hns => ?_
  refine Fills.required (fun name => Slots.mk scope name none none none) hns rfl rfl rfl
    (.text t.name) rfl fun ns hns => ?_
  refine Fills.optional (fun marks => Slots.mk scope (some t.name) marks none none) hns rfl rfl rfl
    (.list .text t.attributes) list_isDefault fun marks ns hmarks hns => ?_
  refine Fills.optional (fun ms => Slots.mk scope (some t.name) marks ms none) hns rfl rfl rfl
    (.list Method.reads t.methods) list_isDefault fun ms ns hms hns => ?_
  refine Fills.optional (fun cs => Slots.mk scope (some t.name) marks ms cs) hns rfl rfl rfl
    (.list Constructor.reads t.constructors) list_isDefault fun cs ns hcs hns => ?_
  cases hns
  refine ⟨_, .nil _, ?_⟩
  simp only [record, hscope, hmarks, hms, hcs]
  rfl

lemma Assembly.reads (a : Assembly) : ReadsPruned record.reader a.toJson a := by
  apply ReadsPruned.record
  intro bound ns hns
  refine Fills.optional (fun name => Slots.mk name none) hns rfl rfl rfl (.optionalText a.name)
    optional_isDefault fun name ns hname hns => ?_
  refine Fills.optional (fun types => Slots.mk name types) hns rfl rfl rfl
    (.list TypeNode.reads a.types) list_isDefault fun types ns htypes hns => ?_
  cases hns
  exact ⟨_, .nil _, by simp only [record, hname, htypes]⟩

lemma Parameter.depth_le (p : Parameter) : p.toJson.depth ≤ 1 := by
  simp [toJson, Value.depth, Value.depthMembers, Value.depth_optional]

lemma Constructor.depth_le (c : Constructor) : c.toJson.depth ≤ 3 := by
  have hparameters := Value.depth_list_map_le Parameter.depth_le c.parameters
  simp only [toJson, Value.depth, Value.depthMembers] at hparameters ⊢
  omega

lemma Method.depth_le (m : Method) : m.toJson.depth ≤ 3 := by
  have hparameters := Value.depth_list_map_le Parameter.depth_le m.parameters
  simp only [toJson, Value.depth, Value.depthMembers, Value.depth_optional] at hparameters ⊢
  omega

lemma TypeNode.depth_le (t : TypeNode) : t.toJson.depth ≤ 5 := by
  have hattributes : (Value.list (t.attributes.map .text)).depth ≤ 0 + 1 :=
    Value.depth_list_map_le (fun _ => Nat.le_refl 0) t.attributes
  have hmethods := Value.depth_list_map_le Method.depth_le t.methods
  have hconstructors := Value.depth_list_map_le Constructor.depth_le t.constructors
  simp only [toJson, Value.depth, Value.depthMembers, Value.depth_optional] at *
  omega

lemma Assembly.depth_le (a : Assembly) : a.toJson.depth ≤ 7 := by
  have htypes := Value.depth_list_map_le TypeNode.depth_le a.types
  simp only [toJson, Value.depth, Value.depthMembers, Value.depth_optional] at htypes ⊢
  omega

lemma Assembly.parse_of_pruned (a : Assembly) {v : Value} (h : Pruned a.toJson v) :
    parse (String.ofList v.write) = .ok a := by
  have hdepth : v.depth ≤ maxDepth :=
    Nat.le_trans h.depth_le (Nat.le_trans a.depth_le (by decide))
  rw [parse, (a.reads (maxDepth + 1) v h).parse, if_pos hdepth]

theorem Assembly.parse_write_pruned (a : Assembly) :
    parse (String.ofList a.toJson.write) = .ok a ∧
      ∀ v, Pruned a.toJson v → parse (String.ofList v.write) = .ok a :=
  ⟨a.parse_of_pruned (.refl _), fun _ h => a.parse_of_pruned h⟩

def sparse : Assembly :=
  ⟨none, [⟨none, "\x01\"\\\n\u00e9", [], [⟨"f", none, [⟨none, some "T"⟩], false⟩], [⟨[], false⟩]⟩]⟩

def sparseJson : Value :=
  .object [("types", .list [.object
    [("name", .text "\x01\"\\\n\u00e9"),
     ("methods", .list [.object
      [("name", .text "f"), ("parameters", .list [.object [("type", .text "T")]])]]),
     ("constructors", .list [.object []])]])]

theorem Assembly.parse_write_pruned_sparse :
    Pruned sparse.toJson sparseJson ∧ parse (String.ofList sparseJson.write) = .ok sparse := by
  have hpruned : Pruned sparse.toJson sparseJson := by repeat constructor
  exact ⟨hpruned, (Assembly.parse_write_pruned sparse).2 sparseJson hpruned⟩

end Metadata

end ClrCompiler
