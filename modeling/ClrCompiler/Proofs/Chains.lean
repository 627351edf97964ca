import ClrCompiler.Provider
import ClrCompiler.Proofs.Index
import Mathlib.Data.List.Sort

/-! Chains of providers. A chain asks its members one by one, and one that stands in another chain
answers as if its members stood there themselves. -/

namespace ClrCompiler

lemma Name.ascending_congr {xs ys : List Name} (h : ∀ n, n ∈ xs ↔ n ∈ ys) :
    ascending xs = ascending ys := by
  have : Std.Irrefl fun a b : Name => a.raw < b.raw := ⟨fun a => Nat.lt_irrefl a.raw⟩
  refine (pairwise_ascending xs).eq_of_mem_iff (pairwise_ascending ys) fun n => ?_
  rw [mem_ascending, mem_ascending, h]

namespace Provider

mutual

def parts : Provider → List Provider
  | .chain members => partsAll members
  | p => [p]

def partsAll : List Provider → List Provider
  | [] => []
  | p :: rest => p.parts ++ partsAll rest

end

def Single : Provider → Prop
  | .chain _ => False
  | _ => True

lemma Single.parts {p : Provider} (h : p.Single) : p.parts = [p] := by
  cases p with
  | chain _ => exact h.elim
  | registry _ | builtins | library _ | actualizing _ => simp [Provider.parts]

mutual

lemma single_of_mem_parts : ∀ p : Provider, ∀ q ∈ p.parts, q.Single
  | .chain members => by
    rw [parts]
    exact single_of_mem_partsAll members
  | .registry _ | .builtins | .library _ | .actualizing _ => by simp [parts, Single]

lemma single_of_mem_partsAll : ∀ members : List Provider, ∀ q ∈ partsAll members, q.Single
  | [] => by simp [partsAll]
  | p :: rest => by
    rw [partsAll, List.forall_mem_append]
    exact ⟨single_of_mem_parts p, single_of_mem_partsAll rest⟩

end

section

variable {α : Type} {own : Provider → α} {join : List α → α}

lemma Single.gather {p : Provider} (h : p.Single) : p.gather own join = own p := by
  cases p with
  | chain _ => exact h.elim
  | registry _ | builtins | library _ | actualizing _ => simp [Provider.gather]

lemma gatherAll_eq_map (members : List Provider) :
    gatherAll own join members = members.map (gather own join) := by
  induction members with
  | nil => rw [gatherAll, List.map_nil]
  | cons p rest ih => rw [gatherAll, ih, List.map_cons]

lemma gather_chain (members : List Provider) :
    (chain members).gather own join = join (members.map (gather own join)) := by
  rw [gather, gatherAll_eq_map]

/-- What is put together does not depend on how it is grouped. -/
def Nests (join : List α → α) : Prop :=
  ∀ before group after, join (before ++ join group :: after) = join (before ++ group ++ after)

lemma gather_nested (h : Nests join) (before group after : List Provider) :
    (chain (before ++ chain group :: after)).gather own join =
      (chain (before ++ group ++ after)).gather own join := by
  simp only [gather_chain, List.map_append, List.map_cons, h _ _ _]

-- the members of a chain are flattened one after another, behind those that are flat already
mutual

lemma gather_eq_parts (h : Nests join) (hsingle : ∀ p, join [own p] = own p) :
    ∀ p : Provider, p.gather own join = join (p.parts.map own)
  | .chain members => by
    rw [gather, parts]
    exact gatherAll_eq_parts h hsingle members []
  | .registry _ | .builtins | .library _ | .actualizing _ => by simp [gather, parts, hsingle]

lemma gatherAll_eq_parts (h : Nests join) (hsingle : ∀ p, join [own p] = own p) :
    ∀ (members : List Provider) (before : List α),
      join (before ++ gatherAll own join members) = join (before ++ (partsAll members).map own)
  | [], _ => by rw [gatherAll, partsAll, List.map_nil]
  | p :: rest, before => by
    have hrest := gatherAll_eq_parts h hsingle rest (before ++ [p.gather own join])
    rw [List.append_assoc, List.append_assoc, List.singleton_append, List.singleton_append] at hrest
    rw [gatherAll, hrest, gather_eq_parts h hsingle p, h, partsAll, List.map_append,
      List.append_assoc]

end

lemma gather_flat (h : Nests join) (hsingle : ∀ p, join [own p] = own p) (p : Provider) :
    p.gather own join = (chain p.parts).gather own join := by
  have hparts : p.parts.map (gather own join) = p.parts.map own :=
    List.map_congr_left fun q hq => (single_of_mem_parts p q hq).gather
  rw [gather_eq_parts h hsingle p, gather_chain, hparts]

end

lemma nests_any : Nests fun answers : List Bool => answers.any id := by
  intro before group after
  simp [List.any_append]

lemma nests_flatten {α : Type} : Nests (List.flatten (α := α)) := by
  intro before group after
  simp

lemma nests_union : Nests union := by
  intro before group after
  refine Name.ascending_congr fun n => ?_
  simp [union, Name.mem_ascending]

lemma union_ascending (names : List Name) : union [Name.ascending names] = Name.ascending names := by
  rw [union, List.flatten_singleton]
  exact Name.ascending_congr fun n => Name.mem_ascending

lemma mem_union {sets : List (List Name)} {n : Name} : n ∈ union sets ↔ ∃ set ∈ sets, n ∈ set := by
  rw [union, Name.mem_ascending, List.mem_flatten]

lemma callables_eq_parts (p : Provider) (id : CallableId) :
    p.callables id = p.parts.flatMap (ownCallables id) :=
  gather_eq_parts nests_flatten (fun _ => List.flatten_singleton) p

lemma callables_chain (members : List Provider) (id : CallableId) :
    (chain members).callables id = members.flatMap (·.callables id) :=
  gather_chain members

lemma mem_gather_chain {own : Provider → List Name} {members : List Provider} {n : Name} :
    n ∈ (chain members).gather own union ↔ ∃ p ∈ members, n ∈ p.gather own union := by
  simp only [gather_chain, mem_union, List.mem_map, exists_exists_and_eq_and]

lemma firstClassifier_cons (p : Provider) (rest : List Provider) (id : ClassId) :
    firstClassifier (p :: rest) id = p.classifier id >>= fun found =>
      found.elim (firstClassifier rest id) fun c => return some c := by
  rw [firstClassifier]
  congr 1
  funext found
  cases found with
  | some c => rfl
  | none => rfl

lemma firstClassifier_append (before after : List Provider) (id : ClassId) :
    firstClassifier (before ++ after) id = firstClassifier before id >>= fun found =>
      found.elim (firstClassifier after id) fun c => return some c := by
  induction before with
  | nil => rw [List.nil_append, firstClassifier, pure_bind, Option.elim_none]
  | cons p rest ih =>
    rw [List.cons_append, firstClassifier_cons, firstClassifier_cons, bind_assoc, ih]
    congr 1
    funext found
    cases found with
    | some c => rw [Option.elim_some, Option.elim_some, pure_bind, Option.elim_some]
    | none => rw [Option.elim_none, Option.elim_none]

lemma firstClassifier_singleton (p : Provider) (id : ClassId) :
    firstClassifier [p] id = p.classifier id := by
  have hlast : ∀ found : Option Symbol.Class,
      found.elim (firstClassifier [] id) (fun c => return some c) = pure found := by
    intro found
    cases found with
    | some c => rw [Option.elim_some]
    | none => rw [Option.elim_none, firstClassifier]
  rw [firstClassifier_cons, funext hlast, bind_pure]

-- a chain inside a chain is asked where it stands, with its own members in order
mutual

lemma firstClassifier_parts (id : ClassId) :
    ∀ p : Provider, firstClassifier p.parts id = p.classifier id
  | .chain members => by rw [parts, classifier, firstClassifier_partsAll id members]
  | .registry _ | .builtins | .library _ | .actualizing _ => by
    rw [parts, firstClassifier_singleton]
    simp

lemma firstClassifier_partsAll (id : ClassId) :
    ∀ members, firstClassifier (partsAll members) id = firstClassifier members id
  | [] => by rw [partsAll]
  | p :: rest => by
    rw [partsAll, firstClassifier_append, firstClassifier_parts id p,
      firstClassifier_partsAll id rest, firstClassifier_cons]

end

lemma classifier_nested (before group after : List Provider) (id : ClassId) :
    (chain (before ++ chain group :: after)).classifier id =
      (chain (before ++ group ++ after)).classifier id := by
  rw [classifier, classifier, firstClassifier_append, firstClassifier_cons, classifier,
    List.append_assoc, firstClassifier_append, firstClassifier_append]

structure SameAnswers (p q : Provider) : Prop where
  classifier : ∀ id, p.classifier id = q.classifier id
  hasPackage : ∀ package, p.hasPackage package = q.hasPackage package
  freeFunctions : ∀ package name, p.freeFunctions package name = q.freeFunctions package name
  members : ∀ owner name, p.members owner name = q.members owner name
  packageNames : p.packageNames = q.packageNames
  classNamesIn : ∀ package, p.classNamesIn package = q.classNamesIn package
  callableNamesIn : ∀ package, p.callableNamesIn package = q.callableNamesIn package

lemma sameAnswers_nested (before group after : List Provider) :
    SameAnswers (chain (before ++ chain group :: after)) (chain (before ++ group ++ after)) where
  classifier id := classifier_nested before group after id
  hasPackage _ := gather_nested nests_any before group after
  freeFunctions _ _ := gather_nested nests_flatten before group after
  members _ _ := gather_nested nests_flatten before group after
  packageNames := gather_nested nests_union before group after
  classNamesIn _ := gather_nested nests_union before group after
  callableNamesIn _ := gather_nested nests_union before group after

lemma sameAnswers_flat (p : Provider) : SameAnswers p (chain p.parts) where
  classifier id := by rw [Provider.classifier, firstClassifier_parts]
  hasPackage _ := gather_flat nests_any (by simp) p
  freeFunctions _ _ := gather_flat nests_flatten (by simp) p
  members _ _ := gather_flat nests_flatten (by simp) p
  packageNames := gather_flat nests_union (fun _ => union_ascending _) p
  classNamesIn _ := gather_flat nests_union (fun _ => union_ascending _) p
  callableNamesIn _ := gather_flat nests_union (fun _ => union_ascending _) p

end Provider

end ClrCompiler
