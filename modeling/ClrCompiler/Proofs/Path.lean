import ClrCompiler.Path
import ClrCompiler.Proofs.Text.Split
import Mathlib.Data.List.Nodup
import Mathlib.Data.Prod.Lex

/-! Paths are compared by the parts that matter, so all spellings of a path stand at one place, in
the order they came; a name put behind a path adds one part to it. -/

namespace ClrCompiler

/-- The same elements in the same order, seen from any one key. -/
def SameByKey {α κ : Type} [DecidableEq κ] (key : α → κ) (xs ys : List α) : Prop :=
  ∀ k, xs.filter (key · = k) = ys.filter (key · = k)

section

variable {α κ : Type} [DecidableEq κ] {key : α → κ} {xs ys : List α}

lemma SameByKey.trans {zs : List α} (h : SameByKey key xs ys) (h' : SameByKey key ys zs) :
    SameByKey key xs zs :=
  fun k => (h k).trans (h' k)

lemma SameByKey.append_both (h : SameByKey key xs ys) (before after : List α) :
    SameByKey key (before ++ xs ++ after) (before ++ ys ++ after) := by
  intro k
  simp only [List.filter_append, h k]

lemma sameByKey_of_perm (hp : xs.Perm ys) (h : (ys.map key).Nodup) : SameByKey key xs ys := by
  intro k
  have hfilter := hp.filter (key · = k)
  have hshort : (ys.filter (key · = k)).length ≤ 1 := by
    rw [← List.countP_eq_length_filter]
    have hcount := List.nodup_iff_count_le_one.mp h k
    rw [List.count, List.countP_map] at hcount
    exact hcount
  rcases hys : ys.filter (key · = k) with _ | ⟨y, _ | ⟨z, rest⟩⟩
  · rw [hys] at hfilter
    exact hfilter.eq_nil
  · rw [hys] at hfilter
    exact List.perm_singleton.mp hfilter
  · rw [hys] at hshort
    simp at hshort

lemma eq_of_sorted {le : α → α → Prop} (hle : ∀ a b, le a b → le b a → key a = key b)
    (hrefl : ∀ a, le a a) (hxs : xs.Pairwise le) (hys : ys.Pairwise le)
    (h : SameByKey key xs ys) : xs = ys := by
  have hmem {as bs : List α} (hab : SameByKey key as bs) {a : α} (ha : a ∈ as) : a ∈ bs := by
    have hfilter : a ∈ as.filter (key · = key a) := List.mem_filter.mpr ⟨ha, by simp⟩
    rw [hab] at hfilter
    exact (List.mem_filter.mp hfilter).1
  induction xs generalizing ys with
  | nil =>
    cases ys with
    | nil => rfl
    | cons b ys => cases hmem (fun k => (h k).symm) List.mem_cons_self
  | cons a xs ih =>
    cases ys with
    | nil => cases hmem h List.mem_cons_self
    | cons b ys =>
      have hab : le a b := by
        have hb : b ∈ a :: xs := hmem (fun k => (h k).symm) List.mem_cons_self
        rcases List.mem_cons.mp hb with rfl | hb
        · exact hrefl _
        · exact (List.pairwise_cons.mp hxs).1 b hb
      have hba : le b a := by
        have ha : a ∈ b :: ys := hmem h List.mem_cons_self
        rcases List.mem_cons.mp ha with rfl | ha
        · exact hrefl _
        · exact (List.pairwise_cons.mp hys).1 a ha
      have hkey := hle a b hab hba
      -- the first elements have one key, so they are the first ones of that key
      have hhead := h (key b)
      rw [List.filter_cons_of_pos (by simp [hkey]), List.filter_cons_of_pos (by simp)] at hhead
      obtain rfl : a = b := List.head_eq_of_cons_eq hhead
      refine congrArg (a :: ·)
        (ih (List.pairwise_cons.mp hxs).2 (List.pairwise_cons.mp hys).2 fun k => ?_)
      have hk := h k
      by_cases hak : key a = k
      · rw [List.filter_cons_of_pos (by simp [hak]), List.filter_cons_of_pos (by simp [hak])] at hk
        exact List.tail_eq_of_cons_eq hk
      · rwa [List.filter_cons_of_neg (by simp [hak]), List.filter_cons_of_neg (by simp [hak])] at hk

lemma mergeSort_eq {le : α → α → Bool} (htrans : ∀ a b c, le a b → le b c → le a c)
    (htotal : ∀ a b, le a b || le b a) (hkey : ∀ a b, key a = key b ↔ le a b ∧ le b a)
    (h : SameByKey key xs ys) : xs.mergeSort le = ys.mergeSort le := by
  have hsort (zs : List α) : SameByKey key (zs.mergeSort le) zs := by
    intro k
    have hclass : (zs.filter (key · = k)).Pairwise fun a b => le a b := by
      refine List.pairwise_of_forall_mem_list fun a ha b hb => ?_
      have hak := (List.mem_filter.mp ha).2
      have hbk := (List.mem_filter.mp hb).2
      exact ((hkey a b).mp (by simp_all)).1
    have hsub := List.sublist_mergeSort htrans htotal hclass List.filter_sublist
    replace hsub := hsub.filter (key · = k)
    rw [List.filter_filter] at hsub
    simp only [Bool.and_self] at hsub
    exact (hsub.eq_of_length (((List.mergeSort_perm zs le).filter _).length_eq).symm).symm
  refine eq_of_sorted (fun a b hab hba => (hkey a b).mpr ⟨hab, hba⟩)
    (fun a => ((hkey a a).mp rfl).1) (List.pairwise_mergeSort htrans htotal xs)
    (List.pairwise_mergeSort htrans htotal ys) ?_
  exact ((hsort xs).trans h).trans fun k => ((hsort ys) k).symm

end

namespace Path

open Std

namespace Component

def text : Component → String
  | .normal name => name
  | _ => ""

lemma order_eq : order = compareLex (compareOn rank) (compareOn text) := by
  funext a b
  cases a <;> cases b <;> simp [order, compareLex, compareOn, rank, text, Nat.compare_eq_ite_lt]

instance : TransCmp order := by
  rw [order_eq]
  infer_instance

instance : LawfulEqCmp order where
  eq_of_compare {a b} h := by
    rw [order_eq, compareLex, Ordering.then_eq_eq, compareOn, compareOn,
      LawfulEqOrd.compare_eq_iff_eq, LawfulEqOrd.compare_eq_iff_eq] at h
    cases a <;> cases b <;> simp_all [rank, text]

end Component

section

variable {a b c : String}

lemma notAfter_iff :
    notAfter a b ↔ (List.compareLex Component.order (components a) (components b)).isLE := by
  rw [notAfter, order]
  cases List.compareLex Component.order (components a) (components b) <;> simp

lemma notAfter_trans (hab : notAfter a b) (hbc : notAfter b c) : notAfter a c := by
  rw [notAfter_iff] at *
  exact TransCmp.isLE_trans hab hbc

lemma notAfter_total (a b : String) : notAfter a b || notAfter b a := by
  have hswap : List.compareLex Component.order (components a) (components b) =
      (List.compareLex Component.order (components b) (components a)).swap := OrientedCmp.eq_swap
  rw [Bool.or_eq_true, notAfter_iff, notAfter_iff, hswap]
  cases List.compareLex Component.order (components b) (components a) <;> simp

lemma components_eq_iff : components a = components b ↔ notAfter a b ∧ notAfter b a := by
  rw [notAfter_iff, notAfter_iff]
  constructor
  · intro h
    rw [h]
    exact ⟨ReflCmp.isLE_rfl, ReflCmp.isLE_rfl⟩
  · rintro ⟨hab, hba⟩
    exact LawfulEqCmp.eq_of_compare (OrientedCmp.isLE_antisymm hab hba)

end

lemma sorted_mergeSort (paths : List String) :
    (paths.mergeSort notAfter).Pairwise fun a b => notAfter a b := by
  apply List.pairwise_mergeSort
  · exact fun _ _ _ => notAfter_trans
  · exact notAfter_total

lemma mergeSort_notAfter_eq {paths others : List String} (h : SameByKey components paths others) :
    paths.mergeSort notAfter = others.mergeSort notAfter :=
  mergeSort_eq (fun _ _ _ => notAfter_trans) notAfter_total (fun _ _ => components_eq_iff) h

lemma components_mergeSort_eq {paths others : List String} (h : paths.Perm others) :
    (paths.mergeSort notAfter).map components = (others.mergeSort notAfter).map components := by
  have hsorted (zs : List String) : ((zs.mergeSort notAfter).map components).Pairwise fun a b =>
      (List.compareLex Component.order a b).isLE :=
    List.pairwise_map.mpr ((sorted_mergeSort zs).imp notAfter_iff.mp)
  refine List.Perm.eq_of_pairwise (fun a b _ _ hab hba => ?_) (hsorted paths) (hsorted others) ?_
  · exact LawfulEqCmp.eq_of_compare (OrientedCmp.isLE_antisymm hab hba)
  · exact (((List.mergeSort_perm paths _).trans h).trans (List.mergeSort_perm others _).symm).map _

structure IsName (name : String) : Prop where
  nonempty : name ≠ ""
  notDot : name ≠ "."
  notDots : name ≠ ".."
  unslashed : '/' ∉ name.toList

instance (name : String) : Decidable (IsName name) :=
  decidable_of_iff (name ≠ "" ∧ name ≠ "." ∧ name ≠ ".." ∧ '/' ∉ name.toList)
    ⟨fun ⟨he, hd, hds, hs⟩ => ⟨he, hd, hds, hs⟩, fun ⟨he, hd, hds, hs⟩ => ⟨he, hd, hds, hs⟩⟩

section

variable {path name : String}

lemma IsName.isIdle (h : IsName name) : Path.isIdle name = false := by
  simp [Path.isIdle, h.nonempty, h.notDot]

lemma IsName.componentOf (h : IsName name) : Path.componentOf name = some (.normal name) := by
  simp [Path.componentOf, h.isIdle, h.notDots]

lemma segments_ofList_append (before : List Char) {name : String} (h : '/' ∉ name.toList) :
    segments (String.ofList (before ++ '/' :: name.toList)) =
      segments (String.ofList before) ++ [name] := by
  have hpart : ∀ c ∈ name.toList, (c == '/') = false := by
    intro c hc
    simpa using fun he : c = '/' => h (he ▸ hc)
  rw [segments, String.toList_ofList, Text.splitBy_append (by decide),
    Text.splitBy_eq_singleton hpart, List.map_append, segments, String.toList_ofList,
    List.map_singleton, String.ofList_toList]

lemma segments_join (hpath : path ≠ "") (hname : '/' ∉ name.toList) :
    ∃ front, front ≠ [] ∧ (segments path = front ∨ segments path = front ++ [""]) ∧
      segments (join path name) = front ++ [name] := by
  have hne (text : String) : segments text ≠ [] := by
    simpa [segments] using Text.splitBy_ne_nil _ text.toList
  rw [join, if_neg hpath]
  by_cases hslash : path.toList.getLast? = some '/'
  · obtain ⟨before, hbefore⟩ := List.getLast?_eq_some_iff.mp hslash
    refine ⟨segments (String.ofList before), hne _, Or.inr ?_, ?_⟩
    · rw [← segments_ofList_append before (by decide : '/' ∉ "".toList)]
      exact congrArg segments (by rw [← String.toList_inj, hbefore]; simp)
    · rw [if_pos hslash, ← segments_ofList_append before hname]
      exact congrArg segments (by rw [← String.toList_inj, String.toList_append, hbefore]; simp)
  · refine ⟨segments path, hne _, Or.inl rfl, ?_⟩
    have hback := segments_ofList_append path.toList hname
    rw [String.ofList_toList] at hback
    rw [if_neg hslash, ← hback]
    exact congrArg segments (by rw [← String.toList_inj]; simp)

lemma toList_join (name : String) (hpath : path ≠ "") :
    ∃ rest, (join path name).toList = path.toList ++ rest := by
  rw [join, if_neg hpath]
  split
  · exact ⟨_, String.toList_append⟩
  · exact ⟨('/' :: name.toList), by simp⟩

lemma join_ne_empty (hpath : path ≠ "") : join path name ≠ "" := by
  obtain ⟨rest, hrest⟩ := toList_join name hpath
  rw [Ne, ← String.toList_eq_nil_iff] at hpath ⊢
  simp [hrest, hpath]

lemma isAbsolute_join (hpath : path ≠ "") : isAbsolute (join path name) = isAbsolute path := by
  obtain ⟨rest, hrest⟩ := toList_join name hpath
  rw [Ne, ← String.toList_eq_nil_iff] at hpath
  rw [isAbsolute, isAbsolute, hrest, List.head?_append_of_ne_nil _ hpath]

lemma components_join (hpath : path ≠ "") (hname : IsName name) :
    components (join path name) = components path ++ [.normal name] := by
  obtain ⟨front, hne, hfront, hjoin⟩ := segments_join hpath hname.unslashed
  have hidle : Path.componentOf "" = none := rfl
  have hparts : (segments path).filterMap Path.componentOf = front.filterMap Path.componentOf := by
    rcases hfront with h | h <;> simp [h, hidle]
  have hhead : (segments path).head? = front.head? := by
    rcases hfront with h | h
    · rw [h]
    · rw [h, List.head?_append_of_ne_nil _ hne]
  simp only [components, isAbsolute_join hpath, hjoin, hparts, hhead, List.filterMap_append,
    List.head?_append_of_ne_nil _ hne, List.filterMap_cons_some hname.componentOf,
    List.filterMap_nil, List.append_assoc]

end

end Path

end ClrCompiler
