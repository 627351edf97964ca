import Mathlib.Data.List.Induction
import Mathlib.Data.List.Nodup

/-! Tables are lists of keys with values; the first entry of a key counts, and where the keys are
distinct every entry does. Lists without repetitions grow at their end. -/

namespace ClrCompiler

section

variable {κ α : Type} [BEq κ] [LawfulBEq κ] {entries : List (κ × α)} {key : κ} {a : α}

lemma mem_of_lookup (h : entries.lookup key = some a) : (key, a) ∈ entries := by
  obtain ⟨before, after, rfl, -⟩ := List.lookup_eq_some_iff.mp h
  simp

lemma lookup_eq_some_iff_mem (hd : (entries.map Prod.fst).Nodup) :
    entries.lookup key = some a ↔ (key, a) ∈ entries := by
  refine ⟨mem_of_lookup, fun h => ?_⟩
  obtain ⟨before, after, rfl⟩ := List.append_of_mem h
  refine List.lookup_eq_some_iff.mpr ⟨before, after, rfl, fun x hx => ?_⟩
  rw [List.map_append, List.map_cons, List.nodup_append] at hd
  have hne := hd.2.2 x.1 (List.mem_map_of_mem hx) key List.mem_cons_self
  simpa using Ne.symm hne

end

lemma eraseDups_concat {α : Type} [DecidableEq α] (xs : List α) (x : α) :
    (xs ++ [x]).eraseDups = if x ∈ xs then xs.eraseDups else xs.eraseDups ++ [x] := by
  rw [List.eraseDups_append]
  by_cases hx : x ∈ xs <;> simp [List.removeAll, hx, List.eraseDups_cons]

lemma eraseDups_filter_concat {α : Type} [DecidableEq α] (p : α → Bool) (xs : List α) (x : α) :
    ((xs ++ [x]).filter p).eraseDups =
      (xs.filter p).eraseDups ++ if x ∉ xs ∧ p x then [x] else [] := by
  by_cases hp : p x
  · rw [List.filter_append, List.filter_cons_of_pos hp, List.filter_nil, eraseDups_concat]
    by_cases hx : x ∈ xs <;> simp [hx, hp]
  · simp [hp]

lemma nodup_eraseDups {α : Type} [DecidableEq α] (xs : List α) : xs.eraseDups.Nodup := by
  induction xs using List.reverseRecOn with
  | nil => exact List.nodup_nil
  | append_singleton xs x ih =>
    rw [eraseDups_concat]
    split <;> rename_i hx
    · exact ih
    · refine List.nodup_append.mpr ⟨ih, List.nodup_singleton x, ?_⟩
      rintro y hy _ hz rfl
      rw [List.mem_singleton.mp hz, List.mem_eraseDups] at hy
      exact hx hy

end ClrCompiler
