import ClrCompiler.Text.Split
import Mathlib.Data.List.Basic

/-! Cutting a text that was put together from parts gives the parts back. -/

namespace ClrCompiler.Text

variable {isSeparator : Char → Bool} {part : List Char}

lemma splitBy_ne_nil (isSeparator : Char → Bool) (text : List Char) :
    splitBy isSeparator text ≠ [] := by
  cases text with
  | nil => exact List.cons_ne_nil _ _
  | cons c rest =>
    rw [splitBy]
    split
    · exact List.cons_ne_nil _ _
    · split <;> exact List.cons_ne_nil _ _

lemma splitBy_eq_singleton (h : ∀ c ∈ part, isSeparator c = false) :
    splitBy isSeparator part = [part] := by
  induction part with
  | nil => rfl
  | cons c part ih =>
    obtain ⟨hc, hpart⟩ := List.forall_mem_cons.mp h
    simp [splitBy, ih hpart, hc]

lemma splitBy_append {separator : Char} (hs : isSeparator separator = true)
    (before rest : List Char) :
    splitBy isSeparator (before ++ separator :: rest) =
      splitBy isSeparator before ++ splitBy isSeparator rest := by
  induction before with
  | nil =>
    obtain ⟨first, others, hrest⟩ := List.exists_cons_of_ne_nil (splitBy_ne_nil isSeparator rest)
    simp [splitBy, hrest, hs]
  | cons c before ih =>
    obtain ⟨first, others, hbefore⟩ :=
      List.exists_cons_of_ne_nil (splitBy_ne_nil isSeparator before)
    rw [hbefore] at ih
    by_cases hc : isSeparator c <;> simp [splitBy, ih, hbefore, hc]

lemma splitBy_append_cons (h : ∀ c ∈ part, isSeparator c = false) {separator : Char}
    (hs : isSeparator separator = true) (rest : List Char) :
    splitBy isSeparator (part ++ separator :: rest) = part :: splitBy isSeparator rest := by
  rw [splitBy_append hs, splitBy_eq_singleton h, List.singleton_append]

lemma splitBy_intercalate {separator : Char} (hs : isSeparator separator = true)
    {parts : List (List Char)} (hne : parts ≠ [])
    (h : ∀ part ∈ parts, ∀ c ∈ part, isSeparator c = false) :
    splitBy isSeparator ([separator].intercalate parts) = parts := by
  induction parts with
  | nil => exact absurd rfl hne
  | cons part parts ih =>
    obtain ⟨hpart, hparts⟩ := List.forall_mem_cons.mp h
    cases parts with
    | nil => rw [List.intercalate_singleton, splitBy_eq_singleton hpart]
    | cons next parts =>
      rw [List.intercalate_cons_cons, List.append_assoc, List.singleton_append,
        splitBy_append_cons hpart hs, ih (List.cons_ne_nil _ _) hparts]

lemma eq_of_append_eq {barred x y r s : List Char} (hx : ∀ c ∈ barred, c ∉ x)
    (hy : ∀ c ∈ barred, c ∉ y) (hr : ∀ c ∈ r.head?, c ∈ barred) (hs : ∀ c ∈ s.head?, c ∈ barred)
    (h : x ++ r = y ++ s) : x = y ∧ r = s := by
  induction x generalizing y with
  | nil =>
    cases y with
    | nil => exact ⟨rfl, h⟩
    | cons b y =>
      have hb : b ∈ r.head? := by simp [show r = b :: (y ++ s) from h]
      exact absurd List.mem_cons_self (hy b (hr b hb))
  | cons a x ih =>
    cases y with
    | nil =>
      have ha : a ∈ s.head? := by simp [show s = a :: (x ++ r) from h.symm]
      exact absurd List.mem_cons_self (hx a (hs a ha))
    | cons b y =>
      obtain ⟨rfl, hcut⟩ := List.cons.inj h
      obtain ⟨rfl, hrest⟩ := ih (fun c hc => List.not_mem_of_not_mem_cons (hx c hc))
        (fun c hc => List.not_mem_of_not_mem_cons (hy c hc)) hcut
      exact ⟨rfl, hrest⟩

section

variable {separator : Char} {text before after : List Char}

lemma cutLast_eq_none (h : separator ∉ text) : cutLast separator text = none := by
  induction text with
  | nil => rfl
  | cons c rest ih =>
    obtain ⟨hc, hrest⟩ := not_or.mp (mt List.mem_cons.mpr h)
    rw [cutLast, ih hrest]
    exact if_neg (Ne.symm hc)

lemma cutLast_append_cons (before : List Char) (h : separator ∉ after) :
    cutLast separator (before ++ separator :: after) = some (before, after) := by
  induction before with
  | nil => simp [cutLast, cutLast_eq_none h]
  | cons c before ih => rw [List.cons_append, cutLast, ih]

lemma exists_cut (h : separator ∈ text) :
    ∃ before after, text = before ++ separator :: after ∧ separator ∉ after := by
  induction text with
  | nil => cases h
  | cons c rest ih =>
    by_cases hrest : separator ∈ rest
    · obtain ⟨before, after, rfl, hafter⟩ := ih hrest
      exact ⟨c :: before, after, rfl, hafter⟩
    · obtain rfl := (List.mem_cons.mp h).resolve_right hrest
      exact ⟨[], rest, rfl, hrest⟩

end

section

variable {text last : String}

lemma beforeLastDot?_eq_none (h : '.' ∉ text.toList) : beforeLastDot? text = none := by
  rw [beforeLastDot?, cutLast_eq_none h, Option.map_none]

lemma toList_dotted (path last : String) :
    (path ++ "." ++ last).toList = path.toList ++ '.' :: last.toList := by
  simp [String.toList_append]

lemma beforeLastDot?_dotted (path : String) (h : '.' ∉ last.toList) :
    beforeLastDot? (path ++ "." ++ last) = some path := by
  rw [beforeLastDot?, toList_dotted, cutLast_append_cons _ h, Option.map_some, String.ofList_toList]

lemma afterLastDot_eq_self (h : '.' ∉ text.toList) : afterLastDot text = text := by
  rw [afterLastDot, cutLast_eq_none h]

lemma afterLastDot_dotted (path : String) (h : '.' ∉ last.toList) :
    afterLastDot (path ++ "." ++ last) = last := by
  rw [afterLastDot, toList_dotted, cutLast_append_cons _ h]
  exact String.ofList_toList

lemma exists_dotted (h : '.' ∈ text.toList) :
    ∃ path last, text = path ++ "." ++ last ∧ '.' ∉ last.toList := by
  obtain ⟨before, after, htext, hafter⟩ := exists_cut h
  refine ⟨String.ofList before, String.ofList after, ?_, by simpa using hafter⟩
  rw [← String.toList_inj, htext, toList_dotted, String.toList_ofList, String.toList_ofList]

end

end ClrCompiler.Text
