import ClrCompiler.CodeTree.Render
import Mathlib.Data.List.Infix

/-! Escaping writes no angle bracket, and what it writes without an ampersand stood there before. -/

namespace ClrCompiler.CodeTree

def EntityFree (text : String) : Prop :=
  ¬ "&lt;".toList <:+: text.toList ∧ ¬ "&gt;".toList <:+: text.toList

instance (text : String) : Decidable (EntityFree text) := inferInstanceAs (Decidable (_ ∧ _))

def Bracket (c : Char) : Prop := c = '<' ∨ c = '>'

def escaped (text : List Char) : List Char := text.flatMap escapeChar

lemma toList_escape (text : String) : (escape text).toList = escaped text.toList :=
  String.toList_ofList

lemma escapeChar_of_not_bracket {c : Char} (h : ¬ Bracket c) : escapeChar c = [c] := by
  obtain ⟨hl, hg⟩ := not_or.mp h
  rw [escapeChar, if_neg hl, if_neg hg]

lemma escapeChar_of_bracket {c : Char} (h : Bracket c) :
    ∃ name, '&' ∉ name ∧ escapeChar c = '&' :: name := by
  rcases h with rfl | rfl
  · exact ⟨['l', 't', ';'], by decide, rfl⟩
  · exact ⟨['g', 't', ';'], by decide, rfl⟩

lemma escapeChar_ne_nil (c : Char) : escapeChar c ≠ [] := by
  by_cases h : Bracket c
  · obtain ⟨name, -, he⟩ := escapeChar_of_bracket h
    simp [he]
  · simp [escapeChar_of_not_bracket h]

lemma not_bracket_of_mem_escapeChar {c d : Char} (h : d ∈ escapeChar c) : ¬ Bracket d := by
  by_cases hc : Bracket c
  · have hall : ∀ e ∈ escapeChar c, e ≠ '<' ∧ e ≠ '>' := by
      rcases hc with rfl | rfl <;> simp [escapeChar]
    exact not_or.mpr (hall d h)
  · rw [escapeChar_of_not_bracket hc, List.mem_singleton] at h
    rwa [h]

lemma not_bracket_of_mem_escaped {text : List Char} {c : Char} (h : c ∈ escaped text) :
    ¬ Bracket c := by
  obtain ⟨d, -, hd⟩ := List.mem_flatMap.mp h
  exact not_bracket_of_mem_escapeChar hd

@[simp] lemma lt_notMem_escaped (text : List Char) : '<' ∉ escaped text :=
  fun h => not_bracket_of_mem_escaped h (.inl rfl)

@[simp] lemma gt_notMem_escaped (text : List Char) : '>' ∉ escaped text :=
  fun h => not_bracket_of_mem_escaped h (.inr rfl)

lemma escaped_cons (c : Char) (text : List Char) :
    escaped (c :: text) = escapeChar c ++ escaped text :=
  List.flatMap_cons

-- what is written without an ampersand stood there before
lemma eq_append_of_escaped_eq {w : List Char} (hw : '&' ∉ w) {text rest : List Char}
    (h : escaped text = w ++ rest) : ∃ tail, text = w ++ tail ∧ escaped tail = rest := by
  induction w generalizing text with
  | nil => exact ⟨text, rfl, h⟩
  | cons c w ih =>
    obtain ⟨hc, hrest⟩ : '&' ≠ c ∧ '&' ∉ w := by simpa using hw
    cases text with
    | nil => simp [escaped] at h
    | cons d text =>
      rw [escaped_cons, List.cons_append] at h
      by_cases hd : Bracket d
      · obtain ⟨name, -, he⟩ := escapeChar_of_bracket hd
        rw [he] at h
        exact absurd (List.cons.inj h).1 hc
      · rw [escapeChar_of_not_bracket hd, List.singleton_append] at h
        obtain ⟨rfl, hcut⟩ := List.cons.inj h
        obtain ⟨tail, rfl, htail⟩ := ih hrest hcut
        exact ⟨tail, rfl, htail⟩

/-- No entity is spelled out in the text: every one in its written form stands for a bracket. -/
def Readable (text : List Char) : Prop := ∀ c, Bracket c → ¬ escapeChar c <:+: text

lemma Readable.tail {c : Char} {text : List Char} (h : Readable (c :: text)) : Readable text :=
  fun d hd hin => h d hd (hin.trans (List.suffix_cons c text).isInfix)

lemma EntityFree.readable {text : String} (h : EntityFree text) : Readable text.toList := by
  rintro c (rfl | rfl)
  · exact h.1
  · exact h.2

end ClrCompiler.CodeTree
