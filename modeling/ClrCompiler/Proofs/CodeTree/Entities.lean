import ClrCompiler.Proofs.CodeTree.Escape

/-! Reading entities back as brackets. A text is read back alike before and after it is escaped, and
as it stands just when it spells out no entity; so two texts are shown alike just when they are read
back alike. -/

namespace ClrCompiler.CodeTree

section

variable {pattern : List Char} {c : Char}

/-- Writes a character for every occurrence of the pattern, from left to right; so many characters
of an occurrence are still to be left out. -/
def replaceFrom (pattern : List Char) (c : Char) : Nat → List Char → List Char
  | _, [] => []
  | skipped + 1, _ :: rest => replaceFrom pattern c skipped rest
  | 0, d :: rest =>
    if pattern <+: d :: rest then c :: replaceFrom pattern c (pattern.length - 1) rest
    else d :: replaceFrom pattern c 0 rest

def replaceAll (pattern : List Char) (c : Char) (text : List Char) : List Char :=
  replaceFrom pattern c 0 text

lemma replaceFrom_length (w rest : List Char) :
    replaceFrom pattern c w.length (w ++ rest) = replaceAll pattern c rest := by
  induction w with
  | nil => rfl
  | cons d w ih =>
    rw [List.length_cons, List.cons_append, replaceFrom]
    exact ih

lemma replaceAll_append (hp : pattern ≠ []) (rest : List Char) :
    replaceAll pattern c (pattern ++ rest) = c :: replaceAll pattern c rest := by
  obtain ⟨d, w, rfl⟩ := List.exists_cons_of_ne_nil hp
  have hfront : d :: w <+: d :: (w ++ rest) := ⟨rest, rfl⟩
  rw [replaceAll, List.cons_append, replaceFrom, if_pos hfront]
  exact congrArg (c :: ·) (replaceFrom_length w rest)

lemma replaceAll_cons {d : Char} {rest : List Char} (h : ¬ pattern <+: d :: rest) :
    replaceAll pattern c (d :: rest) = d :: replaceAll pattern c rest := by
  rw [replaceAll, replaceFrom, if_neg h]
  rfl

lemma replaceAll_skip {a : Char} {tail w : List Char} (ha : a ∉ w) (rest : List Char) :
    replaceAll (a :: tail) c (w ++ rest) = w ++ replaceAll (a :: tail) c rest := by
  induction w with
  | nil => rfl
  | cons d w ih =>
    have hfront : ¬ a :: tail <+: d :: (w ++ rest) := by
      intro h
      exact ha ((List.cons_prefix_cons.mp h).1 ▸ List.mem_cons_self)
    rw [List.cons_append, replaceAll_cons hfront, ih (List.not_mem_of_not_mem_cons ha),
      List.cons_append]

-- what `w` is made of was not put in, so it stood there before
lemma isPrefix_of_replaceAll {w text : List Char} (hp : pattern ≠ []) (hc : c ∉ w)
    (h : w <+: replaceAll pattern c text) : w <+: text := by
  induction w generalizing text with
  | nil => exact List.nil_prefix
  | cons d w ih =>
    obtain ⟨hcd, hc⟩ : c ≠ d ∧ c ∉ w := by simpa using hc
    cases text with
    | nil => exact h
    | cons e text =>
      by_cases hfront : pattern <+: e :: text
      · obtain ⟨rest, hrest⟩ := hfront
        rw [← hrest, replaceAll_append hp] at h
        exact absurd (List.cons_prefix_cons.mp h).1.symm hcd
      · rw [replaceAll_cons hfront] at h
        obtain ⟨rfl, htail⟩ := List.cons_prefix_cons.mp h
        exact List.cons_prefix_cons.mpr ⟨rfl, ih hc htail⟩

end

def unescaped (text : List Char) : List Char :=
  replaceAll "&gt;".toList '>' (replaceAll "&lt;".toList '<' text)

def unescape (text : String) : String := String.ofList (unescaped text.toList)

def Unmarked (text : List Char) : Prop := ∀ c, Bracket c → ¬ escapeChar c <+: text

lemma unescaped_entity {c : Char} (hc : Bracket c) (rest : List Char) :
    unescaped (escapeChar c ++ rest) = c :: unescaped rest := by
  rcases hc with rfl | rfl
  · have hread : replaceAll "&lt;".toList '<' (escapeChar '<' ++ rest) =
        '<' :: replaceAll "&lt;".toList '<' rest := replaceAll_append (by decide) rest
    have hother : ¬ "&gt;".toList <+: '<' :: replaceAll "&lt;".toList '<' rest := by simp
    rw [unescaped, hread, replaceAll_cons hother, unescaped]
  · have hother : ¬ "&lt;".toList <+: '&' :: ("gt;".toList ++ rest) := by simp
    have hkept : replaceAll "&lt;".toList '<' (escapeChar '>' ++ rest) =
        "&gt;".toList ++ replaceAll "&lt;".toList '<' rest := by
      change replaceAll _ _ ('&' :: ("gt;".toList ++ rest)) = _
      rw [replaceAll_cons hother]
      exact congrArg ('&' :: ·) (replaceAll_skip (w := "gt;".toList) (by decide) rest)
    rw [unescaped, hkept, replaceAll_append (by decide), unescaped]

lemma unescaped_cons {d : Char} {rest : List Char} (h : Unmarked (d :: rest)) :
    unescaped (d :: rest) = d :: unescaped rest := by
  have hkept : replaceAll "&lt;".toList '<' (d :: rest) =
      d :: replaceAll "&lt;".toList '<' rest := replaceAll_cons (h '<' (.inl rfl))
  have hother : ¬ "&gt;".toList <+: d :: replaceAll "&lt;".toList '<' rest := by
    intro hfront
    obtain ⟨hd, htail⟩ := List.cons_prefix_cons.mp hfront
    have hname : "gt;".toList <+: rest :=
      isPrefix_of_replaceAll (by decide) (by decide) htail
    exact h '>' (.inr rfl) (List.cons_prefix_cons.mpr ⟨hd, hname⟩)
  rw [unescaped, hkept, replaceAll_cons hother, unescaped]

@[elab_as_elim]
lemma entity_induction {P : List Char → Prop} (nil : P [])
    (entity : ∀ c rest, Bracket c → P rest → P (escapeChar c ++ rest))
    (other : ∀ d rest, Unmarked (d :: rest) → P rest → P (d :: rest)) (text : List Char) :
    P text := by
  induction hn : text.length using Nat.strong_induction_on generalizing text with
  | _ n ih =>
    cases text with
    | nil => exact nil
    | cons d rest =>
      by_cases hmarked : Unmarked (d :: rest)
      · exact other d rest hmarked (ih rest.length (by simp [← hn]) rest rfl)
      · simp only [Unmarked, not_forall, not_not] at hmarked
        obtain ⟨c, hc, tail, htail⟩ := hmarked
        rw [← htail] at hn ⊢
        have hpos := List.length_pos_iff.mpr (escapeChar_ne_nil c)
        rw [List.length_append] at hn
        exact entity c tail hc (ih tail.length (by omega) tail rfl)

lemma escaped_entity {c : Char} (hc : Bracket c) (rest : List Char) :
    escaped (escapeChar c ++ rest) = escapeChar c ++ escaped rest := by
  rcases hc with rfl | rfl <;> rfl

lemma unescaped_escaped (text : List Char) : unescaped (escaped text) = unescaped text := by
  induction text using entity_induction with
  | nil => rfl
  | entity c rest hc ih => rw [escaped_entity hc, unescaped_entity hc, unescaped_entity hc, ih]
  | other d rest hd ih =>
    rw [unescaped_cons hd, escaped_cons]
    by_cases hb : Bracket d
    · rw [unescaped_entity hb, ih]
    · have hstill : Unmarked (d :: escaped rest) := by
        rintro c hc ⟨tail, htail⟩
        obtain ⟨name, hname, he⟩ := escapeChar_of_bracket hc
        rw [he] at htail
        obtain ⟨rfl, hcut⟩ := List.cons.inj htail
        obtain ⟨before, rfl, -⟩ := eq_append_of_escaped_eq hname hcut.symm
        exact hd c hc ⟨before, by rw [he]; rfl⟩
      rw [escapeChar_of_not_bracket hb, List.singleton_append, unescaped_cons hstill, ih]

lemma escaped_unescaped (text : List Char) : escaped (unescaped text) = escaped text := by
  induction text using entity_induction with
  | nil => rfl
  | entity c rest hc ih => rw [unescaped_entity hc, escaped_cons, ih, escaped_entity hc]
  | other d rest hd ih => rw [unescaped_cons hd, escaped_cons, ih, escaped_cons]

lemma unescaped_eq_self_iff (text : List Char) : unescaped text = text ↔ Readable text := by
  induction text using entity_induction with
  | nil =>
    refine iff_of_true rfl fun c _ hin => ?_
    exact escapeChar_ne_nil c (List.infix_nil.mp hin)
  | entity c rest hc ih =>
    rw [unescaped_entity hc]
    constructor
    · intro h
      obtain ⟨name, -, he⟩ := escapeChar_of_bracket hc
      rw [he] at h
      obtain ⟨rfl, -⟩ := List.cons.inj h
      exact absurd hc (by simp [Bracket])
    · intro h
      exact absurd (List.prefix_append _ _).isInfix (h c hc)
  | other d rest hd ih =>
    rw [unescaped_cons hd, List.cons_inj_right, ih]
    refine ⟨fun h c hc hin => ?_, Readable.tail⟩
    rcases List.infix_cons_iff.mp hin with hfront | hrest
    · exact hd c hc hfront
    · exact h c hc hrest

lemma eq_of_escaped_eq {xs ys : List Char} (hx : Readable xs) (hy : Readable ys)
    (h : escaped xs = escaped ys) : xs = ys := by
  rw [← (unescaped_eq_self_iff xs).mpr hx, ← (unescaped_eq_self_iff ys).mpr hy,
    ← unescaped_escaped, h, unescaped_escaped]

lemma toList_unescape (text : String) : (unescape text).toList = unescaped text.toList :=
  String.toList_ofList

lemma unescape_eq_self_iff (text : String) : unescape text = text ↔ EntityFree text := by
  rw [← String.toList_inj, toList_unescape, unescaped_eq_self_iff]
  exact ⟨fun h => ⟨h '<' (.inl rfl), h '>' (.inr rfl)⟩, EntityFree.readable⟩

lemma unescape_escape (text : String) : unescape (escape text) = unescape text := by
  rw [unescape, toList_escape, unescaped_escaped, unescape]

lemma escape_unescape (text : String) : escape (unescape text) = escape text := by
  rw [← String.toList_inj, toList_escape, toList_unescape, escaped_unescaped, toList_escape]

lemma escape_eq_iff (s t : String) : escape s = escape t ↔ unescape s = unescape t := by
  constructor
  · intro h
    rw [← unescape_escape, h, unescape_escape]
  · intro h
    rw [← escape_unescape, h, escape_unescape]

lemma eq_of_escape_eq {s t : String} (hs : EntityFree s) (ht : EntityFree t)
    (h : escape s = escape t) : s = t := by
  rw [← (unescape_eq_self_iff s).mpr hs, ← (unescape_eq_self_iff t).mpr ht]
  exact (escape_eq_iff s t).mp h

namespace Node

lemma render_text (text : String) :
    render (.plain (.text text)) = "<PlainNode.Plain>" ++ escape text ++ "</PlainNode.Plain>" := by
  simp [render, pieces, lines, linesOnto, Plain.linesOnto, join, Line.pieces, Output.text,
    Output.chunks, Output.Piece.chunks, Plain.textTag, String.append_assoc]

lemma render_text_eq_iff (s t : String) :
    render (.plain (.text s)) = render (.plain (.text t)) ↔ unescape s = unescape t := by
  rw [render_text, render_text, String.append_left_inj, String.append_right_inj, escape_eq_iff]

theorem render_text_read_back (text : String) :
    ∃ inner, render (.plain (.text text)) = "<PlainNode.Plain>" ++ inner ++ "</PlainNode.Plain>" ∧
      '<' ∉ inner.toList ∧ '>' ∉ inner.toList ∧ unescape inner = unescape text ∧
      (unescape inner = text ↔ EntityFree text) ∧
      ∀ other, (render (.plain (.text other)) = render (.plain (.text text)) ↔
          unescape other = unescape text) ∧
        (EntityFree other → EntityFree text → other ≠ text →
          render (.plain (.text other)) ≠ render (.plain (.text text))) := by
  have hbrackets : '<' ∉ (escape text).toList ∧ '>' ∉ (escape text).toList := by
    rw [toList_escape]
    exact ⟨lt_notMem_escaped _, gt_notMem_escaped _⟩
  refine ⟨escape text, render_text text, hbrackets.1, hbrackets.2, unescape_escape text, ?_, ?_⟩
  · rw [unescape_escape, unescape_eq_self_iff]
  · refine fun other => ⟨render_text_eq_iff other text, fun ho ht hne halike => hne ?_⟩
    exact eq_of_escape_eq ho ht ((escape_eq_iff _ _).mpr ((render_text_eq_iff _ _).mp halike))

theorem render_text_read_back_halfEntities :
    EntityFree "&<lt;" ∧ EntityFree "&l<t;" ∧ unescape (escape "&l<t;") = "&l<t;" ∧
      render (.plain (.text "&<lt;")) ≠ render (.plain (.text "&l<t;")) := by
  have hother : EntityFree "&<lt;" := by decide +kernel
  have htext : EntityFree "&l<t;" := by decide +kernel
  obtain ⟨inner, hinner, -, -, -, hread, halike⟩ := render_text_read_back "&l<t;"
  rw [render_text, String.append_left_inj, String.append_right_inj] at hinner
  exact ⟨hother, htext, hinner ▸ hread.mpr htext, (halike "&<lt;").2 hother htext (by decide)⟩

theorem render_text_entity_lost :
    render (.plain (.text "&lt;")) = "<PlainNode.Plain>" ++ "&lt;" ++ "</PlainNode.Plain>" ∧
      unescape "&lt;" = "<" ∧ "<" ≠ "&lt;" ∧
      render (.plain (.text "<")) = render (.plain (.text "&lt;")) := by
  decide +kernel

end Node

end ClrCompiler.CodeTree
