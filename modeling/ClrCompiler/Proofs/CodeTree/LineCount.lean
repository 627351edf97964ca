import ClrCompiler.Proofs.CodeTree.Outline

/-! How many lines a rendering has, whatever its texts are: one for a leaf, two for the tags of a
container, eight for a conditional, and one more for every line break that a text brings along. The
result type of a conditional is shown twice. -/

namespace ClrCompiler.CodeTree

def breaks (text : List Char) : Nat := text.count '\n'

/-- The parts of a tree, and the line breaks inside its texts and its result types. -/
structure Shape where
  leaves : Nat := 0
  containers : Nat := 0
  conditionals : Nat := 0
  textBreaks : Nat := 0
  typeBreaks : Nat := 0

namespace Shape

def add (s t : Shape) : Shape where
  leaves := s.leaves + t.leaves
  containers := s.containers + t.containers
  conditionals := s.conditionals + t.conditionals
  textBreaks := s.textBreaks + t.textBreaks
  typeBreaks := s.typeBreaks + t.typeBreaks

instance : Add Shape := ⟨add⟩

def lines (s : Shape) : Nat :=
  s.leaves + 2 * s.containers + 8 * s.conditionals + s.textBreaks + 2 * s.typeBreaks

lemma lines_add (s t : Shape) : (s + t).lines = s.lines + t.lines := by
  change (s.add t).lines = _
  simp only [lines, add]
  omega

end Shape

namespace Plain

mutual

def shape : Plain → Shape
  | .text content => { leaves := 1, textBreaks := breaks content.toList }
  | .group _ children => { containers := 1 } + shapeAll children

def shapeAll : List Plain → Shape
  | [] => {}
  | p :: ps => shape p + shapeAll ps

end

end Plain

namespace Node

mutual

def shape : Node → Shape
  | .none => { leaves := 1 }
  | .group _ children => { containers := 1 } + shapeAll children
  | .plain p => p.shape
  | .conditional condition content otherwise resultType =>
    { conditionals := 1, typeBreaks := (resultType.map fun t => breaks t.toList).getD 0 } +
      (shape condition + (shape content + shape otherwise))

def shapeAll : List Node → Shape
  | [] => {}
  | n :: ns => shape n + shapeAll ns

end

end Node

lemma breaks_append (s t : List Char) : breaks (s ++ t) = breaks s + breaks t := List.count_append

lemma breaks_cons_newline (s : List Char) : breaks ('\n' :: s) = breaks s + 1 := by
  simp [breaks]

lemma breaks_indentation (d : Nat) : breaks (indentation d) = 0 :=
  List.count_eq_zero.mpr (newline_notMem_indentation d)

lemma breaks_escaped (text : List Char) : breaks (escaped text) = breaks text := by
  have hchar (c : Char) : breaks (escapeChar c) = breaks [c] := by
    by_cases hc : Bracket c
    · rcases hc with rfl | rfl <;> rfl
    · rw [escapeChar_of_not_bracket hc]
  induction text with
  | nil => rfl
  | cons c text ih =>
    rw [escaped_cons, breaks_append, hchar, ih, ← breaks_append, List.singleton_append]

def breaksIn (ls : List Line) : Nat := breaks (following ls)

lemma breaksIn_nil : breaksIn [] = 0 := rfl

lemma breaksIn_cons (l : Line) (ls : List Line) :
    breaksIn (l :: ls) = breaks l.chars + 1 + breaksIn ls := by
  rw [breaksIn, following_cons, breaks_cons_newline, breaks_append, breaksIn]
  omega

lemma breaksIn_append (ls ms : List Line) : breaksIn (ls ++ ms) = breaksIn ls + breaksIn ms := by
  rw [breaksIn, following, List.flatMap_append, breaks_append]
  rfl

lemma breaksIn_between (d : Nat) (label closer : String) (inner : List Line) :
    breaksIn (Line.between d label closer inner) =
      2 + breaks label.toList + breaks closer.toList + breaksIn inner := by
  have hopen : breaks (Line.opening d label).chars = breaks label.toList := by
    rw [chars_opening, breaks_append, breaks_indentation]
    simp [breaks]
  have hclose : breaks (Line.closing d closer).chars = breaks closer.toList := by
    rw [chars_closing, breaks_append, breaks_indentation]
    simp [breaks]
  rw [Line.between, breaksIn_cons, breaksIn_append, breaksIn_cons, breaksIn_nil, hopen, hclose]
  omega

lemma Kind.breaks_label {k : Kind} (hk : k ≠ .none) : breaks k.label.toList = 0 :=
  List.count_eq_zero.mpr (Kind.closes_label hk).newline_notMem.1

lemma breaksIn_flatMap {α : Type} {write : α → List Line} {count : α → Nat} {as : List α}
    (h : ∀ a ∈ as, breaksIn (write a) = count a) :
    breaksIn (as.flatMap write) = as.foldr (fun a total => count a + total) 0 := by
  induction as with
  | nil => rfl
  | cons a as ih =>
    have htail := ih fun b hb => h b (List.mem_cons_of_mem a hb)
    rw [List.flatMap_cons, breaksIn_append, h a List.mem_cons_self, htail, List.foldr_cons]

namespace Plain

lemma lines_shapeAll (ps : List Plain) :
    (shapeAll ps).lines = ps.foldr (fun p total => p.shape.lines + total) 0 := by
  induction ps with
  | nil => rfl
  | cons p ps ih => rw [shapeAll, Shape.lines_add, ih, List.foldr_cons]

lemma breaksIn_linesOnto (p : Plain) (d : Nat) : breaksIn (p.linesOnto d []) = p.shape.lines := by
  match p with
  | .text content =>
    have hopen : breaks ("<" ++ textTag ++ ">").toList = 0 := by decide
    have hclose : breaks ("</" ++ textTag ++ ">").toList = 0 := by decide
    have hparts : breaks (["<" ++ textTag ++ ">", escape content, "</" ++ textTag ++ ">"].flatMap
        String.toList) = breaks content.toList := by
      simp only [List.flatMap_cons, List.flatMap_nil, List.append_nil, breaks_append, hopen, hclose,
        toList_escape, breaks_escaped]
      omega
    rw [linesOnto, breaksIn_cons, breaksIn_nil, chars_eq, breaks_append, breaks_indentation, hparts]
    simp only [shape, Shape.lines]
    omega
  | .group layout children =>
    have hlabel : breaks (groupTag layout).toList = 0 :=
      Kind.breaks_label (k := .plain (some layout)) (by simp)
    have hchildren := breaksIn_flatMap fun q (_ : q ∈ children) => q.breaksIn_linesOnto (d + 1)
    rw [linesOnto_group, breaksIn_between, hlabel, hchildren, shape, Shape.lines_add,
      lines_shapeAll]
    rfl

end Plain

namespace Node

lemma lines_shapeAll (ns : List Node) :
    (shapeAll ns).lines = ns.foldr (fun n total => n.shape.lines + total) 0 := by
  induction ns with
  | nil => rfl
  | cons n ns ih => rw [shapeAll, Shape.lines_add, ih, List.foldr_cons]

lemma breaks_branchLabel (label : String) (h : breaks label.toList = 0)
    (resultType : Option String) : breaks (branchLabel label resultType).toList =
      (resultType.map fun t => breaks t.toList).getD 0 := by
  cases resultType with
  | none => exact h
  | some t =>
    simp only [branchLabel, String.toList_append, toList_escape, breaks_append, breaks_escaped, h]
    simp [breaks]

lemma breaksIn_linesOnto (n : Node) (d : Nat) : breaksIn (n.linesOnto d []) = n.shape.lines := by
  match n with
  | .none =>
    rw [linesOnto, breaksIn_cons, breaksIn_nil, chars_eq, breaks_append, breaks_indentation]
    rfl
  | .plain p =>
    rw [linesOnto, shape]
    exact p.breaksIn_linesOnto d
  | .group layout children =>
    have hlabel : breaks (groupTag layout).toList = 0 :=
      Kind.breaks_label (k := .group layout) (by simp)
    have hchildren := breaksIn_flatMap fun m (_ : m ∈ children) => m.breaksIn_linesOnto (d + 1)
    rw [linesOnto_group, breaksIn_between, hlabel, hchildren, shape, Shape.lines_add,
      lines_shapeAll]
    rfl
  | .conditional condition content otherwise resultType =>
    have hlabel : breaks (conditionalTag resultType).toList = 0 :=
      Kind.breaks_label (k := .conditional resultType.isSome) (by simp)
    have hcontent := breaks_branchLabel "content" rfl resultType
    have helse := breaks_branchLabel "else" rfl resultType
    have hbare : breaks "condition".toList = 0 ∧ breaks "content".toList = 0 ∧
        breaks "else".toList = 0 := ⟨rfl, rfl, rfl⟩
    simp only [linesOnto_conditional, breaksIn_between, breaksIn_append, hlabel, hcontent, helse,
      hbare, condition.breaksIn_linesOnto (d + 2), content.breaksIn_linesOnto (d + 2),
      otherwise.breaksIn_linesOnto (d + 2), shape, Shape.lines_add]
    simp only [Shape.lines]
    omega

-- whatever a node is, its last line is a leaf or a closing tag
lemma lines_ends (n : Node) : ∃ ls l, n.lines = ls ++ [l] ∧ ['>'] <:+ l.chars := by
  have hbetween (label closer : String) (inner : List Line) : ∃ ls l,
      Line.between 0 label closer inner = ls ++ [l] ∧ ['>'] <:+ l.chars := by
    refine ⟨.opening 0 label :: inner, .closing 0 closer, rfl, ?_⟩
    rw [chars_closing]
    exact ⟨indentation 0 ++ '<' :: '/' :: closer.toList, by simp⟩
  match n with
  | .none => exact ⟨[], _, rfl, by rw [chars_eq]; decide⟩
  | .plain (.text content) =>
    refine ⟨[], _, rfl, ?_⟩
    rw [chars_eq]
    refine ⟨indentation 0 ++ ("<" ++ Plain.textTag ++ ">" ++ escape content ++ "</" ++
      Plain.textTag).toList, ?_⟩
    simp
  | .plain (.group layout children) =>
    rw [lines, linesOnto, Plain.linesOnto_group]
    exact hbetween _ _ _
  | .group layout children =>
    rw [lines, linesOnto_group]
    exact hbetween _ _ _
  | .conditional condition content otherwise resultType =>
    rw [lines, linesOnto_conditional]
    exact hbetween _ _ _

lemma render_ends (n : Node) : ['>'] <:+ n.render.toList := by
  obtain ⟨ls, l, hlines, hlast⟩ := n.lines_ends
  have hwritten : following ls ++ '\n' :: l.chars = '\n' :: n.render.toList := by
    rw [render, pieces, ← following_lines n.lines_ne_nil, hlines]
    simp [following]
  have hends : ['>'] <:+ '\n' :: n.render.toList := by
    rw [← hwritten]
    exact hlast.trans ((List.suffix_cons '\n' _).trans (List.suffix_append _ _))
  rcases List.suffix_cons_iff.mp hends with h | h
  · exact absurd (List.cons.inj h).1 (by decide)
  · exact h

theorem breaks_render (n : Node) :
    breaks n.render.toList + 1 =
        n.shape.leaves + 2 * n.shape.containers + 8 * n.shape.conditionals + n.shape.textBreaks +
          2 * n.shape.typeBreaks ∧
      n.render.toList.getLast? ≠ some '\n' := by
  have hlines : breaksIn n.lines = n.shape.lines := n.breaksIn_linesOnto 0
  rw [breaksIn, following_lines n.lines_ne_nil, breaks_cons_newline] at hlines
  obtain ⟨front, hfront⟩ := n.render_ends
  refine ⟨hlines, ?_⟩
  rw [← hfront]
  simp

end Node

end ClrCompiler.CodeTree
