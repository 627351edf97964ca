import ClrCompiler.Proofs.CodeTree.Unambiguous

/-! The lines of a rendering. If no text of a tree holds a line break, its lines are opening tags,
closing tags and leaves, the tags match like brackets, and every line is indented by four blanks for
each tag around it. A node looks the same wherever it stands, moved to the right as a whole. -/

namespace ClrCompiler.CodeTree

open Output

def textLines (text : String) : List (List Char) := text.toList.splitOn '\n'

def Inline (text : List Char) : Prop := '<' ∉ text ∧ '>' ∉ text ∧ '\n' ∉ text

def IsLabel (label : List Char) : Prop := label ≠ [] ∧ ∀ c ∈ label, c.isAlpha ∨ c = '.'

-- given by name: the one that inference finds may go through all characters there are
instance (label : List Char) : Decidable (IsLabel label) :=
  @instDecidableAnd _ _ _ (List.decidableBAll _ label)

/-- A tag with the first label is closed by one with the second. Only the branches of a conditional
show a type, and it is not repeated. -/
inductive Closes : List Char → List Char → Prop
  | bare {label : List Char} : IsLabel label → Closes label label
  | typed {label type : List Char} : label = "content".toList ∨ label = "else".toList →
      Inline type → Closes (label ++ " type=\"".toList ++ type ++ ['"']) label

inductive IsLeaf : List Char → Prop
  | none : IsLeaf "<CodeNode.None />".toList
  | text {content : List Char} : Inline content →
      IsLeaf ("<PlainNode.Plain>".toList ++ content ++ "</PlainNode.Plain>".toList)

/-- The lines go on inside tags that are to be closed with the labels `opened`, the innermost first,
and end when all are closed. -/
inductive Nested : List (List Char) → List (List Char) → Prop
  | done : Nested [] []
  | opening {opened rest : List (List Char)} {label closer : List Char} : Closes label closer →
      Nested (closer :: opened) rest →
      Nested opened ((indentation opened.length ++ '<' :: (label ++ ['>'])) :: rest)
  | closing {opened rest : List (List Char)} {closer : List Char} : Nested opened rest →
      Nested (closer :: opened)
        ((indentation opened.length ++ '<' :: '/' :: (closer ++ ['>'])) :: rest)
  | leaf {opened rest : List (List Char)} {content : List Char} : IsLeaf content →
      Nested opened rest → Nested opened ((indentation opened.length ++ content) :: rest)

def level (line : List Char) : Nat := (line.takeWhile (· = ' ')).length / 4

lemma level_eq (k : Nat) (rest : List Char) : level (indentation k ++ '<' :: rest) = k := by
  have hblanks : ∀ c ∈ indentation k, decide (c = ' ') = true := by
    intro c hc
    simpa using (List.mem_replicate.mp hc).2
  rw [level, List.takeWhile_append_of_pos hblanks]
  simp [indentation]

lemma newline_notMem_indentation (k : Nat) : '\n' ∉ indentation k := by
  intro h
  exact absurd (List.mem_replicate.mp h).2 (by decide)

lemma IsLeaf.begins {content : List Char} (h : IsLeaf content) :
    ∃ rest, content = '<' :: rest := by
  cases h with
  | none => exact ⟨_, rfl⟩
  | text => exact ⟨_, rfl⟩

lemma IsLabel.newline_notMem {label : List Char} (h : IsLabel label) : '\n' ∉ label := by
  intro hin
  exact absurd (h.2 '\n' hin) (by decide)

lemma Closes.newline_notMem {label closer : List Char} (h : Closes label closer) :
    '\n' ∉ label ∧ '\n' ∉ closer := by
  cases h with
  | bare h => exact ⟨h.newline_notMem, h.newline_notMem⟩
  | typed h ht =>
    have hcloser : '\n' ∉ closer := by
      rcases h with rfl | rfl <;> decide
    exact ⟨by simp [hcloser, ht.2.2], hcloser⟩

namespace Nested

variable {opened ls : List (List Char)} {l : List Char}

-- up to one level, a line tells how many tags are open before it and how many after it
lemma first (h : Nested opened (l :: ls)) :
    (level l ≤ opened.length ∧ opened.length ≤ level l + 1) ∧ ∃ next, Nested next ls ∧
      level l ≤ next.length ∧ next.length ≤ level l + 1 := by
  cases h with
  | @opening _ _ label closer _ hrest =>
    rw [level_eq]
    exact ⟨by omega, closer :: opened, hrest, by simp, by simp⟩
  | @closing opened _ _ hrest =>
    rw [level_eq]
    exact ⟨by simp, opened, hrest, by simp, by simp⟩
  | leaf hleaf hrest =>
    obtain ⟨rest, rfl⟩ := hleaf.begins
    rw [level_eq]
    exact ⟨by simp, opened, hrest, by simp, by simp⟩

lemma level_head? (h : Nested [] ls) (hne : ls ≠ []) : ls.head?.map level = some 0 := by
  cases ls with
  | nil => exact absurd rfl hne
  | cons l ls => exact congrArg some (Nat.le_zero.mp h.first.1.1)

lemma level_getLast? (h : Nested opened ls) (hne : ls ≠ []) : ls.getLast?.map level = some 0 := by
  induction ls generalizing opened with
  | nil => exact absurd rfl hne
  | cons l ls ih =>
    obtain ⟨-, next, hnext, hle, -⟩ := h.first
    cases ls with
    | nil =>
      cases hnext
      exact congrArg some (Nat.le_zero.mp hle)
    | cons m ms => exact ih hnext (List.cons_ne_nil m ms)

lemma isChain_level (h : Nested opened ls) :
    ls.IsChain fun a b => level a ≤ level b + 1 ∧ level b ≤ level a + 1 := by
  induction ls generalizing opened with
  | nil => exact .nil
  | cons a ls ih =>
    obtain ⟨-, next, hnext, hle, hge⟩ := h.first
    cases ls with
    | nil => exact .singleton a
    | cons b ls =>
      obtain ⟨⟨hle', hge'⟩, -⟩ := hnext.first
      exact .cons_cons ⟨by omega, by omega⟩ (ih hnext)

lemma begins (h : Nested opened ls) :
    ∀ l ∈ ls, ∃ rest, l = indentation (level l) ++ '<' :: rest := by
  induction h with
  | done => exact fun l hl => absurd hl List.not_mem_nil
  | opening _ _ ih => exact List.forall_mem_cons.mpr ⟨⟨_, by rw [level_eq]⟩, ih⟩
  | closing _ ih => exact List.forall_mem_cons.mpr ⟨⟨_, by rw [level_eq]⟩, ih⟩
  | leaf hleaf _ ih =>
    obtain ⟨rest, rfl⟩ := hleaf.begins
    exact List.forall_mem_cons.mpr ⟨⟨rest, by rw [level_eq]⟩, ih⟩

-- the labels still to be closed come from earlier lines, so they need a hypothesis of their own
lemma newline_notMem (h : Nested opened ls) (ho : ∀ closer ∈ opened, '\n' ∉ closer) :
    ∀ l ∈ ls, '\n' ∉ l := by
  induction h with
  | done => exact fun l hl => absurd hl List.not_mem_nil
  | opening hcloses _ ih =>
    obtain ⟨hlabel, hcloser⟩ := hcloses.newline_notMem
    refine List.forall_mem_cons.mpr ⟨?_, ih (List.forall_mem_cons.mpr ⟨hcloser, ho⟩)⟩
    simp [newline_notMem_indentation, hlabel]
  | closing _ ih =>
    obtain ⟨hcloser, hopened⟩ := List.forall_mem_cons.mp ho
    refine List.forall_mem_cons.mpr ⟨?_, ih hopened⟩
    simp [newline_notMem_indentation, hcloser]
  | leaf hleaf _ ih =>
    refine List.forall_mem_cons.mpr ⟨?_, ih ho⟩
    cases hleaf with
    | none => simp [newline_notMem_indentation]
    | text hcontent => simp [newline_notMem_indentation, hcontent.2.2]

end Nested

lemma chars_opening (d : Nat) (label : String) :
    (Line.opening d label).chars = indentation d ++ '<' :: (label.toList ++ ['>']) := by
  rw [Line.opening, chars_eq]
  simp

lemma chars_closing (d : Nat) (label : String) :
    (Line.closing d label).chars = indentation d ++ '<' :: '/' :: (label.toList ++ ['>']) := by
  rw [Line.closing, chars_eq]
  simp

lemma newline_notMem_escaped {text : List Char} (h : '\n' ∉ text) : '\n' ∉ escaped text := by
  intro hin
  obtain ⟨c, hc, hin⟩ := List.mem_flatMap.mp hin
  by_cases hb : Bracket c
  · rcases hb with rfl | rfl <;> exact absurd hin (by decide)
  · rw [escapeChar_of_not_bracket hb, List.mem_singleton] at hin
    exact h (hin ▸ hc)

lemma inline_escape {text : String} (h : '\n' ∉ text.toList) : Inline (escape text).toList := by
  rw [toList_escape]
  exact ⟨lt_notMem_escaped _, gt_notMem_escaped _, newline_notMem_escaped h⟩

section

variable {opened : List (List Char)} {label closer : String} {ls rest : List Line}

lemma Nested.openTag (hcloses : Closes label.toList closer.toList)
    (h : Nested (closer.toList :: opened) (ls.map Line.chars)) :
    Nested opened ((Line.opening opened.length label :: ls).map Line.chars) := by
  rw [List.map_cons, chars_opening]
  exact .opening hcloses h

lemma Nested.closeTag (h : Nested opened (ls.map Line.chars)) :
    Nested (closer.toList :: opened)
      ((Line.closing opened.length closer :: ls).map Line.chars) := by
  rw [List.map_cons, chars_closing]
  exact .closing h

lemma Nested.siblings {α : Type} {write : α → List Line → List Line} {as : List α}
    (h : ∀ a ∈ as, ∀ ls, Nested opened (ls.map Line.chars) →
      Nested opened ((write a ls).map Line.chars))
    (hrest : Nested opened (rest.map Line.chars)) :
    Nested opened ((as.foldr write rest).map Line.chars) := by
  induction as with
  | nil => exact hrest
  | cons a as ih =>
    rw [List.foldr_cons]
    exact h a List.mem_cons_self _ (ih fun b hb => h b (List.mem_cons_of_mem a hb))

end

lemma Kind.closes_label {k : Kind} (hk : k ≠ .none) : Closes k.label.toList k.label.toList := by
  have hall : ∀ k ∈ all, k ≠ .none → IsLabel k.label.toList := by decide +kernel
  exact .bare (hall k k.mem_all hk)

namespace Plain

-- nodes are written from the end, so the lines after `p` are the ones already known to be nested
lemma nested (p : Plain) (h : ∀ t ∈ p.texts, '\n' ∉ t.toList) (opened : List (List Char))
    (rest : List Line) (hrest : Nested opened (rest.map Line.chars)) :
    Nested opened ((p.linesOnto opened.length rest).map Line.chars) := by
  match p with
  | .text content =>
    have hcontent : '\n' ∉ content.toList := h content (by simp [texts])
    rw [linesOnto, List.map_cons, chars_eq]
    have hleaf : ["<" ++ textTag ++ ">", escape content, "</" ++ textTag ++ ">"].flatMap
        String.toList = "<PlainNode.Plain>".toList ++ (escape content).toList ++
          "</PlainNode.Plain>".toList := by
      simp [textTag]
    rw [hleaf]
    exact .leaf (.text (inline_escape hcontent)) hrest
  | .group layout children =>
    rw [texts, textsAll_eq_flatMap, List.forall_mem_flatMap] at h
    simp only [linesOnto, linesOntoAll_eq_foldr]
    refine .openTag (Kind.closes_label (k := .plain (some layout)) (by simp)) ?_
    exact .siblings (fun q hq => nested q (h q hq) (_ :: opened)) hrest.closeTag

end Plain

namespace Node

lemma closes_branchLabel {label : String} (hlabel : label = "content" ∨ label = "else")
    {resultType : Option String} (h : ∀ t ∈ resultType, '\n' ∉ t.toList) :
    Closes (branchLabel label resultType).toList label.toList := by
  cases resultType with
  | none =>
    refine .bare ?_
    rcases hlabel with rfl | rfl <;> decide
  | some type =>
    have htyped : (branchLabel label (some type)).toList =
        label.toList ++ " type=\"".toList ++ (escape type).toList ++ ['"'] := by
      simp [branchLabel]
    rw [htyped]
    refine .typed ?_ (inline_escape (h type rfl))
    exact hlabel.imp (congrArg String.toList) (congrArg String.toList)

lemma nested (n : Node) (h : ∀ t ∈ n.texts, '\n' ∉ t.toList) (opened : List (List Char))
    (rest : List Line) (hrest : Nested opened (rest.map Line.chars)) :
    Nested opened ((n.linesOnto opened.length rest).map Line.chars) := by
  match n with
  | .none =>
    rw [linesOnto, List.map_cons, chars_eq]
    exact .leaf .none hrest
  | .plain p =>
    rw [linesOnto]
    rw [texts] at h
    exact p.nested h opened rest hrest
  | .group layout children =>
    rw [texts, textsAll_eq_flatMap, List.forall_mem_flatMap] at h
    simp only [linesOnto, linesOntoAll_eq_foldr]
    refine .openTag (Kind.closes_label (k := .group layout) (by simp)) ?_
    exact .siblings (fun m hm => nested m (h m hm) (_ :: opened)) hrest.closeTag
  | .conditional condition content otherwise resultType =>
    simp only [texts, List.forall_mem_append, Option.mem_toList] at h
    obtain ⟨htype, hcondition, hcontent, hotherwise⟩ := h
    rw [linesOnto]
    refine .openTag (Kind.closes_label (k := .conditional resultType.isSome) (by simp)) ?_
    refine .openTag (.bare (by decide)) ?_
    refine nested condition hcondition (_ :: _ :: opened) _ (.closeTag ?_)
    refine .openTag (closes_branchLabel (.inl rfl) htype) ?_
    refine nested content hcontent (_ :: _ :: opened) _ (.closeTag ?_)
    refine .openTag (closes_branchLabel (.inr rfl) htype) ?_
    exact nested otherwise hotherwise (_ :: _ :: opened) _ hrest.closeTag.closeTag

def Unbroken (n : Node) : Prop := ∀ t ∈ n.texts, '\n' ∉ t.toList

instance (n : Node) : Decidable n.Unbroken := inferInstanceAs (Decidable (∀ t ∈ _, _))

lemma nested_lines {n : Node} (h : n.Unbroken) : Nested [] (n.lines.map Line.chars) :=
  n.nested h [] [] .done

lemma toList_render (n : Node) :
    n.render.toList = ['\n'].intercalate (n.lines.map Line.chars) := by
  have hjoined (ls : List Line) (hne : ls ≠ []) :
      following ls = '\n' :: ['\n'].intercalate (ls.map Line.chars) := by
    induction ls with
    | nil => exact absurd rfl hne
    | cons l ls ih =>
      rw [following_cons]
      cases ls with
      | nil => simp [following]
      | cons m ms =>
        rw [ih (List.cons_ne_nil m ms)]
        simp
  have hlines := following_lines n.lines_ne_nil
  rw [hjoined n.lines n.lines_ne_nil] at hlines
  exact (List.cons.inj hlines).2.symm

lemma textLines_render {n : Node} (h : ∀ l ∈ n.lines, '\n' ∉ l.chars) :
    textLines n.render = n.lines.map Line.chars := by
  rw [textLines, toList_render]
  refine List.splitOn_intercalate '\n' ?_ ?_
  · exact List.forall_mem_map.mpr h
  · simpa using n.lines_ne_nil

lemma Unbroken.newline_notMem {n : Node} (h : n.Unbroken) : ∀ l ∈ n.lines, '\n' ∉ l.chars := by
  have hlines := (nested_lines h).newline_notMem fun closer hc => absurd hc List.not_mem_nil
  exact fun l hl => hlines l.chars (List.mem_map_of_mem hl)

end Node

def Line.deepen (k : Nat) (l : Line) : Line := { l with depth := l.depth + k }

def shifted (k : Nat) (line : List Char) : List Char := indentation k ++ line

lemma chars_deepen (k : Nat) (l : Line) : (l.deepen k).chars = shifted k l.chars := by
  have hindent : indentation (l.depth + k) = indentation k ++ indentation l.depth := by
    simp [indentation, Nat.mul_add, Nat.add_comm]
  rw [Line.deepen, chars_eq, hindent, shifted, List.append_assoc, ← chars_eq]

def Shifts {α : Type} (write : Nat → α → List Line → List Line) (a : α) : Prop :=
  ∀ k d ls rest, write (d + k) a (ls.map (Line.deepen k) ++ rest) =
    (write d a ls).map (Line.deepen k) ++ rest

lemma deepen_opening (k d : Nat) (label : String) :
    (Line.opening d label).deepen k = .opening (d + k) label := rfl

lemma deepen_closing (k d : Nat) (label : String) :
    (Line.closing d label).deepen k = .closing (d + k) label := rfl

lemma Shifts.siblings {α : Type} (write : Nat → α → List Line → List Line) {as : List α}
    (h : ∀ a ∈ as, Shifts write a) : Shifts (fun d as ls => as.foldr (write d) ls) as := by
  intro k d ls rest
  induction as with
  | nil => rfl
  | cons a as ih =>
    have htail := ih fun b hb => h b (List.mem_cons_of_mem a hb)
    simp only [List.foldr_cons] at htail ⊢
    rw [htail, h a List.mem_cons_self]

lemma Shifts.between {α : Type} {write : Nat → α → List Line → List Line} {a : α}
    (h : Shifts write a) (label : String) :
    Shifts (fun d a ls => .opening d label :: write (d + 1) a (.closing d label :: ls)) a := by
  intro k d ls rest
  have hinner := h k (d + 1) (.closing d label :: ls) rest
  simp only [List.map_cons, List.cons_append, deepen_closing] at hinner
  simp only [List.map_cons, List.cons_append, deepen_opening]
  rw [Nat.add_right_comm d k 1, hinner]

lemma Plain.shifts (p : Plain) : Shifts linesOnto p := by
  intro k d ls rest
  match p with
  | .text content => simp [linesOnto, Line.deepen]
  | .group layout children =>
    have hchildren := Shifts.siblings linesOnto fun q (_ : q ∈ children) => q.shifts
    simp only [linesOnto, linesOntoAll_eq_foldr]
    exact hchildren.between (groupTag layout) k d ls rest

lemma Node.shifts (n : Node) : Shifts linesOnto n := by
  intro k d ls rest
  match n with
  | .none => simp [linesOnto, Line.deepen]
  | .plain p =>
    rw [linesOnto, linesOnto]
    exact p.shifts k d ls rest
  | .group layout children =>
    have hchildren := Shifts.siblings linesOnto fun m (_ : m ∈ children) => m.shifts
    simp only [linesOnto, linesOntoAll_eq_foldr]
    exact hchildren.between (groupTag layout) k d ls rest
  | .conditional condition content otherwise resultType =>
    have hcondition := condition.shifts k (d + 2)
    have hcontent := content.shifts k (d + 2)
    have hotherwise := otherwise.shifts k (d + 2)
    simp only [linesOnto, List.map_cons, List.cons_append, deepen_opening, deepen_closing,
      Nat.add_right_comm d k, ← hcondition, ← hcontent, ← hotherwise]

section

variable {α : Type} {write : Nat → α → List Line → List Line}

lemma Shifts.append {a : α} (h : Shifts write a) (d : Nat) (rest : List Line) :
    write d a rest = write d a [] ++ rest := by
  have hsame : Line.deepen 0 = id := rfl
  simpa [hsame] using h 0 d [] rest

lemma Shifts.deepen {a : α} (h : Shifts write a) (d : Nat) :
    write d a [] = (write 0 a []).map (Line.deepen d) := by
  simpa using h d 0 [] []

lemma Shifts.foldr_eq_flatMap {as : List α} (h : ∀ a ∈ as, Shifts write a) (d : Nat)
    (rest : List Line) : as.foldr (write d) rest = (as.flatMap fun a => write d a []) ++ rest := by
  induction as with
  | nil => rfl
  | cons a as ih =>
    rw [List.foldr_cons, ih fun b hb => h b (List.mem_cons_of_mem a hb),
      (h a List.mem_cons_self).append, List.flatMap_cons, List.append_assoc]

end

def Line.between (d : Nat) (label closer : String) (inner : List Line) : List Line :=
  .opening d label :: (inner ++ [.closing d closer])

lemma Plain.linesOnto_group (d : Nat) (layout : PlainLayout) (children : List Plain) :
    linesOnto d (.group layout children) [] = Line.between d (groupTag layout) (groupTag layout)
      (children.flatMap fun p => linesOnto (d + 1) p []) := by
  rw [linesOnto, linesOntoAll_eq_foldr, Shifts.foldr_eq_flatMap fun p _ => p.shifts]
  rfl

namespace Node

lemma linesOnto_group (d : Nat) (layout : Layout) (children : List Node) :
    linesOnto d (.group layout children) [] = Line.between d (groupTag layout) (groupTag layout)
      (children.flatMap fun n => linesOnto (d + 1) n []) := by
  rw [linesOnto, linesOntoAll_eq_foldr, Shifts.foldr_eq_flatMap fun n _ => n.shifts]
  rfl

lemma linesOnto_conditional (d : Nat) (condition content otherwise : Node)
    (resultType : Option String) :
    linesOnto d (.conditional condition content otherwise resultType) [] =
      Line.between d (conditionalTag resultType) (conditionalTag resultType)
        (Line.between (d + 1) "condition" "condition" (linesOnto (d + 2) condition []) ++
          (Line.between (d + 1) (branchLabel "content" resultType) "content"
              (linesOnto (d + 2) content []) ++
            Line.between (d + 1) (branchLabel "else" resultType) "else"
              (linesOnto (d + 2) otherwise []))) := by
  rw [linesOnto, condition.shifts.append, content.shifts.append, otherwise.shifts.append]
  simp [Line.between]

end Node

/-- Among the lines of `f` stand those of `g`; the lines around them are the same for every node. -/
def Embeds {α : Type} (f g : α → List Line) : Prop :=
  ∃ before after, ∀ a, f a = before ++ g a ++ after

section

variable {α : Type} {f g : α → List Line}

lemma Embeds.before (h : Embeds f g) (ls : List Line) : Embeds (fun a => ls ++ f a) g := by
  obtain ⟨before, after, h⟩ := h
  exact ⟨ls ++ before, after, fun a => by simp [h a]⟩

lemma Embeds.after (h : Embeds f g) (ls : List Line) : Embeds (fun a => f a ++ ls) g := by
  obtain ⟨before, after, h⟩ := h
  exact ⟨before, after ++ ls, fun a => by simp [h a]⟩

lemma Embeds.between (h : Embeds f g) (d : Nat) (label closer : String) :
    Embeds (fun a => Line.between d label closer (f a)) g :=
  (h.after [.closing d closer]).before [.opening d label]

end

inductive Plain.Around where
  | here
  | inGroup (layout : PlainLayout) (left : List Plain) (inner : Around) (right : List Plain)

namespace Plain.Around

def fill : Around → Plain → Plain
  | here, p => p
  | inGroup layout left inner right, p => .group layout (left ++ inner.fill p :: right)

def depth : Around → Nat
  | here => 0
  | inGroup _ _ inner _ => 1 + inner.depth

lemma embeds_fill (c : Around) (d : Nat) :
    Embeds (fun p => (c.fill p).linesOnto d []) fun p => p.linesOnto (d + c.depth) [] := by
  induction c generalizing d with
  | here => exact ⟨[], [], fun p => by simp [fill, depth]⟩
  | inGroup layout left inner right ih =>
    simp only [fill, depth, ← Nat.add_assoc, linesOnto_group, List.flatMap_append,
      List.flatMap_cons]
    exact (((ih (d + 1)).after _).before _).between d _ _

end Plain.Around

inductive Node.Around where
  | here
  | inGroup (layout : Layout) (left : List Node) (inner : Around) (right : List Node)
  | inCondition (inner : Around) (content otherwise : Node) (resultType : Option String)
  | inContent (condition : Node) (inner : Around) (otherwise : Node) (resultType : Option String)
  | inOtherwise (condition content : Node) (inner : Around) (resultType : Option String)

namespace Node.Around

def fill : Around → Node → Node
  | here, n => n
  | inGroup layout left inner right, n => .group layout (left ++ inner.fill n :: right)
  | inCondition inner content otherwise resultType, n =>
    .conditional (inner.fill n) content otherwise resultType
  | inContent condition inner otherwise resultType, n =>
    .conditional condition (inner.fill n) otherwise resultType
  | inOtherwise condition content inner resultType, n =>
    .conditional condition content (inner.fill n) resultType

/-- How many tags are open around the place; a branch has one of its own. -/
def depth : Around → Nat
  | here => 0
  | inGroup _ _ inner _ => 1 + inner.depth
  | inCondition inner _ _ _ => 2 + inner.depth
  | inContent _ inner _ _ => 2 + inner.depth
  | inOtherwise _ _ inner _ => 2 + inner.depth

lemma embeds_fill (c : Around) (d : Nat) :
    Embeds (fun n => (c.fill n).linesOnto d []) fun n => n.linesOnto (d + c.depth) [] := by
  induction c generalizing d with
  | here => exact ⟨[], [], fun n => by simp [fill, depth]⟩
  | inGroup layout left inner right ih =>
    simp only [fill, depth, ← Nat.add_assoc, linesOnto_group, List.flatMap_append,
      List.flatMap_cons]
    exact (((ih (d + 1)).after _).before _).between d _ _
  | inCondition inner content otherwise resultType ih =>
    simp only [fill, depth, ← Nat.add_assoc, linesOnto_conditional]
    exact (((ih (d + 2)).between (d + 1) _ _).after _).between d _ _
  | inContent condition inner otherwise resultType ih =>
    simp only [fill, depth, ← Nat.add_assoc, linesOnto_conditional]
    exact ((((ih (d + 2)).between (d + 1) _ _).after _).before _).between d _ _
  | inOtherwise condition content inner resultType ih =>
    simp only [fill, depth, ← Nat.add_assoc, linesOnto_conditional]
    exact ((((ih (d + 2)).between (d + 1) _ _).before _).before _).between d _ _

end Node.Around

namespace Node

lemma Unbroken.textLines_eq {n m : Node} (h : n.Unbroken) {k : Nat} {before after : List Line}
    (hlines : n.lines = before ++ m.lines.map (Line.deepen k) ++ after) :
    textLines n.render =
      before.map Line.chars ++ (textLines m.render).map (shifted k) ++ after.map Line.chars := by
  have hinner : ∀ l ∈ m.lines, '\n' ∉ l.chars := by
    intro l hl hin
    refine h.newline_notMem (l.deepen k) ?_ ?_
    · rw [hlines]
      exact List.mem_append_left _ (List.mem_append_right _ (List.mem_map_of_mem hl))
    · rw [chars_deepen]
      exact List.mem_append_right _ hin
  have hshift : Line.chars ∘ Line.deepen k = shifted k ∘ Line.chars := funext (chars_deepen k)
  rw [textLines_render h.newline_notMem, textLines_render hinner, hlines]
  simp [hshift]

lemma Around.lines_fill (c : Around) : ∃ before after, ∀ n,
    (c.fill n).lines = before ++ n.lines.map (Line.deepen c.depth) ++ after := by
  obtain ⟨before, after, h⟩ := c.embeds_fill 0
  refine ⟨before, after, fun n => ?_⟩
  rw [lines, lines, ← n.shifts.deepen, ← Nat.zero_add c.depth]
  exact h n

lemma lines_plain_fill (d : Plain.Around) : ∃ before after, ∀ p,
    (plain (d.fill p)).lines = before ++ (plain p).lines.map (Line.deepen d.depth) ++ after := by
  obtain ⟨before, after, h⟩ := d.embeds_fill 0
  refine ⟨before, after, fun p => ?_⟩
  rw [lines, lines, linesOnto, linesOnto, ← p.shifts.deepen, ← Nat.zero_add d.depth]
  exact h p

theorem render_outlined :
    (∀ n : Node, n.Unbroken →
      let ls := textLines n.render
      Nested [] ls ∧ (∀ l ∈ ls, ∃ rest, l = indentation (level l) ++ '<' :: rest) ∧
      ls.head?.map level = some 0 ∧ ls.getLast?.map level = some 0 ∧
      ls.IsChain fun a b => level a ≤ level b + 1 ∧ level b ≤ level a + 1) ∧
    (∀ c : Around, ∃ before after, ∀ n, (c.fill n).Unbroken →
      textLines (c.fill n).render =
        before ++ (textLines n.render).map (shifted c.depth) ++ after) ∧
    ∀ (c : Around) (d : Plain.Around), ∃ before after, ∀ p, (c.fill (plain (d.fill p))).Unbroken →
      textLines (c.fill (plain (d.fill p))).render =
        before ++ (textLines (plain p).render).map (shifted (c.depth + d.depth)) ++ after := by
  refine ⟨fun n h => ?_, fun c => ?_, fun c d => ?_⟩
  · have hnested : Nested [] (textLines n.render) := by
      rw [textLines_render h.newline_notMem]
      exact nested_lines h
    have hne : textLines n.render ≠ [] := List.splitOn_ne_nil '\n' n.render.toList
    exact ⟨hnested, hnested.begins, hnested.level_head? hne, hnested.level_getLast? hne,
      hnested.isChain_level⟩
  · obtain ⟨before, after, hlines⟩ := c.lines_fill
    exact ⟨before.map Line.chars, after.map Line.chars, fun n h => h.textLines_eq (hlines n)⟩
  · obtain ⟨before, after, hlines⟩ := c.lines_fill
    obtain ⟨left, right, hplain⟩ := lines_plain_fill d
    refine ⟨(before ++ left.map (Line.deepen c.depth)).map Line.chars,
      (right.map (Line.deepen c.depth) ++ after).map Line.chars, fun p h => h.textLines_eq ?_⟩
    have hdeepen : Line.deepen c.depth ∘ Line.deepen d.depth = Line.deepen (c.depth + d.depth) := by
      funext l
      simp [Line.deepen, Nat.add_comm, Nat.add_left_comm]
    rw [hlines, hplain]
    simp [hdeepen]

def innerBranch : Around :=
  .inGroup .multiLine [.plain (.group .singleLine [.text "if a < b", .text ""])]
    (.inContent (.plain (.text "a")) .here .none (some "List<int>")) []

theorem render_outlined_innerBranch :
    let n := innerBranch.fill (.group .block [.none])
    n.Unbroken ∧ Nested [] (textLines n.render) ∧ ∃ before after, textLines n.render =
      before ++ (textLines (group .block [.none]).render).map (shifted 3) ++ after := by
  intro n
  have h : n.Unbroken := by decide
  obtain ⟨before, after, hlines⟩ := render_outlined.2.1 innerBranch
  exact ⟨h, (render_outlined.1 n h).1, before, after, hlines (.group .block [.none]) h⟩

end Node

end ClrCompiler.CodeTree
