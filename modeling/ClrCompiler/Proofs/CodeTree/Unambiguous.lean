import ClrCompiler.Proofs.CodeTree.Entities
import ClrCompiler.Proofs.Text.Split
import Mathlib.Data.List.Nodup

/-! A rendering can be read back: two trees whose texts spell out no entity render alike only if
they are equal. Every node announces its kind up to the first closing bracket, and what a node writes
never continues what another one writes, so the text that follows a node is determined as well. -/

namespace ClrCompiler.CodeTree

open Output

namespace Plain

mutual

def texts : Plain → List String
  | .text content => [content]
  | .group _ children => textsAll children

def textsAll : List Plain → List String
  | [] => []
  | p :: ps => texts p ++ textsAll ps

end

end Plain

namespace Node

mutual

def texts : Node → List String
  | .none => []
  | .group _ children => textsAll children
  | .plain p => p.texts
  | .conditional condition content otherwise resultType =>
    resultType.toList ++ (texts condition ++ (texts content ++ texts otherwise))

def textsAll : List Node → List String
  | [] => []
  | n :: ns => texts n ++ textsAll ns

end

end Node

lemma eq_of_append_cons_eq {c : Char} {x y r s : List Char} (hx : c ∉ x) (hy : c ∉ y)
    (h : x ++ c :: r = y ++ c :: s) : x = y ∧ r = s := by
  obtain ⟨hparts, hrest⟩ := Text.eq_of_append_eq (List.forall_mem_singleton.mpr hx)
    (List.forall_mem_singleton.mpr hy) (by simp) (by simp) h
  exact ⟨hparts, (List.cons.inj hrest).2⟩

def indentation (depth : Nat) : List Char := List.replicate (4 * depth) ' '

lemma indentation_deeper {d : Nat} {r s : List Char} :
    indentation d ++ '<' :: r ≠ indentation (d + 1) ++ s := by
  have hsplit : indentation (d + 1) = indentation d ++ List.replicate 4 ' ' := by
    rw [indentation, indentation, List.replicate_append_replicate, Nat.mul_succ]
  rw [hsplit, List.append_assoc]
  intro h
  have hcut := List.append_cancel_left h
  simp [List.replicate_succ] at hcut

def Line.chars (l : Line) : List Char := (text l.pieces).toList

def following (ls : List Line) : List Char := ls.flatMap fun l => '\n' :: l.chars

lemma chars_eq (depth : Nat) (parts : List String) :
    Line.chars ⟨depth, parts⟩ = indentation depth ++ parts.flatMap String.toList := by
  have hindent : (List.replicate depth indentUnit).flatMap String.toList = indentation depth := by
    rw [indentation]
    induction depth with
    | zero => rfl
    | succ d ih =>
      rw [List.replicate_succ, List.flatMap_cons, ih, Nat.mul_succ, Nat.add_comm,
        List.replicate_add]
      rfl
  have hparts : (parts.map Piece.text).flatMap Piece.chunks = parts := by
    induction parts with
    | nil => rfl
    | cons p parts ih => simp [Piece.chunks, ih]
  rw [Line.chars, text, String.toList_join, chunks, Line.pieces, List.flatMap_cons, hparts,
    List.flatMap_append, ← hindent]
  rfl

lemma following_cons (l : Line) (ls : List Line) :
    following (l :: ls) = '\n' :: (l.chars ++ following ls) := rfl

lemma following_inj {l : Line} {ls ms : List Line} (h : following (l :: ls) = following (l :: ms)) :
    following ls = following ms :=
  List.append_cancel_left (List.cons.inj h).2

lemma toList_text (ps : List Piece) :
    (text ps).toList = ps.flatMap fun p => p.chunks.flatMap String.toList := by
  rw [text, String.toList_join, chunks, List.flatMap_assoc]

lemma following_lines {ls : List Line} (h : ls ≠ []) :
    following ls = '\n' :: (text (Node.join ls)).toList := by
  cases ls with
  | nil => exact absurd rfl h
  | cons l ls =>
    rw [following_cons, Node.join, toList_text, List.flatMap_append, List.flatMap_assoc, following,
      Line.chars, toList_text]
    simp only [Line.chars, toList_text]
    rfl

lemma following_opening (d : Nat) (label : String) (ls : List Line) :
    following (.opening d label :: ls) =
      '\n' :: (indentation d ++ '<' :: (label.toList ++ '>' :: following ls)) := by
  rw [following_cons, Line.opening, chars_eq]
  simp

lemma following_closing (d : Nat) (label : String) (ls : List Line) :
    following (.closing d label :: ls) =
      '\n' :: (indentation d ++ '<' :: '/' :: (label.toList ++ '>' :: following ls)) := by
  rw [following_cons, Line.closing, chars_eq]
  simp

lemma opening_inj {d : Nat} {k l : String} {ks ls : List Line} (hk : '>' ∉ k.toList)
    (hl : '>' ∉ l.toList) (h : following (.opening d k :: ks) = following (.opening d l :: ls)) :
    k = l ∧ following ks = following ls := by
  rw [following_opening, following_opening] at h
  have hcut := List.append_cancel_left (List.cons.inj h).2
  obtain ⟨hlabel, hrest⟩ := eq_of_append_cons_eq hk hl (List.cons.inj hcut).2
  exact ⟨String.toList_injective hlabel, hrest⟩

inductive Kind where
  | none
  | group (layout : Layout)
  | plain (layout : Option PlainLayout)
  | conditional (isExpression : Bool)
  deriving DecidableEq

namespace Kind

def label : Kind → String
  | .none => Node.noneTag ++ " /"
  | .group layout => Node.groupTag layout
  | .plain (some layout) => Plain.groupTag layout
  | .plain Option.none => Plain.textTag
  | .conditional isExpression => if isExpression then "PaddingNode.IfExp" else "PaddingNode.If"

def all : List Kind :=
  [.none, .group .singleLineList, .group .multiLineList, .group .singleLine, .group .multiLine,
   .group .stringConcatenation, .group .block, .plain (some .singleLine), .plain (some .multiLine),
   .plain Option.none, .conditional true, .conditional false]

lemma mem_all (k : Kind) : k ∈ all := by
  cases k with
  | none => decide
  | group layout => cases layout <;> decide
  | plain layout =>
    cases layout with
    | none => decide
    | some layout => cases layout <;> decide
  | conditional isExpression => cases isExpression <;> decide

lemma label_injective : Function.Injective label := by
  intro k l h
  have hnodup : (all.map label).Nodup := by decide +kernel
  exact List.inj_on_of_nodup_map hnodup k.mem_all l.mem_all h

lemma gt_notMem_label (k : Kind) : '>' ∉ k.label.toList := by
  have hall : ∀ k ∈ all, '>' ∉ k.label.toList := by decide +kernel
  exact hall k k.mem_all

def Opens (k : Kind) (d : Nat) (out : List Char) : Prop :=
  ∃ tail, out = '\n' :: (indentation d ++ '<' :: (k.label.toList ++ '>' :: tail))

lemma Opens.eq {k l : Kind} {d : Nat} {out : List Char} (hk : k.Opens d out) (hl : l.Opens d out) :
    k = l := by
  obtain ⟨tail, rfl⟩ := hk
  obtain ⟨tail', h⟩ := hl
  have hcut := List.append_cancel_left (List.cons.inj h).2
  have hlabel := eq_of_append_cons_eq k.gt_notMem_label l.gt_notMem_label (List.cons.inj hcut).2
  exact label_injective (String.toList_injective hlabel.1)

lemma Opens.ne_closing {k : Kind} {d : Nat} {out : List Char} (h : k.Opens (d + 1) out)
    (label : String) (ls : List Line) : following (.closing d label :: ls) ≠ out := by
  obtain ⟨tail, rfl⟩ := h
  rw [following_closing]
  intro he
  exact indentation_deeper (List.cons.inj he).2

end Kind

lemma siblings_inj {α : Type} {write : α → List Line → List Line} {d : Nat} {label : String}
    (hopens : ∀ a rest, ∃ k : Kind, k.Opens (d + 1) (following (write a rest))) {as bs : List α}
    (hinj : ∀ a ∈ as, ∀ b ∈ bs, ∀ r s, following (write a r) = following (write b s) →
      a = b ∧ following r = following s) {r s : List Line}
    (h : following (as.foldr write (.closing d label :: r)) =
      following (bs.foldr write (.closing d label :: s))) :
    as = bs ∧ following r = following s := by
  induction as generalizing bs with
  | nil =>
    cases bs with
    | nil => exact ⟨rfl, following_inj h⟩
    | cons b bs =>
      obtain ⟨k, hk⟩ := hopens b (bs.foldr write (.closing d label :: s))
      exact absurd h (hk.ne_closing label r)
  | cons a as ih =>
    cases bs with
    | nil =>
      obtain ⟨k, hk⟩ := hopens a (as.foldr write (.closing d label :: r))
      exact absurd h.symm (hk.ne_closing label s)
    | cons b bs =>
      obtain ⟨rfl, hrest⟩ := hinj a List.mem_cons_self b List.mem_cons_self _ _ h
      have htail : ∀ c ∈ as, ∀ e ∈ bs, ∀ r s, following (write c r) = following (write e s) →
          c = e ∧ following r = following s :=
        fun c hc e he => hinj c (List.mem_cons_of_mem a hc) e (List.mem_cons_of_mem a he)
      obtain ⟨rfl, hrs⟩ := ih htail hrest
      exact ⟨rfl, hrs⟩

namespace Plain

def layout? : Plain → Option PlainLayout
  | .text _ => none
  | .group layout _ => some layout

def kind (p : Plain) : Kind := .plain p.layout?

lemma linesOntoAll_eq_foldr (d : Nat) (ps : List Plain) (rest : List Line) :
    linesOntoAll d ps rest = ps.foldr (linesOnto d) rest := by
  induction ps with
  | nil => rw [linesOntoAll, List.foldr_nil]
  | cons p ps ih => rw [linesOntoAll, List.foldr_cons, ih]

lemma textsAll_eq_flatMap (ps : List Plain) : textsAll ps = ps.flatMap texts := by
  induction ps with
  | nil => rw [textsAll, List.flatMap_nil]
  | cons p ps ih => rw [textsAll, List.flatMap_cons, ih]

lemma following_text (d : Nat) (content : String) (rest : List Line) :
    following (linesOnto d (.text content) rest) =
      '\n' :: (indentation d ++ '<' :: (textTag.toList ++ '>' ::
        (escaped content.toList ++ '<' :: ('/' :: textTag.toList ++ '>' :: following rest)))) := by
  rw [linesOnto, following_cons, chars_eq]
  simp [toList_escape]

lemma opens (p : Plain) (d : Nat) (rest : List Line) :
    p.kind.Opens d (following (p.linesOnto d rest)) := by
  cases p with
  | text content => exact ⟨_, following_text d content rest⟩
  | group layout children =>
    rw [linesOnto]
    exact ⟨_, following_opening d (groupTag layout) _⟩

lemma text_inj {x y : String} (hx : EntityFree x) (hy : EntityFree y) {d : Nat} {r s : List Line}
    (h : following (linesOnto d (.text x) r) = following (linesOnto d (.text y) s)) :
    x = y ∧ following r = following s := by
  rw [following_text, following_text] at h
  have hlabel := List.append_cancel_left (List.cons.inj h).2
  have hcontent := List.append_cancel_left (List.cons.inj hlabel).2
  obtain ⟨hxy, htag⟩ := eq_of_append_cons_eq (lt_notMem_escaped _) (lt_notMem_escaped _)
    (List.cons.inj hcontent).2
  have hrest := List.append_cancel_left htag
  exact ⟨String.toList_injective (eq_of_escaped_eq hx.readable hy.readable hxy),
    (List.cons.inj hrest).2⟩

lemma linesOnto_inj (a b : Plain) (ha : ∀ t ∈ a.texts, EntityFree t)
    (hb : ∀ t ∈ b.texts, EntityFree t) (d : Nat) (r s : List Line)
    (h : following (a.linesOnto d r) = following (b.linesOnto d s)) :
    a = b ∧ following r = following s := by
  have hkind : a.kind = b.kind := (a.opens d r).eq (h ▸ b.opens d s)
  match a, b with
  | .text x, .group layout children => cases hkind
  | .group layout children, .text y => cases hkind
  | .text x, .text y =>
    simp only [texts, List.mem_singleton, forall_eq] at ha hb
    obtain ⟨rfl, hrest⟩ := text_inj ha hb h
    exact ⟨rfl, hrest⟩
  | .group layout as, .group _ bs =>
    cases hkind
    rw [texts, textsAll_eq_flatMap, List.forall_mem_flatMap] at ha hb
    rw [linesOnto, linesOnto, linesOntoAll_eq_foldr, linesOntoAll_eq_foldr] at h
    obtain ⟨rfl, hrest⟩ := siblings_inj (fun p rest => ⟨p.kind, p.opens (d + 1) rest⟩)
      (fun a hin b hbin => linesOnto_inj a b (ha a hin) (hb b hbin) (d + 1)) (following_inj h)
    exact ⟨rfl, hrest⟩

end Plain

namespace Node

def kind : Node → Kind
  | .none => .none
  | .group layout _ => .group layout
  | .plain p => p.kind
  | .conditional _ _ _ resultType => .conditional resultType.isSome

lemma eq_none_of_kind {n : Node} (h : n.kind = .none) : n = .none := by
  cases n with
  | none => rfl
  | group => cases h
  | plain => cases h
  | conditional => cases h

lemma eq_group_of_kind {n : Node} {layout : Layout} (h : n.kind = .group layout) :
    ∃ children, n = .group layout children := by
  cases n with
  | none => cases h
  | group _ children =>
    cases h
    exact ⟨children, rfl⟩
  | plain => cases h
  | conditional => cases h

lemma eq_plain_of_kind {n : Node} {layout : Option PlainLayout} (h : n.kind = .plain layout) :
    ∃ p, n = .plain p := by
  cases n with
  | none => cases h
  | group => cases h
  | plain p => exact ⟨p, rfl⟩
  | conditional => cases h

lemma eq_conditional_of_kind {n : Node} {isExpression : Bool}
    (h : n.kind = .conditional isExpression) :
    ∃ condition content otherwise resultType, resultType.isSome = isExpression ∧
      n = .conditional condition content otherwise resultType := by
  cases n with
  | none => cases h
  | group => cases h
  | plain => cases h
  | conditional condition content otherwise resultType =>
    cases h
    exact ⟨condition, content, otherwise, resultType, rfl, rfl⟩

lemma linesOntoAll_eq_foldr (d : Nat) (ns : List Node) (rest : List Line) :
    linesOntoAll d ns rest = ns.foldr (linesOnto d) rest := by
  induction ns with
  | nil => rw [linesOntoAll, List.foldr_nil]
  | cons n ns ih => rw [linesOntoAll, List.foldr_cons, ih]

lemma textsAll_eq_flatMap (ns : List Node) : textsAll ns = ns.flatMap texts := by
  induction ns with
  | nil => rw [textsAll, List.flatMap_nil]
  | cons n ns ih => rw [textsAll, List.flatMap_cons, ih]

lemma opens (n : Node) (d : Nat) (rest : List Line) :
    n.kind.Opens d (following (n.linesOnto d rest)) := by
  cases n with
  | none =>
    rw [linesOnto, following_cons, chars_eq]
    exact ⟨following rest, by simp [kind, Kind.label]⟩
  | group layout children =>
    rw [linesOnto]
    exact ⟨_, following_opening d (groupTag layout) _⟩
  | plain p =>
    rw [linesOnto]
    exact p.opens d rest
  | conditional condition content otherwise resultType =>
    rw [linesOnto]
    exact ⟨_, following_opening d (conditionalTag resultType) _⟩

lemma gt_notMem_branchLabel (label : String) (h : '>' ∉ label.toList)
    (resultType : Option String) : '>' ∉ (branchLabel label resultType).toList := by
  cases resultType with
  | none => exact h
  | some t => simp [branchLabel, h, toList_escape]

lemma branchLabel_inj {label : String} {x y : Option String} (hx : ∀ t ∈ x, EntityFree t)
    (hy : ∀ t ∈ y, EntityFree t) (hsome : x.isSome = y.isSome)
    (h : branchLabel label x = branchLabel label y) : x = y := by
  cases x with
  | none => exact (Option.isNone_iff_eq_none.mp (by simpa using hsome.symm)).symm
  | some s =>
    obtain ⟨t, rfl⟩ := Option.isSome_iff_exists.mp hsome.symm
    have hescape : escape s = escape t := by
      simpa only [branchLabel, String.append_left_inj, String.append_right_inj] using h
    rw [eq_of_escape_eq (hx s rfl) (hy t rfl) hescape]

lemma section_inj {m n : Node} {d : Nat} {k l label : String} {r s : List Line}
    (hk : '>' ∉ k.toList) (hl : '>' ∉ l.toList)
    (hinj : ∀ r s, following (linesOnto (d + 1) m r) = following (linesOnto (d + 1) n s) →
      m = n ∧ following r = following s)
    (h : following (.opening d k :: linesOnto (d + 1) m (.closing d label :: r)) =
      following (.opening d l :: linesOnto (d + 1) n (.closing d label :: s))) :
    k = l ∧ m = n ∧ following r = following s := by
  obtain ⟨rfl, hnode⟩ := opening_inj hk hl h
  obtain ⟨rfl, hclose⟩ := hinj _ _ hnode
  exact ⟨rfl, rfl, following_inj hclose⟩

lemma linesOnto_inj (a b : Node) (ha : ∀ t ∈ a.texts, EntityFree t)
    (hb : ∀ t ∈ b.texts, EntityFree t) (d : Nat) (r s : List Line)
    (h : following (a.linesOnto d r) = following (b.linesOnto d s)) :
    a = b ∧ following r = following s := by
  have hkind : b.kind = a.kind := (b.opens d s).eq (h ▸ a.opens d r)
  match a with
  | .none =>
    obtain rfl := eq_none_of_kind hkind
    rw [linesOnto, linesOnto] at h
    exact ⟨rfl, following_inj h⟩
  | .plain p =>
    obtain ⟨q, rfl⟩ := eq_plain_of_kind hkind
    rw [linesOnto, linesOnto] at h
    rw [texts] at ha hb
    obtain ⟨rfl, hrest⟩ := p.linesOnto_inj q ha hb d r s h
    exact ⟨rfl, hrest⟩
  | .group layout as =>
    obtain ⟨bs, rfl⟩ := eq_group_of_kind hkind
    rw [texts, textsAll_eq_flatMap, List.forall_mem_flatMap] at ha hb
    rw [linesOnto, linesOnto, linesOntoAll_eq_foldr, linesOntoAll_eq_foldr] at h
    obtain ⟨rfl, hrest⟩ := siblings_inj (fun n rest => ⟨n.kind, n.opens (d + 1) rest⟩)
      (fun a hin b hbin => linesOnto_inj a b (ha a hin) (hb b hbin) (d + 1)) (following_inj h)
    exact ⟨rfl, hrest⟩
  | .conditional condition content otherwise x =>
    obtain ⟨condition', content', otherwise', y, hsome, rfl⟩ := eq_conditional_of_kind hkind
    have htag : conditionalTag x = conditionalTag y := by
      rw [conditionalTag, ← hsome, conditionalTag]
    simp only [texts, List.forall_mem_append, Option.mem_toList] at ha hb
    obtain ⟨hx, ha₁, ha₂, ha₃⟩ := ha
    obtain ⟨hy, hb₁, hb₂, hb₃⟩ := hb
    rw [linesOnto, linesOnto, htag] at h
    have hcontent := gt_notMem_branchLabel "content" (by decide)
    have helse := gt_notMem_branchLabel "else" (by decide)
    obtain ⟨-, rfl, h₂⟩ := section_inj (by decide) (by decide)
      (linesOnto_inj condition condition' ha₁ hb₁ (d + 2)) (following_inj h)
    obtain ⟨hxy, rfl, h₃⟩ := section_inj (hcontent x) (hcontent y)
      (linesOnto_inj content content' ha₂ hb₂ (d + 2)) h₂
    obtain ⟨-, rfl, hclose⟩ := section_inj (helse x) (helse y)
      (linesOnto_inj otherwise otherwise' ha₃ hb₃ (d + 2)) h₃
    rw [branchLabel_inj hx hy hsome.symm hxy]
    exact ⟨rfl, following_inj hclose⟩

lemma lines_ne_nil (n : Node) : n.lines ≠ [] := by
  intro h
  obtain ⟨tail, htail⟩ := n.opens 0 []
  rw [← lines, h] at htail
  cases htail

theorem render_eq_iff {a b : Node} (ha : ∀ t ∈ a.texts, EntityFree t)
    (hb : ∀ t ∈ b.texts, EntityFree t) : a.render = b.render ↔ a = b := by
  constructor
  · intro h
    have hlines : following a.lines = following b.lines := by
      rw [following_lines a.lines_ne_nil, following_lines b.lines_ne_nil]
      exact congrArg (fun text => '\n' :: text.toList) h
    exact (linesOnto_inj a b ha hb 0 [] [] hlines).1
  · exact congrArg render

-- an entity in a text is written like the bracket it stands for
example : render (.plain (.text "<")) = render (.plain (.text "&lt;")) := by decide

def imitation : Node :=
  let lines := "x</PlainNode.Plain>\n    <CodeNode.None />\n    <PlainNode.Plain>y"
  .group .block [.plain (.text lines), .conditional .none .none .none (some "a\" b=\"\nc")]

def imitated : Node :=
  .group .block [.plain (.text "x"), .none, .plain (.text "y"),
    .conditional .none .none .none (some "a\" b=\"\nc")]

theorem render_eq_iff_imitation :
    (∀ t ∈ imitation.texts, EntityFree t) ∧ (∀ t ∈ imitated.texts, EntityFree t) ∧
      imitation.render ≠ imitated.render := by
  have himitation : ∀ t ∈ imitation.texts, EntityFree t := by decide +kernel
  have himitated : ∀ t ∈ imitated.texts, EntityFree t := by decide +kernel
  refine ⟨himitation, himitated, ?_⟩
  intro h
  have heq := (render_eq_iff himitation himitated).mp h
  injection heq with _ hchildren
  injection hchildren with _ hrest
  injection hrest with hnode
  cases hnode

end Node

end ClrCompiler.CodeTree
