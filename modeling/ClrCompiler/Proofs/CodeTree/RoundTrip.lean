import ClrCompiler.CodeTree.Json
import ClrCompiler.Proofs.Json.Reads

/-! Code trees are read back as they were written, unless their text nests too deep for the reader. -/

namespace ClrCompiler.CodeTree

open ClrCompiler.Json

namespace Plain

mutual

lemma reads : ∀ (fuel : Nat) (p : Plain), Reads fuel (reader fuel) p.toJson p
  | 0, _ => .zero _ _ _
  | fuel + 1, .text content => Choice.reads_value rfl ((Reads.text fuel content).map Plain.text)
  | fuel + 1, .group layout children => by
    have hchildren := ((Reads.list (readsAll fuel children)).mono (Nat.le_succ fuel)).map
      (Plain.group layout)
    cases layout <;> exact Choice.reads_value rfl hchildren

lemma readsAll : ∀ (fuel : Nat) (ps : List Plain),
    List.Forall₂ (Reads fuel (reader fuel)) (toJsonAll ps) ps
  | _, [] => .nil
  | fuel, p :: ps => .cons (reads fuel p) (readsAll fuel ps)

end

end Plain

namespace Node

section

variable {fuel : Nat} {plain : Reader Plain} {children : Reader Node}
  {condition content otherwise : Node}

lemma fills_branches (fields : List (Json.Field Slots)) {ms : List (String × Value)} {s : Slots}
    (hcondition : Reads fuel children condition.toJson condition)
    (hcontent : Reads fuel children content.toJson content)
    (hotherwise : Reads fuel children otherwise.toJson otherwise)
    (hrest : Fills fuel (branchFields children ++ fields)
      ⟨some condition, some content, some otherwise, Option.none⟩ ms s) :
    Fills fuel (branchFields children ++ fields)
      ⟨Option.none, Option.none, Option.none, Option.none⟩
      (("condition", condition.toJson) :: ("content", content.toJson) ::
        ("else_content", otherwise.toJson) :: ms) s :=
  .slot rfl rfl hcondition (.slot rfl rfl hcontent (.slot rfl rfl hotherwise hrest))

lemma reads_statement (hcondition : Reads fuel children condition.toJson condition)
    (hcontent : Reads fuel children content.toJson content)
    (hotherwise : Reads fuel children otherwise.toJson otherwise) :
    Reads (fuel + 1) (statementRecord children).reader
      (.object [("condition", condition.toJson), ("content", content.toJson),
        ("else_content", otherwise.toJson)])
      (.conditional condition content otherwise Option.none) := by
  have hfills := fills_branches [] hcondition hcontent hotherwise (.nil _)
  exact Fills.reads (statementRecord children) hfills rfl

lemma reads_expression (hcondition : Reads fuel children condition.toJson condition)
    (hcontent : Reads fuel children content.toJson content)
    (hotherwise : Reads fuel children otherwise.toJson otherwise) (resultType : String) :
    Reads (fuel + 1) (expressionRecord children).reader
      (.object [("condition", condition.toJson), ("content", content.toJson),
        ("else_content", otherwise.toJson), ("result_type", .text resultType)])
      (.conditional condition content otherwise (some resultType)) := by
  have hresult : Fills fuel (expressionRecord children).fields
      ⟨some condition, some content, some otherwise, Option.none⟩ [("result_type", .text resultType)]
      ⟨some condition, some content, some otherwise, some resultType⟩ :=
    .slot rfl rfl (.text fuel resultType) (.nil _)
  have hfills := fills_branches _ hcondition hcontent hotherwise hresult
  exact Fills.reads (expressionRecord children) hfills rfl

lemma reads_padding {t : Node} {v : Value}
    (h : Reads (fuel + 1) (paddingChoice children).reader v t) :
    Reads (fuel + 1) (choice plain children).reader (.object [("Padding", v)]) t :=
  Choice.reads_value rfl (h.mono (Nat.le_succ fuel))

end

mutual

lemma reads : ∀ (fuel : Nat) (t : Node), Reads fuel (reader fuel) t.toJson t
  | 0, _ => .zero _ _ _
  | fuel + 1, .none => Choice.reads_bare rfl
  | fuel + 1, .plain p =>
    Choice.reads_value rfl (((p.reads (fuel + 1)).mono (Nat.le_succ fuel)).map Node.plain)
  | fuel + 1, .group layout children => by
    have hchildren := ((Reads.list (readsAll fuel children)).mono (Nat.le_succ fuel)).map
      (Node.group layout)
    cases layout with
    | block => exact reads_padding (Choice.reads_value rfl hchildren)
    | _ => exact Choice.reads_value rfl hchildren
  | fuel + 1, .conditional condition content otherwise resultType => by
    have hcondition := reads fuel condition
    have hcontent := reads fuel content
    have hotherwise := reads fuel otherwise
    cases resultType with
    | none =>
      have hrecord := reads_statement hcondition hcontent hotherwise
      exact reads_padding (Choice.reads_record rfl (hrecord.mono (Nat.le_succ fuel)))
    | some resultType =>
      have hrecord := reads_expression hcondition hcontent hotherwise resultType
      exact reads_padding (Choice.reads_record rfl (hrecord.mono (Nat.le_succ fuel)))

lemma readsAll : ∀ (fuel : Nat) (ts : List Node),
    List.Forall₂ (Reads fuel (reader fuel)) (toJsonAll ts) ts
  | _, [] => .nil
  | fuel, t :: ts => .cons (reads fuel t) (readsAll fuel ts)

end

end Node

end ClrCompiler.CodeTree
