import ClrCompiler.Command.Program
import ClrCompiler.Proofs.CodeTree.RoundTrip
import ClrCompiler.Proofs.Command.Action
import ClrCompiler.Proofs.FileTree

/-! The render command on written trees: it prints the rendering of the tree that was written, or
refuses a text that nests too deep and prints nothing. -/

namespace ClrCompiler

open Output

lemma CodeTree.Node.parse_write (t : Node) :
    parse (String.ofList t.toJson.write) =
      if t.toJson.depth ≤ Json.maxDepth then .ok t else .error .tooDeep :=
  (t.reads (Json.maxDepth + 1)).parse

namespace Command

open ClrCompiler.Command.Action

lemma text_renderPieces (t : CodeTree.Node) : text (renderPieces t) = t.render ++ "\n" := by
  simp [text, renderPieces, chunks, CodeTree.Node.render, Piece.chunks]

lemma readTree_eq {disk : Disk} {path text : String} (h : disk.readText path = .ok text) :
    readTree disk path = (CodeTree.Node.parse text).mapError (.json path) := by
  simp only [readTree, readText, h]
  rfl

lemma exec_renderFrom_ok {w : World} {path : String} {t : CodeTree.Node}
    (h : readTree w.disk path = .ok t) (hout : w.out.TakesAll) :
    exec (renderFrom path none) w = (.ok (), { w with out := { w.out with
      taken := w.out.taken ++ (t.render ++ "\n").toUTF8
      flushes := w.out.flushes + 1 } }) := by
  have hquery := exec_query (readTree · path) w
  rw [h] at hquery
  rw [renderFrom, exec_bind_ok hquery, ← text_renderPieces]
  exact exec_printPieces hout _

lemma exec_renderFrom_error {w : World} {path : String} {output : Option String} {e : Error}
    (h : readTree w.disk path = .error e) : exec (renderFrom path output) w = (.error e, w) := by
  have hquery := exec_query (readTree · path) w
  rw [h] at hquery
  rw [renderFrom, exec_bind_error hquery]

lemma render_path {path : String} (h : isOption path = false) : render [path] = renderFrom path none := by
  have hshort : path ≠ "-o" := by
    rintro rfl
    exact absurd h (by decide)
  have hlong : path ≠ "--output" := by
    rintro rfl
    exact absurd h (by decide)
  simp [render, RenderOptions.parseFrom, hshort, hlong, h]

def endingOf : Except Error Unit → Ending
  | .ok () => silent
  | .error e => errorEnding e

lemma program_render {w : World} {path : String} (h : isOption path = false) :
    program ["render", path] w =
      (endingOf (exec (renderFrom path none) w).1, (exec (renderFrom path none) w).2) := by
  have hdispatch : dispatch "render" [path] = (do render [path]; return silent) := rfl
  have hrun : program ["render", path] w = match exec (dispatch "render" [path]) w with
      | (.ok ending, w) => (ending, w)
      | (.error error, w) => (errorEnding error, w) := rfl
  rw [hrun, hdispatch, render_path h, exec_bind]
  rcases exec (renderFrom path none) w with ⟨_ | _, _⟩ <;> rfl

lemma tooDeep_messages (path : String) : (errorEnding (.json path .tooDeep)).messages =
    "error: invalid JSON in `" ++ path ++ "`: recursion limit exceeded" ++ "\n" := by
  have hopening : "error: invalid JSON in `" = "error: " ++ "invalid JSON in `" := rfl
  have hclosing : "`: recursion limit exceeded" = "`: " ++ "recursion limit exceeded" := rfl
  change "error: " ++ ("invalid JSON in `" ++ path ++ "`: " ++ "recursion limit exceeded") ++ "\n" = _
  rw [hopening, hclosing]
  repeat rw [String.append_assoc]

theorem written_tree_renders (t : CodeTree.Node) :
    let text := String.ofList t.toJson.write
    (CodeTree.Node.parse text = if t.toJson.depth ≤ 127 then .ok t else .error .tooDeep) ∧
      Json.Error.tooDeep.message = "recursion limit exceeded" ∧
      ∀ (w : World) (path : String), w.disk.readText path = .ok text → isOption path = false →
        w.out.TakesAll →
        let run := program ["render", path] w
        (t.toJson.depth ≤ 127 → run.1 = silent ∧ run.2.disk = w.disk ∧
          run.2.out.taken = w.out.taken ++ (t.render ++ "\n").toUTF8) ∧
        (127 < t.toJson.depth → run.2 = w ∧ run.1 = errorEnding (.json path .tooDeep) ∧
          run.1.succeeded = false ∧ ∃ rest, run.1.messages =
            "error: invalid JSON in `" ++ path ++ "`: recursion limit exceeded" ++ rest) := by
  intro text
  have hparse : CodeTree.Node.parse text = if t.toJson.depth ≤ 127 then .ok t else .error .tooDeep :=
    t.parse_write
  refine ⟨hparse, rfl, fun w path hfile hpath hout => ?_⟩
  have hread := readTree_eq hfile
  intro run
  have hrun : run = (endingOf (exec (renderFrom path none) w).1, (exec (renderFrom path none) w).2) :=
    program_render hpath
  clear_value run
  subst hrun
  constructor
  · intro hdepth
    have hok : readTree w.disk path = .ok t := by rw [hread, hparse, if_pos hdepth, Except.mapError]
    rw [exec_renderFrom_ok hok hout]
    exact ⟨rfl, rfl, rfl⟩
  · intro hdepth
    have herror : readTree w.disk path = .error (.json path .tooDeep) := by
      rw [hread, hparse, if_neg (Nat.not_le_of_lt hdepth), Except.mapError]
    rw [exec_renderFrom_error herror]
    exact ⟨rfl, rfl, rfl, "\n", tooDeep_messages path⟩

def nestedLines : Nat → CodeTree.Node
  | 0 => .none
  | n + 1 => .group .singleLine [nestedLines n]

lemma depth_nestedLines (n : Nat) : (nestedLines n).toJson.depth = 2 * n := by
  induction n with
  | zero => rfl
  | succ n ih =>
    have hstep : (nestedLines (n + 1)).toJson.depth =
        max (max (nestedLines n).toJson.depth 0 + 1) 0 + 1 := rfl
    omega

def treeWorld (t : CodeTree.Node) : World :=
  ⟨⟨.directory [("t", .file (String.ofList t.toJson.write).toUTF8)], []⟩, .unlimited⟩

lemma readText_treeWorld (t : CodeTree.Node) :
    (treeWorld t).disk.readText "t" = .ok (String.ofList t.toJson.write) :=
  Disk.readText_of_entry rfl

theorem written_tree_renders_nestedLines :
    (treeWorld (nestedLines 63)).out.TakesAll ∧ isOption "t" = false ∧
      (program ["render", "t"] (treeWorld (nestedLines 63))).2.out.taken =
        ((nestedLines 63).render ++ "\n").toUTF8 ∧
      (program ["render", "t"] (treeWorld (nestedLines 64))).1.succeeded = false := by
  have hout (t : CodeTree.Node) : (treeWorld t).out.TakesAll := Sink.takesAll_unlimited
  have hshallow := (written_tree_renders (nestedLines 63)).2.2 (treeWorld (nestedLines 63)) "t"
    (readText_treeWorld _) (by decide) (hout _)
  have hdeep := (written_tree_renders (nestedLines 64)).2.2 (treeWorld (nestedLines 64)) "t"
    (readText_treeWorld _) (by decide) (hout _)
  refine ⟨hout _, by decide, ?_, ?_⟩
  · rw [(hshallow.1 (by rw [depth_nestedLines]; decide)).2.2]
    exact ByteArray.empty_append
  · exact (hdeep.2 (by rw [depth_nestedLines]; decide)).2.2.1

end Command

end ClrCompiler
