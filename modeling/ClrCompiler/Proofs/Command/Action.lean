import ClrCompiler.Command.World
import ClrCompiler.Proofs.Output.Sink

/-! What an action of a command gives and what it leaves of the disk and the stream. -/

namespace ClrCompiler.Command.Action

open Output

def exec {α : Type} (x : Action α) (w : World) : Except Error α × World := (ExceptT.run x).run w

variable {α β : Type} {x : Action α} {f : α → Action β} {w v : World} {a : α}

lemma exec_pure (a : α) (w : World) : exec (pure a) w = (.ok a, w) := rfl

lemma exec_bind (x : Action α) (f : α → Action β) (w : World) :
    exec (x >>= f) w = match exec x w with
      | (.ok a, v) => exec (f a) v
      | (.error e, v) => (.error e, v) := by
  have hrun : exec (x >>= f) w = ((ExceptT.bindCont f (exec x w).1).run (exec x w).2) := rfl
  rw [hrun]
  rcases exec x w with ⟨_ | _, _⟩ <;> rfl

lemma exec_bind_ok (h : exec x w = (.ok a, v)) : exec (x >>= f) w = exec (f a) v := by
  rw [exec_bind, h]

lemma exec_bind_error {e : Error} (h : exec x w = (.error e, v)) :
    exec (x >>= f) w = (.error e, v) := by
  rw [exec_bind, h]

lemma exec_bind_eq_ok {b : β} (h : exec (x >>= f) w = (.ok b, v)) :
    ∃ a u, exec x w = (.ok a, u) ∧ exec (f a) u = (.ok b, v) := by
  rw [exec_bind] at h
  rcases hx : exec x w with ⟨e | a, u⟩ <;> rw [hx] at h
  · cases h
  · exact ⟨a, u, rfl, h⟩

lemma exec_get (w : World) : exec (get : Action World) w = (.ok w, w) := rfl

lemma exec_query (question : Disk → Except Error α) (w : World) :
    exec (query question) w = (question w.disk, w) := by
  rw [query, exec_bind_ok (exec_get w)]
  cases question w.disk <;> rfl

lemma exec_change {path : String} {f : Disk → Except Fault Disk} {disk : Disk}
    (h : f w.disk = .ok disk) : exec (change path f) w = (.ok (), { w with disk := disk }) := by
  rw [change, exec_bind_ok (exec_get w), h]
  rfl

lemma exec_useOut {f : Sink → Option Fault × Sink} {out : Sink} (h : f w.out = (none, out)) :
    exec (useOut f) w = (.ok (), { w with out := out }) := by
  rw [useOut, exec_bind_ok (exec_get w), h]
  rfl

lemma exec_printPieces (h : w.out.TakesAll) (pieces : List Piece) :
    exec (printPieces pieces) w = (.ok (), { w with out := { w.out with
      taken := w.out.taken ++ (Output.text pieces).toUTF8
      flushes := w.out.flushes + 1 } }) :=
  exec_useOut (h.finish_emit pieces)

end ClrCompiler.Command.Action
