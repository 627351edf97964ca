import ClrCompiler.Command.Error
import ClrCompiler.FileTree
import ClrCompiler.Output.Stream

/-!
What commands work on: the disk and the stream they print to. A command that stops leaves both as
they were at that point.
-/

namespace ClrCompiler.Command

open Output

structure World where
  disk : Disk
  out : Sink

abbrev Action := ExceptT Error (StateM World)

namespace Action

def query {α : Type} (question : Disk → Except Error α) : Action α := do
  match question (← get).disk with
  | .ok a => return a
  | .error error => throw error

def change (path : String) (f : Disk → Except Fault Disk) : Action Unit := do
  match f (← get).disk with
  | .ok disk => modify fun w => { w with disk := disk }
  | .error fault => throw (.write path fault)

def useOut (f : Sink → Option Fault × Sink) : Action Unit := do
  let (fault, out) := f (← get).out
  modify fun w => { w with out := out }
  match fault with
  | none => return ()
  | some fault => throw (.output fault)

def print (text : String) : Action Unit := useOut (·.writeAll text.toUTF8)

def printPieces (pieces : List Piece) : Action Unit :=
  useOut fun out => ((Stream.start out).emit pieces).finish

end Action

def readText (disk : Disk) (path : String) : Except Error String :=
  (disk.readText path).mapError (.read path)

end ClrCompiler.Command
