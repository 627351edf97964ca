import ClrCompiler.CodeTree.Json
import ClrCompiler.CodeTree.Render
import ClrCompiler.Command.World

/-!
The command that renders a code tree.
-/

namespace ClrCompiler.Command

open Output

structure RenderOptions where
  input : Option String
  output : Option String
  deriving DecidableEq

def RenderOptions.parseFrom (o : RenderOptions) : List String → Except UsageError RenderOptions
  | [] => .ok o
  | argument :: rest =>
    if argument = "-o" || argument = "--output" then
      match rest with
      | [] => .error (.missingValue "-o")
      | path :: rest => parseFrom { o with output := some path } rest
    else if isOption argument then .error (.unknownOption argument)
    else if o.input.isNone then parseFrom { o with input := some argument } rest
    else .error (.unexpectedArgument argument)

def readTree (disk : Disk) (path : String) : Except Error CodeTree.Node := do
  let text ← readText disk path
  (CodeTree.Node.parse text).mapError (.json path)

def renderPieces (tree : CodeTree.Node) : List Piece := tree.pieces ++ [.newline]

def renderFrom (input : String) (output : Option String) : Action Unit := do
  let tree ← Action.query (readTree · input)
  match output with
  | some path => Action.change path (·.write path (Output.text (renderPieces tree)).toUTF8)
  | none => Action.printPieces (renderPieces tree)

def render (arguments : List String) : Action Unit :=
  match RenderOptions.parseFrom ⟨none, none⟩ arguments with
  | .error error => throw (.usage error)
  | .ok ⟨none, _⟩ => throw (.usage .noTree)
  | .ok ⟨some input, output⟩ => renderFrom input output

end ClrCompiler.Command
