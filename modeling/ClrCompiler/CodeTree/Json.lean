import ClrCompiler.CodeTree.Basic
import ClrCompiler.Json.Reader
import ClrCompiler.Json.Value

/-!
Code trees as JSON: a node is an object whose key names the kind of node.
-/

namespace ClrCompiler.CodeTree

open ClrCompiler.Json

namespace Plain

def choice (children : Reader Plain) : Choice Plain :=
  [("Plain", .value (.map .text .text)),
   ("SingleLine", .value (.map (.group .singleLine) (.list children))),
   ("MultiLine", .value (.map (.group .multiLine) (.list children)))]

def reader : Nat → Reader Plain
  | 0 => fun _ _ => .error .tooDeep
  | fuel + 1 => (choice (reader fuel)).reader

def layoutName : PlainLayout → String
  | .singleLine => "SingleLine"
  | .multiLine => "MultiLine"

mutual

def toJson : Plain → Value
  | .text content => .object [("Plain", .text content)]
  | .group layout children => .object [(layoutName layout, .list (toJsonAll children))]

def toJsonAll : List Plain → List Value
  | [] => []
  | p :: ps => toJson p :: toJsonAll ps

end

end Plain

namespace Node

structure Slots where
  condition : Option Node
  content : Option Node
  otherwise : Option Node
  resultType : Option String

def branchFields (children : Reader Node) : List (Json.Field Slots) :=
  [.slot "condition" (·.condition) (fun s v => { s with condition := some v }) children,
   .slot "content" (·.content) (fun s v => { s with content := some v }) children,
   .slot "else_content" (·.otherwise) (fun s v => { s with otherwise := some v }) children]

def finish (isExpression : Bool) (s : Slots) (missing : String → Error) : Except Error Node := do
  let condition ← Record.require "condition" missing s.condition
  let content ← Record.require "content" missing s.content
  let otherwise ← Record.require "else_content" missing s.otherwise
  if isExpression then
    let resultType ← Record.require "result_type" missing s.resultType
    return .conditional condition content otherwise (some resultType)
  else
    return .conditional condition content otherwise Option.none

def statementRecord (children : Reader Node) : Record Slots Node where
  title := "struct variant PaddingNode::If"
  start := ⟨Option.none, Option.none, Option.none, Option.none⟩
  fields := branchFields children
  finish := finish false

def expressionRecord (children : Reader Node) : Record Slots Node where
  title := "struct variant PaddingNode::IfExp"
  start := ⟨Option.none, Option.none, Option.none, Option.none⟩
  fields := branchFields children ++
    [.slot "result_type" (·.resultType) (fun s v => { s with resultType := some v }) .text]
  finish := finish true

def groupContent (children : Reader Node) (layout : Layout) : Content Node :=
  .value (.map (.group layout) (.list children))

def paddingChoice (children : Reader Node) : Choice Node :=
  [("If", .record (statementRecord children).reader),
   ("IfExp", .record (expressionRecord children).reader),
   ("Block", groupContent children .block)]

def choice (plain : Reader Plain) (children : Reader Node) : Choice Node :=
  [("None", .unit .none),
   ("SingleLineList", groupContent children .singleLineList),
   ("MultiLineList", groupContent children .multiLineList),
   ("SingleLine", groupContent children .singleLine),
   ("MultiLine", groupContent children .multiLine),
   ("StringConcatenation", groupContent children .stringConcatenation),
   ("Plain", .value (.map .plain plain)),
   ("Padding", .value (paddingChoice children).reader)]

def reader : Nat → Reader Node
  | 0 => fun _ _ => .error .tooDeep
  | fuel + 1 => (choice (Plain.reader (fuel + 1)) (reader fuel)).reader

/-- Every node inside another opens an object, so the depth limit bounds the fuel. -/
def parse (text : String) : Except Error Node := (reader (maxDepth + 1)).parse text

def layoutName : Layout → String
  | .singleLineList => "SingleLineList"
  | .multiLineList => "MultiLineList"
  | .singleLine => "SingleLine"
  | .multiLine => "MultiLine"
  | .stringConcatenation => "StringConcatenation"
  | .block => "Block"

mutual

def toJson : Node → Value
  | .none => .text "None"
  | .group .block children =>
    .object [("Padding", .object [("Block", .list (toJsonAll children))])]
  | .group layout children => .object [(layoutName layout, .list (toJsonAll children))]
  | .plain p => .object [("Plain", p.toJson)]
  | .conditional condition content otherwise Option.none =>
    .object [("Padding", .object [("If", .object
      [("condition", toJson condition), ("content", toJson content),
       ("else_content", toJson otherwise)])])]
  | .conditional condition content otherwise (some resultType) =>
    .object [("Padding", .object [("IfExp", .object
      [("condition", toJson condition), ("content", toJson content),
       ("else_content", toJson otherwise), ("result_type", .text resultType)])])]

def toJsonAll : List Node → List Value
  | [] => []
  | n :: ns => toJson n :: toJsonAll ns

end

end Node

end ClrCompiler.CodeTree
