/-!
Code trees: generated output as a tree of formatting nodes.
-/

namespace ClrCompiler.CodeTree

inductive PlainLayout where
  | singleLine
  | multiLine
  deriving DecidableEq

inductive Plain where
  | text (content : String)
  | group (layout : PlainLayout) (children : List Plain)

inductive Layout where
  | singleLineList
  | multiLineList
  | singleLine
  | multiLine
  | stringConcatenation
  | block
  deriving DecidableEq

inductive Node where
  | none
  | group (layout : Layout) (children : List Node)
  | plain (node : Plain)
  | conditional (condition content otherwise : Node) (resultType : Option String)

namespace Plain

def groupTag : PlainLayout → String
  | .singleLine => "PlainNode.SingleLine"
  | .multiLine => "PlainNode.MultiLine"

def textTag : String := "PlainNode.Plain"

def tag : Plain → String
  | .text _ => textTag
  | .group layout _ => groupTag layout

end Plain

namespace Node

def groupTag : Layout → String
  | .singleLineList => "CodeNode.SingleLineList"
  | .multiLineList => "CodeNode.MultiLineList"
  | .singleLine => "CodeNode.SingleLine"
  | .multiLine => "CodeNode.MultiLine"
  | .stringConcatenation => "CodeNode.StringConcatenation"
  | .block => "PaddingNode.Block"

def noneTag : String := "CodeNode.None"

def conditionalTag (resultType : Option String) : String :=
  if resultType.isSome then "PaddingNode.IfExp" else "PaddingNode.If"

def tag : Node → String
  | .none => noneTag
  | .group layout _ => groupTag layout
  | .plain p => p.tag
  | .conditional _ _ _ resultType => conditionalTag resultType

end Node

end ClrCompiler.CodeTree
