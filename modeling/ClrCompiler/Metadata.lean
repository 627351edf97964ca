import ClrCompiler.Identity

/-!
Assembly descriptions: the types of one binary unit with their methods and constructors.
-/

namespace ClrCompiler.Metadata

structure Parameter where
  name : Option String
  type : Option String
  deriving DecidableEq

structure Constructor where
  parameters : List Parameter
  isStatic : Bool
  deriving DecidableEq

structure Method where
  name : String
  returnType : Option String
  parameters : List Parameter
  isStatic : Bool
  deriving DecidableEq

structure TypeNode where
  scope : Option String
  name : String
  attributes : List String
  methods : List Method
  constructors : List Constructor
  deriving DecidableEq

structure Assembly where
  name : Option String
  types : List TypeNode
  deriving DecidableEq

def objectAttribute : String := "kotlin.clr.KotlinObject"

def fileClassAttribute : String := "kotlin.clr.KotlinFileClass"

/-- How a type becomes symbols: the static methods of an object are free functions of its package,
a file class keeps all methods and has a companion too, and the static members of any other class
move into its companion. -/
inductive Shape where
  | object
  | fileClass
  | plain
  deriving DecidableEq

def Shape.hasCompanion (s : Shape) : Bool := s != .object

namespace TypeNode

def hasAttribute (node : TypeNode) (tag : String) : Bool := node.attributes.contains tag

def scopeText (node : TypeNode) : String := node.scope.getD ""

def shape (node : TypeNode) : Shape :=
  if node.hasAttribute objectAttribute then .object
  else if node.hasAttribute fileClassAttribute then .fileClass
  else .plain

def classId (node : TypeNode) : Naming ClassId := do
  let package ← Package.parse node.scopeText
  let name ← Naming.intern node.name
  return .topLevel package name

end TypeNode

end ClrCompiler.Metadata
