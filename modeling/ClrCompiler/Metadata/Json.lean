import ClrCompiler.Json.Reader
import ClrCompiler.Json.Value
import ClrCompiler.Metadata

/-!
Assembly descriptions as JSON. Only the names of types and methods are required; a missing list is
empty, a missing flag is false and a missing text is absent.
-/

namespace ClrCompiler.Metadata

open ClrCompiler.Json

namespace Parameter

structure Slots where
  name : Option (Option String)
  type : Option (Option String)

def record : Record Slots Parameter where
  title := "struct NodeParameter"
  start := ⟨none, none⟩
  fields :=
    [.slot "name" (·.name) (fun s v => { s with name := some v }) (.optional .text),
     .slot "type" (·.type) (fun s v => { s with type := some v }) (.optional .text)]
  finish s _ := .ok ⟨s.name.getD none, s.type.getD none⟩

def toJson (p : Parameter) : Value :=
  .object [("name", .optional p.name), ("type", .optional p.type)]

end Parameter

namespace Constructor

structure Slots where
  parameters : Option (List Parameter)
  isStatic : Option Bool

def record : Record Slots Constructor where
  title := "struct NodeConstructor"
  start := ⟨none, none⟩
  fields :=
    [.slot "parameters" (·.parameters) (fun s v => { s with parameters := some v })
      (.list Parameter.record.reader),
     .slot "isStatic" (·.isStatic) (fun s v => { s with isStatic := some v }) .boolean]
  finish s _ := .ok ⟨s.parameters.getD [], s.isStatic.getD false⟩

def toJson (c : Constructor) : Value :=
  .object [("parameters", .list (c.parameters.map Parameter.toJson)),
    ("isStatic", .boolean c.isStatic)]

end Constructor

namespace Method

structure Slots where
  name : Option String
  returnType : Option (Option String)
  parameters : Option (List Parameter)
  isStatic : Option Bool

def record : Record Slots Method where
  title := "struct NodeMethod"
  start := ⟨none, none, none, none⟩
  fields :=
    [.slot "name" (·.name) (fun s v => { s with name := some v }) .text,
     .slot "returnType" (·.returnType) (fun s v => { s with returnType := some v })
      (.optional .text),
     .slot "parameters" (·.parameters) (fun s v => { s with parameters := some v })
      (.list Parameter.record.reader),
     .slot "isStatic" (·.isStatic) (fun s v => { s with isStatic := some v }) .boolean]
  finish s missing := do
    let name ← Record.require "name" missing s.name
    return ⟨name, s.returnType.getD none, s.parameters.getD [], s.isStatic.getD false⟩

def toJson (m : Method) : Value :=
  .object [("name", .text m.name), ("returnType", .optional m.returnType),
    ("parameters", .list (m.parameters.map Parameter.toJson)), ("isStatic", .boolean m.isStatic)]

end Method

namespace TypeNode

structure Slots where
  scope : Option (Option String)
  name : Option String
  attributes : Option (List String)
  methods : Option (List Method)
  constructors : Option (List Constructor)

def record : Record Slots TypeNode where
  title := "struct NodeType"
  start := ⟨none, none, none, none, none⟩
  fields :=
    [.slot "namespace" (·.scope) (fun s v => { s with scope := some v }) (.optional .text),
     .slot "name" (·.name) (fun s v => { s with name := some v }) .text,
     .slot "attributes" (·.attributes) (fun s v => { s with attributes := some v }) (.list .text),
     .slot "methods" (·.methods) (fun s v => { s with methods := some v })
      (.list Method.record.reader),
     .slot "constructors" (·.constructors) (fun s v => { s with constructors := some v })
      (.list Constructor.record.reader)]
  finish s missing := do
    let name ← Record.require "name" missing s.name
    return ⟨s.scope.getD none, name, s.attributes.getD [], s.methods.getD [],
      s.constructors.getD []⟩

def toJson (t : TypeNode) : Value :=
  .object [("namespace", .optional t.scope), ("name", .text t.name),
    ("attributes", .list (t.attributes.map .text)),
    ("methods", .list (t.methods.map Method.toJson)),
    ("constructors", .list (t.constructors.map Constructor.toJson))]

end TypeNode

namespace Assembly

structure Slots where
  name : Option (Option String)
  types : Option (List TypeNode)

def record : Record Slots Assembly where
  title := "struct NodeAssembly"
  start := ⟨none, none⟩
  fields :=
    [.slot "name" (·.name) (fun s v => { s with name := some v }) (.optional .text),
     .slot "types" (·.types) (fun s v => { s with types := some v })
      (.list TypeNode.record.reader)]
  finish s _ := .ok ⟨s.name.getD none, s.types.getD []⟩

def parse (text : String) : Except Error Assembly := record.reader.parse text

def toJson (a : Assembly) : Value :=
  .object [("name", .optional a.name), ("types", .list (a.types.map TypeNode.toJson))]

end Assembly

end ClrCompiler.Metadata
