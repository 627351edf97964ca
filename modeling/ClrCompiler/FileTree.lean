import ClrCompiler.Fault
import ClrCompiler.Path

/-!
A file system as a tree of directories, and what programs do with it.
-/

namespace ClrCompiler

inductive Entry where
  | file (content : ByteArray)
  | directory (entries : List (String × Entry))

namespace Entry

def isDirectory : Entry → Bool
  | .directory _ => true
  | .file _ => false

def at? : Entry → List String → Option Entry
  | e, [] => some e
  | .directory entries, name :: rest =>
    match entries.lookup name with
    | some e => e.at? rest
    | none => none
  | .file _, _ :: _ => none

def update {α : Type} (key : String) (value : Option α → α) : List (String × α) → List (String × α)
  | [] => [(key, value none)]
  | (k, a) :: rest =>
    if k = key then (k, value (some a)) :: rest else (k, a) :: update key value rest

def put : Entry → List String → Entry → Entry
  | _, [], new => new
  | .directory entries, name :: rest, new =>
    .directory (update name (fun old => (old.getD (.directory [])).put rest new) entries)
  | .file _, name :: rest, new => .directory [(name, (Entry.directory []).put rest new)]

mutual

def files : Entry → List (List String × ByteArray)
  | .file content => [([], content)]
  | .directory entries => filesIn entries

def filesIn : List (String × Entry) → List (List String × ByteArray)
  | [] => []
  | (name, e) :: rest => (e.files.map fun f => (name :: f.1, f.2)) ++ filesIn rest

end

mutual

def pathsBelow (path : String) : Entry → List String
  | .file _ => [path]
  | .directory entries => pathsIn path entries

def pathsIn (path : String) : List (String × Entry) → List String
  | [] => []
  | (name, e) :: rest => e.pathsBelow (Path.join path name) ++ pathsIn path rest

end

end Entry

structure Disk where
  root : Entry
  working : List String

namespace Disk

def step (d : Disk) (position : List String) (segment : String) : Except Fault (List String) :=
  match d.root.at? position with
  | none => .error .notFound
  | some (.file _) => .error .notDirectory
  | some (.directory entries) =>
    if Path.isIdle segment then .ok position
    else if segment = ".." then .ok position.dropLast
    else if (entries.lookup segment).isSome then .ok (position ++ [segment])
    else .error .notFound

def origin (d : Disk) (path : String) : List String :=
  if Path.isAbsolute path then [] else d.working

def walk (d : Disk) (start : List String) (segments : List String) : Except Fault (List String) :=
  segments.foldlM d.step start

def locate (d : Disk) (path : String) : Except Fault (List String) :=
  if path = "" then .error .notFound else d.walk (d.origin path) (Path.segments path)

def entry (d : Disk) (path : String) : Except Fault Entry := do
  match d.root.at? (← d.locate path) with
  | some e => .ok e
  | none => .error .notFound

def isDirectory (d : Disk) (path : String) : Bool :=
  match d.entry path with
  | .ok e => e.isDirectory
  | .error _ => false

def read (d : Disk) (path : String) : Except Fault ByteArray := do
  match ← d.entry path with
  | .file content => .ok content
  | .directory _ => .error .isDirectory

def readText (d : Disk) (path : String) : Except Fault String := do
  match String.fromUTF8? (← d.read path) with
  | some text => .ok text
  | none => .error .invalidText

def pathsBelow (d : Disk) (path : String) : Except Fault (List String) := do
  match ← d.entry path with
  | .directory entries => .ok (Entry.pathsIn path entries)
  | .file _ => .error .notDirectory

def trimmed (path : String) : List String × Bool :=
  let parts := Path.segments path
  let kept := (parts.reverse.dropWhile (· == "")).reverse
  (kept, kept.length < parts.length)

def write (d : Disk) (path : String) (content : ByteArray) : Except Fault Disk :=
  let (parts, closed) := trimmed path
  if path = "" then .error .notFound
  else
    match parts.getLast? with
    | none => .error .isDirectory
    | some last => do
      let directory ← d.walk (d.origin path) parts.dropLast
      if last = "." || last = ".." then
        let _ ← d.step directory last
        .error .isDirectory
      else
        match d.root.at? directory with
        | some (.directory entries) =>
          if closed || (entries.lookup last).any Entry.isDirectory then .error .isDirectory
          else .ok { d with root := d.root.put (directory ++ [last]) (.file content) }
        | _ => .error .notDirectory

def makeOne (d : Disk) (start parts : List String) : Except Fault Disk :=
  match parts.getLast? with
  | none => .error .alreadyExists
  | some last => do
    let directory ← d.walk start parts.dropLast
    match d.root.at? directory with
    | some (.directory entries) =>
      if Path.isIdle last || last = ".." || (entries.lookup last).isSome then
        .error .alreadyExists
      else .ok { d with root := d.root.put (directory ++ [last]) (.directory []) }
    | _ => .error .notDirectory

def ensureOne (d : Disk) (start parts : List String) : Except Fault Disk :=
  match d.makeOne start parts, d.walk start parts with
  | .error fault, .ok position =>
    if (d.root.at? position).any Entry.isDirectory then .ok d else .error fault
  | result, _ => result

/-- Makes the first of some directories. If something is missing on the way to it, the others are
made before, from the last one on. -/
def ensureFirst (d : Disk) (start : List String) : List (List String) → Except Fault Disk
  | [] => .ok d
  | parts :: around =>
    match d.ensureOne start parts with
    | .error .notFound => do (← d.ensureFirst start around).ensureOne start parts
    | result => result

/-- Makes sure that a directory exists; the empty path is the working directory. The path itself is
made as it is written, with its final dots, the directories around it by the parts that matter. -/
def makeDirectory (d : Disk) (path : String) : Except Fault Disk :=
  if path = "" then .ok d
  else
    let parts := (trimmed path).1
    d.ensureFirst (d.origin path) (parts :: (Path.beginnings parts).reverse.tail)

def changes (before after : Entry) : List (List String × ByteArray) :=
  after.files.filter fun f =>
    match before.at? f.1 with
    | some (.file content) => content != f.2
    | _ => true

end Disk

end ClrCompiler
