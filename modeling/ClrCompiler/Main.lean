import ClrCompiler.Command.Program

/-!
The command line. The paths that the arguments mention are loaded from the file system, the program
runs on them, and the files it changed are written back.
-/

namespace ClrCompiler.Command.Host

partial def load (path : String) : IO (Option Entry) := do
  let here ← IO.currentDir
  let place := here / path
  if ← place.isDir then
    let names := (← place.readDir).toList.map (·.fileName)
    let entries ← names.filterMapM fun name => do
      return (← load (Path.join path name)).map (name, ·)
    return some (.directory entries)
  else if ← place.pathExists then
    return some (.file (← IO.FS.readBinFile place))
  else
    return none

def mentioned (argument : String) : List String :=
  let value := argument.toList.dropWhile (· != '=')
  [argument, String.ofList (value.drop 1)].filter (· ≠ "")

def position (working : List String) (path : String) : List String :=
  let start := if Path.isAbsolute path then [] else working
  (Path.components path).foldl (fun at' c =>
    match c with
    | .normal name => at' ++ [name]
    | .parent => at'.dropLast
    | _ => at') start

def ways (path : String) : List String :=
  let parts := Path.segments path
  ((List.range parts.length).map fun n => String.intercalate "/" (parts.take n)).filter (· ≠ "")

def addEntry (disk : Disk) (position : List String) (entry : Entry) : Disk :=
  if (disk.root.at? position).isSome then disk
  else { disk with root := disk.root.put position entry }

def loadPath (disk : Disk) (path : String) : IO Disk := do
  let here ← IO.currentDir
  let reached ← (ways path).filterM fun (way : String) => (here / way).pathExists
  let disk ← reached.foldlM (fun disk (way : String) => do
    let isDirectory ← (here / way).isDir
    let entry := if isDirectory then Entry.directory [] else Entry.file .empty
    return addEntry disk (position disk.working way) entry) disk
  match ← load path with
  | some entry => return { disk with root := disk.root.put (position disk.working path) entry }
  | none => return disk

def loadDisk (arguments : List String) : IO Disk := do
  let working := position [] (toString (← IO.currentDir))
  let empty : Disk := ⟨(Entry.directory []).put working (.directory []), working⟩
  (arguments.flatMap mentioned).foldlM loadPath empty

def store (change : List String × ByteArray) : IO Unit := do
  let path := "/" ++ String.intercalate "/" change.1
  IO.FS.createDirAll ("/" ++ String.intercalate "/" change.1.dropLast)
  IO.FS.writeBinFile path change.2

def run (arguments : List String) : IO UInt32 := do
  let disk ← loadDisk arguments
  let (ending, world) := program arguments ⟨disk, .unlimited⟩
  (Disk.changes disk.root world.disk.root).forM store
  (← IO.getStdout).write world.out.taken
  (← IO.getStderr).putStr ending.messages
  return ending.exitCode.toUInt32

end ClrCompiler.Command.Host

def main (arguments : List String) : IO UInt32 := ClrCompiler.Command.Host.run arguments
