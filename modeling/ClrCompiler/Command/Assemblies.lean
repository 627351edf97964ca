import ClrCompiler.Command.World
import ClrCompiler.Library
import ClrCompiler.Metadata.Json

/-!
Assembly descriptions on the disk.
-/

namespace ClrCompiler.Command

def readAssembly (disk : Disk) (path : String) : Except Error Metadata.Assembly := do
  let text ← readText disk path
  (Metadata.Assembly.parse text).mapError (.json path)

abbrev Assemblies := List (String × Metadata.Assembly)

/-- A key that is used again replaces the earlier assembly. -/
def Assemblies.insert (assemblies : Assemblies) (key : String) (assembly : Metadata.Assembly) :
    Assemblies :=
  Entry.update key (fun _ => assembly) assemblies

def assemblyKey (path : String) (assembly : Metadata.Assembly) : String :=
  assembly.name.getD ((Path.stem path).getD "")

def Assemblies.add (assemblies : Assemblies) (path : String) (assembly : Metadata.Assembly) :
    Assemblies :=
  assemblies.insert (assemblyKey path assembly) assembly

def readAssemblies (disk : Disk) (paths : List String) : Except Error Assemblies :=
  paths.foldlM (fun assemblies path => do
    return assemblies.add path (← readAssembly disk path)) []

end ClrCompiler.Command
