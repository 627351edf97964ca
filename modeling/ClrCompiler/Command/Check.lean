import ClrCompiler.Command.Assemblies
import ClrCompiler.Command.Options
import ClrCompiler.Diagnostic
import ClrCompiler.Listing
import ClrCompiler.Provider

/-!
The command that checks the inputs of a module and resolves its symbols.
-/

namespace ClrCompiler.Command

def defaultImports : List String :=
  ["kotlin", "kotlin.annotation", "kotlin.collections", "kotlin.comparisons", "kotlin.io",
   "kotlin.ranges", "kotlin.sequences", "kotlin.text", "kotlin.clr", "System",
   "System.Collections.Generic", "System.IO", "System.Linq", "System.Net.Http",
   "System.Threading", "System.Threading.Tasks"]

def sourceExtension : String := "kt"

def listingFile : String := "symbols.txt"

def isSource (path : String) : Bool := Path.extension path == some sourceExtension

def sourcesBelow (disk : Disk) (root : String) : Except Error (List String) := do
  let paths ← (disk.pathsBelow root).mapError (.read root)
  return paths.filter isSource

/-- The source files below all roots, by the order of paths. The last root is visited first. -/
def collectSources (disk : Disk) (roots : List String) : Except Error (List String) := do
  let found ← roots.reverse.mapM (sourcesBelow disk)
  return found.flatten.mergeSort Path.notAfter

structure Summary where
  sources : Nat
  assemblies : Nat
  classes : Nat
  unresolved : List String
  deriving DecidableEq

def Summary.line (s : Summary) : String :=
  "checked " ++ toString s.sources ++ " source file(s) against " ++ toString s.assemblies
    ++ " assembly description(s): " ++ toString s.classes ++ " class(es)\n"

def missingRoot (root : String) : Diagnostic :=
  ⟨.error, .missingRoot, "source root `" ++ root ++ "` does not exist"⟩

def noSources : Diagnostic := ⟨.error, .noSources, "no source files"⟩

def badAssembly (error : Error) : Diagnostic := ⟨.error, .badAssembly, error.message⟩

def checkAssemblies (disk : Disk) : List String → Assemblies → Assemblies × List Diagnostic
  | [], assemblies => (assemblies, [])
  | path :: rest, assemblies =>
    match readAssembly disk path with
    | .ok assembly => checkAssemblies disk rest (assemblies.add path assembly)
    | .error error =>
      let (assemblies, bad) := checkAssemblies disk rest assemblies
      (assemblies, badAssembly error :: bad)

structure Inputs where
  sources : List String
  assemblies : Assemblies
  problems : List Diagnostic

def readInputs (o : Options) (disk : Disk) : Except Error Inputs := do
  let (roots, missing) := o.sourceRoots.partition disk.isDirectory
  let sources ← collectSources disk roots
  let (assemblies, bad) := checkAssemblies disk o.assemblies []
  return ⟨sources, assemblies,
    missing.map missingRoot ++ (if sources.isEmpty then [noSources] else []) ++ bad⟩

def unresolvedImports (provider : Provider) : Naming (List String) :=
  defaultImports.filterM fun text => return !provider.hasPackage (← Package.parse text)

def resolveModule (assemblies : Assemblies) (implicitPackages : List String) :
    Naming (Library × List String) := do
  let library ← Library.ofAssemblies assemblies implicitPackages
  return (library, ← unresolvedImports (.chain [.builtins, .library library]))

def writeListing (directory listing : String) : Action Unit := do
  Action.change directory (·.makeDirectory directory)
  Action.change directory (·.write (Path.join directory listingFile) listing.toUTF8)

/-- Symbols are resolved only if no error was reported; the summary is then printed. -/
def check (o : Options) (diagnostics : Diagnostics) : Action (Option Summary × Diagnostics) := do
  let inputs ← Action.query (readInputs o)
  let diagnostics : Diagnostics := ⟨diagnostics.items ++ inputs.problems⟩
  if diagnostics.hasErrors then
    return (none, diagnostics)
  else
    let ((library, unresolved), names) :=
      (resolveModule inputs.assemblies o.implicitPackages).run .new
    match o.outputDirectory with
    | some directory => writeListing directory (Listing.text names library.registry)
    | none => pure ()
    let summary : Summary :=
      ⟨inputs.sources.length, inputs.assemblies.length, library.registry.classCount, unresolved⟩
    Action.print summary.line
    return (some summary, diagnostics)

end ClrCompiler.Command
