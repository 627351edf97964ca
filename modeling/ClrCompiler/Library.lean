import ClrCompiler.Library.Build

/-!
The library: the symbols of a set of assembly descriptions.
-/

namespace ClrCompiler

structure Library where
  registry : Registry
  implicitPackages : List Package

namespace Library

def defaultImplicitPackages : List String := ["System", "System.Console"]

/-- Assemblies are given by distinct keys; their order does not matter. -/
def ofAssemblies (assemblies : List (String × Metadata.Assembly))
    (implicitPackages : List String) : Naming Library := do
  let registry ← registryOf (nodes assemblies)
  return ⟨registry, ← implicitPackages.mapM Package.parse⟩

def hasPackage (l : Library) (package : Package) : Bool :=
  l.implicitPackages.contains package || l.registry.index.hasPackage package

end Library

end ClrCompiler
