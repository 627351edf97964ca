/-!
Buckets: for each key the elements filed under it, in the order they were filed. Keys keep the order
of their first element.
-/

namespace ClrCompiler

structure Buckets (κ α : Type) where
  entries : List (κ × List α)

namespace Buckets

variable {κ α : Type} [DecidableEq κ]

def empty : Buckets κ α := ⟨[]⟩

def under (b : Buckets κ α) (key : κ) : List α := (b.entries.lookup key).getD []

def keys (b : Buckets κ α) : List κ := b.entries.map (·.1)

def size (b : Buckets κ α) : Nat := b.entries.foldr (fun entry n => entry.2.length + n) 0

def fileEntry (key : κ) (a : α) : List (κ × List α) → List (κ × List α)
  | [] => [(key, [a])]
  | (k, as) :: rest => if k = key then (k, as ++ [a]) :: rest else (k, as) :: fileEntry key a rest

def file (b : Buckets κ α) (key : κ) (a : α) : Buckets κ α := ⟨fileEntry key a b.entries⟩

end Buckets

end ClrCompiler
