import ClrCompiler.Standard

/-!
Types as declarations mention them: a class, its type arguments and whether null is allowed.
-/

namespace ClrCompiler

structure TypeRef where
  classId : ClassId
  nullable : Bool
  arguments : List TypeRef

namespace TypeRef

mutual

def same : TypeRef → TypeRef → Bool
  | ⟨c, n, as⟩, ⟨d, m, bs⟩ => decide (c = d) && (n == m && sameList as bs)

def sameList : List TypeRef → List TypeRef → Bool
  | [], [] => true
  | a :: as, b :: bs => same a b && sameList as bs
  | _, _ => false

end

mutual

theorem same_iff : ∀ a b : TypeRef, same a b = true ↔ a = b
  | ⟨c, n, as⟩, ⟨d, m, bs⟩ => by simp [same, sameList_iff as bs]

theorem sameList_iff : ∀ as bs : List TypeRef, sameList as bs = true ↔ as = bs
  | [], [] => by simp [sameList]
  | [], b :: bs => by simp [sameList]
  | a :: as, [] => by simp [sameList]
  | a :: as, b :: bs => by simp [sameList, same_iff a b, sameList_iff as bs]

end

instance : DecidableEq TypeRef := fun a b => decidable_of_iff _ (same_iff a b)

def nonNull (id : ClassId) : TypeRef := ⟨id, false, []⟩

def orNull (id : ClassId) : TypeRef := ⟨id, true, []⟩

def anyOrNull : TypeRef := orNull Standard.any

def unit : TypeRef := nonNull Standard.unit

def isUnit (t : TypeRef) : Bool := t.classId == Standard.unit && !t.nullable

mutual

def text (names : Interner) : TypeRef → String
  | ⟨id, nullable, arguments⟩ =>
    id.text names
      ++ (if arguments.isEmpty then "" else "<" ++ argumentsText names arguments ++ ">")
      ++ (if nullable then "?" else "")

def argumentsText (names : Interner) : List TypeRef → String
  | [] => ""
  | [t] => text names t
  | t :: u :: rest => text names t ++ ", " ++ argumentsText names (u :: rest)

end

end TypeRef

end ClrCompiler
