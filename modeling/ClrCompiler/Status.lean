/-!
Kind, modality, visibility and modifiers of declarations.
-/

namespace ClrCompiler

inductive ClassKind where
  | plain
  | interface
  | enum
  | annotationClass
  | object
  deriving DecidableEq

namespace ClassKind

def isInterface (k : ClassKind) : Bool := k == .interface || k == .annotationClass

def isObject (k : ClassKind) : Bool := k == .object

def keyword : ClassKind → String
  | .plain => "class"
  | .interface => "interface"
  | .enum => "enum class"
  | .annotationClass => "annotation class"
  | .object => "object"

end ClassKind

inductive Modality where
  | final
  | sealed
  | opened
  | abstract
  deriving DecidableEq

def Modality.keyword : Modality → String
  | .final => "final"
  | .sealed => "sealed"
  | .opened => "open"
  | .abstract => "abstract"

inductive Visibility where
  | pub
  | prot
  | internal
  | priv
  | protStatic
  | packagePriv
  deriving DecidableEq

namespace Visibility

def isPrivate (v : Visibility) : Bool := v == .priv

def keyword : Visibility → String
  | .pub => "public"
  | .prot => "protected"
  | .internal => "internal"
  | .priv => "private"
  | .protStatic => "protected/*static*/"
  | .packagePriv => "package-private"

end Visibility

inductive Flag where
  | static
  | companion
  | external
  | operator
  | infixCall
  | inlined
  | suspend
  | tailrec
  | expect
  | fakeOverride
  | final
  | primary
  | fileClass
  deriving DecidableEq

namespace Flag

def all : List Flag :=
  [.static, .companion, .external, .operator, .infixCall, .inlined, .suspend, .tailrec, .expect,
   .fakeOverride, .final, .primary, .fileClass]

theorem mem_all (f : Flag) : f ∈ all := by cases f <;> decide

end Flag

@[ext] structure Flags where
  has : Flag → Bool

namespace Flags

def none : Flags := ⟨fun _ => false⟩

def of (flags : List Flag) : Flags := ⟨fun f => flags.contains f⟩

def union (a b : Flags) : Flags := ⟨fun f => a.has f || b.has f⟩

def inter (a b : Flags) : Flags := ⟨fun f => a.has f && b.has f⟩

theorem eq_iff (a b : Flags) : (∀ f ∈ Flag.all, a.has f = b.has f) ↔ a = b :=
  ⟨fun h => Flags.ext (funext fun f => h f f.mem_all), fun h _ _ => h ▸ rfl⟩

instance : DecidableEq Flags := fun a b => decidable_of_iff _ (eq_iff a b)

def toList (a : Flags) : List Flag := Flag.all.filter a.has

def bits (a : Flags) : Nat :=
  Flag.all.foldr (fun f rest => (if a.has f then 1 else 0) + 2 * rest) 0

end Flags

structure Status where
  visibility : Visibility
  modality : Modality
  flags : Flags
  deriving DecidableEq

namespace Status

def make (visibility : Visibility) (modality : Modality) : Status := ⟨visibility, modality, .none⟩

def publicFinal : Status := make .pub .final

def withFlags (s : Status) (flags : Flags) : Status := { s with flags := s.flags.union flags }

def has (s : Status) (f : Flag) : Bool := s.flags.has f

def isStatic (s : Status) : Bool := s.has .static

def isCompanion (s : Status) : Bool := s.has .companion

end Status

end ClrCompiler
