/-!
Names: every text of a compilation is stored once and referred to by its number. The first numbers
belong to the known texts, so that those names can be written down without an interner at hand.
-/

namespace ClrCompiler

structure Name where
  raw : Nat
  deriving DecidableEq

namespace Name

def knownTexts : List String :=
  ["", "kotlin", "kotlin.collections", "kotlin.clr", "kotlin.internal", "System", "System.Console",
   "Any", "Unit", "Nothing", "String", "Boolean", "Char", "Byte", "Short", "Int", "Long", "Float",
   "Double", "UByte", "UShort", "UInt", "ULong", "Number", "CharSequence", "Comparable", "Enum",
   "Throwable", "Annotation", "Array", "ByteArray", "CharArray", "ShortArray", "IntArray",
   "LongArray", "FloatArray", "DoubleArray", "BooleanArray", "Iterable", "MutableIterable",
   "Collection", "MutableCollection", "List", "MutableList", "Set", "MutableSet", "Map",
   "MutableMap", "Iterator", "MutableIterator", "ListIterator", "MutableListIterator", "ClrStatic",
   "ActualizeByClrBuiltinProvider", "<init>", "equals", "hashCode", "toString", "plus", "other",
   "main", "Main", "args", "Companion", "DefaultImpls", "INSTANCE", "$$INSTANCE"]

def empty : Name := ⟨0⟩

def kotlin : Name := ⟨1⟩
def kotlinCollections : Name := ⟨2⟩
def kotlinClr : Name := ⟨3⟩
def kotlinInternal : Name := ⟨4⟩
def system : Name := ⟨5⟩
def systemConsole : Name := ⟨6⟩

def any : Name := ⟨7⟩
def unit : Name := ⟨8⟩
def nothing : Name := ⟨9⟩
def string : Name := ⟨10⟩
def boolean : Name := ⟨11⟩
def char : Name := ⟨12⟩
def byte : Name := ⟨13⟩
def short : Name := ⟨14⟩
def int : Name := ⟨15⟩
def long : Name := ⟨16⟩
def float : Name := ⟨17⟩
def double : Name := ⟨18⟩
def uByte : Name := ⟨19⟩
def uShort : Name := ⟨20⟩
def uInt : Name := ⟨21⟩
def uLong : Name := ⟨22⟩
def number : Name := ⟨23⟩
def charSequence : Name := ⟨24⟩
def comparable : Name := ⟨25⟩
def enum : Name := ⟨26⟩
def throwable : Name := ⟨27⟩
def annotationType : Name := ⟨28⟩
def array : Name := ⟨29⟩
def byteArray : Name := ⟨30⟩
def charArray : Name := ⟨31⟩
def shortArray : Name := ⟨32⟩
def intArray : Name := ⟨33⟩
def longArray : Name := ⟨34⟩
def floatArray : Name := ⟨35⟩
def doubleArray : Name := ⟨36⟩
def booleanArray : Name := ⟨37⟩

def iterable : Name := ⟨38⟩
def mutableIterable : Name := ⟨39⟩
def collection : Name := ⟨40⟩
def mutableCollection : Name := ⟨41⟩
def list : Name := ⟨42⟩
def mutableList : Name := ⟨43⟩
def set : Name := ⟨44⟩
def mutableSet : Name := ⟨45⟩
def map : Name := ⟨46⟩
def mutableMap : Name := ⟨47⟩
def iterator : Name := ⟨48⟩
def mutableIterator : Name := ⟨49⟩
def listIterator : Name := ⟨50⟩
def mutableListIterator : Name := ⟨51⟩

def clrStatic : Name := ⟨52⟩
def actualizeByBuiltins : Name := ⟨53⟩

def init : Name := ⟨54⟩
def equals : Name := ⟨55⟩
def hashCode : Name := ⟨56⟩
def toStringMember : Name := ⟨57⟩
def plus : Name := ⟨58⟩
def other : Name := ⟨59⟩
def mainFunction : Name := ⟨60⟩
def mainEntry : Name := ⟨61⟩
def args : Name := ⟨62⟩

def companion : Name := ⟨63⟩
def defaultImpls : Name := ⟨64⟩
def instanceField : Name := ⟨65⟩
def interfaceCompanionInstance : Name := ⟨66⟩

def isEmpty (n : Name) : Bool := n == empty

def insertAscending (n : Name) : List Name → List Name
  | [] => [n]
  | m :: rest =>
    if n.raw < m.raw then n :: m :: rest
    else if n = m then m :: rest
    else m :: insertAscending n rest

def ascending (names : List Name) : List Name := names.foldr insertAscending []

end Name

structure Interner where
  texts : List String

namespace Interner

def new : Interner := ⟨Name.knownTexts⟩

def size (i : Interner) : Nat := i.texts.length

def isEmpty (i : Interner) : Bool := i.texts.isEmpty

def get? (i : Interner) (text : String) : Option Name := (i.texts.idxOf? text).map Name.mk

def lookup? (i : Interner) (n : Name) : Option String := i.texts[n.raw]?

/-- The text of a name; names of another interner may have none and then read as empty. -/
def text (i : Interner) (n : Name) : String := (i.lookup? n).getD ""

def intern (i : Interner) (text : String) : Name × Interner :=
  match i.get? text with
  | some n => (n, i)
  | none => (⟨i.size⟩, ⟨i.texts ++ [text]⟩)

def maxRaw : Nat := UInt32.size - 1

structure Overflow where
  count : Nat

def Overflow.message (o : Overflow) : String :=
  "interner exceeded capacity: " ++ toString o.count ++ " strings, max is " ++ toString maxRaw

def intern? (i : Interner) (text : String) : Except Overflow (Name × Interner) :=
  if (i.get? text).isNone ∧ maxRaw < i.size then .error ⟨i.size⟩ else .ok (i.intern text)

end Interner

abbrev Naming := StateM Interner

namespace Naming

def intern (text : String) : Naming Name := modifyGet (·.intern text)

def text (n : Name) : Naming String := return (← get).text n

end Naming

end ClrCompiler
