import ClrCompiler.Identity

/-!
Identities of the classes every program knows.
-/

namespace ClrCompiler.Standard

def kotlin (name : Name) : ClassId := .topLevel .kotlin name

def collections (name : Name) : ClassId := .topLevel .kotlinCollections name

def any : ClassId := kotlin .any
def unit : ClassId := kotlin .unit
def nothing : ClassId := kotlin .nothing
def string : ClassId := kotlin .string
def boolean : ClassId := kotlin .boolean
def char : ClassId := kotlin .char
def byte : ClassId := kotlin .byte
def short : ClassId := kotlin .short
def int : ClassId := kotlin .int
def long : ClassId := kotlin .long
def float : ClassId := kotlin .float
def double : ClassId := kotlin .double
def uByte : ClassId := kotlin .uByte
def uShort : ClassId := kotlin .uShort
def uInt : ClassId := kotlin .uInt
def uLong : ClassId := kotlin .uLong
def number : ClassId := kotlin .number
def charSequence : ClassId := kotlin .charSequence
def comparable : ClassId := kotlin .comparable
def enum : ClassId := kotlin .enum
def throwable : ClassId := kotlin .throwable
def annotationType : ClassId := kotlin .annotationType

def array : ClassId := kotlin .array
def byteArray : ClassId := kotlin .byteArray
def charArray : ClassId := kotlin .charArray
def shortArray : ClassId := kotlin .shortArray
def intArray : ClassId := kotlin .intArray
def longArray : ClassId := kotlin .longArray
def floatArray : ClassId := kotlin .floatArray
def doubleArray : ClassId := kotlin .doubleArray
def booleanArray : ClassId := kotlin .booleanArray

def iterable : ClassId := collections .iterable
def mutableIterable : ClassId := collections .mutableIterable
def collection : ClassId := collections .collection
def mutableCollection : ClassId := collections .mutableCollection
def list : ClassId := collections .list
def mutableList : ClassId := collections .mutableList
def set : ClassId := collections .set
def mutableSet : ClassId := collections .mutableSet
def map : ClassId := collections .map
def mutableMap : ClassId := collections .mutableMap
def iterator : ClassId := collections .iterator
def mutableIterator : ClassId := collections .mutableIterator
def listIterator : ClassId := collections .listIterator
def mutableListIterator : ClassId := collections .mutableListIterator

/-- Marks companion members that dispatch as platform statics. -/
def clrStatic : ClassId := .topLevel .kotlinClr .clrStatic

/-- Marks source classes whose symbol is supplied by the built-in table. -/
def actualizeByBuiltins : ClassId := .topLevel .kotlinInternal .actualizeByBuiltins

def all : List ClassId :=
  [any, unit, nothing, string, boolean, char, byte, short, int, long, float, double, uByte, uShort,
   uInt, uLong, number, charSequence, comparable, enum, throwable, annotationType, array, byteArray,
   charArray, shortArray, intArray, longArray, floatArray, doubleArray, booleanArray, iterable,
   mutableIterable, collection, mutableCollection, list, mutableList, set, mutableSet, map,
   mutableMap, iterator, mutableIterator, listIterator, mutableListIterator, clrStatic,
   actualizeByBuiltins]

end ClrCompiler.Standard
