/-!
The shortest decimal that reads back as a given binary number. A positive number `m * 2 ^ q` is read
back from every decimal between the two midpoints to its neighbours, the midpoints included if `m`
is even.
-/

namespace ClrCompiler.Decimal

structure Fraction where
  num : Nat
  den : Nat

namespace Fraction

def dyadic (n : Nat) (q : Int) : Fraction := ⟨n * Nat.pow 2 q.toNat, Nat.pow 2 (-q).toNat⟩

def decimal (n : Nat) (k : Int) : Fraction := ⟨n * Nat.pow 10 k.toNat, Nat.pow 10 (-k).toNat⟩

def lt (a b : Fraction) : Bool := a.num * b.den < b.num * a.den

def le (a b : Fraction) : Bool := a.num * b.den ≤ b.num * a.den

def units (a : Fraction) (k : Int) : Nat :=
  a.num * Nat.pow 10 (-k).toNat / (a.den * Nat.pow 10 k.toNat)

end Fraction

structure Interval where
  low : Fraction
  value : Fraction
  high : Fraction
  closed : Bool

/-- Below a power of two the neighbour is only half as far away, unless the numbers below it are
as far apart. -/
def Interval.around (m : Nat) (q : Int) (closeBelow : Bool) : Interval where
  low := .dyadic (4 * m - (if closeBelow then 1 else 2)) (q - 2)
  value := .dyadic (4 * m) (q - 2)
  high := .dyadic (4 * m + 2) (q - 2)
  closed := m % 2 == 0

def Interval.contains (i : Interval) (x : Fraction) : Bool :=
  if i.closed then i.low.le x && x.le i.high else i.low.lt x && x.lt i.high

/-- The neighbour of the value on the grid of `10 ^ k` that reads back, the nearer one if both do
and the even one if both are as near. -/
def Interval.onGrid (i : Interval) (k : Int) : Option Nat :=
  let below := i.value.units k
  let above := below + 1
  match i.contains (.decimal below k), i.contains (.decimal above k) with
  | true, false => some below
  | false, true => some above
  | false, false => none
  | true, true =>
    let middle := Fraction.decimal (2 * below + 1) k
    let twice : Fraction := ⟨2 * i.value.num, i.value.den⟩
    if twice.lt middle then some below
    else if middle.lt twice then some above
    else some (if below % 2 == 0 then below else above)

def leading (value : Fraction) : Nat → Int → Int
  | 0, k => k
  | steps + 1, k => if (Fraction.decimal 1 k).le value then k else leading value steps (k - 1)

/-- Tries grids with more and more digits; seventeen are always enough. A neighbour that reaches the
next power of ten is written with the one digit it needs. -/
def search (i : Interval) (first : Int) : Nat → Nat → Nat × Int
  | 0, _ => (0, 0)
  | steps + 1, count =>
    let k := first - count
    match i.onGrid k with
    | some digits => if digits = Nat.pow 10 (count + 1) then (1, first + 1) else (digits, k)
    | none => search i first steps (count + 1)

def shortest (m : Nat) (q : Int) (closeBelow : Bool) : Nat × Int :=
  let i := Interval.around m q closeBelow
  search i (leading i.value 700 309) 18 0

def exponentText (e : Int) : String :=
  (if e < 0 then "e-" else "e+") ++ toString e.natAbs

/-- The text of `digits * 10 ^ k`: positional with at least one place for exponents from -5 to 15,
otherwise with an exponent. -/
def layout (digits : Nat) (k : Int) : String :=
  let ds := toString digits
  let point := (ds.length : Int) + k
  let zeros (n : Int) : String := String.ofList (List.replicate n.toNat '0')
  let cut (n : Nat) : String × String :=
    (String.ofList (ds.toList.take n), String.ofList (ds.toList.drop n))
  if 0 ≤ k ∧ point ≤ 16 then ds ++ zeros k ++ ".0"
  else if 0 < point ∧ point ≤ 16 then (cut point.toNat).1 ++ "." ++ (cut point.toNat).2
  else if -5 < point ∧ point ≤ 0 then "0." ++ zeros (-point) ++ ds
  else if ds.length = 1 then ds ++ exponentText (point - 1)
  else (cut 1).1 ++ "." ++ (cut 1).2 ++ exponentText (point - 1)

def hiddenBit : Nat := Nat.pow 2 52

def exponentCount : Nat := Nat.pow 2 11

def text (x : Float) : String :=
  let bits := x.toBits.toNat
  let fraction := bits % hiddenBit
  let exponent := bits / hiddenBit % exponentCount
  let sign := if bits / hiddenBit / exponentCount = 1 then "-" else ""
  if fraction = 0 ∧ exponent = 0 then sign ++ "0.0"
  else
    let m := if exponent = 0 then fraction else fraction + hiddenBit
    let q : Int := (if exponent = 0 then 1 else exponent : Nat) - 1075
    let (digits, k) := shortest m q (fraction == 0 && 1 < exponent)
    sign ++ layout digits k

end ClrCompiler.Decimal
