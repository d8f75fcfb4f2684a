/-!
# Numbers

Binary64 numbers, how they are written, and the numbers of documents.
-/
namespace DeployDrift

/-!
## Finite binary64 numbers

A magnitude is a pair `mantissa * 2 ^ exponent` in the one form that a 64-bit float gives it: the
mantissa has 53 binary digits, or fewer where the exponent is already the least one.  Rounding a
quotient of natural numbers to the nearest magnitude (a half goes to the even neighbour) is exact
integer arithmetic here, and every operation is "the exact result, rounded once".  A result beyond
the largest finite magnitude is `none`.

The machine's own floating-point operations are not used and nothing is asserted about them.
-/

/-- A finite, non-negative binary64 value `mantissa * 2 ^ exponent`. -/
structure Magnitude where
  mantissa : Nat
  exponent : Int
  deriving DecidableEq, Repr, Inhabited

namespace Magnitude

/-- Binary digits of a full mantissa. -/
def digits : Nat := 53

def leastExponent : Int := -1074

def greatestExponent : Int := 971

def zero : Magnitude := ⟨0, leastExponent⟩

def isZero (m : Magnitude) : Bool := m.mantissa == 0

/-- The quotient rounded to the nearest integer, a half going to the even neighbour. -/
def roundHalfEven (num den : Nat) : Nat :=
  let q := num / den
  let r := num % den
  if 2 * r < den then q
  else if den < 2 * r then q + 1
  else if q % 2 = 0 then q else q + 1

/-- The largest `e` with `2 ^ e ≤ num / den`, for positive `num` and `den`. -/
def log2Ratio (num den : Nat) : Int :=
  let guess : Int := (num.log2 : Int) - (den.log2 : Int)
  let reached :=
    if 0 ≤ guess then den * Nat.pow 2 guess.toNat ≤ num else den ≤ num * Nat.pow 2 (-guess).toNat
  if reached then guess else guess - 1

/-- The quotient `num / den` in units of `2 ^ e`, rounded. -/
def scaled (num den : Nat) (e : Int) : Nat :=
  if 0 ≤ e then roundHalfEven num (den * Nat.pow 2 e.toNat)
  else roundHalfEven (num * Nat.pow 2 (-e).toNat) den

/-- The magnitude nearest to `num / den`; `none` when the quotient rounds beyond every finite
magnitude or the denominator is zero. -/
def ofRatio (num den : Nat) : Option Magnitude :=
  if den = 0 then none
  else if num = 0 then some zero
  else
    let e := max (log2Ratio num den - (digits - 1 : Nat)) leastExponent
    let m := scaled num den e
    let (m, e) := if m = Nat.pow 2 digits then (Nat.pow 2 (digits - 1), e + 1) else (m, e)
    if greatestExponent < e then none else some ⟨m, e⟩

def ofNat (n : Nat) : Option Magnitude := ofRatio n 1

def toRatio (m : Magnitude) : Nat × Nat :=
  if 0 ≤ m.exponent then (m.mantissa * Nat.pow 2 m.exponent.toNat, 1)
  else (m.mantissa, Nat.pow 2 (-m.exponent).toNat)

def floor (m : Magnitude) : Nat :=
  let (num, den) := m.toRatio
  num / den

def leNat (m : Magnitude) (n : Nat) : Bool :=
  let (num, den) := m.toRatio
  num ≤ n * den

def add (a b : Magnitude) : Option Magnitude :=
  let (p, q) := a.toRatio
  let (r, s) := b.toRatio
  ofRatio (p * s + r * q) (q * s)

def mul (a b : Magnitude) : Option Magnitude :=
  let (p, q) := a.toRatio
  let (r, s) := b.toRatio
  ofRatio (p * r) (q * s)

def div (a b : Magnitude) : Option Magnitude :=
  let (p, q) := a.toRatio
  let (r, s) := b.toRatio
  ofRatio (p * s) (q * r)

/-- The magnitude nearest to `significand * 10 ^ power`. -/
def ofScientific (significand : Nat) (power : Int) : Option Magnitude :=
  if 0 ≤ power then ofRatio (significand * Nat.pow 10 power.toNat) 1
  else ofRatio significand (Nat.pow 10 (-power).toNat)

end Magnitude

/-- A finite binary64 value: a sign and a magnitude.  Zero comes with either sign. -/
structure Binary64 where
  negative : Bool
  magnitude : Magnitude
  deriving DecidableEq, Repr, Inhabited

namespace Binary64

/-- The value with the sign of a zero dropped: two floats are equal as numbers exactly when these
agree. -/
def withoutZeroSign (x : Binary64) : Binary64 :=
  if x.magnitude.isZero then ⟨false, x.magnitude⟩ else x

def toInt? (x : Binary64) : Option Int :=
  let (num, den) := x.magnitude.toRatio
  if num % den = 0 then
    let n : Int := (num / den : Nat)
    some (if x.negative then -n else n)
  else none

end Binary64

/-!
## The shortest decimal that reads back

A binary64 magnitude owns an interval of reals that round to it.  `Magnitude.shortest` finds the
decimal with the fewest digits inside that interval, and of those the one nearest to the value.
`DecimalLayout` says how such digits are written down.
-/

/-- `coefficient * 10 ^ power`. -/
structure Decimal where
  coefficient : Nat
  power : Int
  deriving DecidableEq, Repr

namespace Magnitude

/-- The interval of reals that round to a magnitude, as numbers in units of `1 / 4 * 2 ^ exponent`:
the value sits at `center`. -/
structure RoundingInterval where
  low : Nat
  center : Nat
  high : Nat
  /-- The unit, as a quotient. -/
  unitNum : Nat
  unitDen : Nat
  /-- The ends themselves round to the value. -/
  closed : Bool

def roundingInterval (m : Magnitude) : RoundingInterval :=
  let e := m.exponent - 2
  let (un, ud) := if 0 ≤ e then (Nat.pow 2 e.toNat, 1) else (1, Nat.pow 2 (-e).toNat)
  let c := 4 * m.mantissa
  let atBinade := m.mantissa = Nat.pow 2 (digits - 1) ∧ leastExponent < m.exponent
  ⟨if atBinade then c - 1 else c - 2, c, c + 2, un, ud, m.mantissa % 2 = 0⟩

namespace RoundingInterval

def holds (i : RoundingInterval) (num den : Nat) : Bool :=
  let x := num * i.unitDen
  let lo := i.low * i.unitNum * den
  let hi := i.high * i.unitNum * den
  if i.closed then lo ≤ x && x ≤ hi else lo < x && x < hi

/-- Twice the distance between `num / den` and the value, over a common denominator. -/
def distance (i : RoundingInterval) (num den : Nat) : Nat :=
  let x := num * i.unitDen
  let c := i.center * i.unitNum * den
  if x ≤ c then c - x else x - c

/-- The multiple of `10 ^ power` in the interval that is nearest to the value; of two equally near
ones, the even one. -/
def onGrid? (i : RoundingInterval) (power : Int) : Option Nat :=
  let (gn, gd) := if 0 ≤ power then (Nat.pow 10 power.toNat, 1) else (1, Nat.pow 10 (-power).toNat)
  let below := i.center * i.unitNum * gd / (i.unitDen * gn)
  let above := below + 1
  let inBelow := i.holds (below * gn) gd
  let inAbove := i.holds (above * gn) gd
  let dBelow := i.distance (below * gn) gd
  let dAbove := i.distance (above * gn) gd
  if inBelow && inAbove then
    if dBelow < dAbove then some below
    else if dAbove < dBelow then some above
    else if below % 2 = 0 then some below else some above
  else if inBelow then some below
  else if inAbove then some above
  else none

end RoundingInterval

/-- The largest `k` with `10 ^ k ≤ num / den`, searched from a binary estimate. -/
def log10Ratio (num den : Nat) : Int :=
  let estimate : Int := Int.fdiv (log2Ratio num den * 30103) 100000
  let reaches (k : Int) : Bool :=
    if 0 ≤ k then den * Nat.pow 10 k.toNat ≤ num else den ≤ num * Nat.pow 10 (-k).toNat
  if reaches (estimate + 1) then estimate + 1
  else if reaches estimate then estimate
  else estimate - 1

def stripZeros : Nat → Decimal → Decimal
  | 0, d => d
  | fuel + 1, d =>
    if d.coefficient ≠ 0 ∧ d.coefficient % 10 = 0 then
      stripZeros fuel ⟨d.coefficient / 10, d.power + 1⟩
    else d

/-- Digits that always suffice to read a binary64 value back. -/
def sufficientDigits : Nat := 17

/-- The shortest decimal that rounds to the magnitude. -/
def shortest (m : Magnitude) : Decimal :=
  if m.isZero then ⟨0, 0⟩
  else
    let i := m.roundingInterval
    let (num, den) := m.toRatio
    let top := log10Ratio num den
    let tries := (List.range sufficientDigits).findSome? fun (n : Nat) =>
      let power := top - Int.ofNat n
      (i.onGrid? power).bind fun c => if c = 0 then none else some (Decimal.mk c power)
    stripZeros sufficientDigits (tries.getD ⟨m.mantissa, m.exponent⟩)

end Magnitude

structure DecimalLayout where
  /-- The least exponent of the leading digit that is written positionally. -/
  leastPositional : Int
  /-- The greatest exponent of the leading digit that is written positionally. -/
  greatestPositional : Int

namespace DecimalLayout

/-- Positional from `0.00001` to below `10 ^ 16`, with at least one digit after the point; an
exponent without sign or padding elsewhere. -/
def compact : DecimalLayout := ⟨-5, 15⟩

/-- Always positional, with at least one digit after the point. -/
def positional : DecimalLayout := ⟨-400, 400⟩

def zeros (n : Nat) : String := String.ofList (List.replicate n '0')

def write (layout : DecimalLayout) (d : Decimal) : String :=
  let ds := toString d.coefficient
  let len : Int := ds.length
  let point := len + d.power
  let lead := point - 1
  if d.coefficient = 0 then "0.0"
  else if lead < layout.leastPositional ∨ layout.greatestPositional < lead then
    let head := String.ofList (ds.toList.take 1)
    let tail := String.ofList (ds.toList.drop 1)
    let exponent := toString lead
    if tail.isEmpty then head ++ "e" ++ exponent else head ++ "." ++ tail ++ "e" ++ exponent
  else if 0 ≤ d.power then ds ++ zeros d.power.toNat ++ ".0"
  else if 0 < point then
    let n := point.toNat
    String.ofList (ds.toList.take n) ++ "." ++ String.ofList (ds.toList.drop n)
  else "0." ++ zeros (-point).toNat ++ ds

end DecimalLayout

/-- The shortest text that reads back as the same float. -/
def Binary64.text (layout : DecimalLayout) (x : Binary64) : String :=
  let body := layout.write x.magnitude.shortest
  if x.negative then "-" ++ body else body

/-!
## Numbers in documents

An integer and a float are different numbers even where their values agree.  Integers are kept
exactly within the range of 64-bit words of either sign; every other number is a float.
-/

inductive Number where
  | int (n : Int)
  | float (x : Binary64)
  deriving DecidableEq, Repr, Inhabited

namespace Number

def leastInt : Int := -0x8000000000000000

def greatestInt : Int := 0xffffffffffffffff

def withoutZeroSign : Number → Number
  | .int n => .int n
  | .float x => .float x.withoutZeroSign

def text : Number → String
  | .int n => toString n
  | .float x => x.text .compact

end Number
end DeployDrift
