import DeployDrift.Json.Cursor

/-!
# Numbers in JSON texts

An integer without fraction and exponent is exact while it fits 64 bits.  Any other number is read
in two steps: the leading digits that fit a 64-bit word form the significand, the remaining digits
only count towards the power of ten; then the significand, rounded to a float, is multiplied or
divided by that power.  The two roundings may differ from the nearest float in the last place.
-/
namespace DeployDrift.Json

/-- The greatest significand that is kept. -/
def greatestSignificand : Nat := 0xffffffffffffffff

/-- The greatest power of ten that a float holds. -/
def greatestTenPower : Nat := 308

/-- The greatest exponent that is counted. -/
def greatestExponent : Nat := 0x7fffffff

/-- Takes digits into the significand while it stays a 64-bit word; gives the significand and the
digits left over. -/
def significand : Nat → List Char → Nat × List Char
  | n, [] => (n, [])
  | n, d :: ds =>
    let m := 10 * n + (d.toNat - '0'.toNat)
    if greatestSignificand < m then (n, d :: ds) else significand m ds

def tenPower (k : Nat) : Option Magnitude := Magnitude.ofNat (Nat.pow 10 k)

/-- Divides by `10 ^ k`, in steps of the greatest power of ten that a float holds. -/
def divideByTenPower : (fuel : Nat) → Magnitude → Nat → Option Magnitude
  | 0, m, _ => some m
  | fuel + 1, m, k =>
    if k ≤ greatestTenPower then do m.div (← tenPower k)
    else if m.isZero then some m
    else do divideByTenPower fuel (← m.div (← tenPower greatestTenPower)) (k - greatestTenPower)

/-- The significand times a power of ten; `none` beyond the range of floats. -/
def scaleByTen (n : Nat) (power : Int) : Option Magnitude := do
  let m ← Magnitude.ofNat n
  if 0 ≤ power then
    if power.toNat ≤ greatestTenPower then m.mul (← tenPower power.toNat)
    else if m.isZero then some m else none
  else divideByTenPower 4 m (-power).toNat

def signed (negative : Bool) (m : Magnitude) : Number := .float ⟨negative, m⟩

namespace Cursor

def scaledNumber (c : Cursor) (negative : Bool) (n : Nat) (power : Int) :
    Except Stop (Number × Cursor) :=
  match scaleByTen n power with
  | some m => .ok (signed negative m, c)
  | none => c.stop .numberOutOfRange

def exponent (c : Cursor) (negative : Bool) (n : Nat) (power : Int) :
    Except Stop (Number × Cursor) :=
  let (minus, c) := match c.rest with
    | .char '+' :: _ => (false, c.skip)
    | .char '-' :: _ => (true, c.skip)
    | _ => (false, c)
  match c.rest with
  | [] => c.stop .endInValue
  | x :: _ =>
    if !x.isDigit then c.stopAfterByte .invalidNumber
    else
      let (ds, after) := c.digits
      let counted := ds.foldl
        (fun (acc : Nat × Nat) d =>
          let (e, used) := acc
          let e' := 10 * e + (d.toNat - '0'.toNat)
          if greatestExponent < e then acc else (e', used + 1)) (0, 0)
      let (e, used) := counted
      if greatestExponent < e then
        if n ≠ 0 ∧ !minus then
          .error (.at (.flaw .numberOutOfRange) (c.offset + used))
        else .ok (signed negative .zero, after)
      else after.scaledNumber negative n (if minus then power - e else power + e)

/-- What may follow the digits: an exponent, or nothing. -/
def exponentOrEnd (c : Cursor) (negative : Bool) (n : Nat) (power : Int) :
    Except Stop (Number × Cursor) :=
  match c.rest with
  | .char 'e' :: _ | .char 'E' :: _ => c.skip.exponent negative n power
  | _ => c.scaledNumber negative n power

def fraction (c : Cursor) (negative : Bool) (n : Nat) (power : Int) :
    Except Stop (Number × Cursor) :=
  let (ds, after) := c.digits
  let (m, left) := significand n ds
  if ds.isEmpty then
    if c.rest.isEmpty then c.stopNext .endInValue else c.stopNext .invalidNumber
  else after.exponentOrEnd negative m (power - ((ds.length - left.length : Nat) : Int))

/-- The number `n`, or `-n`, without fraction and exponent. -/
def wholeNumber (negative : Bool) (n : Nat) : Option Number :=
  if negative then
    if n = 0 ∨ (n : Int) > -Number.leastInt then
      (Magnitude.ofNat n).map (signed true)
    else some (.int (-(n : Int)))
  else some (.int n)

/-- A number behind its minus sign, if it has one. -/
def numeral (c : Cursor) (negative : Bool) : Except Stop (Number × Cursor) :=
  match c.rest with
  | [] => c.stop .endInValue
  | x :: _ =>
    if !x.isDigit then c.stopAfterByte .invalidNumber
    else
      let (ds, after) := c.digits
      if x = .char '0' ∧ 1 < ds.length then c.skip.stopNext .invalidNumber
      else
        let (n, left) := significand 0 ds
        match after.rest with
        | .char '.' :: _ => after.skip.fraction negative n left.length
        | .char 'e' :: _ | .char 'E' :: _ => after.skip.exponent negative n left.length
        | _ =>
          if left.isEmpty then
            match wholeNumber negative n with
            | some number => .ok (number, after)
            | none => after.stop .numberOutOfRange
          else after.scaledNumber negative n left.length

def passExponent (c : Cursor) : Except Stop Cursor :=
  let c := match c.rest with
    | .char '+' :: _ | .char '-' :: _ => c.skip
    | _ => c
  match c.rest with
  | [] => c.stop .invalidNumber
  | x :: _ => if x.isDigit then .ok c.digits.2 else c.stopAfterByte .invalidNumber

/-- Passes over a number behind its minus sign, whatever its size. -/
def passNumeral (c : Cursor) : Except Stop Cursor :=
  match c.rest with
  | [] => c.stop .invalidNumber
  | x :: _ =>
    if !x.isDigit then c.stopAfterByte .invalidNumber
    else
      let (ds, after) := c.digits
      if x = .char '0' ∧ 1 < ds.length then c.skip.stopNext .invalidNumber
      else
        match after.rest with
        | .char '.' :: _ =>
          let (fs, behind) := after.skip.digits
          if fs.isEmpty then after.skip.stopNext .invalidNumber
          else match behind.rest with
            | .char 'e' :: _ | .char 'E' :: _ => behind.skip.passExponent
            | _ => .ok behind
        | .char 'e' :: _ | .char 'E' :: _ => after.skip.passExponent
        | _ => .ok after

end Cursor
end DeployDrift.Json
