import DeployDrift.Number
import DeployDrift.Text

/-!
# Plain scalars

What a scalar without quotes and without a tag stands for.  Four words are null, six are truth
values, integers may be written in base 2, 8, 10 or 16, and every other text that reads as a decimal
number is a float.  A number with a superfluous leading zero is text.
-/
namespace DeployDrift.Yaml

/-- What a plain scalar stands for; a float is `none` where it is infinite or no number. -/
inductive Resolved where
  | null
  | bool (b : Bool)
  | int (n : Int)
  | float (x : Option Binary64)
  | text
  deriving DecidableEq, Repr

def isNullWord (s : String) : Bool := ["null", "Null", "NULL", "~"].contains s

def boolWord? (s : String) : Option Bool :=
  if ["true", "True", "TRUE"].contains s then some true
  else if ["false", "False", "FALSE"].contains s then some false
  else none

def splitSign : List Char → Option Bool × List Char
  | '-' :: cs => (some true, cs)
  | '+' :: cs => (some false, cs)
  | cs => (none, cs)

/-- Digits with a superfluous leading zero, behind a sign or none. -/
def hasLeadingZero (cs : List Char) : Bool :=
  match (splitSign cs).2 with
  | '0' :: d :: ds => (d :: ds).all Char.isDigit
  | _ => false

/-- The value of digits in the given base, at least one. -/
def inBase? (base : Nat) (cs : List Char) : Option Nat :=
  if cs.isEmpty then none
  else cs.foldl (fun n c => n.bind fun n =>
    (Text.hexDigit? c).bind fun d => if d < base then some (base * n + d) else none) (some 0)

def unsigned? (cs : List Char) : Option Nat :=
  match cs with
  | '0' :: 'x' :: ds => inBase? 16 ds
  | '0' :: 'o' :: ds => inBase? 8 ds
  | '0' :: 'b' :: ds => inBase? 2 ds
  | ds => inBase? 10 ds

def integer? (cs : List Char) : Option Int :=
  if hasLeadingZero cs then none
  else
    let (sign, digits) := splitSign cs
    (unsigned? digits).map fun n => if sign = some true then -(n : Int) else n

def greatestInteger : Int := 0xffffffffffffffffffffffffffffffff

def leastInteger : Int := -0x80000000000000000000000000000000

/-- Significant digits and power of ten of an unsigned decimal number. -/
def decimal? (cs : List Char) : Option (List Char × Int) :=
  let whole := cs.takeWhile Char.isDigit
  let (fraction, rest) := match cs.dropWhile Char.isDigit with
    | '.' :: more => (more.takeWhile Char.isDigit, more.dropWhile Char.isDigit)
    | more => ([], more)
  let digits := whole ++ fraction
  let power := -(fraction.length : Int)
  if digits.isEmpty then none
  else match rest with
    | [] => some (digits, power)
    | 'e' :: ds | 'E' :: ds =>
      let (sign, ds) := splitSign ds
      if Text.isDecimal ds then
        let e : Int := Text.decimalValue ds
        some (digits, if sign = some true then power - e else power + e)
      else none
    | _ => none

/-- The float nearest to a decimal number; `none` beyond the finite ones. -/
def nearest (digits : List Char) (power : Int) : Option Magnitude :=
  let n := Text.decimalValue digits
  let size : Int := (digits.length : Int) + power
  if n = 0 then some .zero
  else if size < -330 then some .zero
  else if (digits.length : Int) + 310 < size ∧ 310 < power then none
  else Magnitude.ofScientific n power

def float? (cs : List Char) : Option Binary64 :=
  let (sign, digits) := splitSign cs
  (decimal? digits).bind fun (ds, power) => (nearest ds power).map (⟨sign = some true, ·⟩)

/-- The texts for the two infinities and for what is no number. -/
def isNonFiniteWord (s : String) : Bool :=
  [".inf", ".Inf", ".INF", "+.inf", "+.Inf", "+.INF", "-.inf", "-.Inf", "-.INF",
    ".nan", ".NaN", ".NAN"].contains s

/-- What a plain scalar stands for. -/
def resolve (s : String) : Resolved :=
  let cs := s.toList
  if cs.isEmpty || isNullWord s then .null
  else
    match boolWord? s with
    | some b => .bool b
    | none =>
      match (integer? cs).filter fun n => leastInteger ≤ n && n ≤ greatestInteger with
      | some n => .int n
      | none =>
        if hasLeadingZero cs then .text
        else if isNonFiniteWord s then .float none
        else
          match float? cs with
          | some x => .float (some x)
          | none => .text

end DeployDrift.Yaml
