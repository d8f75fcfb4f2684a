import DeployDrift.Number
import DeployDrift.Text.Quoted

/-!
# Durations and deadlines

A timeout is a text; it is read as a duration, which makes a deadline.
-/
namespace DeployDrift

/-!
## Durations

Timeouts are written as numbers with units, one after another: `30s`, `1m30s`, `1.5h`.  The
components are scaled to nanoseconds and added up in binary64 arithmetic, so that the sum is exact
as long as all numbers are integers and the sum is at most `2 ^ 53`; the fraction of a nanosecond
is dropped at the end.
-/

/-- A length of time in nanoseconds. -/
structure Duration where
  nanos : Nat
  deriving DecidableEq, Repr, Inhabited

inductive DurationFault where
  | negative
  | empty
  | expectedNumber
  | malformedNumber
  | missingUnit
  | unknownUnit (unit : String)
  | outOfRange
  deriving DecidableEq, Repr

def DurationFault.message : DurationFault → String
  | .negative => "negative durations are not allowed"
  | .empty => "empty duration"
  | .expectedNumber => "expected a number"
  | .malformedNumber => "malformed number"
  | .missingUnit => "missing unit"
  | .unknownUnit unit => "unknown unit " ++ Text.quote unit
  | .outOfRange => "duration out of range"

namespace Duration

def units : List (List Char × Nat) := [
  (['n', 's'], 1),
  (['u', 's'], 1000),
  (['µ', 's'], 1000),
  (['μ', 's'], 1000),
  (['m', 's'], 1000000),
  (['s'], 1000000000),
  (['m'], 60 * 1000000000),
  (['h'], 3600 * 1000000000)]

def isNumeral (c : Char) : Bool := c.isDigit || c == '.'

/-- The value of a number: digits with at most one point.  `none` for a malformed one, and inside
it `none` for one beyond the range of floats. -/
def number? (cs : List Char) : Option (Option Magnitude) :=
  match Text.splitFirst? '.' cs with
  | none => some (Magnitude.ofScientific (Text.decimalValue cs) 0)
  | some (whole, fraction) =>
    if fraction.contains '.' then none
    else some (Magnitude.ofScientific (Text.decimalValue (whole ++ fraction))
      (-(fraction.length : Int)))

/-- The value of one component in nanoseconds; infinite operands give an infinite result. -/
def scaled (value : Option Magnitude) (unit : Nat) : Option Magnitude := do
  (← value).mul (← Magnitude.ofNat unit)

/-- The sum of two float values; infinite operands give an infinite result. -/
def sum (a b : Option Magnitude) : Option Magnitude := do (← a).add (← b)

/-- One component: its value in nanoseconds and the text behind it. -/
def component (cs : List Char) : Except DurationFault (Option Magnitude × List Char) :=
  let number := cs.takeWhile isNumeral
  let tail := cs.dropWhile isNumeral
  if number = [] ∨ number = ['.'] then .error .expectedNumber
  else
    match number? number with
    | none => .error .malformedNumber
    | some value =>
      let unit := tail.takeWhile (!isNumeral ·)
      if unit = [] then .error .missingUnit
      else
        match units.lookup unit with
        | none => .error (.unknownUnit (String.ofList unit))
        | some nanos => .ok (scaled value nanos, tail.dropWhile (!isNumeral ·))

theorem length_dropWhile_le {α : Type} (p : α → Bool) (l : List α) :
    (l.dropWhile p).length ≤ l.length :=
  (List.dropWhile_suffix p).length_le

theorem length_dropWhile_lt {α : Type} (p : α → Bool) (l : List α) (h : l.takeWhile p ≠ []) :
    (l.dropWhile p).length < l.length := by
  cases l with
  | nil => simp at h
  | cons a l =>
    by_cases ha : p a
    · simpa [List.dropWhile_cons, ha] using Nat.lt_succ_of_le (length_dropWhile_le p l)
    · simp [ha] at h

/-- Every component takes something off the text. -/
theorem component_shortens {cs rest : List Char} {value : Option Magnitude}
    (h : component cs = .ok (value, rest)) : rest.length < cs.length := by
  unfold component at h
  dsimp only at h
  split at h
  · cases h
  next hn =>
    have hlt := length_dropWhile_lt isNumeral cs (fun e => hn (.inl e))
    split at h
    · cases h
    · split at h
      · cases h
      · split at h
        · cases h
        · cases h
          exact Nat.lt_of_le_of_lt (length_dropWhile_le _ _) hlt

def components (cs : List Char) (total : Option Magnitude) :
    Except DurationFault (Option Magnitude) :=
  if cs = [] then .ok total
  else
    match h : component cs with
    | .error fault => .error fault
    | .ok (value, rest) =>
      have := component_shortens h
      components rest (sum total value)
termination_by cs.length

def greatestNanos : Nat := 0xffffffffffffffff

/-- Whole nanoseconds of a sum; the next float above the greatest number still counts as it. -/
def ofSum : Option Magnitude → Except DurationFault Duration
  | none => .error .outOfRange
  | some m =>
    if m.leNat (greatestNanos + 1) then .ok ⟨min m.floor greatestNanos⟩ else .error .outOfRange

/-- What remains of a text without surrounding white space and one leading plus sign. -/
def body (s : String) : List Char :=
  match Text.trimBy Text.isBlank s.toList with
  | '+' :: cs => cs
  | cs => cs

def parse (s : String) : Except DurationFault Duration :=
  match body s with
  | '-' :: _ => .error .negative
  | ['0'] => .ok ⟨0⟩
  | [] => .error .empty
  | cs =>
    match components cs (some .zero) with
    | .error fault => .error fault
    | .ok total => ofSum total

/-- The digits behind the point for `part` units out of `10 ^ places`, without zeros at the end. -/
def decimals (places part : Nat) : String :=
  let ds := toString part
  let padded := List.replicate (places - ds.length) '0' ++ ds.toList
  let kept := (padded.reverse.dropWhile (· == '0')).reverse
  if kept = [] then "" else "." ++ String.ofList kept

/-- The duration in the largest unit in which it is at least one. -/
def text (d : Duration) : String :=
  let n := d.nanos
  if 1000000000 ≤ n then
    toString (n / 1000000000) ++ decimals 9 (n % 1000000000) ++ "s"
  else if 1000000 ≤ n then toString (n / 1000000) ++ decimals 6 (n % 1000000) ++ "ms"
  else if 1000 ≤ n then toString (n / 1000) ++ decimals 3 (n % 1000) ++ "µs"
  else toString n ++ "ns"

end Duration

/-!
## Deadlines

A deadline is fixed when an action starts.  Work is begun before the deadline is looked at, so work
that takes no time is done even under a deadline of no length, and a call that is started counts as
started however short the time left is.
-/

/-- The time within which an action has to finish, counted from its start; none means that it may
take forever. -/
structure Deadline where
  timeout : Option Duration
  deriving DecidableEq, Repr, Inhabited

structure TimeoutFault where
  text : String
  fault : DurationFault
  deriving DecidableEq, Repr

namespace Deadline

def never : Deadline := ⟨none⟩

/-- The deadline that a timeout sets; a blank one sets none. -/
def start (timeout : String) : Except TimeoutFault Deadline :=
  if Text.isBlankText timeout then .ok never
  else
    match Duration.parse timeout with
    | .ok d => .ok ⟨some d⟩
    | .error fault => .error ⟨timeout, fault⟩

/-- Work that ends after `nanos` is done in time. -/
def allows (d : Deadline) (nanos : Nat) : Bool :=
  match d.timeout with
  | none => true
  | some limit => nanos = 0 || nanos < limit.nanos

def exceededMessage (limit : Duration) : String :=
  "context deadline exceeded after " ++ limit.text

end Deadline
end DeployDrift
