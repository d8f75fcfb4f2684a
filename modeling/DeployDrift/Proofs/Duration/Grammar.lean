import DeployDrift.Deadline
import DeployDrift.Proofs.Number.Whole
import DeployDrift.Proofs.Text.Ends

/-!
# The texts that are durations

A duration is written as `0`, or as components one after another, each a number and a unit.  Reading
takes a text apart into such components in one way only, and fails for want of them exactly where the
text is not written so.  Where all numbers are whole, the sum is exact up to `2 ^ 53` nanoseconds.
-/
namespace DeployDrift.Duration

/-- A number as it is written: digits, and digits behind a point if there is a point. -/
structure Numeral where
  whole : List Char
  fraction? : Option (List Char)
  digitsOnly : ∀ c ∈ whole ++ fraction?.getD [], c.isDigit = true
  nonempty : whole ++ fraction?.getD [] ≠ []

/-- The units and their lengths in nanoseconds. -/
inductive IsUnit : List Char → Nat → Prop where
  | nanoseconds : IsUnit ['n', 's'] 1
  | microseconds : IsUnit ['u', 's'] 1000
  /-- With the micro sign. -/
  | microSign : IsUnit ['\u00b5', 's'] 1000
  /-- With the Greek letter. -/
  | greekMu : IsUnit ['\u03bc', 's'] 1000
  | milliseconds : IsUnit ['m', 's'] 1000000
  | seconds : IsUnit ['s'] 1000000000
  | minutes : IsUnit ['m'] 60000000000
  | hours : IsUnit ['h'] 3600000000000

/-- A number and its unit. -/
structure Component where
  number : Numeral
  unit : List Char
  length : Nat
  isUnit : IsUnit unit length

namespace Numeral

def digits (a : Numeral) : List Char := a.whole ++ a.fraction?.getD []

/-- The number of digits behind the point. -/
def places (a : Numeral) : Nat := (a.fraction?.getD []).length

def text (a : Numeral) : List Char :=
  a.whole ++ (a.fraction?.map fun fraction => '.' :: fraction).getD []

/-- The number is whole: only zeros stand behind the point. -/
def IsWhole (a : Numeral) : Prop := 10 ^ a.places ∣ Text.decimalValue a.digits

/-- The integer part of the number. -/
def floor (a : Numeral) : Nat := Text.decimalValue a.digits / 10 ^ a.places

/-- The number as it is read. -/
def value? (a : Numeral) : Option Magnitude :=
  Magnitude.ofScientific (Text.decimalValue a.digits) (-(a.places : Int))

end Numeral

namespace Component

def text (p : Component) : List Char := p.number.text ++ p.unit

/-- The length of time, for a whole number. -/
def nanos (p : Component) : Nat := p.number.floor * p.length

/-- The length of time as it is read. -/
def value? (p : Component) : Option Magnitude := scaled p.number.value? p.length

end Component

/-- The text is `0`, or one or more components. -/
def IsWritten (cs : List Char) : Prop :=
  cs = ['0'] ∨ ∃ parts : List Component, parts ≠ [] ∧ cs = parts.flatMap Component.text

section Units

variable {unit : List Char} {n : Nat}

theorem IsUnit.ne_nil (h : IsUnit unit n) : unit ≠ [] := by
  cases h <;> exact List.cons_ne_nil _ _

theorem IsUnit.isNumeral_eq_false (h : IsUnit unit n) : ∀ c ∈ unit, isNumeral c = false := by
  have hnone : unit.any isNumeral = false := by cases h <;> rfl
  intro c hc
  exact Bool.eq_false_iff.mpr (List.any_eq_false.mp hnone c hc)

theorem lookup_units_iff : units.lookup unit = some n ↔ IsUnit unit n := by
  constructor
  · intro h
    obtain ⟨before, after, hsplit, -⟩ := List.lookup_eq_some_iff.mp h
    have hmem : (unit, n) ∈ units := by simp [hsplit]
    simp only [units, List.mem_cons, Prod.mk.injEq, List.not_mem_nil, or_false] at hmem
    rcases hmem with ⟨rfl, rfl⟩ | ⟨rfl, rfl⟩ | ⟨rfl, rfl⟩ | ⟨rfl, rfl⟩ | ⟨rfl, rfl⟩ | ⟨rfl, rfl⟩ |
      ⟨rfl, rfl⟩ | ⟨rfl, rfl⟩ <;> constructor
  · intro h
    cases h <;> decide

end Units

section Numbers

theorem isNumeral_of_isDigit {c : Char} (h : c.isDigit = true) : isNumeral c = true := by
  simp [isNumeral, h]

theorem point_not_mem {cs : List Char} (h : ∀ c ∈ cs, c.isDigit = true) : '.' ∉ cs := fun hm => by
  have hpoint := h _ hm
  revert hpoint
  decide

theorem isDigit_of_isNumeral {cs : List Char} (h : ∀ c ∈ cs, isNumeral c = true)
    (hpoint : '.' ∉ cs) : ∀ c ∈ cs, c.isDigit = true := by
  intro c hc
  have hnumeral := h c hc
  simp only [isNumeral, Bool.or_eq_true, beq_iff_eq] at hnumeral
  rcases hnumeral with hdigit | rfl
  · exact hdigit
  · exact absurd hc hpoint

variable (a : Numeral)

theorem Numeral.isNumeral_text : ∀ c ∈ a.text, isNumeral c = true := by
  obtain ⟨whole, fraction?, hdigits, -⟩ := a
  cases fraction? with
  | none =>
    intro c hc
    simp only [text, Option.map_none, Option.getD_none, List.append_nil] at hc
    exact isNumeral_of_isDigit (hdigits c (by simpa using hc))
  | some fraction =>
    intro c hc
    simp only [text, Option.map_some, Option.getD_some, List.mem_append, List.mem_cons] at hc
    rcases hc with hc | rfl | hc
    · exact isNumeral_of_isDigit (hdigits c (List.mem_append_left _ hc))
    · decide
    · exact isNumeral_of_isDigit (hdigits c (List.mem_append_right _ hc))

theorem Numeral.text_ne_nil : a.text ≠ [] := by
  obtain ⟨whole, fraction?, -, hne⟩ := a
  cases fraction? with
  | none => simpa [text] using hne
  | some fraction => simp [text]

theorem Numeral.text_ne_point : a.text ≠ ['.'] := by
  obtain ⟨whole, fraction?, hdigits, hne⟩ := a
  intro heq
  cases fraction? with
  | none =>
    have hwhole : whole = ['.'] := by simpa [text] using heq
    exact point_not_mem hdigits (by simp [hwhole])
  | some fraction =>
    have hempty : whole = [] ∧ fraction = [] := by
      cases whole with
      | nil => simpa [text] using heq
      | cons c rest => simp [text] at heq
    exact hne (by simp [hempty])

/-- A number is read as its value. -/
theorem number?_text : number? a.text = some a.value? := by
  obtain ⟨whole, fraction?, hdigits, -⟩ := a
  have hwhole : '.' ∉ whole := point_not_mem fun c hc => hdigits c (List.mem_append_left _ hc)
  cases fraction? with
  | none =>
    have hsplit : Text.splitFirst? '.' whole = none := Text.splitFirst?_eq_none_iff.mpr hwhole
    simp [number?, Numeral.text, hsplit, Numeral.value?, Numeral.digits, Numeral.places]
  | some fraction =>
    have hfraction : '.' ∉ fraction :=
      point_not_mem fun c hc => hdigits c (List.mem_append_right _ hc)
    simp [number?, Numeral.text, Text.splitFirst?_append hwhole, hfraction, Numeral.value?,
      Numeral.digits, Numeral.places]

/-- What can be read as a number is one. -/
theorem exists_numeral {cs : List Char} {value : Option Magnitude}
    (hcs : ∀ c ∈ cs, isNumeral c = true) (hne : cs ≠ []) (hpoint : cs ≠ ['.'])
    (h : number? cs = some value) : ∃ a : Numeral, a.text = cs := by
  unfold number? at h
  split at h
  next hsplit =>
    have hdigits := isDigit_of_isNumeral hcs (Text.splitFirst?_eq_none_iff.mp hsplit)
    exact ⟨⟨cs, none, by simpa using hdigits, by simpa using hne⟩, by simp [Numeral.text]⟩
  next whole fraction hsplit =>
    obtain ⟨rfl, hwhole⟩ := Text.eq_append_of_splitFirst? hsplit
    split at h
    next => cases h
    next hfraction =>
      have hfraction : '.' ∉ fraction := by simpa using hfraction
      have hdigits : ∀ c ∈ whole ++ fraction, c.isDigit = true := by
        apply isDigit_of_isNumeral
        · intro c hc
          rcases List.mem_append.mp hc with hc | hc
          · exact hcs c (List.mem_append_left _ hc)
          · exact hcs c (List.mem_append_right _ (List.mem_cons_of_mem _ hc))
        · simp [hwhole, hfraction]
      have hsome : whole ++ fraction ≠ [] := by
        rintro hnone
        rw [List.append_eq_nil_iff] at hnone
        exact hpoint (by rw [hnone.1, hnone.2, List.nil_append])
      exact ⟨⟨whole, some fraction, hdigits, hsome⟩, rfl⟩

end Numbers

section Components

variable {cs rest : List Char} {value total : Option Magnitude} {fault : DurationFault}

/-- No number goes on behind a unit. -/
theorem stops_unit {unit : List Char} {n : Nat} (h : IsUnit unit n) (rest : List Char) :
    Text.Stops isNumeral (unit ++ rest) := by
  cases unit with
  | nil => exact absurd rfl h.ne_nil
  | cons c unit => simpa using h.isNumeral_eq_false c List.mem_cons_self

/-- A component is read off the front where the next one starts or nothing follows. -/
theorem component_text_append (p : Component) (hrest : Text.Stops (!isNumeral ·) rest) :
    component (p.text ++ rest) = .ok (p.value?, rest) := by
  have hunit : ∀ c ∈ p.unit, (!isNumeral c) = true := by
    intro c hc
    rw [p.isUnit.isNumeral_eq_false c hc]
    rfl
  have htext : p.text ++ rest = p.number.text ++ (p.unit ++ rest) := List.append_assoc _ _ _
  have hstops := stops_unit p.isUnit rest
  have hnumber : ¬ (p.number.text = [] ∨ p.number.text = ['.']) :=
    not_or.mpr ⟨p.number.text_ne_nil, p.number.text_ne_point⟩
  unfold component
  dsimp only
  rw [htext, Text.takeWhile_append p.number.isNumeral_text hstops,
    Text.dropWhile_append p.number.isNumeral_text hstops, if_neg hnumber, number?_text,
    Text.takeWhile_append hunit hrest, Text.dropWhile_append hunit hrest]
  dsimp only
  rw [if_neg p.isUnit.ne_nil, lookup_units_iff.mpr p.isUnit]
  rfl

/-- What is read off the front is a component. -/
theorem exists_of_component (h : component cs = .ok (value, rest)) :
    ∃ p : Component, cs = p.text ++ rest ∧ value = p.value? ∧ Text.Stops (!isNumeral ·) rest := by
  unfold component at h
  dsimp only at h
  split at h
  next => cases h
  next hnumber =>
    split at h
    next => cases h
    next hvalue =>
      split at h
      next => cases h
      next =>
        split at h
        next => cases h
        next hunit =>
          cases h
          rw [not_or] at hnumber
          obtain ⟨a, ha⟩ := exists_numeral (List.all_eq_true.mp List.all_takeWhile) hnumber.1
            hnumber.2 hvalue
          refine ⟨⟨a, _, _, lookup_units_iff.mp hunit⟩, ?_, ?_, Text.stops_dropWhile _ _⟩
          · rw [Component.text, ha, List.append_assoc, List.takeWhile_append_dropWhile,
              List.takeWhile_append_dropWhile]
          · rw [← ha, number?_text] at hvalue
            rw [Component.value?, Option.some.inj hvalue]

theorem component_ne_outOfRange : component cs ≠ .error .outOfRange := by
  unfold component
  dsimp only
  repeat' split
  all_goals nofun

/-- Nothing but components is left behind components. -/
theorem stops_flatMap_text (parts : List Component) :
    Text.Stops (!isNumeral ·) (parts.flatMap Component.text) := by
  cases parts with
  | nil => simp
  | cons p rest =>
    have hnumeral := p.number.isNumeral_text
    cases htext : p.number.text with
    | nil => exact absurd htext p.number.text_ne_nil
    | cons c number =>
      rw [htext] at hnumeral
      simpa [Component.text, htext] using hnumeral c List.mem_cons_self

theorem components_nil (total : Option Magnitude) : components [] total = .ok total := by
  rw [components, if_pos rfl]

/-- A component that can be read is taken off the front and added to the sum. -/
theorem components_of_ok (h : component cs = .ok (value, rest)) (total : Option Magnitude) :
    components cs total = components rest (sum total value) := by
  have hne : cs ≠ [] := by
    rintro rfl
    cases h
  rw [components, if_neg hne]
  split
  next hfault =>
    rw [h] at hfault
    cases hfault
  next hok =>
    rw [h] at hok
    cases hok
    rfl

/-- The first component that cannot be read decides about the fault. -/
theorem components_of_error (h : component cs = .error fault) (hne : cs ≠ [])
    (total : Option Magnitude) : components cs total = .error fault := by
  rw [components, if_neg hne]
  split
  next hfault =>
    rw [h] at hfault
    cases hfault
    rfl
  next hok =>
    rw [h] at hok
    cases hok

/-- Components are added up one after another. -/
theorem components_flatMap_text (parts : List Component) (total : Option Magnitude) :
    components (parts.flatMap Component.text) total =
      .ok (parts.foldl (fun total p => sum total p.value?) total) := by
  induction parts generalizing total with
  | nil => exact components_nil total
  | cons p rest ih =>
    rw [List.flatMap_cons, components_of_ok (component_text_append p (stops_flatMap_text rest)), ih,
      List.foldl_cons]

/-- Every step of the reading leaves a shorter text, so that there is a last one. -/
theorem wellFounded_component :
    WellFounded fun rest cs => ∃ value, component cs = .ok (value, rest) :=
  Subrelation.wf (fun ⟨_, h⟩ => component_shortens h) (measure List.length).wf

/-- What is not made of components is refused, for another reason than that the sum is too great. -/
theorem exists_fault_of_not_flatMap (h : ∀ parts : List Component, cs ≠ parts.flatMap Component.text)
    (total : Option Magnitude) :
    ∃ fault, components cs total = .error fault ∧ fault ≠ .outOfRange := by
  induction cs using wellFounded_component.induction generalizing total with
  | _ cs ih =>
    cases hcomponent : component cs with
    | error fault =>
      refine ⟨fault, components_of_error hcomponent (h []) total, ?_⟩
      rintro rfl
      exact component_ne_outOfRange hcomponent
    | ok read =>
      obtain ⟨value, rest⟩ := read
      obtain ⟨p, rfl, -⟩ := exists_of_component hcomponent
      rw [components_of_ok hcomponent]
      apply ih rest ⟨value, hcomponent⟩
      rintro parts rfl
      exact h (p :: parts) List.flatMap_cons.symm

end Components

section Sums

open Magnitude

/-- A whole number is read as itself. -/
theorem Numeral.exists_value? {a : Numeral} (h : a.IsWhole) (hle : a.floor ≤ greatestWhole) :
    ∃ m, a.value? = some m ∧ m.IsWhole a.floor :=
  exists_ofScientific (Nat.div_mul_cancel h).symm hle

theorem IsUnit.length_pos {unit : List Char} {n : Nat} (h : IsUnit unit n) : 0 < n := by
  cases h <;> decide

theorem IsUnit.length_le {unit : List Char} {n : Nat} (h : IsUnit unit n) : n ≤ greatestWhole := by
  cases h <;> decide

/-- A whole component within the range of exact floats is read as what it says. -/
theorem Component.exists_value? {p : Component} (h : p.number.IsWhole)
    (hle : p.nanos ≤ greatestWhole) : ∃ m, p.value? = some m ∧ m.IsWhole p.nanos := by
  have hfloor : p.number.floor ≤ greatestWhole :=
    Nat.le_trans (Nat.le_mul_of_pos_right _ p.isUnit.length_pos) hle
  obtain ⟨number, hnumber, hwhole⟩ := Numeral.exists_value? h hfloor
  obtain ⟨unit, hunit, hlength⟩ := exists_ofNat p.isUnit.length_le
  obtain ⟨m, hm, hproduct⟩ := hwhole.exists_mul hlength hle
  refine ⟨m, ?_, hproduct⟩
  rw [Component.value?, hnumber, scaled, hunit]
  exact hm

/-- As long as it is at most `2 ^ 53`, the sum of whole numbers of nanoseconds is exact. -/
theorem exists_foldl_sum {parts : List Component} (h : ∀ p ∈ parts, p.number.IsWhole)
    {m : Magnitude} {n : Nat} (hm : m.IsWhole n)
    (hle : n + (parts.map Component.nanos).sum ≤ greatestWhole) :
    ∃ total, parts.foldl (fun total p => sum total p.value?) (some m) = some total ∧
      total.IsWhole (n + (parts.map Component.nanos).sum) := by
  induction parts generalizing m n with
  | nil => exact ⟨m, rfl, hm⟩
  | cons p rest ih =>
    rw [List.forall_mem_cons] at h
    rw [List.map_cons, List.sum_cons] at hle ⊢
    obtain ⟨value, hvalue, hwhole⟩ := Component.exists_value? h.1 (by omega)
    obtain ⟨next, hnext, hsum⟩ := hm.exists_add hwhole (by omega)
    have hstep : sum (some m) p.value? = some next := by
      rw [hvalue]
      exact hnext
    rw [List.foldl_cons, hstep, ← Nat.add_assoc]
    exact ih h.2 hsum (by omega)

theorem ofSum_of_isWhole {m : Magnitude} {n : Nat} (hm : m.IsWhole n) (h : n ≤ greatestWhole) :
    ofSum (some m) = .ok ⟨n⟩ := by
  have hbound : n ≤ greatestNanos := Nat.le_trans h (by decide)
  rw [ofSum, if_pos (hm.leNat (Nat.le_succ_of_le hbound)), hm.floor_eq, Nat.min_eq_left hbound]

end Sums

section Texts

variable {s : String} {parts : List Component}

theorem eq_outOfRange_of_ofSum {total : Option Magnitude} {fault : DurationFault}
    (h : ofSum total = .error fault) : fault = .outOfRange := by
  unfold ofSum at h
  split at h
  next =>
    cases h
    rfl
  next =>
    split at h
    next => cases h
    next =>
      cases h
      rfl

theorem parse_of_zero (h : body s = ['0']) : parse s = .ok ⟨0⟩ := by
  unfold parse
  rw [h]
  rfl

/-- Components are read as their sum. -/
theorem parse_of_parts (hparts : parts ≠ []) (h : body s = parts.flatMap Component.text) :
    parse s = ofSum (parts.foldl (fun total p => sum total p.value?) (some .zero)) := by
  have hcomponents := components_flatMap_text parts (some .zero)
  rw [← h] at hcomponents
  -- none of the texts that are told apart before starts with a component
  unfold parse
  split
  next rest hbody =>
    have hminus : component ('-' :: rest) = .error .expectedNumber := by simp [component, isNumeral]
    rw [hbody, components_of_error hminus (List.cons_ne_nil _ _)] at hcomponents
    cases hcomponents
  next hbody =>
    have hzero : component ['0'] = .error .missingUnit := by rfl
    rw [hbody, components_of_error hzero (List.cons_ne_nil _ _)] at hcomponents
    cases hcomponents
  next hbody =>
    obtain ⟨p, rest, rfl⟩ := List.exists_cons_of_ne_nil hparts
    rw [hbody, List.flatMap_cons] at h
    exact absurd (List.append_eq_nil_iff.mp (List.append_eq_nil_iff.mp h.symm).1).1
      p.number.text_ne_nil
  next => rw [hcomponents]

/-- A text outside of the grammar is refused, and not for being too long a time. -/
theorem exists_fault_of_not_isWritten (h : ¬ IsWritten (body s)) :
    ∃ fault, parse s = .error fault ∧ fault ≠ .outOfRange := by
  unfold parse
  split
  next => exact ⟨.negative, rfl, nofun⟩
  next hbody => exact absurd (.inl hbody) h
  next => exact ⟨.empty, rfl, nofun⟩
  next hne =>
    have hparts : ∀ parts : List Component, body s ≠ parts.flatMap Component.text := by
      rintro parts hparts
      by_cases hnone : parts = []
      · exact hne (by rw [hparts, hnone, List.flatMap_nil])
      · exact h (.inr ⟨parts, hnone, hparts⟩)
    obtain ⟨fault, hfault, hother⟩ := exists_fault_of_not_flatMap hparts (some .zero)
    exact ⟨fault, by rw [hfault], hother⟩

/-- A text fails to be a duration for another reason than its range exactly if, without the white
space around it and one plus sign in front, it is neither `0` nor made of components.  The reading of
components comes to an end.  The sum of whole numbers up to `2 ^ 53` nanoseconds is exact. -/
theorem parse_exact (s : String) :
    ((∃ fault, parse s = .error fault ∧ fault ≠ .outOfRange) ↔ ¬ IsWritten (body s)) ∧
      WellFounded (fun rest cs => ∃ value, component cs = .ok (value, rest)) ∧
      (body s = ['0'] → parse s = .ok ⟨0⟩) ∧
      ∀ parts : List Component, parts ≠ [] → body s = parts.flatMap Component.text →
        (∀ p ∈ parts, p.number.IsWhole) → (parts.map Component.nanos).sum ≤ 2 ^ 53 →
          parse s = .ok ⟨(parts.map Component.nanos).sum⟩ := by
  refine ⟨⟨?_, exists_fault_of_not_isWritten⟩, wellFounded_component, parse_of_zero, ?_⟩
  · rintro ⟨fault, hfault, hother⟩ (hzero | ⟨parts, hparts, hbody⟩)
    · rw [parse_of_zero hzero] at hfault
      cases hfault
    · rw [parse_of_parts hparts hbody] at hfault
      exact hother (eq_outOfRange_of_ofSum hfault)
  · intro parts hparts hbody hwhole hle
    have hstart : 0 + (parts.map Component.nanos).sum ≤ Magnitude.greatestWhole := by
      rwa [Nat.zero_add]
    obtain ⟨total, htotal, hsum⟩ := exists_foldl_sum hwhole Magnitude.isWhole_zero hstart
    rw [Nat.zero_add] at hsum
    rw [parse_of_parts hparts hbody, htotal, ofSum_of_isWhole hsum hle]

/-- One minute. -/
def oneMinute : Component :=
  ⟨⟨['1'], none, List.all_eq_true.mp rfl, by decide⟩, ['m'], 60000000000, .minutes⟩

/-- Thirty seconds, with a point. -/
def thirtySeconds : Component :=
  ⟨⟨['3', '0'], some ['0'], List.all_eq_true.mp rfl, by decide⟩, ['s'], 1000000000, .seconds⟩

theorem parse_minuteAndHalf :
    body " +1m30.0s" = [oneMinute, thirtySeconds].flatMap Component.text ∧
      (∀ p ∈ [oneMinute, thirtySeconds], p.number.IsWhole) ∧
      ([oneMinute, thirtySeconds].map Component.nanos).sum ≤ 2 ^ 53 ∧
      parse " +1m30.0s" = .ok ⟨90000000000⟩ ∧ ¬ IsWritten (body "90") := by
  have hbody : body " +1m30.0s" = [oneMinute, thirtySeconds].flatMap Component.text := by decide
  have hwhole : ∀ p ∈ [oneMinute, thirtySeconds], p.number.IsWhole := by
    have hdivides : ∀ p ∈ [oneMinute, thirtySeconds],
        10 ^ p.number.places ∣ Text.decimalValue p.number.digits := by decide
    exact hdivides
  have hsum : ([oneMinute, thirtySeconds].map Component.nanos).sum = 90000000000 := by decide
  obtain ⟨hwritten, -⟩ := parse_exact "90"
  obtain ⟨-, -, -, hexact⟩ := parse_exact " +1m30.0s"
  have hninety : body "90" = ['9', '0'] := by decide
  have hcomponent : component ['9', '0'] = .error .missingUnit := by rfl
  have hmissing : parse "90" = .error .missingUnit := by
    simp [parse, hninety, components_of_error hcomponent]
  have hle : ([oneMinute, thirtySeconds].map Component.nanos).sum ≤ 2 ^ 53 := by
    rw [hsum]
    decide
  refine ⟨hbody, hwhole, hle, ?_, hwritten.mp ⟨.missingUnit, hmissing, nofun⟩⟩
  rw [hexact _ (List.cons_ne_nil _ _) hbody hwhole hle, hsum]

end Texts

end DeployDrift.Duration
