import DeployDrift.Number
import Mathlib.Tactic.Ring

/-!
# Whole numbers in binary64

A whole number up to `2 ^ 53` is a magnitude, and rounding a quotient that has such a value gives
it.  Sums and products of magnitudes are therefore exact as long as their values are whole numbers in
this range.
-/
namespace DeployDrift.Magnitude

/-- The value of the magnitude is the whole number `n`. -/
def IsWhole (m : Magnitude) (n : Nat) : Prop := m.toRatio.1 = n * m.toRatio.2

/-- The greatest number up to which all whole numbers are magnitudes. -/
def greatestWhole : Nat := 2 ^ 53

theorem toRatio_pos (m : Magnitude) : 0 < m.toRatio.2 := by
  unfold toRatio
  split
  · exact Nat.one_pos
  · exact Nat.pow_pos (by decide)

theorem isWhole_zero : zero.IsWhole 0 := (Nat.zero_mul _).symm

section Rounding

variable {n den : Nat}

theorem roundHalfEven_mul (h : 0 < den) : roundHalfEven (n * den) den = n := by
  simp [roundHalfEven, Nat.mul_div_cancel n h, h]

/-- The logarithm of a product, up to the carry. -/
theorem log2_mul (hn : n ≠ 0) (hd : den ≠ 0) :
    (n * den).log2 = n.log2 + den.log2 ∨ (n * den).log2 = n.log2 + den.log2 + 1 := by
  have hproduct : n * den ≠ 0 := Nat.mul_ne_zero hn hd
  have hlow : n.log2 + den.log2 ≤ (n * den).log2 := by
    rw [Nat.le_log2 hproduct, Nat.pow_add]
    exact Nat.mul_le_mul (Nat.log2_self_le hn) (Nat.log2_self_le hd)
  have hhigh : (n * den).log2 < n.log2 + den.log2 + 2 := by
    rw [Nat.log2_lt hproduct]
    calc n * den < 2 ^ (n.log2 + 1) * 2 ^ (den.log2 + 1) :=
          Nat.mul_lt_mul'' Nat.lt_log2_self Nat.lt_log2_self
      _ = 2 ^ (n.log2 + den.log2 + 2) := by rw [← Nat.pow_add]; congr 1; omega
  omega

theorem log2Ratio_mul (hn : 0 < n) (hd : 0 < den) : log2Ratio (n * den) den = n.log2 := by
  have hreached : ∀ k : Nat, den * 2 ^ k ≤ n * den ↔ k ≤ n.log2 := by
    intro k
    rw [Nat.mul_comm n, Nat.mul_le_mul_left_iff hd, Nat.le_log2 (Nat.ne_of_gt hn)]
  have hguess : ∀ k : Nat, ((n * den).log2 : Int) - den.log2 = k →
      log2Ratio (n * den) den = if k ≤ n.log2 then (k : Int) else k - 1 := by
    intro k hk
    simp [log2Ratio, hk, hreached]
  rcases log2_mul (Nat.ne_of_gt hn) (Nat.ne_of_gt hd) with hlog | hlog
  · rw [hguess n.log2 (by omega), if_pos (Nat.le_refl _)]
  · rw [hguess (n.log2 + 1) (by omega), if_neg (by omega)]
    omega

/-- A quotient below `2 ^ 53` with a whole value is in the grid of its exponent. -/
theorem ofRatio_mul_of_lt (hn : 0 < n) (hd : 0 < den) (h : n < 2 ^ 53) :
    ofRatio (n * den) den = some ⟨n * 2 ^ (52 - n.log2), -((52 - n.log2 : Nat) : Int)⟩ := by
  have hlog : n.log2 < 53 := (Nat.log2_lt (Nat.ne_of_gt hn)).mpr h
  obtain ⟨k, hk⟩ : ∃ k, 52 - n.log2 = k := ⟨_, rfl⟩
  have hexponent : max ((n.log2 : Int) - ((digits - 1 : Nat) : Int)) leastExponent = -(k : Int) := by
    simp only [digits, leastExponent]
    omega
  have hscaled : scaled (n * den) den (-(k : Int)) = n * 2 ^ k := by
    unfold scaled
    by_cases hk0 : k = 0
    · simp [hk0, roundHalfEven_mul hd]
    · have hneg : ¬ (0 : Int) ≤ -(k : Int) := by omega
      have hpower : (-(-(k : Int))).toNat = k := by omega
      rw [if_neg hneg, hpower, Nat.pow_eq, Nat.mul_right_comm, roundHalfEven_mul hd]
  have hsmall : n * 2 ^ k < 2 ^ 53 := by
    have hpower : 2 ^ (n.log2 + 1) * 2 ^ k = 2 ^ 53 := by
      rw [← Nat.pow_add]
      congr 1
      omega
    rw [← hpower]
    exact Nat.mul_lt_mul_of_pos_right Nat.lt_log2_self (Nat.pow_pos (by decide))
  rw [hk]
  unfold ofRatio
  rw [if_neg (Nat.ne_of_gt hd), if_neg (Nat.mul_ne_zero (Nat.ne_of_gt hn) (Nat.ne_of_gt hd)),
    log2Ratio_mul hn hd, hexponent]
  dsimp only
  rw [hscaled]
  have hfull : ¬ n * 2 ^ k = Nat.pow 2 digits := Nat.ne_of_lt hsmall
  have hexp : ¬ greatestExponent < -(k : Int) := by
    simp only [greatestExponent]
    omega
  rw [if_neg hfull]
  exact if_neg hexp

theorem isWhole_of_grid (n k : Nat) : (Magnitude.mk (n * 2 ^ k) (-(k : Int))).IsWhole n := by
  unfold IsWhole toRatio
  by_cases hk : k = 0
  · simp [hk]
  · have hneg : ¬ (0 : Int) ≤ -(k : Int) := by omega
    have hpower : (-(-(k : Int))).toNat = k := by omega
    rw [if_neg hneg, hpower, Nat.pow_eq]

/-- The number `2 ^ 53` itself needs one exponent more. -/
theorem ofRatio_greatestWhole (hd : 0 < den) :
    ofRatio (greatestWhole * den) den = some ⟨2 ^ 52, 1⟩ := by
  have hexponent :
      max ((greatestWhole.log2 : Int) - ((digits - 1 : Nat) : Int)) leastExponent = 1 := by
    decide
  have hscaled : scaled (greatestWhole * den) den 1 = 2 ^ 52 := by
    have hhalf : greatestWhole * den = 2 ^ 52 * (den * 2) := by
      simp only [greatestWhole]
      omega
    change roundHalfEven (greatestWhole * den) (den * 2) = 2 ^ 52
    rw [hhalf, roundHalfEven_mul (by omega)]
  unfold ofRatio
  rw [if_neg (Nat.ne_of_gt hd), if_neg (Nat.mul_ne_zero (by decide) (Nat.ne_of_gt hd)),
    log2Ratio_mul (by decide) hd, hexponent]
  dsimp only
  rw [hscaled]
  rfl

/-- Rounding a quotient with a whole value up to `2 ^ 53` gives this value. -/
theorem exists_ofRatio {num : Nat} (hd : 0 < den) (hvalue : num = n * den)
    (h : n ≤ greatestWhole) : ∃ m, ofRatio num den = some m ∧ m.IsWhole n := by
  subst hvalue
  rcases Nat.eq_zero_or_pos n with rfl | hn
  · exact ⟨zero, by simp [ofRatio, Nat.ne_of_gt hd], isWhole_zero⟩
  · rcases Nat.lt_or_eq_of_le h with hlt | rfl
    · exact ⟨_, ofRatio_mul_of_lt hn hd hlt, isWhole_of_grid n _⟩
    · exact ⟨_, ofRatio_greatestWhole hd, rfl⟩

end Rounding

section Operations

variable {a b m : Magnitude} {x y n : Nat}

theorem exists_ofNat (h : n ≤ greatestWhole) : ∃ m, ofNat n = some m ∧ m.IsWhole n :=
  exists_ofRatio Nat.one_pos (Nat.mul_one n).symm h

/-- A decimal fraction with a whole value is read as this value. -/
theorem exists_ofScientific {significand places : Nat} (hvalue : significand = n * 10 ^ places)
    (h : n ≤ greatestWhole) :
    ∃ m, ofScientific significand (-(places : Int)) = some m ∧ m.IsWhole n := by
  unfold ofScientific
  by_cases hplaces : places = 0
  · have hzero : (0 : Int) ≤ -(places : Int) := by omega
    rw [if_pos hzero]
    apply exists_ofRatio Nat.one_pos _ h
    simp [hvalue, hplaces]
  · have hneg : ¬ (0 : Int) ≤ -(places : Int) := by omega
    have hpower : (-(-(places : Int))).toNat = places := by omega
    rw [if_neg hneg, hpower]
    exact exists_ofRatio (Nat.pow_pos (by decide)) hvalue h

/-- A sum of whole numbers is exact up to `2 ^ 53`. -/
theorem IsWhole.exists_add (ha : a.IsWhole x) (hb : b.IsWhole y) (h : x + y ≤ greatestWhole) :
    ∃ m, a.add b = some m ∧ m.IsWhole (x + y) := by
  have hvalue : a.toRatio.1 * b.toRatio.2 + b.toRatio.1 * a.toRatio.2 =
      (x + y) * (a.toRatio.2 * b.toRatio.2) := by
    unfold IsWhole at ha hb
    rw [ha, hb]
    ring
  exact exists_ofRatio (Nat.mul_pos a.toRatio_pos b.toRatio_pos) hvalue h

/-- A product of whole numbers is exact up to `2 ^ 53`. -/
theorem IsWhole.exists_mul (ha : a.IsWhole x) (hb : b.IsWhole y) (h : x * y ≤ greatestWhole) :
    ∃ m, a.mul b = some m ∧ m.IsWhole (x * y) := by
  have hvalue : a.toRatio.1 * b.toRatio.1 = x * y * (a.toRatio.2 * b.toRatio.2) := by
    unfold IsWhole at ha hb
    rw [ha, hb]
    ring
  exact exists_ofRatio (Nat.mul_pos a.toRatio_pos b.toRatio_pos) hvalue h

theorem IsWhole.floor_eq (h : m.IsWhole n) : m.floor = n := by
  unfold floor
  dsimp only
  rw [show m.toRatio.1 = n * m.toRatio.2 from h, Nat.mul_div_cancel n m.toRatio_pos]

theorem IsWhole.leNat (h : m.IsWhole n) {bound : Nat} (hn : n ≤ bound) :
    m.leNat bound = true := by
  unfold Magnitude.leNat
  dsimp only
  rw [show m.toRatio.1 = n * m.toRatio.2 from h, decide_eq_true_eq]
  exact Nat.mul_le_mul_right _ hn

end Operations
end DeployDrift.Magnitude
