import Mathlib.Data.Rat.Floor
import Mathlib.Tactic
import PythonAudit.Report.Finding

/-!
# The scale of risk

* `exactScore_eq` says that the exact risk is a fifth of the weight, at most ten: rounding to two
  places changes nothing;
* `Double.fifths k` is the floating-point number nearest to `k / 5`, and `riskScore_eq` says that
  every score is one of those with `k ≤ 50`;
* so a score is a finite number from zero to ten (`value_riskScore_nonneg`, `value_riskScore_le`);
* `exactWeight` is the weight without a bound, of which 32 bits are left (`toNat_totalWeight`), and
  `Fits` says that this loses nothing: then a score is zero only when there are no findings
  (`Fits.value_riskScore_eq_zero_iff`).
-/

namespace PythonAudit

namespace Double

/-- The value of a finite number. -/
def value (x : Double) : ℚ := x.signedUnits / (one : ℚ)

theorem one_pos : (0 : ℚ) < (one : ℚ) := Nat.cast_pos.2 (by decide +kernel)

/-- The number nearest to some fifths. -/
def fifths (k : Nat) : Double := ofRatio ((k : ℚ) / 5).num.natAbs ((k : ℚ) / 5).den

/-- Up to ten, fifths are not negative, they are at most ten, and they are zero only when there are
none. -/
theorem fifths_bounds : ∀ k ≤ 50,
    (fifths k).isFinite = true ∧ (fifths k).negative = false ∧ (fifths k).units ≤ 10 * one ∧
      ((fifths k).units = 0 ↔ k = 0) := by
  decide +kernel

end Double

namespace Finding

/-! ### Weights -/

/-- The weights of all findings together, as an exact number. -/
def exactWeight (fs : List Finding) : Nat := (fs.map fun f => f.severity.weight).sum

/-- The weight of the findings fits into 32 bits, so that none of it is lost. -/
def Fits (fs : List Finding) : Prop := exactWeight fs < 2 ^ 32

instance (fs : List Finding) : Decidable (Fits fs) := inferInstanceAs (Decidable (_ < _))

@[simp] theorem exactWeight_nil : exactWeight [] = 0 := rfl

@[simp] theorem exactWeight_cons (f : Finding) (fs : List Finding) :
    exactWeight (f :: fs) = f.severity.weight + exactWeight fs := rfl

theorem weight_pos (s : Severity) : 0 < s.weight := by
  cases s <;> decide

theorem exactWeight_eq_zero_iff (fs : List Finding) : exactWeight fs = 0 ↔ fs = [] := by
  cases fs with
  | nil => simp
  | cons f fs =>
    have hpos := weight_pos f.severity
    simp only [exactWeight_cons, reduceCtorEq, iff_false]
    omega

theorem exactWeight_perm {fs gs : List Finding} (h : fs.Perm gs) :
    exactWeight fs = exactWeight gs :=
  (h.map _).sum_eq

/-- Of the exact weight only the lower 32 bits count. -/
theorem toNat_totalWeight (fs : List Finding) :
    (totalWeight fs).toNat = exactWeight fs % 2 ^ 32 := by
  induction fs with
  | nil => rfl
  | cons f fs ih =>
    have hcons : totalWeight (f :: fs) = UInt32.ofNat f.severity.weight + totalWeight fs := rfl
    rw [hcons, UInt32.toNat_add, UInt32.toNat_ofNat', ih, exactWeight_cons, ← Nat.add_mod]

theorem Fits.toNat_totalWeight {fs : List Finding} (h : Fits fs) :
    (totalWeight fs).toNat = exactWeight fs := by
  rw [Finding.toNat_totalWeight, Nat.mod_eq_of_lt h]

theorem Fits.toNat_totalWeight_eq_zero_iff {fs : List Finding} (h : Fits fs) :
    (totalWeight fs).toNat = 0 ↔ fs = [] := by
  rw [h.toNat_totalWeight, exactWeight_eq_zero_iff]

/-! ### The exact risk -/

/-- Fifths have no more than two decimal places. -/
theorem roundHundredths_fifth (n : Nat) : roundHundredths ((n : ℚ) / 5) = (n : ℚ) / 5 := by
  have hfloor : ⌊(n : ℚ) / 5 * 100 + 1 / 2⌋ = 20 * (n : ℤ) := by
    rw [Int.floor_eq_iff]
    constructor
    · push_cast
      linarith
    · push_cast
      linarith
  calc roundHundredths ((n : ℚ) / 5) = (⌊(n : ℚ) / 5 * 100 + 1 / 2⌋ : ℚ) / 100 := rfl
    _ = (n : ℚ) / 5 := by
      rw [hfloor]
      push_cast
      ring

theorem atMostTen_fifth (n : Nat) : atMostTen ((n : ℚ) / 5) = ((min n 50 : ℕ) : ℚ) / 5 := by
  have hle : (n : ℚ) / 5 ≤ 10 ↔ n ≤ 50 := by
    rw [div_le_iff₀ (by norm_num), ← Nat.cast_le (α := ℚ)]
    norm_num
  unfold atMostTen
  split_ifs with h
  · rw [min_eq_left (hle.1 h)]
  · rw [min_eq_right (by rw [hle] at h; omega)]
    norm_num

theorem exactScore_eq (fs : List Finding) :
    exactScore fs = ((min (totalWeight fs).toNat 50 : ℕ) : ℚ) / 5 := by
  have hratio : mkRat (Int.ofNat (totalWeight fs).toNat) 5 = ((totalWeight fs).toNat : ℚ) / 5 := by
    rw [Rat.mkRat_eq_div]
    rfl
  cases fs with
  | nil => simp [exactScore, totalWeight]
  | cons f fs =>
    rw [exactScore, hratio, atMostTen_fifth, roundHundredths_fifth]
    rfl

/-! ### The score -/

/-- Every score is a number of fifths, up to ten. -/
theorem riskScore_eq (fs : List Finding) :
    riskScore fs = Double.fifths (min (totalWeight fs).toNat 50) := by
  rw [riskScore, exactScore_eq, Double.fifths]

theorem riskScore_perm {fs gs : List Finding} (h : fs.Perm gs) : riskScore fs = riskScore gs := by
  rw [riskScore_eq, riskScore_eq, toNat_totalWeight, toNat_totalWeight, exactWeight_perm h]

variable (fs : List Finding)

theorem value_riskScore : (riskScore fs).value = ((riskScore fs).units : ℚ) / (Double.one : ℚ) := by
  obtain ⟨-, hsign, -⟩ := Double.fifths_bounds _ (min_le_right (totalWeight fs).toNat 50)
  rw [Double.value, Double.signedUnits, riskScore_eq, hsign]
  rfl

theorem isFinite_riskScore : (riskScore fs).isFinite = true := by
  rw [riskScore_eq]
  exact (Double.fifths_bounds _ (min_le_right _ _)).1

theorem value_riskScore_nonneg : 0 ≤ (riskScore fs).value := by
  rw [value_riskScore]
  positivity

theorem value_riskScore_le : (riskScore fs).value ≤ 10 := by
  obtain ⟨-, -, hle, -⟩ := Double.fifths_bounds _ (min_le_right (totalWeight fs).toNat 50)
  rw [← riskScore_eq] at hle
  rw [value_riskScore, div_le_iff₀ Double.one_pos]
  exact_mod_cast hle

/-- A score is zero when nothing of the weight is left in 32 bits. -/
theorem value_riskScore_eq_zero_iff : (riskScore fs).value = 0 ↔ 2 ^ 32 ∣ exactWeight fs := by
  obtain ⟨-, -, -, hzero⟩ := Double.fifths_bounds _ (min_le_right (totalWeight fs).toNat 50)
  rw [← riskScore_eq] at hzero
  rw [value_riskScore, div_eq_zero_iff, or_iff_left Double.one_pos.ne', Nat.cast_eq_zero, hzero,
    Nat.dvd_iff_mod_eq_zero, ← toNat_totalWeight]
  omega

variable {fs}

/-- A score is zero only without findings. -/
theorem Fits.value_riskScore_eq_zero_iff (h : Fits fs) : (riskScore fs).value = 0 ↔ fs = [] := by
  rw [Finding.value_riskScore_eq_zero_iff, Nat.dvd_iff_mod_eq_zero, Nat.mod_eq_of_lt h,
    exactWeight_eq_zero_iff]

end Finding

end PythonAudit
