import PythonAudit.Proofs.RiskScore

/-!
# Order and sums of floating-point numbers

* `Double.unitsOf_strictMono` says that greater magnitudes have more units, so numbers are ordered
  like their values (`Double.rank_le_rank_iff`);
* `Double.roundUnits_unitsOf` says that rounding changes no number that is exact, and
  `Double.roundUnits_le_roundUnits` that it keeps the order;
* so a sum of numbers that are not below zero is at least as great as each of them, and it is zero
  when all of them are (`Double.NotBelow.foldl_add`);
* `Double.isZero_mean_iff` says when a mean of such numbers is zero.
-/

namespace PythonAudit

/-! ### Rounded quotients -/

theorem div_le_roundDiv (num den : Nat) : num / den ≤ roundDiv num den := by
  simp only [roundDiv]
  split_ifs <;> omega

theorem roundDiv_le (num den : Nat) : roundDiv num den ≤ num / den + 1 := by
  simp only [roundDiv]
  split_ifs <;> omega

theorem roundDiv_mul (q : Nat) {d : Nat} (h : 0 < d) : roundDiv (q * d) d = q := by
  simp only [roundDiv, Nat.mul_div_cancel q h, Nat.mul_mod_left]
  rw [if_neg]
  simp
  omega

theorem roundDiv_le_roundDiv {a b : Nat} (h : a ≤ b) (d : Nat) : roundDiv a d ≤ roundDiv b d := by
  rcases (Nat.div_le_div_right h : a / d ≤ b / d).lt_or_eq with hlt | heq
  · exact (roundDiv_le a d).trans (Nat.le_trans hlt (div_le_roundDiv b d))
  · have hmod : a % d ≤ b % d := by
      have ha := Nat.div_add_mod a d
      have hb := Nat.div_add_mod b d
      rw [heq] at ha
      omega
    simp only [roundDiv, heq]
    split_ifs with hup hup'
    · exact le_rfl
    · exfalso
      simp at hup hup'
      omega
    · omega
    · exact le_rfl

namespace Double

/-! ### Magnitudes and units -/

theorem fractions_eq : fractions = 4503599627370496 := rfl

theorem exists_exponent (m : Nat) : ∃ e r, r < fractions ∧ m = e * fractions + r :=
  ⟨m / fractions, m % fractions, Nat.mod_lt m (by decide), by rw [Nat.mul_comm, Nat.div_add_mod]⟩

/-- The units of a magnitude, by its exponent and its fraction. -/
theorem unitsOf_mul_add (e : Nat) {r : Nat} (h : r < fractions) :
    unitsOf (e * fractions + r) = if e = 0 then r else (fractions + r) * 2 ^ (e - 1) := by
  have hdiv : (e * fractions + r) / fractions = e := by
    rw [Nat.mul_comm, Nat.mul_add_div (by decide), Nat.div_eq_of_lt h, Nat.add_zero]
  have hmod : (e * fractions + r) % fractions = r := by
    rw [Nat.mul_comm, Nat.mul_add_mod, Nat.mod_eq_of_lt h]
  rw [unitsOf, hdiv, hmod]
  split_ifs with he
  · rw [he, Nat.zero_mul, Nat.zero_add]
  · rfl

theorem unitsOf_lt_succ (m : Nat) : unitsOf m < unitsOf (m + 1) := by
  obtain ⟨e, r, hr, rfl⟩ := exists_exponent m
  rw [unitsOf_mul_add e hr]
  by_cases hlast : r + 1 < fractions
  · rw [Nat.add_assoc, unitsOf_mul_add e hlast]
    split_ifs
    · omega
    · exact Nat.mul_lt_mul_of_pos_right (by omega) (Nat.two_pow_pos _)
  · -- the last fraction of an exponent is followed by the first one of the next exponent
    have hnext : e * fractions + r + 1 = (e + 1) * fractions + 0 := by
      rw [Nat.add_mul, Nat.one_mul]
      omega
    rw [hnext, unitsOf_mul_add (e + 1) (by decide), if_neg (Nat.succ_ne_zero e), Nat.add_sub_cancel,
      Nat.add_zero]
    split_ifs with he
    · rw [he, Nat.pow_zero]
      omega
    · obtain ⟨k, rfl⟩ := Nat.exists_eq_succ_of_ne_zero he
      rw [Nat.succ_sub_one, Nat.pow_succ', ← Nat.mul_assoc]
      exact Nat.mul_lt_mul_of_pos_right (by omega) (Nat.two_pow_pos _)

theorem unitsOf_strictMono : StrictMono unitsOf := strictMono_nat_of_lt_succ unitsOf_lt_succ

@[simp] theorem unitsOf_eq_zero_iff {m : Nat} : unitsOf m = 0 ↔ m = 0 :=
  unitsOf_strictMono.injective.eq_iff' rfl

theorem toNat_bits_ofParts (b : Bool) {m : Nat} (h : m < 2 ^ 63) :
    (ofParts b m).bits.toNat = if b then m + 2 ^ 63 else m := by
  have hpow : Nat.pow 2 63 = 2 ^ 63 := rfl
  rw [ofParts, UInt64.toNat_ofNat', hpow]
  refine Nat.mod_eq_of_lt ?_
  split_ifs <;> omega

theorem magnitude_ofParts (b : Bool) {m : Nat} (h : m < 2 ^ 63) : (ofParts b m).magnitude = m := by
  rw [magnitude, toNat_bits_ofParts b h]
  show (if b then m + 2 ^ 63 else m) % 2 ^ 63 = m
  split_ifs <;> omega

theorem negative_ofParts (b : Bool) {m : Nat} (h : m < 2 ^ 63) : (ofParts b m).negative = b := by
  rw [negative, toNat_bits_ofParts b h]
  show decide (2 ^ 63 ≤ if b then m + 2 ^ 63 else m) = b
  cases b with
  | true => simp
  | false =>
    simp
    omega

/-! ### Order -/

theorem isPositive_iff {x : Double} (h : x.isFinite = true) :
    x.isPositive = true ↔ 0 < x.value := by
  have hnan : x.isNaN = false := by
    simp only [isFinite, isNaN, decide_eq_true_eq, decide_eq_false_iff_not] at h ⊢
    omega
  rw [value, div_pos_iff_of_pos_right one_pos, isPositive, hnan]
  cases hsign : x.negative with
  | true => simp [signedUnits, hsign]
  | false =>
    have hzero : x.units = 0 ↔ x.magnitude = 0 := unitsOf_eq_zero_iff
    simp only [signedUnits, hsign]
    norm_cast
    simp
    omega

theorem value_of_not_negative {x : Double} (h : x.negative = false) :
    x.value = x.units / (one : ℚ) := by
  rw [value, signedUnits, h]
  rfl

theorem not_negative_of_isPositive {x : Double} (h : x.isPositive = true) : x.negative = false := by
  simp only [isPositive, Bool.and_eq_true, Bool.not_eq_true'] at h
  exact h.1.2

/-- Numbers above zero are ordered like their values. -/
theorem rank_le_rank_iff {x y : Double} (hx : x.isPositive = true) (hy : y.isPositive = true) :
    x.rank ≤ y.rank ↔ x.value ≤ y.value := by
  have hxsign := not_negative_of_isPositive hx
  have hysign := not_negative_of_isPositive hy
  rw [rank, rank, hxsign, hysign, value_of_not_negative hxsign, value_of_not_negative hysign,
    div_le_div_iff_of_pos_right one_pos, Nat.cast_le, units, units, unitsOf_strictMono.le_iff_le]
  simp

/-! ### Rounding -/

theorem roundUnits_one (num : Nat) :
    roundUnits num 1 =
      min infiniteMagnitude ((num.log2 - 52) * fractions + roundDiv num (2 ^ (num.log2 - 52))) := by
  rw [roundUnits, Nat.div_one, Nat.one_mul]
  rfl

theorem roundUnits_lt (num den : Nat) : roundUnits num den < 2 ^ 63 :=
  Nat.lt_of_le_of_lt (min_le_left _ _) (by decide)

/-- What is exact already is not changed by rounding. -/
theorem roundUnits_unitsOf {m : Nat} (h : m ≤ infiniteMagnitude) :
    roundUnits (unitsOf m) 1 = m := by
  obtain ⟨e, r, hr, rfl⟩ := exists_exponent m
  rw [roundUnits_one, unitsOf_mul_add e hr]
  split_ifs with he
  · have hlog : r.log2 - 52 = 0 := by
      by_cases hzero : r = 0
      · rw [hzero]
        rfl
      · have hlt : r.log2 < 52 := (Nat.log2_lt hzero).2 hr
        omega
    have hexact := roundDiv_mul r Nat.one_pos
    rw [Nat.mul_one] at hexact
    rw [he] at h
    rw [hlog, Nat.pow_zero, hexact, he]
    exact Nat.min_eq_right h
  · obtain ⟨k, rfl⟩ := Nat.exists_eq_succ_of_ne_zero he
    have hpos : 0 < (fractions + r) * 2 ^ k :=
      Nat.mul_pos (Nat.add_pos_left (by decide) r) (Nat.two_pow_pos k)
    have hlog : ((fractions + r) * 2 ^ k).log2 = 52 + k := by
      rw [Nat.log2_eq_iff hpos.ne']
      constructor
      · rw [Nat.pow_add]
        exact Nat.mul_le_mul_right _ (Nat.le_add_right _ _)
      · rw [show 52 + k + 1 = 53 + k by omega, Nat.pow_add]
        refine Nat.mul_lt_mul_of_pos_right ?_ (Nat.two_pow_pos k)
        rw [fractions_eq] at hr ⊢
        omega
    have hsum : k * fractions + (fractions + r) = (k + 1) * fractions + r := by
      rw [Nat.succ_mul, Nat.add_assoc]
    rw [Nat.succ_sub_one, hlog, Nat.add_sub_cancel_left, roundDiv_mul _ (Nat.two_pow_pos k), hsum]
    exact Nat.min_eq_right h

theorem roundUnits_le_roundUnits {a b : Nat} (h : a ≤ b) : roundUnits a 1 ≤ roundUnits b 1 := by
  rw [roundUnits_one, roundUnits_one]
  refine min_le_min le_rfl ?_
  have hlog : a.log2 ≤ b.log2 := by
    rw [Nat.log2_eq_log_two, Nat.log2_eq_log_two]
    exact Nat.log_mono_right h
  rcases (Nat.sub_le_sub_right hlog 52).lt_or_eq with hlt | heq
  · -- a quotient is at most as great as the least one of the next exponent
    have hupper : roundDiv a (2 ^ (a.log2 - 52)) ≤ 2 * fractions := by
      have hquotient : a / 2 ^ (a.log2 - 52) < 2 ^ 53 := by
        rw [Nat.div_lt_iff_lt_mul (Nat.two_pow_pos _), ← Nat.pow_add]
        exact Nat.lt_log2_self.trans_le (Nat.pow_le_pow_right (by omega) (by omega))
      have hround := roundDiv_le a (2 ^ (a.log2 - 52))
      rw [fractions_eq]
      omega
    have hlower : fractions ≤ roundDiv b (2 ^ (b.log2 - 52)) := by
      refine le_trans ?_ (div_le_roundDiv _ _)
      have hb : b ≠ 0 := by
        rintro rfl
        simp at hlt
      rw [Nat.le_div_iff_mul_le (Nat.two_pow_pos _)]
      refine le_trans ?_ (Nat.log2_self_le hb)
      show 2 ^ 52 * 2 ^ (b.log2 - 52) ≤ _
      rw [← Nat.pow_add]
      exact Nat.pow_le_pow_right (by omega) (by omega)
    have hshift : (a.log2 - 52 + 1) * fractions ≤ (b.log2 - 52) * fractions :=
      Nat.mul_le_mul_right _ hlt
    rw [Nat.add_mul] at hshift
    omega
  · rw [heq]
    exact Nat.add_le_add_left (roundDiv_le_roundDiv h _) _

theorem roundUnits_pos {num den : Nat} (hden : 0 < den) (h : den ≤ num) :
    0 < roundUnits num den := by
  rw [roundUnits]
  refine lt_min (by decide) ?_
  rcases Nat.eq_zero_or_pos ((num / den).log2 - 52) with hshift | hshift
  · rw [hshift]
    have hquotient := div_le_roundDiv num (den * Nat.pow 2 0)
    have hone := Nat.div_pos h hden
    simp at hquotient ⊢
    omega
  · exact Nat.add_pos_left (Nat.mul_pos hshift (by decide)) _

/-! ### Sums -/

/-- The value is a number that is not below zero, possibly infinite. A zero may have a sign. -/
structure NotBelow (x : Double) : Prop where
  magnitude_le : x.magnitude ≤ infiniteMagnitude
  sign : x.negative = true → x.magnitude = 0

theorem notBelow_ofParts {b : Bool} {m : Nat} (h : m ≤ infiniteMagnitude)
    (hsign : b = true → m = 0) :
    (ofParts b m).NotBelow := by
  have hlt : m < 2 ^ 63 := Nat.lt_of_le_of_lt h (by decide)
  constructor
  · rwa [magnitude_ofParts b hlt]
  · rwa [magnitude_ofParts b hlt, negative_ofParts b hlt]

namespace NotBelow

variable {x y : Double}

theorem isNaN (h : x.NotBelow) : x.isNaN = false := decide_eq_false h.magnitude_le.not_gt

theorem signedUnits (h : x.NotBelow) : x.signedUnits = x.units := by
  rw [Double.signedUnits]
  split_ifs with hsign
  · rw [units, h.sign hsign]
    rfl
  · rfl

theorem negative_of_isInfinite (h : x.NotBelow) (hinfinite : x.isInfinite = true) :
    x.negative = false := by
  rw [Bool.eq_false_iff]
  intro hsign
  rw [isInfinite, h.sign hsign] at hinfinite
  revert hinfinite
  decide

/-- Rounding the units of a number gives it back. -/
theorem magnitude_eq (h : x.NotBelow) : x.magnitude = roundUnits x.units 1 :=
  (roundUnits_unitsOf h.magnitude_le).symm

theorem roundUnits_of_isInfinite (h : x.NotBelow) (hinfinite : x.isInfinite = true) {n : Nat}
    (hn : x.units ≤ n) :
    roundUnits n 1 = infiniteMagnitude := by
  refine le_antisymm (min_le_left _ _) ?_
  rw [isInfinite, beq_iff_eq] at hinfinite
  calc infiniteMagnitude = roundUnits x.units 1 := by rw [← h.magnitude_eq, hinfinite]
    _ ≤ roundUnits n 1 := roundUnits_le_roundUnits hn

/-- A sum is the exact sum, rounded. -/
theorem add (hx : x.NotBelow) (hy : y.NotBelow) :
    (x.add y).NotBelow ∧ (x.add y).magnitude = roundUnits (x.units + y.units) 1 := by
  simp only [Double.add, hx.isNaN, hy.isNaN, Bool.or_self, Bool.false_eq_true, if_false]
  split_ifs with hxinf hboth hyinf hzero
  · -- two infinities that are not below zero have the same sign
    rw [Bool.and_eq_true, hx.negative_of_isInfinite hxinf,
      hy.negative_of_isInfinite hboth.1] at hboth
    cases hboth.2
  · rw [hx.roundUnits_of_isInfinite hxinf (Nat.le_add_right _ _)]
    exact ⟨hx, beq_iff_eq.1 hxinf⟩
  · rw [hy.roundUnits_of_isInfinite hyinf (Nat.le_add_left _ _)]
    exact ⟨hy, beq_iff_eq.1 hyinf⟩
  · rw [hx.signedUnits, hy.signedUnits] at hzero
    have hsum : x.units + y.units = 0 := by omega
    rw [magnitude_ofParts _ (by decide), hsum]
    exact ⟨notBelow_ofParts (by decide) fun _ => rfl, rfl⟩
  · have hnatAbs : (x.signedUnits + y.signedUnits).natAbs = x.units + y.units := by
      rw [hx.signedUnits, hy.signedUnits]
      omega
    have hsign : decide (x.signedUnits + y.signedUnits < 0) = false := by
      rw [hx.signedUnits, hy.signedUnits]
      exact decide_eq_false (by omega)
    rw [hnatAbs, hsign, magnitude_ofParts _ (roundUnits_lt _ _)]
    exact ⟨notBelow_ofParts (min_le_left _ _) (by simp), rfl⟩

/-- Adding up numbers from one on: nothing gets lost, and from zeros nothing but zero comes out. -/
theorem foldl_add {xs : List Double} (hxs : ∀ x ∈ xs, x.NotBelow) {acc : Double}
    (hacc : acc.NotBelow) :
    (xs.foldl Double.add acc).NotBelow ∧
      (∀ x ∈ acc :: xs, x.magnitude ≤ (xs.foldl Double.add acc).magnitude) ∧
      ((∀ x ∈ acc :: xs, x.magnitude = 0) → (xs.foldl Double.add acc).magnitude = 0) := by
  induction xs generalizing acc with
  | nil => exact ⟨hacc, by simp, fun h => h acc List.mem_cons_self⟩
  | cons y ys ih =>
    have hy : y.NotBelow := hxs y List.mem_cons_self
    obtain ⟨hadd, hmagnitude⟩ := hacc.add hy
    obtain ⟨hsum, hle, hzero⟩ := ih (fun x hx => hxs x (List.mem_cons_of_mem y hx)) hadd
    have hfirst := hle _ List.mem_cons_self
    have hacc_le : acc.magnitude ≤ (acc.add y).magnitude := by
      rw [hmagnitude, hacc.magnitude_eq]
      exact roundUnits_le_roundUnits (Nat.le_add_right _ _)
    have hy_le : y.magnitude ≤ (acc.add y).magnitude := by
      rw [hmagnitude, hy.magnitude_eq]
      exact roundUnits_le_roundUnits (Nat.le_add_left _ _)
    refine ⟨hsum, fun x hx => ?_, fun hall => hzero fun x hx => ?_⟩
    · rcases List.mem_cons.1 hx with rfl | hx
      · exact hacc_le.trans hfirst
      · rcases List.mem_cons.1 hx with rfl | hx
        · exact hy_le.trans hfirst
        · exact hle x (List.mem_cons_of_mem _ hx)
    · rcases List.mem_cons.1 hx with rfl | hx
      · rw [hmagnitude, units, units, hall acc List.mem_cons_self,
          hall y (List.mem_cons_of_mem _ List.mem_cons_self)]
        rfl
      · exact hall x (List.mem_cons_of_mem _ (List.mem_cons_of_mem _ hx))

end NotBelow

theorem isZero_divNat_iff {x : Double} {n : Nat} (hn : 0 < n) (h : x.magnitude = 0 ∨ n ≤ x.units) :
    (x.divNat n).isZero = true ↔ x.magnitude = 0 := by
  simp only [isZero, beq_iff_eq, divNat]
  split_ifs with hfinite
  · rw [magnitude_ofParts _ (roundUnits_lt _ _)]
    rcases h with hzero | hle
    · rw [units, hzero]
      exact iff_of_true (by simp [roundUnits, unitsOf, roundDiv]) rfl
    · have hpos : 0 < x.units := hn.trans_le hle
      refine iff_of_false (roundUnits_pos hn hle).ne' fun hzero => ?_
      rw [units, hzero] at hpos
      exact absurd hpos (by decide)
  · exact Iff.rfl

/-- A mean of numbers that are not below zero is zero exactly when all of them are, unless there are
more of them than one of them has units. -/
theorem isZero_mean_iff {xs : List Double} (hne : xs ≠ []) (hxs : ∀ x ∈ xs, x.NotBelow)
    (hunits : ∀ x ∈ xs, x.magnitude = 0 ∨ xs.length ≤ x.units) :
    ((sum xs).divNat xs.length).isZero = true ↔ ∀ x ∈ xs, x.magnitude = 0 := by
  have hstart : negativeZero.NotBelow := notBelow_ofParts (Nat.zero_le _) fun _ => rfl
  obtain ⟨-, hle, hzero⟩ := hstart.foldl_add hxs
  have hzero' : (∀ x ∈ xs, x.magnitude = 0) → (sum xs).magnitude = 0 := by
    intro h
    refine hzero fun x hx => ?_
    rcases List.mem_cons.1 hx with rfl | hx
    · rfl
    · exact h x hx
  have hbound : (sum xs).magnitude = 0 ∨ xs.length ≤ (sum xs).units := by
    by_cases h : ∀ x ∈ xs, x.magnitude = 0
    · exact Or.inl (hzero' h)
    · simp only [not_forall] at h
      obtain ⟨x, hx, hne⟩ := h
      refine Or.inr (((hunits x hx).resolve_left hne).trans ?_)
      exact unitsOf_strictMono.monotone (hle x (List.mem_cons_of_mem _ hx))
  rw [isZero_divNat_iff (List.length_pos_iff.2 hne) hbound]
  refine ⟨fun h x hx => ?_, hzero'⟩
  exact Nat.le_zero.1 (h ▸ hle x (List.mem_cons_of_mem _ hx))

end Double

end PythonAudit
