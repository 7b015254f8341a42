import Mathlib.Analysis.Convex.Jensen
import Mathlib.Analysis.Convex.SpecificFunctions.Basic
import Mathlib.Analysis.SpecialFunctions.Log.Base
import Mathlib.Tactic
import PythonAudit.Proofs.SummationOrder

/-!
# What high entropy says about a text

Entropies and thresholds are read here over the real numbers.

* `Counted seen counts` says that `counts` are the numbers of occurrences in `seen`, each character
  once, and `counted_characterCounts` that this is what is counted;
* `entropy_eq_sum` is the formula of the entropy, `entropy_le_logb_card` bounds it by the logarithm
  of the number of different characters, and `entropy_of_nodup` says that the bound is reached;
* `pow_lt_pow_of_lt_share` turns a share above the threshold into an inequality between powers of
  natural numbers;
* `reported_texts_are_varied` collects what follows for the usual thresholds.
-/

namespace PythonAudit

/-! ### Counting characters -/

/-- The numbers of occurrences in a text, with each character once. -/
structure Counted (seen : List Char) (counts : List (Char × Nat)) : Prop where
  nodup : (counts.map Prod.fst).Nodup
  mem_iff : ∀ c, c ∈ counts.map Prod.fst ↔ c ∈ seen
  count : ∀ p ∈ counts, p.2 = seen.count p.1

theorem map_fst_addCount (c : Char) (counts : List (Char × Nat)) :
    (addCount c counts).map Prod.fst =
      if c ∈ counts.map Prod.fst then counts.map Prod.fst else counts.map Prod.fst ++ [c] := by
  induction counts with
  | nil => simp [addCount]
  | cons p counts ih =>
    obtain ⟨d, n⟩ := p
    by_cases hd : d = c
    · simp [addCount, hd]
    · have hc : c ≠ d := Ne.symm hd
      simp only [addCount, if_neg hd, List.map_cons, ih, List.mem_cons, hc, false_or]
      split_ifs <;> rfl

/-- One more occurrence changes the number of its character and no other one. -/
theorem mem_addCount {c : Char} {counts : List (Char × Nat)} (hnodup : (counts.map Prod.fst).Nodup)
    {p : Char × Nat} (h : p ∈ addCount c counts) :
    (p.1 ≠ c ∧ p ∈ counts) ∨ (∃ n, p = (c, n + 1) ∧ (c, n) ∈ counts) ∨
      (p = (c, 1) ∧ c ∉ counts.map Prod.fst) := by
  induction counts with
  | nil => exact Or.inr (Or.inr ⟨List.mem_singleton.1 h, List.not_mem_nil⟩)
  | cons q counts ih =>
    obtain ⟨d, n⟩ := q
    rw [List.map_cons, List.nodup_cons] at hnodup
    obtain ⟨hfresh, hnodup⟩ := hnodup
    by_cases hd : d = c
    · subst hd
      rw [addCount, if_pos rfl, List.mem_cons] at h
      rcases h with rfl | h
      · exact Or.inr (Or.inl ⟨n, rfl, List.mem_cons_self⟩)
      · have hmem : p.1 ∈ counts.map Prod.fst := List.mem_map_of_mem h
        refine Or.inl ⟨fun hp => hfresh ?_, List.mem_cons_of_mem _ h⟩
        rwa [hp] at hmem
    · rw [addCount, if_neg hd, List.mem_cons] at h
      rcases h with rfl | h
      · exact Or.inl ⟨hd, List.mem_cons_self⟩
      · rcases ih hnodup h with ⟨hne, hmem⟩ | ⟨m, rfl, hmem⟩ | ⟨rfl, hnot⟩
        · exact Or.inl ⟨hne, List.mem_cons_of_mem _ hmem⟩
        · exact Or.inr (Or.inl ⟨m, rfl, List.mem_cons_of_mem _ hmem⟩)
        · refine Or.inr (Or.inr ⟨rfl, ?_⟩)
          rw [List.map_cons, List.mem_cons, not_or]
          exact ⟨Ne.symm hd, hnot⟩

theorem Counted.add {seen : List Char} {counts : List (Char × Nat)} (h : Counted seen counts)
    (c : Char) :
    Counted (seen ++ [c]) (addCount c counts) where
  nodup := by
    rw [map_fst_addCount]
    split_ifs with hc
    · exact h.nodup
    · rw [← List.concat_eq_append]
      exact h.nodup.concat hc
  mem_iff d := by
    rw [map_fst_addCount, List.mem_append, List.mem_singleton, ← h.mem_iff d]
    split_ifs with hc
    · constructor
      · exact Or.inl
      · rintro (hd | rfl)
        · exact hd
        · exact hc
    · rw [List.mem_append, List.mem_singleton]
  count p hp := by
    rw [List.count_append, List.count_singleton]
    rcases mem_addCount h.nodup hp with ⟨hne, hmem⟩ | ⟨n, rfl, hmem⟩ | ⟨rfl, hnot⟩
    · simp [h.count p hmem, Ne.symm hne]
    · simpa using h.count _ hmem
    · rw [h.mem_iff] at hnot
      simp [List.count_eq_zero_of_not_mem hnot]

theorem counted_characterCounts (cs : List Char) : Counted cs (characterCounts cs) := by
  induction cs using List.reverseRecOn with
  | nil => exact ⟨List.nodup_nil, fun c => Iff.rfl, fun p hp => absurd hp List.not_mem_nil⟩
  | append_singleton cs c ih =>
    rw [characterCounts, List.foldl_append]
    exact ih.add c

/-- A sum over the counts, in whatever order, is a sum over the different characters. -/
theorem sum_characterCounts (o : Rearrangement) (cs : List Char) (g : Nat → ℝ) :
    ((o.apply (characterCounts cs)).map fun p => g p.2).sum = ∑ c ∈ cs.toFinset,
      g (cs.count c) := by
  have h := counted_characterCounts cs
  have hperm : (o.apply (characterCounts cs)).Perm (characterCounts cs) :=
    Rearrangement.exists_apply_eq_iff.1 ⟨o, rfl⟩
  have hkeys : ((characterCounts cs).map Prod.fst).toFinset = cs.toFinset := by
    ext c
    rw [List.mem_toFinset, List.mem_toFinset, h.mem_iff]
  calc ((o.apply (characterCounts cs)).map fun p => g p.2).sum
      = (((characterCounts cs).map Prod.fst).map fun c => g (cs.count c)).sum := by
        rw [(hperm.map _).sum_eq, List.map_map]
        refine congrArg List.sum (List.map_congr_left fun p hp => ?_)
        rw [h.count p hp]
        rfl
    _ = ∑ c ∈ cs.toFinset, g (cs.count c) := by rw [← List.sum_toFinset _ h.nodup, hkeys]

/-! ### Entropy over the real numbers -/

open Classical in
/-- The arithmetic of the real numbers. -/
noncomputable def realArithmetic : Arithmetic ℝ where
  ofNat n := n
  neg x := -x
  add x y := x + y
  mul x y := x * y
  div x y := x / y
  log2 x := Real.logb 2 x
  lt x y := x < y

/-- The share of a text that a character has. -/
noncomputable def frequency (cs : List Char) (c : Char) : ℝ := (cs.count c : ℝ) / (cs.length : ℝ)

theorem frequency_pos {cs : List Char} {c : Char} (h : c ∈ cs.toFinset) : 0 < frequency cs c := by
  rw [List.mem_toFinset] at h
  have hcount : 0 < cs.count c := List.count_pos_iff.2 h
  have hlength : 0 < cs.length := List.length_pos_of_mem h
  unfold frequency
  positivity

theorem sum_frequency {cs : List Char} (h : cs ≠ []) : ∑ c ∈ cs.toFinset, frequency cs c = 1 := by
  have hlength : (cs.length : ℝ) ≠ 0 := by
    rw [Nat.cast_ne_zero]
    exact (List.length_pos_iff.2 h).ne'
  have hcounts : ∑ c ∈ cs.toFinset, cs.count c = cs.length := by
    simp
  unfold frequency
  rw [← Finset.sum_div, ← Nat.cast_sum, hcounts, div_self hlength]

theorem entropy_eq_sum (o : Rearrangement) (cs : List Char) :
    entropy realArithmetic o cs = -∑ c ∈ cs.toFinset,
      frequency cs c * Real.logb 2 (frequency cs c) := by
  have hfold : ∀ (xs : List ℝ) (x : ℝ), xs.foldl realArithmetic.add x = x + xs.sum := by
    intro xs
    induction xs with
    | nil => simp
    | cons y ys ih =>
      intro x
      rw [List.foldl_cons, ih, List.sum_cons, ← add_assoc]
      rfl
  cases cs with
  | nil => simp [entropy, realArithmetic]
  | cons c cs =>
    rw [entropy, if_neg (by simp), hfold, sum_characterCounts o (c :: cs), ← Finset.sum_neg_distrib]
    simp [entropyTerm, realArithmetic, frequency]

/-- A text has at most the entropy of one in which all its characters are equally frequent. -/
theorem entropy_le_logb_card (o : Rearrangement) {cs : List Char} (h : cs ≠ []) :
    entropy realArithmetic o cs ≤ Real.logb 2 cs.toFinset.card := by
  -- Jensen's inequality for the logarithm, at the inverse frequencies.
  have hjensen :=
    strictConcaveOn_log_Ioi.concaveOn.le_map_sum (t := cs.toFinset) (w := frequency cs)
    (p := fun c => (frequency cs c)⁻¹) (fun c hc => (frequency_pos hc).le) (sum_frequency h)
    (fun c hc => inv_pos.2 (frequency_pos hc))
  have hcard : ∑ c ∈ cs.toFinset, frequency cs c • (frequency cs c)⁻¹ = cs.toFinset.card := by
    rw [Finset.card_eq_sum_ones, Nat.cast_sum]
    refine Finset.sum_congr rfl fun c hc => ?_
    rw [smul_eq_mul, mul_inv_cancel₀ (frequency_pos hc).ne', Nat.cast_one]
  rw [hcard] at hjensen
  calc entropy realArithmetic o cs
      = (∑ c ∈ cs.toFinset, frequency cs c • Real.log (frequency cs c)⁻¹) / Real.log 2 := by
        rw [entropy_eq_sum, ← Finset.sum_neg_distrib, Finset.sum_div]
        refine Finset.sum_congr rfl fun c _ => ?_
        rw [Real.log_inv, smul_eq_mul, Real.logb]
        ring
    _ ≤ Real.log cs.toFinset.card / Real.log 2 := by
        have hlog : 0 < Real.log 2 := Real.log_pos one_lt_two
        gcongr
    _ = Real.logb 2 cs.toFinset.card := rfl

/-- A text without a repeated character has the greatest entropy for its length. -/
theorem entropy_of_nodup (o : Rearrangement) {cs : List Char} (h : cs ≠ []) (hnodup : cs.Nodup) :
    entropy realArithmetic o cs = Real.logb 2 cs.length := by
  have hfrequency : ∀ c ∈ cs.toFinset, frequency cs c = (cs.length : ℝ)⁻¹ := by
    intro c hc
    rw [frequency, List.count_eq_one_of_mem hnodup (List.mem_toFinset.1 hc), Nat.cast_one, one_div]
  have hlength : (cs.length : ℝ) ≠ 0 := by
    rw [Nat.cast_ne_zero]
    exact (List.length_pos_iff.2 h).ne'
  rw [entropy_eq_sum, Finset.sum_congr rfl fun c hc => by rw [hfrequency c hc], Finset.sum_const,
    List.toFinset_card_of_nodup hnodup, nsmul_eq_mul, Real.logb_inv]
  field_simp

/-! ### The usual thresholds -/

namespace Thresholds

/-- The usual thresholds as exact numbers. -/
noncomputable def exactStandard : Thresholds ℝ :=
  { minLength := standard.minLength
    reportLength := standard.reportLength
    ratio := 17 / 20
    wideLength := standard.wideLength }

/-- The number of characters of which the greatest entropy is taken. -/
def alphabetSize (length : Nat) : Nat := if standard.wideLength < length then 256 else 94

theorem one_lt_alphabetSize (length : Nat) : 1 < alphabetSize length := by
  unfold alphabetSize
  split_ifs <;> norm_num

theorem greatest_exactStandard (length : Nat) :
    exactStandard.greatest realArithmetic length = Real.logb 2 (alphabetSize length) := by
  have hbyte : ((8 : ℕ) : ℝ) = Real.logb 2 ((256 : ℕ) : ℝ) := by
    rw [show ((256 : ℕ) : ℝ) = 2 ^ 8 by norm_num, Real.logb_pow, Real.logb_self_eq_one one_lt_two,
      mul_one]
  unfold greatest alphabetSize exactStandard
  split_ifs
  · exact hbyte
  · rfl

/-- A quotient of logarithms above the threshold, said with powers. -/
theorem lt_logb_div_logb_iff {k m : ℕ} (hk : 0 < k) (hm : 1 < m) :
    (17 / 20 : ℝ) < Real.logb 2 k / Real.logb 2 m ↔ m ^ 17 < k ^ 20 := by
  have hlog : 0 < Real.logb 2 (m : ℝ) := Real.logb_pos one_lt_two (by exact_mod_cast hm)
  calc (17 / 20 : ℝ) < Real.logb 2 k / Real.logb 2 m
      ↔ 17 * Real.logb 2 (m : ℝ) < 20 * Real.logb 2 (k : ℝ) := by
        rw [lt_div_iff₀ hlog]
        constructor <;> intro h <;> linarith
    _ ↔ Real.logb 2 ((m : ℝ) ^ 17) < Real.logb 2 ((k : ℝ) ^ 20) := by
        rw [Real.logb_pow, Real.logb_pow]
        norm_num
    _ ↔ (m : ℝ) ^ 17 < (k : ℝ) ^ 20 :=
      Real.logb_lt_logb_iff one_lt_two (by positivity) (by positivity)
    _ ↔ m ^ 17 < k ^ 20 := by exact_mod_cast Iff.rfl

/-- A text with a share above the threshold has many characters, compared with the alphabet that
counts for it. -/
theorem pow_lt_pow_of_lt_share {o : Rearrangement} {cs : List Char}
    (h : 17 / 20 < exactStandard.share realArithmetic o cs) :
    alphabetSize cs.length ^ 17 < cs.toFinset.card ^ 20 := by
  have hsize := one_lt_alphabetSize cs.length
  have hlog : 0 < Real.logb 2 (alphabetSize cs.length : ℝ) :=
    Real.logb_pos one_lt_two (by exact_mod_cast hsize)
  change (17 / 20 : ℝ) < entropy realArithmetic o cs / exactStandard.greatest realArithmetic
    cs.length at h
  rw [greatest_exactStandard] at h
  have hne : cs ≠ [] := by
    rintro rfl
    rw [entropy_eq_sum] at h
    norm_num at h
  rw [← lt_logb_div_logb_iff (List.toFinset_nonempty_iff cs |>.2 hne).card_pos hsize]
  calc (17 / 20 : ℝ) < entropy realArithmetic o cs / Real.logb 2 (alphabetSize cs.length) := h
    _ ≤ Real.logb 2 cs.toFinset.card / Real.logb 2 (alphabetSize cs.length) := by
        gcongr
        exact entropy_le_logb_card o hne

/-- For a text without a repeated character the converse holds too. -/
theorem lt_share_of_nodup (o : Rearrangement) {cs : List Char} (hne : cs ≠ []) (hnodup : cs.Nodup)
    (h : alphabetSize cs.length ^ 17 < cs.length ^ 20) :
    17 / 20 < exactStandard.share realArithmetic o cs := by
  change (17 / 20 : ℝ) < entropy realArithmetic o cs / exactStandard.greatest
    realArithmetic cs.length
  rw [greatest_exactStandard, entropy_of_nodup o hne hnodup,
    lt_logb_div_logb_iff (List.length_pos_iff.2 hne) (one_lt_alphabetSize _)]
  exact h

theorem lt_card_of_lt_share {o : Rearrangement} {cs : List Char}
    (h : 17 / 20 < exactStandard.share realArithmetic o cs) :
    47 < cs.toFinset.card ∧ (standard.wideLength < cs.length → 111 < cs.toFinset.card) := by
  have hpow := pow_lt_pow_of_lt_share h
  have hwide : standard.wideLength < cs.length → 111 < cs.toFinset.card := by
    intro hlength
    rw [alphabetSize, if_pos hlength] at hpow
    have hbound : 111 ^ 20 ≤ 256 ^ 17 := by norm_num
    exact lt_of_pow_lt_pow_left₀ 20 (Nat.zero_le _) (hbound.trans_lt hpow)
  refine ⟨?_, hwide⟩
  by_cases hlength : standard.wideLength < cs.length
  · exact lt_trans (by norm_num) (hwide hlength)
  · rw [alphabetSize, if_neg hlength] at hpow
    have hbound : 47 ^ 20 ≤ 94 ^ 17 := by norm_num
    exact lt_of_pow_lt_pow_left₀ 20 (Nat.zero_le _) (hbound.trans_lt hpow)

end Thresholds

/-! ### Reported texts -/

/-- A text exceeds the usual thresholds, all numbers taken exactly. -/
def ExactlyReported (o : Rearrangement) (text : String) : Prop :=
  (Thresholds.exactStandard.scored? realArithmetic o text.toList).isSome = true

/-- Of the usual thresholds only the one for the share decides. -/
theorem exactlyReported_iff (o : Rearrangement) (text : String) :
    ExactlyReported o text ↔ 17 / 20 <
      Thresholds.exactStandard.share realArithmetic o text.toList := by
  have hlt : realArithmetic.lt Thresholds.exactStandard.ratio
      (Thresholds.exactStandard.share realArithmetic o text.toList) = true ↔
      17 / 20 < Thresholds.exactStandard.share realArithmetic o text.toList := decide_eq_true_iff
  unfold ExactlyReported Thresholds.scored?
  constructor
  · intro h
    split_ifs at h with _ hboth
    · cases h
    · rw [Bool.and_eq_true, hlt] at hboth
      exact hboth.1
    · cases h
  · intro h
    have hcard := (Thresholds.lt_card_of_lt_share h).1
    have hlength := hcard.trans_le (List.toFinset_card_le text.toList)
    have hmin : ¬ text.toList.length < Thresholds.exactStandard.minLength := by
      change ¬ text.toList.length < 20
      omega
    have hreport : Thresholds.exactStandard.reportLength < text.toList.length := by
      change 30 < text.toList.length
      omega
    rw [if_neg hmin, if_pos]
    · rfl
    · rw [Bool.and_eq_true, hlt, decide_eq_true_iff]
      exact ⟨h, hreport⟩

/-- **Only texts with many different characters are reported**: with at least 48 of them, and with
at least 112 when they are longer than 50 characters. -/
theorem reported_texts_are_varied (o : Rearrangement) (text : String) :
    (entropy realArithmetic o text.toList =
      -∑ c ∈ text.toList.toFinset,
        (text.toList.count c / text.length : ℝ) * Real.logb 2 (text.toList.count c / text.length)) ∧
    (ExactlyReported o text ↔
      17 / 20 < Thresholds.exactStandard.share realArithmetic o text.toList) ∧
    (ExactlyReported o text → 48 ≤ text.toList.toFinset.card ∧ 48 ≤ text.length ∧
      (50 < text.length → 112 ≤ text.toList.toFinset.card)) ∧
    (∀ alphabet : Finset Char, alphabet.card ≤ 111 → (∀ c ∈ text.toList, c ∈ alphabet) →
      50 < text.length →
      ¬ ExactlyReported o text) ∧
    ((∀ c ∈ text.toList, 32 ≤ c.toNat ∧ c.toNat ≤ 126) → 50 < text.length →
      ¬ ExactlyReported o text) := by
  have hreported : ExactlyReported o text → 48 ≤ text.toList.toFinset.card ∧ 48 ≤ text.length ∧
      (50 < text.length → 112 ≤ text.toList.toFinset.card) := by
    intro h
    obtain ⟨hcard, hwide⟩ := Thresholds.lt_card_of_lt_share ((exactlyReported_iff o text).1 h)
    have hlength := List.toFinset_card_le text.toList
    rw [String.length_toList] at hlength hwide
    exact ⟨hcard, le_trans hcard hlength, hwide⟩
  have halphabet : ∀ alphabet : Finset Char, alphabet.card ≤ 111 →
    (∀ c ∈ text.toList, c ∈ alphabet) →
      50 < text.length → ¬ ExactlyReported o text := by
    intro alphabet hcard hall hlength h
    have hsubset : text.toList.toFinset ⊆ alphabet := fun c hc => hall c (List.mem_toFinset.1 hc)
    have hmany := (hreported h).2.2 hlength
    have hfew := Finset.card_le_card hsubset
    omega
  refine ⟨?_, exactlyReported_iff o text, hreported, halphabet, fun hprintable => ?_⟩
  · rw [entropy_eq_sum, ← String.length_toList]
    rfl
  · refine halphabet ((Finset.Icc 32 126).image Char.ofNat) (Finset.card_image_le.trans (by decide))
      fun c hc => ?_
    rw [Finset.mem_image]
    exact ⟨c.toNat, Finset.mem_Icc.2 (hprintable c hc), Char.ofNat_toNat c⟩

/-- A text of some characters that are all different. -/
def distinctText (n : Nat) : String :=
  String.ofList ((List.range n).map fun i => Char.ofNat (256 + i))

@[simp] theorem length_toList_distinctText (n : Nat) : (distinctText n).toList.length = n := by
  simp [distinctText]

/-- Below the codes that are no characters all of them are different. -/
theorem nodup_distinctText {n : Nat} (h : n ≤ 1000) : (distinctText n).toList.Nodup := by
  have hcode : ∀ i ∈ List.range n, (Char.ofNat (256 + i)).toNat = 256 + i := by
    intro i hi
    have hvalid : (256 + i).isValidChar := Or.inl (by rw [List.mem_range] at hi; omega)
    rw [Char.ofNat, dif_pos hvalid]
    rfl
  rw [distinctText, String.toList_ofList]
  refine List.nodup_range.map_on fun i hi j hj hij => ?_
  have hcodes := congrArg Char.toNat hij
  rw [hcode i hi, hcode j hj] at hcodes
  omega

theorem exactlyReported_distinctText (o : Rearrangement) {n : Nat} (hpos : 0 < n) (hn : n ≤ 1000)
    (h : Thresholds.alphabetSize n ^ 17 < n ^ 20) : ExactlyReported o (distinctText n) := by
  have hlength := length_toList_distinctText n
  have hne : (distinctText n).toList ≠ [] := by
    rw [← List.length_pos_iff, hlength]
    exact hpos
  rw [exactlyReported_iff]
  exact Thresholds.lt_share_of_nodup o hne (nodup_distinctText hn) (by rwa [hlength])

/-- The bounds are reached: 48 different characters are enough for a short text and 112 for a long
one, and 111 are not enough for a long one. -/
theorem varied_of_distinctText :
    (ExactlyReported {} (distinctText 48) ∧ 48 ≤ (distinctText 48).toList.toFinset.card) ∧
      (ExactlyReported {} (distinctText 112) ∧ 112 ≤ (distinctText 112).toList.toFinset.card) ∧
      ∀ o, ¬ ExactlyReported o (distinctText 111) := by
  have hlength : ∀ n, (distinctText n).length = n := by
    intro n
    rw [← String.length_toList, length_toList_distinctText]
  have hshort : ExactlyReported {} (distinctText 48) :=
    exactlyReported_distinctText {} (by norm_num) (by norm_num) (by decide +kernel)
  have hlong : ExactlyReported {} (distinctText 112) :=
    exactlyReported_distinctText {} (by norm_num) (by norm_num) (by decide +kernel)
  have hcard : (distinctText 111).toList.toFinset.card ≤ 111 :=
    (List.toFinset_card_le _).trans_eq (length_toList_distinctText 111)
  obtain ⟨-, -, hvaried, -⟩ := reported_texts_are_varied {} (distinctText 48)
  obtain ⟨-, -, hvaried', -⟩ := reported_texts_are_varied {} (distinctText 112)
  refine ⟨⟨hshort, (hvaried hshort).1⟩, ⟨hlong, (hvaried' hlong).2.2 (by rw [hlength]; norm_num)⟩,
    fun o => ?_⟩
  obtain ⟨-, -, -, hover, -⟩ := reported_texts_are_varied o (distinctText 111)
  exact hover _ hcard (fun c hc => List.mem_toFinset.2 hc) (by rw [hlength]; norm_num)

end PythonAudit
