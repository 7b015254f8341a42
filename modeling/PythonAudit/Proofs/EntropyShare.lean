import PythonAudit.Proofs.EntropyBound

/-!
# The range of the share of entropy

The share of a text is its entropy in proportion to the greatest entropy over an alphabet: one of 94
characters for a text of at most 50 characters, and one of 256 for a longer text. A short text
cannot have more different characters than its alphabet, but a long one can, since its characters
may be any of Unicode.

* `share_nonneg` and `share_le_one` say that the share is a number from zero to one as long as there
  are at most 256 different characters;
* `share_le_logb_card` bounds it for more of them, and `share_le_one_iff_of_nodup` says that it does
  exceed one for more than 256 characters that are all different;
* `share_of_texts` collects this for all texts, and `share_not_always_le_one` is a text with a share
  above one.
-/

namespace PythonAudit

/-! ### Entropies are not negative -/

theorem frequency_le_one (cs : List Char) (c : Char) : frequency cs c ≤ 1 := by
  have hcount : (cs.count c : ℝ) ≤ cs.length := by exact_mod_cast List.count_le_length
  unfold frequency
  exact div_le_one_of_le₀ hcount (Nat.cast_nonneg _)

theorem entropy_nonneg (o : Rearrangement) (cs : List Char) : 0 ≤ entropy realArithmetic o cs := by
  rw [entropy_eq_sum, neg_nonneg]
  refine Finset.sum_nonpos fun c hc => ?_
  have hpos := frequency_pos hc
  have hlog : Real.logb 2 (frequency cs c) ≤ 0 :=
    Real.logb_nonpos one_lt_two hpos.le (frequency_le_one cs c)
  exact mul_nonpos_of_nonneg_of_nonpos hpos.le hlog

namespace Thresholds

/-! ### Shares -/

theorem logb_alphabetSize_pos (length : Nat) : 0 < Real.logb 2 (alphabetSize length) :=
  Real.logb_pos one_lt_two (by exact_mod_cast one_lt_alphabetSize length)

theorem share_exactStandard (o : Rearrangement) (cs : List Char) :
    exactStandard.share realArithmetic o cs =
      entropy realArithmetic o cs / Real.logb 2 (alphabetSize cs.length) := by
  rw [← greatest_exactStandard]
  rfl

theorem share_nonneg (o : Rearrangement) (cs : List Char) :
    0 ≤ exactStandard.share realArithmetic o cs := by
  rw [share_exactStandard]
  exact div_nonneg (entropy_nonneg o cs) (logb_alphabetSize_pos _).le

/-- The share is at most that of a text in which all its different characters are equally
frequent. -/
theorem share_le_logb_card (o : Rearrangement) {cs : List Char} (h : cs ≠ []) :
    exactStandard.share realArithmetic o cs ≤
      Real.logb 2 cs.toFinset.card / Real.logb 2 (alphabetSize cs.length) := by
  have hpos := logb_alphabetSize_pos cs.length
  rw [share_exactStandard]
  gcongr
  exact entropy_le_logb_card o h

/-- A short text has fewer characters than the alphabet that counts for it. -/
theorem card_le_alphabetSize_iff (cs : List Char) :
    cs.toFinset.card ≤ alphabetSize cs.length ↔ cs.toFinset.card ≤ 256 := by
  have hcard := List.toFinset_card_le cs
  unfold alphabetSize
  split_ifs with hlength
  · rfl
  · change ¬ 50 < cs.length at hlength
    omega

theorem lt_length_of_lt_card {cs : List Char} (h : 256 < cs.toFinset.card) :
    standard.wideLength < cs.length := by
  have hcard := List.toFinset_card_le cs
  change 50 < cs.length
  omega

theorem share_le_one (o : Rearrangement) {cs : List Char} (h : cs.toFinset.card ≤ 256) :
    exactStandard.share realArithmetic o cs ≤ 1 := by
  by_cases hne : cs = []
  · subst hne
    simp [share_exactStandard, entropy_eq_sum]
  · have hcard : 0 < cs.toFinset.card := (List.toFinset_nonempty_iff cs |>.2 hne).card_pos
    have hle : (cs.toFinset.card : ℝ) ≤ alphabetSize cs.length := by
      exact_mod_cast (card_le_alphabetSize_iff cs).2 h
    calc exactStandard.share realArithmetic o cs
        ≤ Real.logb 2 cs.toFinset.card / Real.logb 2 (alphabetSize cs.length) :=
          share_le_logb_card o hne
      _ ≤ 1 := by
        refine div_le_one_of_le₀ ?_ (logb_alphabetSize_pos _).le
        exact Real.logb_le_logb_of_le one_lt_two (by exact_mod_cast hcard) hle

theorem logb_alphabetSize_of_lt {length : Nat} (h : standard.wideLength < length) :
    Real.logb 2 (alphabetSize length) = 8 := by
  rw [← greatest_exactStandard, greatest]
  change (if standard.wideLength < length then ((8 : ℕ) : ℝ) else _) = 8
  rw [if_pos h]
  norm_num

/-- Of texts without a repeated character those with more than 256 characters have a share above
one. -/
theorem share_le_one_iff_of_nodup (o : Rearrangement) {cs : List Char} (hnodup : cs.Nodup) :
    exactStandard.share realArithmetic o cs ≤ 1 ↔ cs.length ≤ 256 := by
  have hcard : cs.toFinset.card = cs.length := List.toFinset_card_of_nodup hnodup
  constructor
  · intro h
    by_contra hlong
    rw [not_le] at hlong
    have hne : cs ≠ [] := by
      rintro rfl
      simp at hlong
    -- so many characters make a long text, whose alphabet is that of bytes
    have hwide : standard.wideLength < cs.length := lt_length_of_lt_card (by rwa [hcard])
    rw [share_exactStandard, entropy_of_nodup o hne hnodup, div_le_one (logb_alphabetSize_pos _),
      alphabetSize, if_pos hwide, Real.logb_le_logb one_lt_two (by positivity) (by norm_num)] at h
    have : cs.length ≤ 256 := by exact_mod_cast h
    omega
  · intro h
    exact share_le_one o (by rwa [hcard])

end Thresholds

/-! ### All texts -/

/-- **A share lies between zero and one for up to 256 different characters.** With more of them it
can be above one, and it is when no character is repeated. -/
theorem share_of_texts (o : Rearrangement) (text : String) :
    0 ≤ Thresholds.exactStandard.share realArithmetic o text.toList ∧
    (text.toList.toFinset.card ≤ 256 →
      Thresholds.exactStandard.share realArithmetic o text.toList ≤ 1) ∧
    (text.length ≤ 256 → Thresholds.exactStandard.share realArithmetic o text.toList ≤ 1) ∧
    (256 < text.toList.toFinset.card →
      Thresholds.exactStandard.share realArithmetic o text.toList ≤
        Real.logb 2 text.toList.toFinset.card / 8) ∧
    (text.toList.Nodup →
      (Thresholds.exactStandard.share realArithmetic o text.toList ≤ 1 ↔ text.length ≤ 256)) := by
  refine ⟨Thresholds.share_nonneg o _, Thresholds.share_le_one o, fun hlength => ?_,
    fun hcard => ?_, fun hnodup => ?_⟩
  · rw [← String.length_toList] at hlength
    exact Thresholds.share_le_one o ((List.toFinset_card_le _).trans hlength)
  · have hne : text.toList ≠ [] := by
      intro hnil
      simp [hnil] at hcard
    have hbound := Thresholds.share_le_logb_card o hne
    rwa [Thresholds.logb_alphabetSize_of_lt (Thresholds.lt_length_of_lt_card hcard)] at hbound
  · rw [← String.length_toList]
    exact Thresholds.share_le_one_iff_of_nodup o hnodup

theorem length_distinctText (n : Nat) : (distinctText n).length = n := by
  rw [← String.length_toList, length_toList_distinctText]

/-- A text of 256 different characters has the greatest share that stays within the range; one more
character and the share leaves it. -/
theorem share_of_distinctText :
    (distinctText 256).toList.Nodup ∧
      Thresholds.exactStandard.share realArithmetic {} (distinctText 256).toList ≤ 1 ∧
      256 < (distinctText 257).toList.toFinset.card ∧
      1 < Thresholds.exactStandard.share realArithmetic {} (distinctText 257).toList ∧
      Thresholds.exactStandard.share realArithmetic {} (distinctText 257).toList ≤
        Real.logb 2 (distinctText 257).toList.toFinset.card / 8 := by
  have hnodup : (distinctText 257).toList.Nodup := nodup_distinctText (by norm_num)
  have hcard : 256 < (distinctText 257).toList.toFinset.card := by
    rw [List.toFinset_card_of_nodup hnodup, length_toList_distinctText]
    norm_num
  obtain ⟨-, -, hshort, -⟩ := share_of_texts {} (distinctText 256)
  obtain ⟨-, -, -, hmany, hiff⟩ := share_of_texts {} (distinctText 257)
  refine ⟨nodup_distinctText (by norm_num), hshort (length_distinctText 256).le, hcard,
    ?_, hmany hcard⟩
  rw [← not_le, hiff hnodup, length_distinctText]
  norm_num

/-- Not every text that is long enough to be scored has a share of at most one: 300 different
characters are more than there are bytes. -/
theorem share_not_always_le_one :
    ¬ ∀ (o : Rearrangement) (text : String), Thresholds.standard.minLength ≤ text.length →
      0 ≤ Thresholds.exactStandard.share realArithmetic o text.toList ∧
        Thresholds.exactStandard.share realArithmetic o text.toList ≤ 1 := by
  intro h
  have hlength := length_distinctText 300
  have hle := (h {} (distinctText 300) (by rw [hlength]; decide)).2
  rw [Thresholds.share_le_one_iff_of_nodup {} (nodup_distinctText (by norm_num)),
    String.length_toList, hlength] at hle
  norm_num at hle

end PythonAudit
