import Mathlib.Data.List.Perm.Basic
import PythonAudit.Detector.Basic

/-!
# Orders of summation

The characters of a text are added up in an order that nothing fixes, and another order may round to
another sum.

* `Rearrangement.exists_apply_eq_iff` says that the orders of a list are its permutations;
* `Obfuscation.Settled t value` says that a literal gets the same finding in all of them, as a short
  one does (`settled_of_length`);
* `Obfuscation.scores_append` says how literals use up the orders, and
  `Obfuscation.scores_eq_of_settled` when it does not matter which orders these are;
* `Detector.withOrders` gives a detector other orders, and `Detector.Settled` says of all literals
  that it will score that they are settled.
-/

namespace PythonAudit

/-! ### Orders of a list -/

theorem perm_pickInOrder {β : Type} (ks : List Nat) (xs : List β) :
    (pickInOrder ks xs).Perm xs := by
  induction ks generalizing xs with
  | nil => exact List.Perm.refl xs
  | cons k ks ih =>
    rw [pickInOrder]
    split
    next => exact ih xs
    next x hx =>
      obtain ⟨hk, rfl⟩ := List.getElem?_eq_some_iff.1 hx
      exact ((ih _).cons _).trans (List.getElem_cons_eraseIdx_perm hk)

theorem exists_pickInOrder_eq {β : Type} {xs ys : List β} (h : ys.Perm xs) :
    ∃ ks, pickInOrder ks xs = ys := by
  induction ys generalizing xs with
  | nil =>
    obtain rfl := List.nil_perm.1 h
    exact ⟨[], rfl⟩
  | cons y ys ih =>
    obtain ⟨k, hk, rfl⟩ := List.mem_iff_getElem.1 (h.mem_iff.1 List.mem_cons_self)
    obtain ⟨ks, hks⟩ := ih (h.trans (List.getElem_cons_eraseIdx_perm hk).symm).cons_inv
    refine ⟨k :: ks, ?_⟩
    rw [pickInOrder, List.getElem?_eq_getElem hk]
    exact congrArg _ hks

/-- The orders of a list are its permutations. -/
theorem Rearrangement.exists_apply_eq_iff {β : Type} {xs ys : List β} :
    (∃ o : Rearrangement, o.apply xs = ys) ↔ ys.Perm xs := by
  constructor
  · rintro ⟨o, rfl⟩
    exact perm_pickInOrder o.picks xs
  · intro h
    obtain ⟨ks, hks⟩ := exists_pickInOrder_eq h
    exact ⟨⟨ks⟩, hks⟩

/-- The literals of an arena, in the order of its nodes. -/
def Syntax.Arena.literals (a : Syntax.Arena) : List PendingLiteral :=
  (List.range a.size).filterMap (Obfuscation.literal? a)

namespace Obfuscation

variable {t : Thresholds Double} {os : List Rearrangement} {ls : List PendingLiteral}

/-! ### Orders and findings -/

theorem scores_append (t : Thresholds Double) (os : List Rearrangement)
    (ls ls' : List PendingLiteral) :
    scores t os (ls ++ ls') = scores t os ls ++ scores t (os.drop ls.length) ls' := by
  induction ls generalizing os with
  | nil => rfl
  | cons l ls ih =>
    rw [List.cons_append, scores, scores, ih, List.append_assoc, List.length_cons, List.drop_tail]

theorem exists_of_mem_scores {f : Finding} (h : f ∈ scores t os ls) :
    ∃ l ∈ ls, ∃ o, score t o l = some f := by
  induction ls generalizing os with
  | nil => cases h
  | cons l ls ih =>
    rw [scores, List.mem_append, Option.mem_toList] at h
    rcases h with hfirst | hrest
    · exact ⟨l, List.mem_cons_self, _, hfirst⟩
    · obtain ⟨l', hl', ho⟩ := ih hrest
      exact ⟨l', List.mem_cons_of_mem l hl', ho⟩

/-- A literal with the value gets the same finding in whatever order its characters are added up. -/
def Settled (t : Thresholds Double) (value : String) : Prop :=
  ∀ (o o' : Rearrangement) (line column : Nat),
    score t o ⟨value, line, column⟩ = score t o' ⟨value, line, column⟩

/-- A literal that is too short is not reported in any order. -/
theorem settled_of_length {value : String}
    (h : value.length < t.minLength ∨ value.length ≤ t.reportLength) :
    Settled t value := by
  have hnone : ∀ o, t.toFloat.scored? floatArithmetic o value.toList = none := by
    intro o
    unfold Thresholds.scored?
    rw [String.length_toList]
    rcases h with hmin | hreport
    · exact if_pos hmin
    · split_ifs with hshort hboth
      · rfl
      · rw [Bool.and_eq_true, decide_eq_true_iff] at hboth
        exact absurd hboth.2 (Nat.not_lt.2 hreport)
      · rfl
  intro o o' line column
  simp only [score, hnone]

theorem scores_eq_of_settled (h : ∀ l ∈ ls, Settled t l.value) (os os' : List Rearrangement) :
    scores t os ls = scores t os' ls := by
  induction ls generalizing os os' with
  | nil => rfl
  | cons l ls ih =>
    rw [List.forall_mem_cons] at h
    rw [scores, scores, ih h.2 os.tail os'.tail]
    exact congrArg (·.toList ++ _) (h.1 _ _ l.line l.column)

end Obfuscation

namespace Detector

/-- The detector with other orders of summation. -/
def withOrders (os : List Rearrangement) : Detector → Detector
  | dangerousCalls d => dangerousCalls d
  | obfuscation d => obfuscation { d with orders := os }

/-- No literal that the detector scores in an arena depends on the order of summation. -/
def Settled (a : Syntax.Arena) : Detector → Prop
  | dangerousCalls _ => True
  | obfuscation d => ∀ l ∈ d.pending ++ a.literals, Obfuscation.Settled d.thresholds l.value

/-- The second detector is the first one, but it may have other orders where they do not matter. -/
def Agrees (a : Syntax.Arena) (d e : Detector) : Prop :=
  e = d ∨ d.Settled a ∧ ∃ os, e = d.withOrders os

end Detector

end PythonAudit
