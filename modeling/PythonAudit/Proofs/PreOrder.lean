import Mathlib.Logic.Relation
import Mathlib.Tactic
import PythonAudit.Syntax.Arena

/-!
# Arenas in pre-order

In an arena that numbers its nodes in pre-order, a node and everything below it take up one interval
of numbers, and the children of a node cut the rest of its interval into the intervals of their own.

* `Tiles len lo ids hi` says that the intervals of the nodes `ids` follow one another from `lo` to
  `hi`, where `len` gives the length of each;
* `Arena.PreOrdered a len` says that the children of every node tile its interval;
* `Arena.Under a i j` says that node `j` is node `i` or below it, and `under_iff` finds the interval
  again;
* `existsUnique_owner` says that every node but the root is the child of exactly one node.
-/

namespace PythonAudit

namespace Syntax

/-- The intervals of some nodes, as long as `len` says, follow one another from `lo` to `hi`. -/
def Tiles (len : Nat → Nat) : Nat → List Nat → Nat → Prop
  | lo, [], hi => lo = hi
  | lo, x :: xs, hi => x = lo ∧ 0 < len x ∧ Tiles len (lo + len x) xs hi

namespace Tiles

variable {len : Nat → Nat} {lo mid hi : Nat} {xs ys : List Nat}

theorem le (h : Tiles len lo xs hi) : lo ≤ hi := by
  induction xs generalizing lo with
  | nil => exact Nat.le_of_eq h
  | cons x xs ih =>
    obtain ⟨-, -, hrest⟩ := h
    exact (Nat.le_add_right _ _).trans (ih hrest)

theorem eq_nil_iff (h : Tiles len lo xs hi) : xs = [] ↔ lo = hi := by
  cases xs with
  | nil => exact iff_of_true rfl h
  | cons x xs =>
    obtain ⟨rfl, hpos, hrest⟩ := h
    have := hrest.le
    exact iff_of_false (List.cons_ne_nil x xs) (by omega)

theorem append (h : Tiles len lo xs mid) (h' : Tiles len mid ys hi) :
    Tiles len lo (xs ++ ys) hi := by
  induction xs generalizing lo with
  | nil =>
    cases h
    exact h'
  | cons x xs ih =>
    obtain ⟨hx, hpos, hrest⟩ := h
    exact ⟨hx, hpos, ih hrest⟩

theorem mem_bounds (h : Tiles len lo xs hi) {x : Nat} (hx : x ∈ xs) :
    lo ≤ x ∧ 0 < len x ∧ x + len x ≤ hi := by
  induction xs generalizing lo with
  | nil => cases hx
  | cons y ys ih =>
    obtain ⟨rfl, hpos, hrest⟩ := h
    rcases List.mem_cons.1 hx with rfl | hx
    · exact ⟨le_rfl, hpos, hrest.le⟩
    · obtain ⟨hlo, hlen, hhi⟩ := ih hrest hx
      exact ⟨by omega, hlen, hhi⟩

/-- Each interval ends where or before the later ones start. -/
theorem pairwise (h : Tiles len lo xs hi) : xs.Pairwise fun x y => x + len x ≤ y := by
  induction xs generalizing lo with
  | nil => exact List.Pairwise.nil
  | cons x xs ih =>
    obtain ⟨rfl, -, hrest⟩ := h
    exact List.pairwise_cons.2 ⟨fun y hy => (hrest.mem_bounds hy).1, ih hrest⟩

theorem pairwise_lt (h : Tiles len lo xs hi) : xs.Pairwise (· < ·) := by
  refine h.pairwise.imp_of_mem fun {x y} hx _ hxy => ?_
  have := (h.mem_bounds hx).2.1
  omega

/-- Every number of the whole interval lies in one of the parts. -/
theorem exists_mem (h : Tiles len lo xs hi) {j : Nat} (hlo : lo ≤ j) (hhi : j < hi) :
    ∃ x ∈ xs, x ≤ j ∧ j < x + len x := by
  induction xs generalizing lo with
  | nil =>
    cases h
    omega
  | cons x xs ih =>
    obtain ⟨rfl, -, hrest⟩ := h
    by_cases hj : j < x + len x
    · exact ⟨x, List.mem_cons_self, hlo, hj⟩
    · obtain ⟨y, hy, hyj⟩ := ih hrest (by omega)
      exact ⟨y, List.mem_cons_of_mem x hy, hyj⟩

/-- Two parts that share a number are the same. -/
theorem eq_of_overlap (h : Tiles len lo xs hi) {x y j : Nat} (hx : x ∈ xs) (hy : y ∈ xs)
    (hxj : x ≤ j ∧ j < x + len x) (hyj : y ≤ j ∧ j < y + len y) : x = y := by
  induction xs generalizing lo with
  | nil => cases hx
  | cons z zs ih =>
    obtain ⟨rfl, -, hrest⟩ := h
    rcases List.mem_cons.1 hx with rfl | hxz <;> rcases List.mem_cons.1 hy with rfl | hyz
    · rfl
    · have := (hrest.mem_bounds hyz).1
      omega
    · have := (hrest.mem_bounds hxz).1
      omega
    · exact ih hrest hxz hyz

end Tiles

namespace Arena

theorem children_of_node? {a : Arena} {i : Nat} {n : Node} (h : a.node? i = some n) :
    a.children i = n.children := by
  rw [children, h]

theorem lt_size_of_node? {a : Arena} {i : Nat} {n : Node} (h : a.node? i = some n) :
    i < a.size := by
  obtain ⟨hi, -⟩ := Array.getElem?_eq_some_iff.1 h
  exact hi

theorem lt_size_of_mem_children {a : Arena} {p c : Nat} (h : c ∈ a.children p) : p < a.size := by
  unfold children at h
  split at h
  next n hn => exact lt_size_of_node? hn
  next => cases h

/-- Node `j` is node `i` or stands below it. -/
def Under (a : Arena) : Nat → Nat → Prop :=
  Relation.ReflTransGen fun p c => c ∈ a.children p

/-- The nodes are numbered in pre-order, and the interval of node `i` has the length `len i`. -/
structure PreOrdered (a : Arena) (len : Nat → Nat) : Prop where
  root : len 0 = a.size
  children : ∀ i, i < a.size → Tiles len (i + 1) (a.children i) (i + len i)

namespace PreOrdered

variable {a : Arena} {len : Nat → Nat}

theorem child_bounds (h : a.PreOrdered len) {p c : Nat} (hc : c ∈ a.children p) :
    p < c ∧ 0 < len c ∧ c + len c ≤ p + len p := by
  obtain ⟨hlo, hpos, hhi⟩ := (h.children p (lt_size_of_mem_children hc)).mem_bounds hc
  exact ⟨hlo, hpos, hhi⟩

/-- Every number of an interval inside the arena is reached from the start of the interval. -/
theorem under_of_lt (h : a.PreOrdered len) {i j : Nat} (hend : i + len i ≤ a.size) (hij : i ≤ j)
    (hj : j < i + len i) : a.Under i j := by
  -- the child whose interval holds `j` is nearer to `j` than `i` is
  induction hd : j - i using Nat.strong_induction_on generalizing i with
  | _ d ih =>
    by_cases heq : i = j
    · rw [heq]
      exact Relation.ReflTransGen.refl
    · have hi : i < a.size := by omega
      obtain ⟨c, hc, hcj, hjc⟩ := (h.children i hi).exists_mem (by omega) hj
      obtain ⟨hic, -, hce⟩ := h.child_bounds hc
      exact Relation.ReflTransGen.head hc (ih (j - c) (by omega) (by omega) hcj hjc rfl)

theorem under_root (h : a.PreOrdered len) {j : Nat} (hj : j < a.size) : a.Under 0 j := by
  have hroot := h.root
  exact h.under_of_lt (by omega) (Nat.zero_le j) (by omega)

theorem interval_of_under (h : a.PreOrdered len) {i j : Nat} (hpos : 0 < len i)
    (hij : a.Under i j) :
    i ≤ j ∧ 0 < len j ∧ j + len j ≤ i + len i := by
  induction hij with
  | refl => exact ⟨le_rfl, hpos, le_rfl⟩
  | tail _ hc ih =>
    obtain ⟨hpc, hcpos, hce⟩ := h.child_bounds hc
    omega

/-- No interval is empty, and none leaves the arena. -/
theorem interval_le (h : a.PreOrdered len) {i : Nat} (hi : i < a.size) :
    0 < len i ∧ i + len i ≤ a.size := by
  have hroot := h.root
  obtain ⟨-, hpos, hend⟩ := h.interval_of_under (by omega) (h.under_root hi)
  exact ⟨hpos, by omega⟩

theorem child_lt_size (h : a.PreOrdered len) {p c : Nat} (hc : c ∈ a.children p) : c < a.size := by
  obtain ⟨-, hpos, hend⟩ := h.child_bounds hc
  have hp := (h.interval_le (lt_size_of_mem_children hc)).2
  omega

/-- A node and what is below it are one interval of numbers that starts with the node. -/
theorem under_iff (h : a.PreOrdered len) {i j : Nat} (hi : i < a.size) :
    a.Under i j ↔ i ≤ j ∧ j < i + len i := by
  obtain ⟨hpos, hend⟩ := h.interval_le hi
  constructor
  · intro hij
    obtain ⟨hle, hjpos, hje⟩ := h.interval_of_under hpos hij
    exact ⟨hle, by omega⟩
  · rintro ⟨hle, hlt⟩
    exact h.under_of_lt hend hle hlt

theorem zero_not_mem_children (h : a.PreOrdered len) (p : Nat) : 0 ∉ a.children p := by
  intro h0
  exact absurd (h.child_bounds h0).1 (Nat.not_lt_zero p)

theorem exists_owner (h : a.PreOrdered len) {c : Nat} (hpos : 0 < c) (hc : c < a.size) :
    ∃ p, c ∈ a.children p := by
  rcases Relation.ReflTransGen.cases_tail (h.under_root hc) with heq | ⟨p, -, hp⟩
  · omega
  · exact ⟨p, hp⟩

/-- A node that lies between a node and one of its children is not the owner of that child. -/
theorem not_mem_children_of_between (h : a.PreOrdered len) {p q c : Nat} (hp : c ∈ a.children p)
    (hpq : p < q) : c ∉ a.children q := by
  intro hq
  obtain ⟨hqc, -, hcq⟩ := h.child_bounds hq
  obtain ⟨hpc, hcpos, hcp⟩ := h.child_bounds hp
  -- `q` lies in the interval of an earlier child of `p`, and `c` with it
  have hsize := lt_size_of_mem_children hp
  obtain ⟨x, hx, hxq, hqx⟩ := (h.children p hsize).exists_mem (j := q) (by omega) (by omega)
  have hxs := h.child_lt_size hx
  have hxend := (h.interval_of_under (h.interval_le hxs).1 ((h.under_iff hxs).2 ⟨hxq, hqx⟩)).2.2
  have hxc : x = c :=
    (h.children p hsize).eq_of_overlap hx hp ⟨by omega, by omega⟩ ⟨le_rfl, by omega⟩
  omega

theorem owner_unique (h : a.PreOrdered len) {p q c : Nat} (hp : c ∈ a.children p)
    (hq : c ∈ a.children q) : p = q := by
  rcases Nat.lt_trichotomy p q with hlt | heq | hgt
  · exact absurd hq (h.not_mem_children_of_between hp hlt)
  · exact heq
  · exact absurd hp (h.not_mem_children_of_between hq hgt)

/-- Every node but the root is the child of exactly one node. -/
theorem existsUnique_owner (h : a.PreOrdered len) {c : Nat} (hpos : 0 < c) (hc : c < a.size) :
    ∃! p, c ∈ a.children p := by
  obtain ⟨p, hp⟩ := h.exists_owner hpos hc
  exact ⟨p, hp, fun q hq => h.owner_unique hq hp⟩

theorem children_pairwise_lt (h : a.PreOrdered len) (p : Nat) :
    (a.children p).Pairwise (· < ·) := by
  by_cases hp : p < a.size
  · exact (h.children p hp).pairwise_lt
  · have hnil : a.children p = [] :=
      List.eq_nil_iff_forall_not_mem.2 fun c hc => hp (lt_size_of_mem_children hc)
    rw [hnil]
    exact List.Pairwise.nil

end PreOrdered

end Arena

end Syntax

end PythonAudit
