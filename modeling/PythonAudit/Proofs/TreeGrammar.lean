import PythonAudit.Concrete.Goal

/-!
# The grammar of calls in a tree

* `Rule k ls` says which labels may stand below a node of kind `k`: a call holds one function and
  its arguments, and a list of arguments stands directly in no other list and in no parentheses;
* `ParseTree.Grammatical` asks for the rule at every node, and `ParseTree.Regular` in addition that
  the tree may stand where an expression stands;
* `Builds p P` says that all that a parser builds satisfies `P`. `Builds.bind`, `Builds.orElse` and
  `builds_iterate` follow the ways in which parsers are put together, and `builds_separated` is the
  loop that reads a list up to its closing bracket.
-/

namespace PythonAudit

namespace Syntax

/-- What may stand beside the function of a call. -/
def isArguments (k : Kind) : Bool :=
  k == .argumentList || k == .generatorExpression || k == .lineContinuation

/-- The labels that may stand below a node of a kind. -/
structure Rule (k : Kind) (ls : List Label) : Prop where
  call : k = .call → ∀ l ∈ ls, l.field = some .function ∨ isArguments l.kind = true
  function : k = .call → ls.countP (fun l => l.field == some .function) ≤ 1
  group : k = .argumentList ∨ k = .parenthesizedExpression → ∀ l ∈ ls, l.kind ≠ .argumentList

/-- A rule that holds goes on to hold when labels are left out. -/
theorem Rule.sublist {k : Kind} {ls ls' : List Label} (h : Rule k ls) (hsub : ls'.Sublist ls) :
    Rule k ls' where
  call hk l hl := h.call hk l (hsub.subset hl)
  function hk := Nat.le_trans hsub.countP_le (h.function hk)
  group hk l hl := h.group hk l (hsub.subset hl)

/-- A continued line end may be put between any two labels. -/
theorem Rule.insert {k : Kind} {ls ms : List Label} {l : Label} (h : Rule k (ls ++ ms))
    (hl : l.kind = .lineContinuation) (hf : l.field = none) : Rule k (ls ++ l :: ms) where
  call hk m hm := by
    rcases List.mem_append.1 hm with hm | hm
    · exact h.call hk m (List.mem_append_left _ hm)
    · rcases List.mem_cons.1 hm with rfl | hm
      · exact Or.inr (by simp [isArguments, hl])
      · exact h.call hk m (List.mem_append_right _ hm)
  function hk := by
    have hle := h.function hk
    rw [List.countP_append] at hle ⊢
    rwa [List.countP_cons_of_neg (by simp [hf])]
  group hk m hm := by
    rcases List.mem_append.1 hm with hm | hm
    · exact h.group hk m (List.mem_append_left _ hm)
    · rcases List.mem_cons.1 hm with rfl | hm
      · simp [hl]
      · exact h.group hk m (List.mem_append_right _ hm)

namespace ParseTree

/-- The rule holds at every node. -/
inductive Grammatical : ParseTree → Prop
  | node {l : Label} {cs : List ParseTree} : Rule l.kind (cs.map label) →
      (∀ c ∈ cs, Grammatical c) →
      Grammatical (node l cs)

/-- A grammatical tree that may stand where an expression stands: it is no list of arguments. -/
def Regular (t : ParseTree) : Prop := t.Grammatical ∧ t.kind ≠ .argumentList

/-- All of several trees are regular. -/
def AllRegular (ts : List ParseTree) : Prop := ∀ t ∈ ts, t.Regular

/-- The arguments of a call: a grammatical list of arguments or generator. -/
def Arguments (t : ParseTree) : Prop := t.Grammatical ∧ isArguments t.kind = true

/-- A kind whose nodes may have any regular trees below them. -/
def plainKind (k : Kind) : Bool := k != .call && k != .argumentList

@[simp] theorem kind_node (l : Label) (cs : List ParseTree) : (node l cs).kind = l.kind := rfl

@[simp] theorem kind_withField (f : Field) (t : ParseTree) : (t.withField f).kind = t.kind := by
  cases t
  rfl

@[simp] theorem label_withField (f : Field) (t : ParseTree) :
    (t.withField f).label = { t.label with field := some f } := by
  cases t
  rfl

@[simp] theorem grammatical_withField {f : Field} {t : ParseTree} :
    (t.withField f).Grammatical ↔ t.Grammatical := by
  cases t with
  | node l cs =>
    constructor
    · rintro ⟨hrule, hcs⟩
      exact ⟨hrule, hcs⟩
    · rintro ⟨hrule, hcs⟩
      exact ⟨hrule, hcs⟩

@[simp] theorem regular_withField {f : Field} {t : ParseTree} :
    (t.withField f).Regular ↔ t.Regular := by
  rw [Regular, Regular, grammatical_withField, kind_withField]

@[simp] theorem allRegular_nil : AllRegular [] := by simp [AllRegular]

@[simp] theorem allRegular_cons {t : ParseTree} {ts : List ParseTree} :
    AllRegular (t :: ts) ↔ t.Regular ∧ AllRegular ts := by simp [AllRegular]

@[simp] theorem allRegular_append {ts us : List ParseTree} :
    AllRegular (ts ++ us) ↔ AllRegular ts ∧
      AllRegular us := by simp [AllRegular, or_imp, forall_and]

@[simp] theorem allRegular_reverse {ts : List ParseTree} :
    AllRegular ts.reverse ↔ AllRegular ts := by
  simp [AllRegular]

@[simp] theorem allRegular_map_withField {f : Field} {ts : List ParseTree} :
    AllRegular (ts.map (·.withField f)) ↔ AllRegular ts := by simp [AllRegular]

theorem AllRegular.grammatical {ts : List ParseTree} (h : AllRegular ts) :
    ∀ t ∈ ts, t.Grammatical :=
  fun t ht => (h t ht).1

theorem grammatical_leaf {l : Label} : (node l []).Grammatical :=
  ⟨⟨by simp, by simp, by simp⟩, by simp⟩

/-- A node that is neither a call nor a list of arguments is regular when all below it is. -/
theorem regular_node {l : Label} {cs : List ParseTree} (hk : plainKind l.kind = true)
    (hcs : AllRegular cs) :
    (node l cs).Regular := by
  simp only [plainKind, Bool.and_eq_true, bne_iff_ne] at hk
  refine ⟨⟨⟨fun h => absurd h hk.1, fun h => absurd h hk.1, fun _ m hm => ?_⟩, hcs.grammatical⟩,
    hk.2⟩
  obtain ⟨c, hc, rfl⟩ := List.mem_map.1 hm
  exact (hcs c hc).2

/-- Outside calls, lists of arguments and parentheses a list of arguments may stand too. -/
theorem regular_node_of_grammatical {l : Label} {cs : List ParseTree}
    (hk : (plainKind l.kind && l.kind != .parenthesizedExpression) = true)
    (hcs : ∀ c ∈ cs, c.Grammatical) :
    (node l cs).Regular := by
  simp only [plainKind, Bool.and_eq_true, bne_iff_ne] at hk
  obtain ⟨⟨hcall, hlist⟩, hparen⟩ := hk
  exact ⟨⟨⟨fun h => absurd h hcall, fun h => absurd h hcall, fun h =>
    absurd h (by simp [hlist, hparen])⟩, hcs⟩, hlist⟩

theorem arguments_node {l : Label} {cs : List ParseTree} (hk : l.kind = .argumentList)
    (hcs : AllRegular cs) :
    (node l cs).Arguments := by
  refine ⟨⟨⟨fun h => ?_, fun h => ?_, fun _ m hm => ?_⟩,
    hcs.grammatical⟩, by simp [isArguments, hk]⟩
  · rw [hk] at h
    cases h
  · rw [hk] at h
    cases h
  · obtain ⟨c, hc, rfl⟩ := List.mem_map.1 hm
    exact (hcs c hc).2

theorem Regular.arguments {t : ParseTree} (h : t.Regular) (hk : t.kind = .generatorExpression) :
    t.Arguments :=
  ⟨h.1, by simp [isArguments, hk]⟩

/-- A call of a regular tree with arguments. -/
theorem regular_call {l : Label} {e args : ParseTree} (hk : l.kind = .call) (he : e.Regular)
    (hargs : args.Arguments) :
    (node l [e.withField .function, args.withField .arguments]).Regular := by
  refine ⟨⟨⟨fun _ => ?_, fun _ => ?_, fun h => ?_⟩, ?_⟩, by simp [hk]⟩
  · simp [show isArguments args.label.kind = true from hargs.2]
  · simp
  · rw [hk] at h
    rcases h with h | h <;> cases h
  · simp [he.1, hargs.1]

end ParseTree

end Syntax

namespace Concrete

open Syntax Concrete.Parser ParseTree

/-! ### What parsers build -/

/-- All that a parser builds satisfies `P`. -/
def Builds {α : Type} (p : Parser α) (P : α → Prop) : Prop := ∀ s a s', p s = .ok (a, s') → P a

section Builds

variable {α β : Type} {p q : Parser α} {P I : α → Prop} {R : β → Prop}

theorem builds_pure {a : α} (h : P a) : Builds (pure a) P := by
  intro s b s' hb
  cases hb
  exact h

theorem builds_throw {e : Failure} : Builds (throw e : Parser α) P := by
  intro s a s' ha
  cases ha

theorem builds_failAt {a : Ahead} : Builds (failAt a) P := builds_throw

theorem Builds.bind {k : α → Parser β} (hp : Builds p P) (hk : ∀ a, P a → Builds (k a) R) :
    Builds (p >>= k) R := by
  intro s b s' hb
  change (p s >>= fun r => k r.1 r.2) = .ok (b, s') at hb
  cases hps : p s with
  | error e =>
    rw [hps] at hb
    cases hb
  | ok r =>
    rw [hps] at hb
    exact hk r.1 (hp s r.1 r.2 hps) r.2 b s' hb

/-- Of what the first parser builds nothing has to be known. -/
theorem Builds.next {k : α → Parser β} (hk : ∀ a, Builds (k a) R) : Builds (p >>= k) R :=
  Builds.bind (P := fun _ => True) (fun _ _ _ _ => trivial) fun a _ => hk a

theorem builds_pure_bind {a : α} {k : α → Parser β} (h : Builds (k a) R) :
    Builds (pure a >>= k) R :=
  (builds_pure (P := (· = a)) rfl).bind fun _ hb => hb ▸ h

theorem Builds.map {f : α → β} (hp : Builds p P) (hf : ∀ a, P a → R (f a)) :
    Builds (f <$> p) R := by
  rw [← bind_pure_comp]
  exact hp.bind fun a ha => builds_pure (hf a ha)

theorem Builds.ite {c : Prop} [Decidable c] (hp : Builds p P) (hq : Builds q P) :
    Builds (if c then p else q) P := by
  split
  · exact hp
  · exact hq

theorem Builds.orElse (hp : Builds p P) (hq : Builds q P) : Builds (orElse p q) P := by
  intro s a s' ha
  unfold Parser.orElse at ha
  split at ha
  next r hr =>
    cases ha
    exact hp s a s' hr
  next =>
    split at ha
    next r hr =>
      cases ha
      exact hq s a s' hr
    next => cases ha

/-- What every step keeps, a loop keeps. -/
theorem builds_iterateWith {step : α → Parser (α ⊕ β)}
    (hstep : ∀ a, I a → Builds (step a) (Sum.elim I R)) (n : Nat) :
    ∀ a, I a → Builds (iterateWith step n a) R := by
  induction n with
  | zero =>
    intro a _ s b s' hb
    cases hb
  | succ n ih =>
    intro a ha
    refine (hstep a ha).bind fun r hr => ?_
    cases r with
    | inl a' => exact ih a' hr
    | inr b => exact builds_pure hr

theorem builds_iterate {step : α → Parser (α ⊕ β)} {a : α} (ha : I a)
    (hstep : ∀ a, I a → Builds (step a) (Sum.elim I R)) : Builds (iterate step a) R :=
  .next fun s => builds_iterateWith hstep s.bound a ha

/-- A loop goes on with what a parser builds. -/
theorem Builds.again (hp : Builds p I) : Builds (do return Sum.inl (← p)) (Sum.elim I R) :=
  hp.bind fun _ ha => builds_pure ha

/-- A loop ends with what a parser builds. -/
theorem Builds.finish {p : Parser β} (hp : Builds p R) :
    Builds (do return Sum.inr (← p)) (Sum.elim I R) :=
  hp.bind fun _ ha => builds_pure ha

end Builds

/-- A single tree as a list. -/
theorem Builds.single {p : Parser ParseTree} (hp : Builds p Regular) :
    Builds (do return [← p]) AllRegular :=
  hp.bind fun t ht => builds_pure (by simp [ht])

/-! ### Lists of trees -/

section Collect

variable {more : Parser ParseTree} {acc : List ParseTree}

/-- A loop that collects trees goes on with one tree more. -/
theorem Builds.collect {β : Type} {R : β → Prop} (hmore : Builds more Regular)
    (hacc : AllRegular acc) :
    Builds (do return Sum.inl ((← more) :: acc)) (Sum.elim AllRegular R) :=
  hmore.bind fun _ ht => builds_pure (allRegular_cons.2 ⟨ht, hacc⟩)

/-- A loop that collects trees ends with them in the order in which they were read. -/
theorem builds_collected {α : Type} {I : α → Prop} (hacc : AllRegular acc) :
    Builds (pure (Sum.inr acc.reverse)) (Sum.elim I AllRegular) :=
  builds_pure (allRegular_reverse.2 hacc)

/-- Trees with commas between them are read up to a closing bracket, with or without a comma before
it. -/
theorem builds_separated {comma : Parser (Option Token)} {close : Parser Token}
    {look : Parser Ahead} {closes : Ahead → Bool} {closeAt : Ahead → Parser Token}
    (hmore : Builds more Regular) (hacc : AllRegular acc) :
    Builds (iterate (fun (acc : List ParseTree) => do
      match ← comma with
      | none =>
        let _ ← close
        return .inr acc.reverse
      | some _ =>
        let a ← look
        if closes a then
          let _ ← closeAt a
          return .inr acc.reverse
        else return .inl ((← more) :: acc)) acc) AllRegular := by
  refine builds_iterate hacc fun acc hacc => .next fun o => ?_
  cases o with
  | none => exact .next fun _ => builds_collected hacc
  | some _ => exact .next fun a => .ite (.next fun _ => builds_collected hacc) (hmore.collect hacc)

end Collect

theorem builds_nodeFrom {k : Kind} {start : Point} {cs : List ParseTree} (hk : plainKind k = true)
    (hcs : AllRegular cs) : Builds (nodeFrom k start cs) Regular :=
  .next fun _ => builds_pure (regular_node hk hcs)

@[simp] theorem regular_leaf {t : Token} {k : Kind} : (t.leaf k).Regular ↔ k ≠ .argumentList :=
  ⟨fun h => h.2, fun h => ⟨grammatical_leaf, h⟩⟩

/-! ### Targets -/

mutual

/-- The target that a grammatical tree stands for is regular. -/
theorem regular_of_toTarget {t u : ParseTree} (h : t.Grammatical) (hu : toTarget t = some u) :
    u.Regular := by
  cases t with
  | node l cs =>
    cases h with
    | node hrule hcs =>
      have hlist : ∀ k, plainKind k = true →
          (toTargets cs).map (.node { l with kind := k }) = some u → u.Regular := by
        intro k hk hmap
        obtain ⟨us, hus, rfl⟩ := Option.map_eq_some_iff.1 hmap
        exact regular_node hk (allRegular_of_toTargets hcs hus)
      have hself : l.kind ≠ .argumentList → (node l cs).Regular := fun hk => ⟨⟨hrule, hcs⟩, hk⟩
      unfold toTarget at hu
      split at hu
      next hk => exact Option.some.inj hu ▸ hself (by simp [hk])
      next hk => exact Option.some.inj hu ▸ hself (by simp [hk])
      next hk => exact Option.some.inj hu ▸ hself (by simp [hk])
      next =>
        split at hu
        next =>
          split at hu
          next => exact Option.some.inj hu ▸ regular_node_of_grammatical rfl hcs
          next => cases hu
        next => cases hu
      next => exact hlist .tuplePattern rfl hu
      next => exact hlist .tuplePattern rfl hu
      next => exact hlist .listPattern rfl hu
      next => cases hu

/-- The targets that grammatical trees stand for are regular. -/
theorem allRegular_of_toTargets {ts us : List ParseTree} (h : ∀ t ∈ ts, t.Grammatical)
    (hus : toTargets ts = some us) : AllRegular us := by
  cases ts with
  | nil =>
    cases hus
    exact allRegular_nil
  | cons t ts =>
    unfold toTargets at hus
    split at hus
    next u us' hu hus' =>
      cases hus
      rw [List.forall_mem_cons] at h
      exact allRegular_cons.2 ⟨regular_of_toTarget h.1 hu, allRegular_of_toTargets h.2 hus'⟩
    next => cases hus

end

end Concrete

end PythonAudit
