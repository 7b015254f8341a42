import PythonAudit.Proofs.DecodeChain

/-!
# The literals that wait

The detector of obfuscation keeps the literals it meets until it finishes. Here it may be shown any
number of arenas, finish and be reset in any order.

* `Obfuscation.Step` is one thing that is done with a detector, and `Obfuscation.after d steps` is
  the detector after a run of steps;
* `Met` is a literal with the step and the node where it was met, `met steps` lists all of them, and
  `waiting steps` those that were met after the last step that empties the buffer;
* `scoredBy steps j` are the literals that step `j` scores: they are scored in the order they were
  met, each at most once (`pairwise_scored`), and exactly when the detector finishes before the next
  reset (`exists_scoredBy_iff`);
* `reported th os steps` says what each step since the last reset adds to the findings, and
  `after_eq` that a detector holds this and the literals that wait;
* `walk_eq_after` says that a walk is one visit with all parents known, followed by a finish.
-/

namespace PythonAudit

open Syntax

namespace Obfuscation

/-! ### Runs -/

/-- One thing that is done with a detector. -/
inductive Step where
  /-- All nodes of an arena are shown in order, with the parents that are recorded. -/
  | visit (x : Context)
  | finalize
  | reset

namespace Step

/-- The detector after a step. -/
def perform : Step → Obfuscation → Obfuscation
  | visit x, d => (List.range x.arena.size).foldl (fun d id => d.visit x id) d
  | finalize, d => d.finalize
  | reset, d => d.reset

/-- No literal waits after the step. -/
def drains : Step → Bool
  | visit _ => false
  | _ => true

/-- No finding is left after the step. -/
def forgets : Step → Bool
  | reset => true
  | _ => false

end Step

/-- The detector after some steps. -/
def after (d : Obfuscation) (steps : List Step) : Obfuscation :=
  steps.foldl (fun d s => s.perform d) d

@[simp] theorem finalize_finalize (d : Obfuscation) : d.finalize.finalize = d.finalize := by
  simp [finalize, scores]

theorem after_concat (d : Obfuscation) (steps : List Step) (s : Step) :
    d.after (steps ++ [s]) = s.perform (d.after steps) := by
  simp [after]

/-- Showing the nodes of an arena in order adds their literals and their chains in order. -/
theorem foldl_visit (x : Context) (d : Obfuscation) (k : Nat) :
    (List.range k).foldl (fun d id => d.visit x id) d =
      { d with
        pending := d.pending ++ (List.range k).filterMap (literal? x.arena)
        findings := d.findings ++ (List.range k).filterMap (chainFinding? x) } := by
  induction k with
  | zero => simp
  | succ k ih =>
    rw [List.range_succ, List.foldl_append, ih, ← List.range_succ, filterMap_range_succ,
      filterMap_range_succ, ← List.append_assoc, ← List.append_assoc]
    rfl

/-! ### Literals that were met -/

/-- A literal, and the step and the node where it was met. -/
structure Met where
  step : Nat
  node : Nat
  literal : PendingLiteral

/-- One literal was met before another one. -/
def Met.Before (m m' : Met) : Prop := m.step < m'.step ∨ (m.step = m'.step ∧ m.node < m'.node)

/-- The literals that are met in a step with a given number. -/
def Step.literals (i : Nat) : Step → List Met
  | visit x =>
    (List.range x.arena.size).filterMap fun id => (literal? x.arena id).map fun l => ⟨i, id, l⟩
  | _ => []

/-- All literals that are met, in order. -/
def met (steps : List Step) : List Met := (steps.mapIdx Step.literals).flatten

/-- The literals that were met since the last step that empties the buffer, in order. -/
def waiting (steps : List Step) : List Met :=
  (met steps).filter fun m => (steps.drop (m.step + 1)).all fun s => !s.drains

theorem met_concat (steps : List Step) (s : Step) :
    met (steps ++ [s]) = met steps ++ s.literals steps.length := by
  simp [met, List.mapIdx_concat]

theorem step_of_mem_literals {i : Nat} {s : Step} {m : Met} (h : m ∈ s.literals i) :
    m.step = i := by
  cases s with
  | visit x =>
    obtain ⟨id, -, hm⟩ := List.mem_filterMap.1 h
    obtain ⟨l, -, rfl⟩ := Option.map_eq_some_iff.1 hm
    rfl
  | finalize => cases h
  | reset => cases h

theorem step_lt_of_mem_met {steps : List Step} {m : Met} (h : m ∈ met steps) :
    m.step < steps.length := by
  induction steps using List.reverseRecOn with
  | nil => cases h
  | append_singleton steps s ih =>
    rw [met_concat, List.mem_append] at h
    rw [List.length_append, List.length_singleton]
    rcases h with hold | hnew
    · have := ih hold
      omega
    · have := step_of_mem_literals hnew
      omega

theorem pairwise_literals (i : Nat) (s : Step) : (s.literals i).Pairwise Met.Before := by
  cases s with
  | visit x =>
    refine List.Pairwise.filterMap _ (fun id id' hlt m hm m' hm' => ?_) List.pairwise_lt_range
    obtain ⟨l, -, rfl⟩ := Option.map_eq_some_iff.1 hm
    obtain ⟨l', -, rfl⟩ := Option.map_eq_some_iff.1 hm'
    exact Or.inr ⟨rfl, hlt⟩
  | finalize => exact List.Pairwise.nil
  | reset => exact List.Pairwise.nil

theorem pairwise_met (steps : List Step) : (met steps).Pairwise Met.Before := by
  induction steps using List.reverseRecOn with
  | nil => exact List.Pairwise.nil
  | append_singleton steps s ih =>
    rw [met_concat, List.pairwise_append]
    refine ⟨ih, pairwise_literals _ s, fun m hm m' hm' => Or.inl ?_⟩
    rw [step_of_mem_literals hm']
    exact step_lt_of_mem_met hm

/-- A step empties the buffer, or it adds the literals that it meets. -/
theorem waiting_concat (steps : List Step) (s : Step) :
    waiting (steps ++ [s]) = if s.drains then [] else waiting steps ++ s.literals steps.length := by
  have hold : (met steps).filter
    (fun m => ((steps ++ [s]).drop (m.step + 1)).all fun s => !s.drains) =
      if s.drains then [] else waiting steps := by
    have hdrop : ∀ m ∈ met steps, ((steps ++ [s]).drop (m.step + 1)).all (fun s => !s.drains) =
        ((steps.drop (m.step + 1)).all (fun s => !s.drains) && !s.drains) := by
      intro m hm
      rw [List.drop_append_of_le_length (step_lt_of_mem_met hm), List.all_append]
      simp
    rw [List.filter_congr hdrop]
    cases s.drains <;> simp [waiting]
  have hnew : (s.literals steps.length).filter
      (fun m => ((steps ++ [s]).drop (m.step + 1)).all fun s => !s.drains) =
          s.literals steps.length := by
    refine List.filter_eq_self.2 fun m hm => ?_
    rw [step_of_mem_literals hm, List.drop_of_length_le (by simp)]
    rfl
  rw [waiting, met_concat, List.filter_append, hold, hnew]
  cases s <;> simp [Step.drains, Step.literals]

/-! ### Which literals are scored -/

/-- The literals that a step scores. -/
def scoredBy (steps : List Step) (j : Nat) : List Met :=
  match steps[j]? with
  | some .finalize => waiting (steps.take j)
  | _ => []

/-- The literals that the steps score, in order. -/
def scored (steps : List Step) : List Met := (List.range steps.length).flatMap (scoredBy steps)

theorem scored_concat (steps : List Step) (s : Step) :
    scored (steps ++ [s]) = scored steps ++ scoredBy (steps ++ [s]) steps.length := by
  have hold : ∀ j ∈ List.range steps.length, scoredBy (steps ++ [s]) j = scoredBy steps j := by
    intro j hj
    rw [List.mem_range] at hj
    rw [scoredBy, scoredBy, List.getElem?_append_left hj, List.take_append_of_le_length hj.le]
  rw [scored, List.length_append, List.length_singleton, List.range_succ, List.flatMap_append,
    List.flatMap_congr hold, List.flatMap_singleton, scored]

theorem scoredBy_concat (steps : List Step) (s : Step) :
    scoredBy (steps ++ [s]) steps.length =
      match s with
      | .finalize => waiting steps
      | _ => [] := by
  rw [scoredBy, List.getElem?_concat_length, List.take_left]
  cases s <;> rfl

theorem mem_scoredBy_iff {steps : List Step} {j : Nat} {m : Met} :
    m ∈ scoredBy steps j ↔ steps[j]? = some .finalize ∧ m ∈ waiting (steps.take j) := by
  unfold scoredBy
  split
  next h => simp [h]
  next h => exact iff_of_false List.not_mem_nil fun hj => h hj.1

theorem mem_met_iff {steps : List Step} {m : Met} :
    m ∈ met steps ↔ ∃ s, steps[m.step]? = some s ∧ m ∈ s.literals m.step := by
  rw [met, List.mem_flatten]
  constructor
  · rintro ⟨ms, hms, hm⟩
    obtain ⟨i, hi, rfl⟩ := List.mem_mapIdx.1 hms
    obtain rfl := step_of_mem_literals hm
    exact ⟨_, List.getElem?_eq_getElem hi, hm⟩
  · rintro ⟨s, hs, hm⟩
    obtain ⟨hi, rfl⟩ := List.getElem?_eq_some_iff.1 hs
    exact ⟨_, List.mem_mapIdx.2 ⟨m.step, hi, rfl⟩, hm⟩

/-- A literal waits before a step when it was met and no step since then has emptied the buffer. -/
theorem mem_waiting_take_iff {steps : List Step} {j : Nat} {m : Met} :
    m ∈ waiting (steps.take j) ↔
      m ∈ met steps ∧ m.step < j ∧ ∀ k s, m.step < k → k < j → steps[k]? = some s →
        s.drains = false := by
  have hmet : m ∈ met (steps.take j) ↔ m ∈ met steps ∧ m.step < j := by
    rw [mem_met_iff, mem_met_iff, List.getElem?_take]
    split_ifs with hlt <;> simp [hlt]
  have hkept : ((steps.take j).drop (m.step + 1)).all (fun s => !s.drains) = true ↔
      ∀ k s, m.step < k → k < j → steps[k]? = some s → s.drains = false := by
    simp only [List.all_eq_true, List.mem_iff_getElem?, List.getElem?_drop, List.getElem?_take,
      Bool.not_eq_true']
    constructor
    · intro h k s hk hkj hs
      obtain ⟨i, rfl⟩ := Nat.exists_eq_add_of_le (Nat.succ_le_of_lt hk)
      exact h s ⟨i, by rw [if_pos hkj, hs]⟩
    · rintro h s ⟨i, hi⟩
      split_ifs at hi with hlt
      exact h _ s (by omega) hlt hi
  rw [waiting, List.mem_filter, hmet, hkept, and_assoc]

/-- Literals are scored in the order they were met, none of them twice. -/
theorem pairwise_scored (steps : List Step) : (scored steps).Pairwise Met.Before := by
  rw [scored, List.pairwise_flatMap]
  constructor
  · intro j _
    unfold scoredBy
    split
    · exact (pairwise_met _).filter _
    · exact List.Pairwise.nil
  · refine List.pairwise_lt_range.imp fun {j j'} hlt m hm m' hm' => Or.inl ?_
    obtain ⟨hj, hm⟩ := mem_scoredBy_iff.1 hm
    obtain ⟨-, hm'⟩ := mem_scoredBy_iff.1 hm'
    obtain ⟨-, hmj, -⟩ := mem_waiting_take_iff.1 hm
    obtain ⟨-, -, hkept⟩ := mem_waiting_take_iff.1 hm'
    -- the second literal was met after step `j`, which left none waiting
    have hle : ¬ m'.step < j := fun hbefore => by cases hkept j .finalize hbefore hlt hj
    omega

/-- A literal that was met is scored exactly when the detector finishes before the next reset. -/
theorem exists_scoredBy_iff {steps : List Step} {m : Met} :
    (∃ j, m ∈ scoredBy steps j) ↔
      m ∈ met steps ∧ ∃ j, m.step < j ∧ steps[j]? = some .finalize ∧
        ∀ k, m.step < k → k < j → steps[k]? ≠ some .reset := by
  constructor
  · rintro ⟨j, hj⟩
    obtain ⟨hfinal, hwaits⟩ := mem_scoredBy_iff.1 hj
    obtain ⟨hm, hlt, hkept⟩ := mem_waiting_take_iff.1 hwaits
    exact ⟨hm, j, hlt, hfinal, fun k hk hkj hreset => by cases hkept k .reset hk hkj hreset⟩
  · rintro ⟨hm, h⟩
    -- the first finish after the literal was met scores it
    classical
    have hex : ∃ j, m.step < j ∧ steps[j]? = some .finalize := h.imp fun j hj => ⟨hj.1, hj.2.1⟩
    obtain ⟨j, hlt, hfinal, hreset⟩ := h
    refine ⟨Nat.find hex, mem_scoredBy_iff.2 ⟨(Nat.find_spec hex).2, mem_waiting_take_iff.2
      ⟨hm, (Nat.find_spec hex).1, fun k s hk hkj hs => ?_⟩⟩⟩
    have hle : Nat.find hex ≤ j := Nat.find_min' hex ⟨hlt, hfinal⟩
    cases s with
    | visit x => rfl
    | finalize => exact absurd ⟨hk, hs⟩ (Nat.find_min hex hkj)
    | reset => exact absurd hs (hreset k hk (by omega))

/-! ### What a run reports -/

/-- What a step adds to the findings, when the given steps came before it: the chains of an arena,
or the literals of high entropy among those that wait, each added up in the next order. -/
def Step.adds (th : Thresholds Double) (os : List Rearrangement) (before : List Step) :
    Step → List Finding
  | visit x => (List.range x.arena.size).filterMap (chainFinding? x)
  | finalize => scores th (os.drop (scored before).length) ((waiting before).map Met.literal)
  | reset => []

/-- What the steps since the last reset add to the findings, in order. -/
def reported (th : Thresholds Double) (os : List Rearrangement) (steps : List Step) :
    List Finding :=
  (steps.mapIdx fun i s =>
    if (steps.drop (i + 1)).all (fun s => !s.forgets) then s.adds th os (steps.take i)
    else []).flatten

theorem reported_concat (th : Thresholds Double) (os : List Rearrangement) (steps : List Step)
    (s : Step) :
    reported th os (steps ++ [s]) =
      if s.forgets then [] else reported th os steps ++ s.adds th os steps := by
  have hold : (steps.mapIdx fun i u =>
      if ((steps ++ [s]).drop (i + 1)).all (fun s => !s.forgets) then
        u.adds th os ((steps ++ [s]).take i)
      else []) =
      steps.mapIdx fun i u =>
        if s.forgets then []
        else if (steps.drop (i + 1)).all (fun s => !s.forgets) then u.adds th os (steps.take i)
        else [] := by
    refine List.mapIdx_eq_mapIdx_iff.2 fun i hi => ?_
    rw [List.drop_append_of_le_length hi, List.take_append_of_le_length hi.le, List.all_append]
    cases hs : s.forgets <;> simp [hs]
  rw [reported, List.mapIdx_concat, hold, List.drop_of_length_le (by simp), List.take_left]
  cases hs : s.forgets with
  | false => simp [reported]
  | true =>
    cases s with
    | reset => simp [Step.adds]
    | visit x => cases hs
    | finalize => cases hs

/-- After a run a detector holds the literals that wait and what was reported since the last reset,
and each literal that was scored has taken one order. -/
theorem after_eq (th : Thresholds Double) (os : List Rearrangement) (steps : List Step) :
    ({ thresholds := th, orders := os } : Obfuscation).after steps =
      { thresholds := th
        pending := (waiting steps).map Met.literal
        findings := reported th os steps
        orders := os.drop (scored steps).length } := by
  induction steps using List.reverseRecOn with
  | nil => rfl
  | append_singleton steps s ih =>
    rw [after_concat, ih, waiting_concat, reported_concat, scored_concat, scoredBy_concat]
    cases s with
    | visit x =>
      have hnew : (List.range x.arena.size).filterMap (literal? x.arena) =
          ((Step.visit x).literals steps.length).map Met.literal := by
        simp [Step.literals, List.map_filterMap, Function.comp_def]
      rw [Step.perform, foldl_visit, hnew]
      simp [Step.drains, Step.forgets, Step.adds]
    | finalize =>
      rw [Step.perform, finalize]
      simp [Step.drains, Step.forgets, Step.adds]
    | reset =>
      rw [Step.perform, reset]
      simp [Step.drains, Step.forgets]

end Obfuscation

/-! ### Walks -/

namespace Syntax.Context

variable {a : Arena} {len : Nat → Nat}

/-- While a node is looked at, its semantic parent is the one that is found in the end. -/
theorem semanticParent?_during (h : a.PreOrdered len) (id : Nat) :
    (during a id).semanticParent? id = (complete a).semanticParent? id := by
  ext e
  rw [semanticParent?_eq_some_iff h (knows_during h id),
    semanticParent?_eq_some_iff h (knows_complete h id)]
  rfl

end Syntax.Context

namespace Obfuscation

variable {a : Arena} {len : Nat → Nat}

theorem chainFinding?_during (h : a.PreOrdered len) (id : Nat) :
    chainFinding? (Context.during a id) id = chainFinding? (Context.complete a) id := by
  have harena : (Context.during a id).arena = (Context.complete a).arena := rfl
  rw [chainFinding?, chainFinding?, chain?, chain?, harena, Context.semanticParent?_during h]

/-- A walk shows all nodes with all their parents known, and then the detector finishes. -/
theorem walk_eq_after (h : a.PreOrdered len) (d : Obfuscation) :
    (walk a [.obfuscation d]).2 =
      [.obfuscation (d.after [.visit (Context.complete a), .finalize])] := by
  have hchains : (fun id => chainFinding? (Context.during a id) id) =
      chainFinding? (Context.complete a) :=
    funext (chainFinding?_during h)
  rw [walk_eq_findings h, hchains, after, List.foldl_cons, List.foldl_cons, List.foldl_nil,
    Step.perform, foldl_visit]
  rfl

/-- A walk that starts with an empty buffer adds the same findings whatever there are before. -/
theorem findings_walk (h : a.PreOrdered len) (d : Obfuscation) (hd : d.pending = []) :
    ∃ d', (walk a [.obfuscation d]).2 = [.obfuscation d'] ∧ d'.thresholds = d.thresholds ∧
      d'.pending = [] ∧ d'.orders = d.orders.drop a.literals.length ∧
      d'.findings = d.findings ++
        (walk a [.obfuscation { thresholds := d.thresholds, orders := d.orders }]).2.flatMap
          Detector.findings := by
  refine ⟨_, walk_eq_findings h d, rfl, rfl, by rw [hd, List.nil_append], ?_⟩
  rw [walk_eq_findings h]
  simp [hd, Detector.findings]

end Obfuscation

open Obfuscation

/-- **Literals wait until the detector finishes.** They are scored in the order they were met, none
of them twice, and exactly when the detector finishes before the next reset. -/
theorem literals_wait_for_finish (th : Thresholds Double) (os : List Rearrangement) :
    (∀ steps : List Step,
      ({ thresholds := th, orders := os } : Obfuscation).after steps =
        { thresholds := th
          pending := (waiting steps).map Met.literal
          findings := reported th os steps
          orders := os.drop (scored steps).length } ∧
      (scored steps).Pairwise Met.Before ∧
      (∀ m, (∃ j, m ∈ scoredBy steps j) ↔
        m ∈ met steps ∧ ∃ j, m.step < j ∧ steps[j]? = some .finalize ∧
          ∀ k, m.step < k → k < j → steps[k]? ≠ some .reset) ∧
      ({ thresholds := th, orders := os } : Obfuscation).after (steps ++ [.finalize, .finalize]) =
        ({ thresholds := th, orders := os } : Obfuscation).after (steps ++ [.finalize])) ∧
    ∀ t u : ParseTree,
      (∀ d : Obfuscation, (walk (Arena.ofTree t) [.obfuscation d]).2 =
        [.obfuscation (d.after
          [.visit ⟨Arena.ofTree t, (walk (Arena.ofTree t) [.obfuscation d]).1⟩, .finalize])]) ∧
      (walk (Arena.ofTree u)
          (walk (Arena.ofTree t) [.obfuscation { thresholds := th, orders := os }]).2).2.flatMap
          Detector.findings =
        (walk (Arena.ofTree t) [.obfuscation { thresholds := th, orders := os }]).2.flatMap
            Detector.findings ++
          (walk (Arena.ofTree u) [.obfuscation
            { thresholds := th, orders := os.drop (Arena.ofTree t).literals.length }]).2.flatMap
            Detector.findings := by
  refine ⟨fun steps => ⟨after_eq th os steps, pairwise_scored steps,
    fun m => exists_scoredBy_iff, ?_⟩,
    fun t u => ⟨fun d => ?_, ?_⟩⟩
  · have hsplit : steps ++ [Step.finalize, .finalize] =
        steps ++ [.finalize] ++ [.finalize] := by simp
    rw [hsplit, after_concat, after_concat]
    exact finalize_finalize _
  · have hpre := Arena.preOrdered_ofTree t
    rw [walk_eq_after hpre, walk_eq hpre]
    rfl
  · obtain ⟨d, hd, hth, hpending, horders, -⟩ :=
      findings_walk (Arena.preOrdered_ofTree t) { thresholds := th, orders := os } rfl
    obtain ⟨d', hd', -, -, -, hfindings⟩ := findings_walk (Arena.preOrdered_ofTree u) d hpending
    rw [hd, hd']
    simp [Detector.findings, hfindings, hth, horders]

/-- The literal `"a"`. -/
def quotedLetter : ParseTree :=
  ParseTree.oneLine .string 0 3 "" [ParseTree.oneLine .stringStart 0 1 "\"" [],
    ParseTree.oneLine .stringContent 1 2 "a" []]

-- the literal of the first visit is scored, and that of the second one is forgotten
example :
    let x := Context.complete (Arena.ofTree quotedLetter)
    (List.range 5).map
      (fun j => (scoredBy [.visit x, .finalize, .visit x, .reset, .finalize] j).map Met.step) =
      [[], [0], [], [], []] := by
  decide +kernel

end PythonAudit
