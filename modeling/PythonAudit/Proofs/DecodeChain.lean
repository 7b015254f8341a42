import Mathlib.Data.List.TakeWhile
import PythonAudit.Proofs.DottedName
import PythonAudit.Proofs.Kept
import PythonAudit.Proofs.SummationOrder
import PythonAudit.Proofs.Walk

/-!
# Which calls are reported as decode chains

* `IsLastSegment name s` says what the last segment of a dotted name is, and `lastSegment_eq_iff`
  that it is found;
* `Arena.DecodeChain a d e decoder executor` says that the call `d` decodes base64 straight into the
  call `e` that runs code;
* `Obfuscation.chain?_eq_some_iff` says that the chain which starts at a node is found while the
  node is looked at, and `Obfuscation.walk_eq_findings` what a walk finds in all.
-/

namespace PythonAudit

open Syntax

/-! ### Segments and tokens -/

/-- The text after the last dot of a dotted name, or the whole name when it has no dot. -/
def IsLastSegment (name s : String) : Prop :=
  '.' ∉ s.toList ∧ (name = s ∨ ∃ front : String, name = front ++ "." ++ s)

theorem takeWhile_ne_dot_of_not_mem {cs : List Char} (h : '.' ∉ cs) :
    cs.takeWhile (· != '.') = cs := by
  rw [List.takeWhile_eq_self_iff]
  intro c hc
  rw [bne_iff_ne]
  rintro rfl
  exact h hc

theorem takeWhile_ne_dot_append {cs : List Char} (h : '.' ∉ cs) (ds : List Char) :
    (cs ++ '.' :: ds).takeWhile (· != '.') = cs := by
  have hall : ∀ c ∈ cs, (c != '.') = true :=
    List.takeWhile_eq_self_iff.1 (takeWhile_ne_dot_of_not_mem h)
  rw [List.takeWhile_append_of_pos hall, List.takeWhile_cons_of_neg (by decide), List.append_nil]

theorem isLastSegment_lastSegment (name : String) : IsLastSegment name (lastSegment name) := by
  have hnot : '.' ∉ (lastSegment name).toList := by
    rw [lastSegment, String.toList_ofList, List.mem_reverse]
    intro hmem
    exact absurd (List.mem_takeWhile_imp hmem) (by decide)
  have hsplit : name.toList =
      (name.toList.reverse.dropWhile (· != '.')).reverse ++ (lastSegment name).toList := by
    rw [lastSegment, String.toList_ofList, ← List.reverse_append, List.takeWhile_append_dropWhile,
      List.reverse_reverse]
  refine ⟨hnot, ?_⟩
  cases hrest : name.toList.reverse.dropWhile (· != '.') with
  | nil =>
    left
    rw [hrest, List.reverse_nil, List.nil_append] at hsplit
    exact String.toList_inj.1 hsplit
  | cons c front =>
    right
    have hc := List.head?_dropWhile_not (· != '.') name.toList.reverse
    rw [hrest] at hc hsplit
    obtain rfl : c = '.' := by simpa using hc
    refine ⟨String.ofList front.reverse, String.toList_inj.1 ?_⟩
    rw [hsplit]
    simp

/-- The last segment is found. -/
theorem lastSegment_eq_iff (name s : String) : lastSegment name = s ↔ IsLastSegment name s := by
  constructor
  · rintro rfl
    exact isLastSegment_lastSegment name
  · rintro ⟨hs, rfl | ⟨front, rfl⟩⟩
    · rw [lastSegment, takeWhile_ne_dot_of_not_mem (by rwa [List.mem_reverse]),
        List.reverse_reverse, String.ofList_toList]
    · have hrev : (front ++ "." ++ s).toList.reverse =
          s.toList.reverse ++ '.' :: front.toList.reverse := by
        simp
      rw [lastSegment, hrev, takeWhile_ne_dot_append (by rwa [List.mem_reverse]),
        List.reverse_reverse, String.ofList_toList]

/-- One text occurs in another one when it is a stretch of it. -/
theorem occursIn_iff (part cs : List Char) : occursIn part cs = true ↔ part <:+: cs := by
  induction cs with
  | nil => simp [occursIn]
  | cons c cs ih =>
    rw [occursIn, Bool.or_eq_true, List.isPrefixOf_iff_prefix, ih, List.infix_cons_iff]

theorem isDecoder_iff (name : String) :
    isDecoder name = true ↔ ∃ token ∈ decodeTokens, token.toList <:+: name.toList := by
  rw [isDecoder, List.any_eq_true]
  constructor
  · rintro ⟨token, htoken, hocc⟩
    exact ⟨token, htoken, (occursIn_iff _ _).1 hocc⟩
  · rintro ⟨token, htoken, hocc⟩
    exact ⟨token, htoken, (occursIn_iff _ _).2 hocc⟩

/-! ### Chains in an arena -/

namespace Syntax

namespace Arena

/-- The call `d` decodes base64, and going up from it through nodes that only group an expression
the first other node is the call `e`, which runs code. -/
structure DecodeChain (a : Arena) (d e : Nat) (decoder executor : String) : Prop where
  decode : ∃ name, a.Calls d name ∧ IsLastSegment name decoder
  token : ∃ token ∈ decodeTokens, token.toList <:+: decoder.toList
  parent : a.SemanticParent d e
  execute : ∃ name, a.Calls e name ∧ IsLastSegment name executor
  function : executor ∈ execFunctions

end Arena

end Syntax

/-! ### What the detector reports -/

namespace Obfuscation

/-- The finding for a decoding call whose result is run. -/
def chainReport (n : Node) (decoder executor : String) : Finding :=
  { detector := "ObfuscationDetector"
    severity := .high
    description := "base64 decoding passed straight to " ++ executor ++ " - explicit obfuscation"
    line := n.line
    column := n.column
    pattern := decoder ++ " -> " ++ executor }

variable {a : Arena} {len : Nat → Nat}

/-- While a node is looked at, the chain that starts there is found. -/
theorem chain?_eq_some_iff (h : a.PreOrdered len) (d : Nat) (decoder executor : String) :
    chain? (Context.during a d) d = some (decoder, executor) ↔
      ∃ e, a.DecodeChain d e decoder executor := by
  have hparent :=
    Context.semanticParent?_eq_some_iff (x := Context.during a d) h (Context.knows_during h d)
  have harena : (Context.during a d).arena = a := rfl
  rw [harena] at hparent
  unfold chain?
  simp only [harena, Option.bind_eq_bind, Option.bind_eq_some_iff]
  constructor
  · rintro ⟨dname, hdname, e, he, ename, hename, hif⟩
    split_ifs at hif with hcond
    obtain ⟨hdec, hexe⟩ := Bool.and_eq_true_iff.1 hcond
    cases hif
    exact ⟨e,
      ⟨dname, (Arena.callee?_eq_some_iff h d dname).1 hdname, isLastSegment_lastSegment dname⟩,
      (isDecoder_iff _).1 hdec, (hparent e).1 he,
      ⟨ename, (Arena.callee?_eq_some_iff h e ename).1 hename, isLastSegment_lastSegment ename⟩,
      List.contains_iff_mem.1 hexe⟩
  · rintro ⟨e, ⟨dname, hdname, hdseg⟩, htoken, he, ⟨ename, hename, heseg⟩, hfun⟩
    refine ⟨dname, (Arena.callee?_eq_some_iff h d dname).2 hdname, e, (hparent e).2 he, ename,
      (Arena.callee?_eq_some_iff h e ename).2 hename, ?_⟩
    rw [(lastSegment_eq_iff dname decoder).2 hdseg, (lastSegment_eq_iff ename executor).2 heseg,
      (isDecoder_iff decoder).2 htoken, List.contains_iff_mem.2 hfun]
    rfl

theorem chainFinding?_eq_some_iff (h : a.PreOrdered len) (d : Nat) (f : Finding) :
    chainFinding? (Context.during a d) d = some f ↔
      ∃ n e decoder executor, a.node? d = some n ∧ a.DecodeChain d e decoder executor ∧
        f = chainReport n decoder executor := by
  have harena : (Context.during a d).arena = a := rfl
  unfold chainFinding?
  rw [harena]
  constructor
  · intro hf
    split at hf
    next n decoder executor hn hchain =>
      cases hf
      obtain ⟨e, he⟩ := (chain?_eq_some_iff h d decoder executor).1 hchain
      exact ⟨n, e, decoder, executor, hn, he, rfl⟩
    next => cases hf
  · rintro ⟨n, e, decoder, executor, hn, hchain, rfl⟩
    rw [hn, (chain?_eq_some_iff h d decoder executor).2 ⟨e, hchain⟩]
    rfl

/-- A detector that looks at the nodes in order adds their literals and their chains in order. -/
theorem upTo_eq (a : Arena) (d : Obfuscation) (k : Nat) :
    (Detector.obfuscation d).upTo a k =
      .obfuscation { d with
        pending := d.pending ++ (List.range k).filterMap (literal? a)
        findings := d.findings ++
          (List.range k).filterMap fun i => chainFinding? (Context.during a i) i } := by
  induction k with
  | zero => simp [Detector.upTo_zero]
  | succ k ih =>
    have harena : (Context.during a k).arena = a := rfl
    rw [Detector.upTo_succ, ih, Detector.visit, visit, harena, filterMap_range_succ,
      filterMap_range_succ, ← List.append_assoc, ← List.append_assoc]

theorem walk_eq_findings (h : a.PreOrdered len) (d : Obfuscation) :
    (walk a [.obfuscation d]).2 =
      [.obfuscation { d with
        pending := []
        findings := d.findings ++
          ((List.range a.size).filterMap fun i => chainFinding? (Context.during a i) i) ++
          scores d.thresholds d.orders (d.pending ++ a.literals)
        orders := d.orders.drop (d.pending ++ a.literals).length }] := by
  rw [walk_eq h, List.map_singleton, upTo_eq, Detector.finalize, finalize]
  rfl

theorem severity_of_score {t : Thresholds Double} {o : Rearrangement} {l : PendingLiteral}
    {f : Finding} (h : score t o l = some f) : f.severity = .medium := by
  unfold score at h
  split at h
  next => cases h
  next =>
    cases h
    rfl

end Obfuscation

/-- The call `eval((b64decode(x)))`. -/
def evalOfDecoded : ParseTree :=
  ParseTree.oneLine .call 0 20 "" [
    (ParseTree.oneLine .identifier 0 4 "eval" []).withField .function,
    (ParseTree.oneLine .argumentList 4 20 "" [
      ParseTree.oneLine .parenthesizedExpression 5 19 "" [
        ParseTree.oneLine .call 6 18 "" [
          (ParseTree.oneLine .identifier 6 15 "b64decode" []).withField .function,
          (ParseTree.oneLine .argumentList 15 18 "" [
            ParseTree.oneLine .identifier 16 17 "x" []]).withField .arguments]]]
      ).withField .arguments]

end PythonAudit
