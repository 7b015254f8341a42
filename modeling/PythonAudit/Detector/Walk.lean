import PythonAudit.Detector.Basic

/-!
# Walking an arena

`walkWith` shows every node to every detector, parents before children and siblings in order. The
children of a node get their parent before the node is shown, so a detector always knows all
ancestors.

What the walk does on its way is left to a `Walker`, which acts in a monad, so that the same walk
can be run and can be watched. `walk` is the walk of the detectors of this library.
-/

namespace PythonAudit

open Syntax

/-- What a walk does on its way: it records a parent, shows a node to a detector, and lets a
detector finish. -/
structure Walker (m : Type → Type) (δ : Type) where
  assign : Parents → Nat → Nat → m Parents
  visit : Context → Nat → δ → m δ
  finalize : δ → m δ

/-- A walk under way: the nodes still to be visited, the parents known, and the detectors. -/
structure Walk (δ : Type) where
  stack : List Nat
  parents : Parents
  detectors : List δ

namespace Walk

variable {m : Type → Type} {δ : Type} [Monad m]

/-- Visits one node. -/
@[specialize]
def visit (W : Walker m δ) (a : Arena) (w : Walk δ) (id : Nat) (rest : List Nat) : m (Walk δ) := do
  let children := a.children id
  let parents ← children.foldlM (fun p c => W.assign p c id) w.parents
  let detectors ← w.detectors.mapM (W.visit ⟨a, parents⟩ id)
  return { stack := children ++ rest, parents, detectors }

/-- Visits at most the given number of nodes. -/
@[specialize]
def run (W : Walker m δ) (a : Arena) : Nat → Walk δ → m (Walk δ)
  | 0, w => return w
  | n + 1, w =>
    match w.stack with
    | [] => return w
    | id :: rest => do run W a n (← w.visit W a id rest)

/-- The walk before the first node. -/
def start (a : Arena) (ds : List δ) : Walk δ :=
  { stack := if a.size = 0 then [] else [0], parents := Parents.unknown a.size, detectors := ds }

end Walk

/-- Walks an arena once and lets the detectors finish. -/
@[specialize]
def walkWith {m : Type → Type} {δ : Type} [Monad m] (W : Walker m δ) (a : Arena) (ds : List δ) :
    m (Parents × List δ) := do
  let w ← Walk.run W a a.size (Walk.start a ds)
  return (w.parents, ← w.detectors.mapM W.finalize)

/-- A walk of detectors that do nothing but change their own state. -/
def Walker.plain {δ : Type} (visit : Context → Nat → δ → δ) (finalize : δ → δ) : Walker Id δ where
  assign p child parent := pure (p.assign child parent)
  visit x id d := pure (visit x id d)
  finalize d := pure (finalize d)

/-- Walks an arena with the detectors of this library. -/
def walk (a : Arena) (ds : List Detector) : Parents × List Detector :=
  (walkWith (Walker.plain Detector.visit Detector.finalize) a ds).run

end PythonAudit
