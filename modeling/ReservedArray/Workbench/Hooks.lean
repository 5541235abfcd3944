/-
# Instrumented hooks

On the workbench an array's hooks can be counted, made to panic at a chosen call, and read back
from the journal.  Which of the three are instrumented is chosen (`Hooks`); one that is not does
what the element type does of itself, and leaves no trace but in the ledger.

A hook that is to panic does so before it is counted or does anything; only an element handed to
the dispose hook is dropped all the same.
-/
import ReservedArray.Buffer.Array
import ReservedArray.Element.Criterion

namespace ReservedArray.Workbench

/-! ## 1. Counting calls -/

/-- How often a hook was called, and after how many further calls it is to panic. -/
structure Meter where
  calls : Nat := 0
  armed : Option Nat := none
deriving DecidableEq

/-- One call: whether it may go on.  A hook panics once. -/
def Meter.call (m : Meter) : Bool × Meter :=
  match m.armed with
  | some 0 => (false, { m with armed := none })
  | some (n + 1) => (true, { calls := m.calls + 1, armed := some n })
  | none => (true, { m with calls := m.calls + 1 })

/-- The three hooks. -/
inductive HookKind where
  | copy
  | dispose
  | compare
deriving DecidableEq

/-- The name of the hook, as it stands in a panic. -/
def HookKind.name : HookKind → String
  | copy => "copy"
  | dispose => "dispose"
  | compare => "compare"

/-- The context of the hooks: a meter for each and the ledger of the elements. -/
structure Desk where
  copies : Meter := {}
  disposals : Meter := {}
  compares : Meter := {}
  ledger : Ledger := {}

namespace Desk

/-- The hook panics after so many further calls, or not at all. -/
def arm (d : Desk) (kind : HookKind) (armed : Option Nat) : Desk :=
  match kind with
  | .copy => { d with copies := { d.copies with armed } }
  | .dispose => { d with disposals := { d.disposals with armed } }
  | .compare => { d with compares := { d.compares with armed } }

end Desk

/-- What a hook says when it panics: the calls before this one are counted. -/
def refusal (kind : HookKind) (m : Meter) : Panic :=
  .hook (kind.name ++ " " ++ toString m.calls ++ " refused")

/-! ## 2. The hooks -/

/-- What a copy is. -/
inductive CopyHook where
  /-- The element's own copy, not instrumented. -/
  | own
  | counted
  /-- Counted, and the copy differs from its source. -/
  | changed
deriving DecidableEq

/-- Which hooks are instrumented, and how. -/
structure Hooks where
  copy : CopyHook := .own
  dispose : Bool := false
  compare : Option Criterion := none
deriving DecidableEq

namespace Hooks

variable {τ : Type} [Element τ]

/-- What a copy holds. -/
def copied (change : Bool) (x : τ) : τ := if change then Element.increment x else x

/-- All three hooks are instrumented; what is left open is counted and does nothing else. -/
def complete (h : Hooks) : Hooks where
  copy := if h.copy = .own then .counted else h.copy
  dispose := true
  compare := some (h.compare.getD .natural)

/-- A copy that is counted. -/
def countedCopy (change : Bool) (x : τ) : Hook Desk τ := fun d =>
  match d.copies.call with
  | (false, copies) => (.error (refusal .copy d.copies), { d with copies })
  | (true, copies) =>
    (.ok (copied change x), { d with copies, ledger := Element.noteCopy τ d.ledger })

/-- A disposal that is counted.  The element is dropped, whether the hook panics or not. -/
def countedDispose (_ : τ) : Hook Desk Unit := fun d =>
  match d.disposals.call with
  | (false, disposals) =>
    (.error (refusal .dispose d.disposals),
      { d with disposals, ledger := Element.noteDrops τ 1 d.ledger })
  | (true, disposals) => (.ok (), { d with disposals, ledger := Element.noteDrops τ 1 d.ledger })

/-- A comparison that is counted. -/
def countedCompare (criterion : Criterion) (x y : τ) : Hook Desk Ordering := fun d =>
  match d.compares.call with
  | (false, compares) => (.error (refusal .compare d.compares), { d with compares })
  | (true, compares) => (.ok (criterion.compare x y), { d with compares })

/-- The operations of arrays with these hooks. -/
def ops (h : Hooks) : ElementOps Desk τ where
  copy x d :=
    match h.copy with
    | .own => (.ok x, { d with ledger := Element.noteCopy τ d.ledger })
    | .counted => countedCopy false x d
    | .changed => countedCopy true x d
  dispose x d :=
    if h.dispose then countedDispose x d
    else (.ok (), { d with ledger := Element.noteDrops τ 1 d.ledger })
  compare x y d :=
    match h.compare with
    | none => (.ok (Element.order x y), d)
    | some criterion => countedCompare criterion x y d

/-- The call is one of an instrumented hook that went on. -/
def logs {τ : Type} (h : Hooks) : Entry τ → Bool
  | .copy _ (some _) => h.copy != .own
  | .dispose _ true => h.dispose
  | .compare _ _ (some _) => h.compare.isSome
  | _ => false

end Hooks

end ReservedArray.Workbench
