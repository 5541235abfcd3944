/-
# Single trials

Small trials that need no session: a search that tells which elements it looked at, the natural
operations of a type tried on two elements, and an array filled from a list, sorted and dropped.
-/
import ReservedArray.Workbench.Bench

namespace ReservedArray.Workbench

/-! ## 1. Searches that keep track -/

/-- How to search. -/
inductive SearchWay where
  | linear
  | binary
deriving DecidableEq

/-- A comparison with the key that writes down which element it looked at. -/
def probeAndNote {τ : Type} (compare : τ → τ → Ordering) (key : τ) (x : τ × Nat) :
    StateM (Array Nat) Ordering := do
  modify (·.push x.2)
  return compare x.1 key

/-- What the search finds, and the indices it looked at, in order. -/
def trySearch {τ : Type} (way : SearchWay) (compare : τ → τ → Ordering) (items : List τ) (key : τ) :
    Option Nat × Array Nat :=
  let numbered := items.zipIdx
  match way with
  | .linear => StateT.run (Search.linear (probeAndNote compare key) numbered) #[]
  | .binary => StateT.run (Search.binary (probeAndNote compare key) numbered.toArray) #[]

/-! ## 2. Natural operations -/

/-- A copy of one element, its order beside another, and how many elements the ledger has alive
before and after the copy is disposed of. -/
structure OpsTrial (τ : Type) where
  copy : Option τ
  ordering : Option Ordering
  liveBefore : Nat
  liveAfter : Nat

/-- The natural operations are tried on two elements. -/
def tryNaturalOps {τ : Type} [Element τ] (a b : τ) : OpsTrial τ :=
  let ops : ElementOps Ledger τ := Element.naturalOps
  let ledger : Ledger := Element.noteMade τ 2 {}
  let (copy, ledger) := ops.copy a ledger
  let (ordering, ledger) := ops.compare a b ledger
  let before := ledger.live
  let ledger := copy.toOption.elim ledger fun x => (ops.dispose x ledger).2
  { copy := copy.toOption, ordering := ordering.toOption
    liveBefore := before, liveAfter := ledger.live }

/-! ## 3. An array from a list -/

/-- What is seen of an array that is filled from a list and sorted. -/
structure FilledTrial where
  filled : Buffer UInt32
  filledReport : Stack.Report
  sort : Outcome ArrayError Unit
  sorted : Buffer UInt32
  sortedReport : Stack.Report

/-- How the trial went: as far as the options, the filling, or to the end. -/
inductive FilledAnswer where
  | noOptions (e : ArrayError)
  | notFilled (e : ArrayError) (report : Stack.Report)
  | tried (trial : FilledTrial) (report : Stack.Report) (events : List Event)
  /-- A hook panicked. -/
  | panicked

/-- An array is filled from a list, sorted and dropped. -/
def tryFilled (r : Recipe) (xs : List UInt32) : Except AllocError FilledAnswer := do
  let s := r.stack
  let allocator ← r.create
  match ArrayOptions.create allocator (Element.layout UInt32) (Bench.opsOf {}) with
  | .error e => return .noOptions e
  | .ok options =>
    let env : Env s.State Desk UInt32 := { allocator, context := {} }
    match StateT.run (Buffer.ofList options xs) env with
    | (.done b, env) =>
      let filledReport := s.report env.allocator
      let ((sort, sorted), env) := StateT.run (b.sort options) env
      let sortedReport := s.report env.allocator
      let (_, env) := StateT.run (sorted.teardown options) env
      return .tried { filled := b, filledReport, sort, sorted, sortedReport }
        (s.report env.allocator) (Entry.events env.trace)
    | (.refused e, env) => return .notFilled e (s.report env.allocator)
    | _ => return .panicked

end ReservedArray.Workbench
