/-
# Scripts about arrays

A script is run over one allocator.  Its items are orders to the allocator and scopes; in a
scope, arrays live in numbered slots.  Every step is answered with its result and with what can
be observed since the answer before.
-/
import ReservedArray.Allocator.Stack
import ReservedArray.Workbench.Hooks

namespace ReservedArray.Workbench

/-! ## 1. Steps -/

/-- What a step does. -/
inductive Action (τ : Type) where
  | init (reserve count : Size) (seed : Option τ)
  | withReserve (reserve : Size)
  | append (x : τ)
  | extend (xs : List τ)
  | grow (reserve : Size)
  | sort
  /-- By the hook, or by another comparison. -/
  | linearSearch (key : τ) (other : Option Criterion)
  | binarySearch (key : τ)
  | get (i : Nat)
  | set (i : Nat) (x : τ)
  | reverse
  | elements
  | info
  /-- On one line, or with one part to a line. -/
  | render (stacked : Bool)
  | drop
  /-- A block beside the arrays, held to the end of the scope. -/
  | hold (size : Size)
  | query (key : ControlKey)
  /-- An order given to the shared allocator. -/
  | control (key : ControlKey)
  | budget (budget : Option Nat)
  | arm (kind : HookKind) (after : Option Nat)
  | showOps
  /-- Nothing that can be done to an array. -/
  | unknown

/-- An action and the slot of the array it is about. -/
structure Step (τ : Type) where
  slot : Nat
  action : Action τ

/-- An item of a script. -/
inductive Item (τ : Type) where
  | control (key : ControlKey)
  | reset
  | scope (steps : List (Step τ))

/-! ## 2. Answers -/

/-- The result of a step. -/
inductive Result (τ : Type) where
  | nothing
  /-- An operation that has a status was done. -/
  | settled
  | refused (e : ArrayError)
  | refusedByAllocator (e : AllocError)
  | panicked (message : String)
  | aborted
  | noArray
  | extended (count : Nat) (error : Option ArrayError)
  | found (index : Option Nat) (element : Option τ)
  | element (x : Option τ)
  | flag (b : Bool)
  | elements (xs : List τ)
  | info (length : Nat) (isEmpty : Bool) (reserve elementSize : Size)
  | text (shown : String)
  | number (n : Size)
  | unsupported

/-- How often each instrumented hook was called and went on. -/
structure HookCounts where
  copies : Nat
  disposals : Nat
  compares : Nat
deriving DecidableEq

/-- What can be observed after a step. -/
structure Observation (τ : Type) where
  report : Stack.Report
  /-- In the whole session so far; absent where no hooks are in force. -/
  counts : Option HookCounts
  /-- The calls of instrumented hooks since the observation before. -/
  log : List (Entry τ)
  ledger : Ledger
  /-- What was reported since the observation before. -/
  events : List Event

/-- A result, what was observed, and the array in the slot, if there is one. -/
structure Answer (τ : Type) where
  result : Result τ
  observed : Observation τ
  array : Option (Buffer τ)

/-- The answer to an item. -/
inductive ItemAnswer (τ : Type) where
  | ordered (result : Result τ) (observed : Observation τ)
  | refused (e : ArrayError) (observed : Observation τ)
  | scope (elementSize alignment : Size) (shown : String) (answers : List (Answer τ))
      (panics : List String) (observed : Observation τ)

end ReservedArray.Workbench
