/-
# The environment of an operation

Array operations run in an environment: the allocator, the context of the hooks, and a journal
of every call made so far, in order.  The journal is what can be seen of an operation besides
its result: the hook calls with their arguments, the blocks obtained and given back with their
sizes, and what was reported.

An operation ends in one of four ways (`Outcome`).  It is *done*; it is *refused*, with an error
and nothing lost; it is *unwound* by a panic; or, when a second panic strikes while the first is
unwinding, everything is *aborted*.
-/
import ReservedArray.Allocator.Basic
import ReservedArray.ElementOps

namespace ReservedArray

/-! ## 1. The journal -/

/-- One call, as the journal has it. -/
inductive Entry (τ : Type) where
  /-- A copy was asked for; `none` when the hook panicked. -/
  | copy (source : τ) (result : Option τ)
  /-- An element was handed to the dispose hook, which came back or panicked. -/
  | dispose (element : τ) (completed : Bool)
  /-- An order was asked for; `none` when the hook panicked. -/
  | compare (left right : τ) (answer : Option Ordering)
  /-- The allocator was asked for a block. -/
  | allocate (size : Size) (block : Option Address)
  /-- A block was given back. -/
  | release (block : Address) (size : Size)
  /-- Something was reported. -/
  | report (event : Event)

/-- What was reported in a trace. -/
def Entry.events {τ : Type} (trace : List (Entry τ)) : List Event :=
  trace.filterMap fun
    | .report event => some event
    | _ => none

/-- What an array operation uses and changes besides its arrays. -/
structure Env (α κ τ : Type) where
  allocator : α
  context : κ
  journal : Array (Entry τ) := #[]

/-- A computation in an environment. -/
abbrev Run (α κ τ : Type) : Type → Type := StateM (Env α κ τ)

namespace Env

variable {α κ τ : Type}

/-- The calls made so far, in order. -/
def trace (e : Env α κ τ) : List (Entry τ) := e.journal.toList

/-! ## 2. Single calls

Each call changes one part of the environment and adds to the end of the journal. -/

/-- Something is reported. -/
def report (event : Event) : Run α κ τ Unit :=
  modify fun e => { e with journal := e.journal.push (.report event) }

/-- The copy hook is called. -/
def copy (ops : ElementOps κ τ) (x : τ) : Run α κ τ (Except Panic τ) := fun e =>
  let (answer, context) := ops.copy x e.context
  (answer, { e with context, journal := e.journal.push (.copy x answer.toOption) })

/-- The dispose hook is called. -/
def dispose (ops : ElementOps κ τ) (x : τ) : Run α κ τ (Except Panic Unit) := fun e =>
  let (answer, context) := ops.dispose x e.context
  (answer, { e with context, journal := e.journal.push (.dispose x answer.toBool) })

/-- The compare hook is called. -/
def compare (ops : ElementOps κ τ) (x y : τ) : Run α κ τ (Except Panic Ordering) := fun e =>
  let (answer, context) := ops.compare x y e.context
  (answer, { e with context, journal := e.journal.push (.compare x y answer.toOption) })

/-- What a request writes into the journal; a request of no bytes does not reach the allocator. -/
def entriesOf (size : Size) (r : Reply α (Except AllocError Address)) : List (Entry τ) :=
  if size = 0 then [] else .allocate size r.answer.toOption :: r.events.map .report

/-- A block, by way of `request`. -/
def obtain [Backend α] (size : Size) : Run α κ τ (Except AllocError Address) := fun e =>
  let r := request e.allocator size
  (r.answer,
    { e with
      allocator := r.state
      journal := e.journal ++ (entriesOf size r : List (Entry τ)) })

/-- A block goes back to the allocator, with the size it was asked for. -/
def giveBack [Backend α] (block : Address) (size : Size) : Run α κ τ Unit :=
  modify fun e =>
    { e with
      allocator := Backend.release e.allocator block size
      journal := e.journal.push (.release block size) }

/-- The reply to a call that the allocator was given directly is taken over. -/
def absorb {β : Type} (r : Reply α β) : Run α κ τ β := fun e =>
  let reports : List (Entry τ) := r.events.map .report
  (r.answer, { e with allocator := r.state, journal := e.journal ++ reports })

section Parts

variable (ops : ElementOps κ τ) (x y : τ) (e : Env α κ τ) (event : Event)

@[simp] theorem allocator_report : ((report event).run e).2.allocator = e.allocator := rfl

@[simp] theorem context_report : ((report event).run e).2.context = e.context := rfl

@[simp] theorem trace_report : ((report event).run e).2.trace = e.trace ++ [.report event] :=
  Array.toList_push

@[simp] theorem allocator_copy : ((copy ops x).run e).2.allocator = e.allocator := rfl

@[simp] theorem context_copy : ((copy ops x).run e).2.context = (ops.copy x e.context).2 := rfl

@[simp] theorem trace_copy :
    ((copy ops x).run e).2.trace =
      e.trace ++ [.copy x (ops.copy x e.context).1.toOption] :=
  Array.toList_push

@[simp] theorem allocator_dispose : ((dispose ops x).run e).2.allocator = e.allocator := rfl

@[simp] theorem context_dispose :
    ((dispose ops x).run e).2.context = (ops.dispose x e.context).2 := rfl

@[simp] theorem trace_dispose :
    ((dispose ops x).run e).2.trace =
      e.trace ++ [.dispose x (ops.dispose x e.context).1.toBool] :=
  Array.toList_push

@[simp] theorem allocator_compare : ((compare ops x y).run e).2.allocator = e.allocator := rfl

@[simp] theorem context_compare :
    ((compare ops x y).run e).2.context = (ops.compare x y e.context).2 := rfl

@[simp] theorem trace_compare :
    ((compare ops x y).run e).2.trace =
      e.trace ++ [.compare x y (ops.compare x y e.context).1.toOption] :=
  Array.toList_push

variable [Backend α] (size : Size) (block : Address)

@[simp] theorem allocator_obtain :
    ((obtain size).run e).2.allocator = (request e.allocator size).state := rfl

@[simp] theorem context_obtain : ((obtain size).run e).2.context = e.context := rfl

@[simp] theorem trace_obtain :
    ((obtain size).run e).2.trace = e.trace ++ entriesOf size (request e.allocator size) :=
  Array.toList_appendList

@[simp] theorem allocator_giveBack :
    ((giveBack block size).run e).2.allocator = Backend.release e.allocator block size := rfl

@[simp] theorem context_giveBack : ((giveBack block size).run e).2.context = e.context := rfl

@[simp] theorem trace_giveBack :
    ((giveBack block size).run e).2.trace = e.trace ++ [.release block size] :=
  Array.toList_push

end Parts

end Env

/-! ## 3. How an operation ends -/

/-- The end of an operation. -/
inductive Outcome (ε β : Type) where
  | done (value : β)
  | refused (error : ε)
  | unwound (panic : Panic)
  | aborted

namespace Outcome

variable {ε β : Type}

/-- Calls that cannot be refused are done or unwound. -/
def ofCall : Except Panic β → Outcome ε β
  | .ok value => done value
  | .error panic => unwound panic

/-- The end when some cleaning up, on the way out, comes back or panics. -/
def after (cleanup : Except Panic Unit) : Outcome ε β → Outcome ε β
  | aborted => aborted
  | unwound panic =>
    match cleanup with
    | .ok () => unwound panic
    | .error _ => aborted
  | outcome =>
    match cleanup with
    | .ok () => outcome
    | .error panic => unwound panic

/-- Cleaning up without a panic changes no end. -/
@[simp] theorem after_ok (outcome : Outcome ε β) : outcome.after (.ok ()) = outcome := by
  cases outcome <;> rfl

/-- Cleaning up with a panic leaves no operation done or refused. -/
theorem after_error (panic : Panic) (outcome : Outcome ε β) :
    outcome.after (.error panic) = unwound panic ∨ outcome.after (.error panic) = aborted := by
  cases outcome <;> simp [after]

end Outcome

end ReservedArray
