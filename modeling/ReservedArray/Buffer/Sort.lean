/-
# Sorting into a new buffer

The elements are never moved: a sort copies them, in order, into a buffer of the same reserve,
and the old buffer is left as it was.  The list is halved, the lower half rounded down; each half
is sorted into a buffer of its own; and the two are merged by copying.  An element of the lower
half goes first unless it compares greater, so elements that compare equal stay in their order.

The two buffers of a level are taken before either half is sorted, and torn down at its end,
upper half first, however it ends (`Buffer.sortInto`).
-/
import ReservedArray.Buffer.Basic

namespace ReservedArray.Buffer

variable {α κ τ : Type}

/-! ## 1. Merging -/

/-- Copies of the elements of both lists go into the buffer, in order, until a hook panics. -/
def merge (ops : ElementOps κ τ) :
    List τ → List τ → Buffer τ → Run α κ τ (Except Panic Unit × Buffer τ)
  | x :: xs, y :: ys, out => do
    match ← Env.compare ops x y with
    | .error panic => return (.error panic, out)
    | .ok .gt =>
      match ← out.place ops y with
      | (.error panic, out) => return (.error panic, out)
      | (.ok (), out) => merge ops (x :: xs) ys out
    | .ok _ =>
      match ← out.place ops x with
      | (.error panic, out) => return (.error panic, out)
      | (.ok (), out) => merge ops xs (y :: ys) out
  | xs, ys, out => out.fill ops (xs ++ ys)
termination_by xs ys => xs.length + ys.length

/-! ## 2. Halving -/

/-- Goes on with a buffer if all went well so far. -/
def proceed {ε : Type} (outcome : Outcome ε Unit) (b : Buffer τ)
    (next : Buffer τ → Run α κ τ (Outcome ε Unit × Buffer τ)) :
    Run α κ τ (Outcome ε Unit × Buffer τ) :=
  match outcome with
  | .done () => next b
  | stopped => return (stopped, b)

/-- A call that cannot be refused, as an end. -/
def ended {ε : Type} (r : Except Panic Unit × Buffer τ) : Outcome ε Unit × Buffer τ :=
  (Outcome.ofCall r.1, r.2)

/-- Copies of the elements go into the buffer in ascending order. -/
def sortInto [Backend α] (options : ArrayOptions κ τ) (input : List τ) (out : Buffer τ) :
    Run α κ τ (Outcome AllocError Unit × Buffer τ) := do
  if _short : input.length ≤ 1 then
    return ended (← out.fill options.ops input)
  else
    let half := input.length / 2
    match ← allocate options.layout half.toUInt64 with
    | .error e => return (.refused e, out)
    | .ok left =>
      match ← allocate options.layout (input.length - half).toUInt64 with
      | .error e => return (← left.leave options (.refused e), out)
      | .ok right =>
        let (outcome, left) ← sortInto options (input.take half) left
        let (outcome, right) ← right.proceed outcome (sortInto options (input.drop half))
        let (outcome, out) ← out.proceed outcome fun out => do
          return ended (← merge options.ops left.toList right.toList out)
        let outcome ← right.leave options outcome
        let outcome ← left.leave options outcome
        return (outcome, out)
termination_by input.length

/-! ## 3. A sorted copy -/

/-- A buffer of the same reserve with copies of the elements in ascending order. -/
def sorted [Backend α] (options : ArrayOptions κ τ) (b : Buffer τ) :
    Run α κ τ (Outcome AllocError (Buffer τ)) := do
  match ← allocate options.layout b.reserve with
  | .error e => return .refused e
  | .ok out =>
    let (outcome, out) ← sortInto options b.toList out
    match outcome with
    | .done () => return .done out
    | .refused e => out.leave options (.refused e)
    | .unwound panic => out.leave options (.unwound panic)
    | .aborted => return .aborted

end ReservedArray.Buffer
