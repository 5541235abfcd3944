/-
# Searching

Two searches for an element that a probe finds equal to what is looked for.  A probe compares an
element with the key and may have an effect of its own, such as keeping count or giving up, so
both searches run in any monad.

* `Search.linear` probes from the front and stops at the first equal element.
* `Search.binary` bisects.  It probes the middle of a half-open window and goes on in the half
  the answer points to; it never looks outside the array, however the probe answers, and the
  window shrinks at each step.
-/

namespace ReservedArray.Search

variable {m : Type → Type} [Monad m] {τ : Type}

/-! ## 1. Linear search -/

/-- The index of the first equal element, when the list starts at index `start`. -/
def linearFrom (probe : τ → m Ordering) (start : Nat) : List τ → m (Option Nat)
  | [] => pure none
  | x :: rest => do
    match ← probe x with
    | .eq => return some start
    | _ => linearFrom probe (start + 1) rest

/-- The index of the first element that is probed equal. -/
def linear (probe : τ → m Ordering) (items : List τ) : m (Option Nat) := linearFrom probe 0 items

/-! ## 2. Bisection -/

/-- The middle of a window, rounded down. -/
def middle (low high : Nat) : Nat := low + (high - low) / 2

theorem le_middle (low high : Nat) : low ≤ middle low high := by
  unfold middle; omega

theorem middle_lt {low high : Nat} (h : low < high) : middle low high < high := by
  unfold middle; omega

/-- Bisection of the elements from `low` up to, and without, `high`. -/
def binaryWithin (probe : τ → m Ordering) (items : Array τ) (low high : Nat)
    (bound : high ≤ items.size) : m (Option Nat) :=
  if window : low < high then do
    have below := middle_lt window
    have above := le_middle low high
    match ← probe (items[middle low high]) with
    | .eq => return some (middle low high)
    | .gt => binaryWithin probe items low (middle low high) (by omega)
    | .lt => binaryWithin probe items (middle low high + 1) high bound
  else pure none
termination_by high - low

/-- The index of an element that is probed equal, found by bisection. -/
def binary (probe : τ → m Ordering) (items : Array τ) : m (Option Nat) :=
  binaryWithin probe items 0 items.size (Nat.le_refl _)

end ReservedArray.Search
