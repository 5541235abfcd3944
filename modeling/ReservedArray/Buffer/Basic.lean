/-
# Buffers

A buffer is a block from an allocator with room for `reserve` elements, the first of which hold
live elements.  An array is a buffer that its owner keeps.

A buffer is filled one slot at a time, by copies (`Buffer.place`, `Buffer.fill`), and torn down
from the first slot to the last (`Buffer.teardown`): every element goes to the dispose hook and
then the block is given back.  When a dispose hook panics, the elements after that one and the
block are lost.  `Buffer.leave` tears down a buffer that goes out of use while an operation ends.
-/
import ReservedArray.Env

namespace ReservedArray

/-- A block and the elements in its first slots. -/
structure Buffer (τ : Type) where
  block : Address
  reserve : Size
  slots : Array τ

namespace Buffer

variable {α κ τ : Type}

/-! ## 1. Reading and writing slots -/

/-- How many slots are live. -/
def length (b : Buffer τ) : Nat := b.slots.size

/-- No slot is live. -/
def isEmpty (b : Buffer τ) : Bool := b.slots.isEmpty

/-- The live elements, in slot order. -/
def toList (b : Buffer τ) : List τ := b.slots.toList

/-- The element in a live slot. -/
def get? (b : Buffer τ) (i : Nat) : Option τ := b.slots[i]?

/-- A live slot is overwritten; there is no other slot to write. -/
def set (b : Buffer τ) (i : Nat) (x : τ) : Buffer τ := { b with slots := b.slots.setIfInBounds i x }

/-- The live elements change places. -/
def reverse (b : Buffer τ) : Buffer τ := { b with slots := b.slots.reverse }

/-- The element goes into the first free slot; there has to be one. -/
def push (b : Buffer τ) (x : τ) : Except Panic (Buffer τ) :=
  if b.slots.size < b.reserve.toNat then .ok { b with slots := b.slots.push x }
  else .error .overfull

/-- The reserve and the live elements, each by its own outline. -/
def inspect (outline : τ → Inspect) (b : Buffer τ) : Inspect :=
  .closed "DynamicArray"
    [("reserved", .number b.reserve.toNat), ("elements", .sequence (b.toList.map outline))]

theorem toList_push {b b' : Buffer τ} {x : τ} (h : b.push x = .ok b') :
    b'.toList = b.toList ++ [x] := by
  unfold push at h
  split at h
  · simp only [Except.ok.injEq] at h
    subst h
    simp [toList]
  · simp at h

@[simp] theorem toList_reverse (b : Buffer τ) : b.reverse.toList = b.toList.reverse := by
  simp [reverse, toList]

@[simp] theorem length_toList (b : Buffer τ) : b.toList.length = b.length := by
  simp [toList, length]

@[simp] theorem length_set (b : Buffer τ) (i : Nat) (x : τ) : (b.set i x).length = b.length := by
  simp [set, length]

@[simp] theorem reserve_set (b : Buffer τ) (i : Nat) (x : τ) :
    (b.set i x).reserve = b.reserve := rfl

@[simp] theorem reserve_reverse (b : Buffer τ) : b.reverse.reserve = b.reserve := rfl

/-! ## 2. Taking a block -/

/-- An empty buffer with room for `reserve` elements.  A block that is not aligned for them is
given back at once. -/
def allocate [Backend α] (layout : Layout) (reserve : Size) :
    Run α κ τ (Except AllocError (Buffer τ)) := do
  match Size.mul? reserve layout.size with
  | none => return .error .sizeOverflow
  | some bytes =>
    match ← Env.obtain bytes with
    | .error e => return .error e
    | .ok block =>
      if block % layout.align.toNat = 0 then return .ok { block, reserve, slots := #[] }
      else
        Env.giveBack block bytes
        return .error (.misaligned layout.align)

/-! ## 3. Filling it -/

/-- A copy of the element goes into the first free slot. -/
def place (ops : ElementOps κ τ) (x : τ) (b : Buffer τ) :
    Run α κ τ (Except Panic Unit × Buffer τ) := do
  match ← Env.copy ops x with
  | .error panic => return (.error panic, b)
  | .ok y =>
    match b.push y with
    | .error panic => return (.error panic, b)
    | .ok b => return (.ok (), b)

/-- Copies of the elements go into the free slots, in order, until a hook panics. -/
def fill (ops : ElementOps κ τ) : List τ → Buffer τ → Run α κ τ (Except Panic Unit × Buffer τ)
  | [], b => return (.ok (), b)
  | x :: rest, b => do
    match ← b.place ops x with
    | (.error panic, b) => return (.error panic, b)
    | (.ok (), b) => fill ops rest b

/-! ## 4. Tearing it down -/

/-- The elements go to the dispose hook, in order, until it panics. -/
def disposeAll (ops : ElementOps κ τ) : List τ → Run α κ τ (Except Panic Unit)
  | [] => return .ok ()
  | x :: rest => do
    match ← Env.dispose ops x with
    | .error panic => return .error panic
    | .ok () => disposeAll ops rest

/-- The bytes of the block. -/
def bytes (layout : Layout) (b : Buffer τ) : Size := b.reserve * layout.size

/-- Every element is disposed of and the block is given back. -/
def teardown [Backend α] (options : ArrayOptions κ τ) (b : Buffer τ) :
    Run α κ τ (Except Panic Unit) := do
  match ← disposeAll options.ops b.toList with
  | .error panic => return .error panic
  | .ok () =>
    Env.giveBack b.block (b.bytes options.layout)
    return .ok ()

/-- The buffer is torn down while an operation ends.  Nothing is done after an abort. -/
def leave [Backend α] {ε β : Type} (options : ArrayOptions κ τ) (b : Buffer τ) :
    Outcome ε β → Run α κ τ (Outcome ε β)
  | .aborted => return .aborted
  | outcome => return outcome.after (← b.teardown options)

end Buffer

end ReservedArray
