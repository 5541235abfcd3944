/-
# Allocators

A `Backend` hands out blocks and takes them back.  An `Allocator` is a backend that also resizes
a block, answers questions by key and states how its blocks are aligned; each of these has a
default that needs only the backend.

* An allocator is a value.  A call answers with the allocator as it is afterwards and with what
  was reported on the way (`Reply`).
* `reallocateByCopy` resizes with the two operations of the backend alone: it takes a new block,
  copies what both blocks can hold, and gives the old one back.  When the new block is refused,
  nothing has happened yet.
* `request` and `resize` stand in front of `allocate` and `reallocate`: they turn away zero sizes
  and name the error when the allocator refuses.
-/
import ReservedArray.Event
import ReservedArray.Memory

namespace ReservedArray

/-- An answer, the state after the call, and what was reported during it. -/
structure Reply (σ β : Type) where
  answer : β
  state : σ
  events : List Event := []

namespace Reply

variable {σ σ' β : Type}

/-- The same answer from a state seen differently. -/
def mapState (f : σ → σ') (r : Reply σ β) : Reply σ' β :=
  { answer := r.answer, state := f r.state, events := r.events }

@[simp] theorem answer_mapState (f : σ → σ') (r : Reply σ β) :
    (r.mapState f).answer = r.answer := rfl

@[simp] theorem state_mapState (f : σ → σ') (r : Reply σ β) :
    (r.mapState f).state = f r.state := rfl

@[simp] theorem events_mapState (f : σ → σ') (r : Reply σ β) :
    (r.mapState f).events = r.events := rfl

end Reply

/-- The alignment of every block whose allocator does not say otherwise. -/
def defaultAlignment : Size := 16

/-! ## 1. Backends -/

/-- What hands out blocks and takes them back. -/
class Backend (α : Type) where
  /-- A block of this many bytes, or none. -/
  allocate : α → Size → Reply α (Option Address)
  /-- Takes back a block with the size it was handed out for. -/
  release : α → Address → Size → α

/-- Resizing by means of a second block.  The old block is given back once its leading bytes,
as many as both blocks hold, are in the new one. -/
def reallocateByCopy {α : Type} [Backend α] (allocator : α) (memory : Memory) (block : Address)
    (oldSize newSize : Size) : Reply (α × Memory) (Option Address) :=
  let r := Backend.allocate allocator newSize
  match r.answer with
  | none => { answer := none, state := (r.state, memory), events := r.events }
  | some fresh =>
    { answer := some fresh
      state := (Backend.release r.state block oldSize,
        memory.copy block fresh (min oldSize.toNat newSize.toNat))
      events := r.events }

/-! ## 2. Allocators -/

/-- A backend that also resizes blocks, answers to keys and states its alignment. -/
class Allocator (α : Type) extends Backend α where
  /-- A block of the new size with the leading bytes of the old one, which is then gone; or none,
  and the old block stays. -/
  reallocate : α → Memory → Address → Size → Size → Reply (α × Memory) (Option Address) :=
    reallocateByCopy
  /-- A question that changes nothing. -/
  query : α → ControlKey → Except AllocError Size := fun _ key => .error (.invalidKey key)
  /-- A question, or an order; orders need the allocator to be held exclusively. -/
  control : α → ControlKey → Reply α (Except AllocError Size) := fun allocator key =>
    { answer := query allocator key, state := allocator }
  /-- Every block starts at a multiple of this. -/
  alignment : α → Size := fun _ => defaultAlignment

/-! ## 3. Requests -/

variable {α : Type}

/-- A block of at least one byte, or the reason why not. -/
def request [Backend α] (allocator : α) (size : Size) : Reply α (Except AllocError Address) :=
  if size = 0 then { answer := .error .zeroSize, state := allocator }
  else
    let r := Backend.allocate allocator size
    match r.answer with
    | some block => { answer := .ok block, state := r.state, events := r.events }
    | none =>
      { answer := .error (.exhausted size)
        state := r.state
        events := r.events ++ [.allocationFailed size] }

/-- A resized block of at least one byte, or the reason why not. -/
def resize [Allocator α] (allocator : α) (memory : Memory) (block : Address)
    (oldSize newSize : Size) : Reply (α × Memory) (Except AllocError Address) :=
  if newSize = 0 then { answer := .error .zeroSize, state := (allocator, memory) }
  else
    let r := Allocator.reallocate allocator memory block oldSize newSize
    match r.answer with
    | some fresh => { answer := .ok fresh, state := r.state, events := r.events }
    | none =>
      { answer := .error (.exhausted newSize)
        state := r.state
        events := r.events ++ [.reallocationFailed oldSize newSize] }

theorem request_zero [Backend α] (allocator : α) :
    request allocator 0 = { answer := .error .zeroSize, state := allocator } := by
  simp [request]

theorem resize_zero [Allocator α] (allocator : α) (memory : Memory) (block : Address)
    (oldSize : Size) :
    resize allocator memory block oldSize 0 =
      { answer := .error .zeroSize, state := (allocator, memory) } := by
  simp [resize]

theorem request_of_some [Backend α] {allocator : α} {size : Size} {block : Address}
    (positive : size ≠ 0) (h : (Backend.allocate allocator size).answer = some block) :
    (request allocator size).answer = .ok block := by
  simp [request, positive, h]

theorem request_of_none [Backend α] {allocator : α} {size : Size}
    (positive : size ≠ 0) (h : (Backend.allocate allocator size).answer = none) :
    (request allocator size).answer = .error (.exhausted size) := by
  simp [request, positive, h]

theorem toOption_answer_request [Backend α] {allocator : α} {size : Size} (positive : size ≠ 0) :
    (request allocator size).answer.toOption = (Backend.allocate allocator size).answer := by
  cases h : (Backend.allocate allocator size).answer with
  | none => rw [request_of_none positive h]; rfl
  | some block => rw [request_of_some positive h]; rfl

/-- A request leaves the allocator as `allocate` leaves it, whatever the answer. -/
theorem state_request [Backend α] {allocator : α} {size : Size} (positive : size ≠ 0) :
    (request allocator size).state = (Backend.allocate allocator size).state := by
  simp only [request, positive, if_false]
  split <;> rfl

end ReservedArray
