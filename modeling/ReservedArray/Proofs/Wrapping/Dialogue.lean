/-
# Dialogues with an allocator

A caller knows an allocator by its answers.  A `Call` is one thing that can be asked of it, with
what callers write into memory in between, and `converse` makes one call after the other and lists
the answers.

Two allocators are compared by a view of one as the other.  A call is mirrored by another one
(`Mirrors`) when the two get the same answer, report the same and leave states that are each other's
view again.  What is so for each call is so for a whole dialogue (`converse_mirrors`), as long as
what is asked of the state holds on.
-/
import ReservedArray.Allocator.Basic

namespace ReservedArray

variable {α β : Type}

/-! ## 1. Calls -/

/-- What can be asked of an allocator.  `write` is none of its business: callers fill memory. -/
inductive Call where
  | allocate (size : Size)
  | release (block : Address) (size : Size)
  | reallocate (block : Address) (oldSize newSize : Size)
  | reallocateByCopy (block : Address) (oldSize newSize : Size)
  | query (key : ControlKey)
  | control (key : ControlKey)
  | alignment
  | write (start : Address) (length : Nat) (value : Nat → UInt8)

namespace Call

/-- What a call is answered. -/
inductive Answer where
  | block (block : Option Address)
  | value (value : Except AllocError Size)
  | alignment (alignment : Size)
  | nothing

/-- The call is made. -/
def make [Allocator α] (a : α) (memory : Memory) : Call → Reply (α × Memory) Answer
  | allocate size =>
    let r := Backend.allocate a size
    { answer := .block r.answer, state := (r.state, memory), events := r.events }
  | release block size =>
    { answer := .nothing, state := (Backend.release a block size, memory) }
  | reallocate block oldSize newSize =>
    let r := Allocator.reallocate a memory block oldSize newSize
    { answer := .block r.answer, state := r.state, events := r.events }
  | reallocateByCopy block oldSize newSize =>
    let r := ReservedArray.reallocateByCopy a memory block oldSize newSize
    { answer := .block r.answer, state := r.state, events := r.events }
  | query key => { answer := .value (Allocator.query a key), state := (a, memory) }
  | control key =>
    let r := Allocator.control a key
    { answer := .value r.answer, state := (r.state, memory), events := r.events }
  | alignment => { answer := .alignment (Allocator.alignment a), state := (a, memory) }
  | write start length value =>
    { answer := .nothing, state := (a, memory.overwrite start length value) }

end Call

/-- The calls are made in order; their answers are listed. -/
def converse [Allocator α] (a : α) (memory : Memory) :
    List Call → Reply (α × Memory) (List Call.Answer)
  | [] => { answer := [], state := (a, memory) }
  | call :: calls =>
    let first := call.make a memory
    let rest := converse first.state.1 first.state.2 calls
    { answer := first.answer :: rest.answer
      state := rest.state
      events := first.events ++ rest.events }

/-! ## 2. Views -/

/-- Wherever `P` holds, the call does to the state what `call'` does to the view of it, and `P`
holds on. -/
def Mirrors [Allocator α] [Allocator β] (view : α → β) (P : α → Prop) (call call' : Call) : Prop :=
  ∀ a memory, P a →
    call'.make (view a) memory = (call.make a memory).mapState (Prod.map view id) ∧
      P (call.make a memory).state.1

/-- A copying resize is answered as the request it begins with. -/
theorem answer_reallocateByCopy [Backend α] (a : α) (memory : Memory) (block : Address)
    (oldSize newSize : Size) :
    (reallocateByCopy a memory block oldSize newSize).answer =
      (Backend.allocate a newSize).answer := by
  unfold reallocateByCopy
  cases h : (Backend.allocate a newSize).answer <;> simp only [h]

/-- A copying resize takes a block and gives one back, so a view of both is a view of it. -/
theorem reallocateByCopy_view [Backend α] [Backend β] {view : α → β} {a : α} (memory : Memory)
    {block : Address} {oldSize newSize : Size}
    (allocate : Backend.allocate (view a) newSize = (Backend.allocate a newSize).mapState view)
    (release : ∀ a' : α,
      Backend.release (view a') block oldSize = view (Backend.release a' block oldSize)) :
    reallocateByCopy (view a) memory block oldSize newSize =
      (reallocateByCopy a memory block oldSize newSize).mapState (Prod.map view id) := by
  simp only [reallocateByCopy, allocate, Reply.answer_mapState, Reply.state_mapState,
    Reply.events_mapState, release]
  cases (Backend.allocate a newSize).answer <;> rfl

/-- **Calls that are mirrored one by one are mirrored in a row.** -/
theorem converse_mirrors [Allocator α] [Allocator β] {view : α → β} {P : α → Prop}
    {mirror : Call → Call} {calls : List Call}
    (each : ∀ call ∈ calls, Mirrors view P call (mirror call)) {a : α} (start : P a)
    (memory : Memory) :
    converse (view a) memory (calls.map mirror) =
        (converse a memory calls).mapState (Prod.map view id) ∧
      P (converse a memory calls).state.1 := by
  induction calls generalizing a memory with
  | nil => exact ⟨rfl, start⟩
  | cons call calls ih =>
    obtain ⟨first, rest⟩ := List.forall_mem_cons.mp each
    obtain ⟨same, holds⟩ := first a memory start
    obtain ⟨same', holds'⟩ := ih rest holds (call.make a memory).state.2
    refine ⟨?_, holds'⟩
    simp only [List.map_cons, converse, same, Reply.state_mapState, Prod.map_fst, Prod.map_snd,
      id_eq, same']
    rfl

end ReservedArray
