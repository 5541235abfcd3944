/-
# Two small allocators

Both lie over the system's heap, count the blocks that are out, and leave everything else to the
defaults.  `Plain` hands out the heap's blocks as they are.  `Skewed` hands out addresses a fixed
distance past an aligned one, and claims whatever alignment it is told to claim: it is how an
array meets a block that is not aligned.
-/
import ReservedArray.Allocator.Heap

namespace ReservedArray

/-- The heap's blocks, counted. -/
structure Plain where
  heap : Heap := Heap.system
  live : Nat := 0

namespace Plain

/-- A block of the heap, counted if there is one. -/
def allocate (p : Plain) (size : Size) : Reply Plain (Option Address) :=
  let r := p.heap.allocate size
  match r.answer with
  | none => r.mapState fun heap => { p with heap }
  | some _ => r.mapState fun heap => { heap, live := p.live + 1 }

instance : Backend Plain where
  allocate := allocate
  release p _ _ := { p with live := p.live - 1 }

instance : Allocator Plain where

end Plain

/-- Blocks that start `skew` bytes into a block of the heap. -/
structure Skewed where
  skew : Size
  claim : Size := defaultAlignment
  heap : Heap := Heap.system
  live : Nat := 0

namespace Skewed

/-- The heap is asked for the skew as well, unless the sum does not fit. -/
def allocate (s : Skewed) (size : Size) : Reply Skewed (Option Address) :=
  match Size.add? size s.skew with
  | none => { answer := none, state := s }
  | some total =>
    let r := s.heap.allocate total
    { answer := r.answer.map (· + s.skew.toNat)
      state := { s with heap := r.state, live := if r.answer.isSome then s.live + 1 else s.live } }

instance : Backend Skewed where
  allocate := allocate
  release s _ _ := { s with live := s.live - 1 }

instance : Allocator Skewed where
  alignment := Skewed.claim

end Skewed

end ReservedArray
