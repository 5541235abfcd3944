/-
# The heap

The heap passes requests on to the system, once it has made sure that they make sense: a block
has at least one byte, and its size rounded up to the alignment must stay in the range of signed
words (`Heap.wellSized`).

Of the system only this is known: whether it serves a request depends on the size alone, a
resized block keeps its leading bytes, and a refused resize leaves the block where it is.  Here
it serves the sizes that `serves` accepts and places every new block after all earlier ones, so
blocks never meet; a block that shrinks stays where it is.
-/
import ReservedArray.Allocator.Basic

namespace ReservedArray

/-- The system's heap: which sizes it serves, and the first address it has not used. -/
structure Heap where
  serves : Size → Bool
  next : Address

namespace Heap

/-- The largest size that stays in the range of signed words when rounded up to the alignment. -/
def maxSize : Size := 0x7FFFFFFFFFFFFFF0

/-- The size makes sense for a block. -/
def wellSized (size : Size) : Bool := size != 0 && size ≤ maxSize

/-- A heap on a machine with room for all but gigantic blocks. -/
def system : Heap := { serves := fun size => size < 0x100000000000000, next := 4096 }

/-- Both the heap and the system accept the size. -/
def accepts (heap : Heap) (size : Size) : Bool := wellSized size && heap.serves size

/-- The first aligned address after a block of this size. -/
def advance (heap : Heap) (size : Size) : Heap :=
  { heap with next := heap.next + (size.toNat + 15) / 16 * 16 }

/-- A block in a place that was never used. -/
def allocate (heap : Heap) (size : Size) : Reply Heap (Option Address) :=
  if heap.accepts size then { answer := some heap.next, state := heap.advance size }
  else { answer := none, state := heap }

/-- The system's own resize: in place when the block shrinks, else in a new place. -/
def reallocate (heap : Heap) (memory : Memory) (block : Address) (oldSize newSize : Size) :
    Reply (Heap × Memory) (Option Address) :=
  if heap.accepts newSize then
    if newSize ≤ oldSize then { answer := some block, state := (heap, memory) }
    else
      { answer := some heap.next
        state := (heap.advance newSize, memory.copy block heap.next oldSize.toNat) }
  else { answer := none, state := (heap, memory) }

end Heap

instance : Backend Heap where
  allocate := Heap.allocate
  release heap _ _ := heap

instance : Allocator Heap where
  reallocate := Heap.reallocate

end ReservedArray
