/-
# A heap over any provider

The heap of `Allocator/Heap` knows where its blocks come from.  Here nothing is known of that.  A
`Provider` is whatever hands out, resizes and takes back blocks for a heap, and `HeapOver` is what
the heap makes of it: before the provider is asked, the heap makes sure that the size makes sense,
for a new block and for a resized one (`Heap.wellSized`).

The heap that knows where its blocks come from is one of these (`Heap.allocate_eq`,
`Heap.reallocate_eq`).
-/
import ReservedArray.Allocator.Heap

namespace ReservedArray

/-- What a heap gets its blocks from.  It is only asked for sizes that make sense. -/
class Provider (γ : Type) where
  /-- A block of this many bytes, or none. -/
  allocate : γ → Size → Option Address × γ
  /-- Takes back a block with its size. -/
  release : γ → Address → Size → γ
  /-- A block of the new size instead of one of the old size, or none; and what memory is then. -/
  reallocate : γ → Memory → Address → Size → Size → Option Address × γ × Memory

/-- A heap that passes on to its provider whatever makes sense. -/
structure HeapOver (γ : Type) where
  provider : γ

namespace HeapOver

variable {γ : Type} [Provider γ]

/-- A block of the provider, if the size makes sense. -/
def allocate (heap : HeapOver γ) (size : Size) : Reply (HeapOver γ) (Option Address) :=
  if Heap.wellSized size then
    let (answer, provider) := Provider.allocate heap.provider size
    { answer, state := ⟨provider⟩ }
  else { answer := none, state := heap }

/-- The provider's resize, if the new size makes sense. -/
def reallocate (heap : HeapOver γ) (memory : Memory) (block : Address) (oldSize newSize : Size) :
    Reply (HeapOver γ × Memory) (Option Address) :=
  if Heap.wellSized newSize then
    let (answer, provider, memory) :=
      Provider.reallocate heap.provider memory block oldSize newSize
    { answer, state := (⟨provider⟩, memory) }
  else { answer := none, state := (heap, memory) }

instance : Backend (HeapOver γ) where
  allocate := allocate
  release heap block size := ⟨Provider.release heap.provider block size⟩

instance : Allocator (HeapOver γ) where
  reallocate := reallocate

variable {heap : HeapOver γ} {size : Size}

theorem allocate_of_sensible (sensible : Heap.wellSized size = true) :
    Backend.allocate heap size =
      { answer := (Provider.allocate heap.provider size).1
        state := ⟨(Provider.allocate heap.provider size).2⟩ } :=
  if_pos sensible

theorem allocate_of_senseless (senseless : Heap.wellSized size = false) :
    Backend.allocate heap size = { answer := none, state := heap } :=
  if_neg (by simp [senseless])

theorem reallocate_of_sensible {memory : Memory} {block : Address} {oldSize : Size}
    (sensible : Heap.wellSized size = true) :
    Allocator.reallocate heap memory block oldSize size =
      { answer := (Provider.reallocate heap.provider memory block oldSize size).1
        state := (⟨(Provider.reallocate heap.provider memory block oldSize size).2.1⟩,
          (Provider.reallocate heap.provider memory block oldSize size).2.2) } :=
  if_pos sensible

theorem reallocate_of_senseless {memory : Memory} {block : Address} {oldSize : Size}
    (senseless : Heap.wellSized size = false) :
    Allocator.reallocate heap memory block oldSize size =
      { answer := none, state := (heap, memory) } :=
  if_neg (by simp [senseless])

end HeapOver

/-! ## The provider of the heap -/

namespace Heap

/-- It places every new block after all earlier ones; a block that shrinks stays where it is. -/
instance : Provider Heap where
  allocate heap size :=
    if heap.serves size then (some heap.next, heap.advance size) else (none, heap)
  release heap _ _ := heap
  reallocate heap memory block oldSize newSize :=
    if heap.serves newSize then
      if newSize ≤ oldSize then (some block, heap, memory)
      else (some heap.next, heap.advance newSize, memory.copy block heap.next oldSize.toNat)
    else (none, heap, memory)

theorem allocate_eq (heap : Heap) (size : Size) :
    heap.allocate size = (HeapOver.allocate ⟨heap⟩ size).mapState HeapOver.provider := by
  simp only [allocate, HeapOver.allocate, accepts, Provider.allocate]
  by_cases sensible : wellSized size = true <;> by_cases served : heap.serves size = true <;>
    simp [sensible, served, Reply.mapState]

theorem reallocate_eq (heap : Heap) (memory : Memory) (block : Address) (oldSize newSize : Size) :
    heap.reallocate memory block oldSize newSize =
      (HeapOver.reallocate ⟨heap⟩ memory block oldSize newSize).mapState
        (Prod.map HeapOver.provider id) := by
  simp only [reallocate, HeapOver.reallocate, accepts, Provider.reallocate]
  by_cases sensible : wellSized newSize = true <;> by_cases served : heap.serves newSize = true <;>
    by_cases shrinks : newSize ≤ oldSize <;> simp [sensible, served, shrinks, Reply.mapState]

end Heap

end ReservedArray
