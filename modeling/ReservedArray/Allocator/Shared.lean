/-
# Shared allocators

Whoever shares an allocator with others may use it in every way that leaves the others' blocks
alone.  A shared allocator is the allocator itself, its own resize included, but for orders:
`control` is `query`, so that a reset is refused.
-/
import ReservedArray.Allocator.Basic

namespace ReservedArray

/-- An allocator held together with others. -/
structure Shared (α : Type) where
  inner : α

namespace Shared

variable {α : Type}

instance [Backend α] : Backend (Shared α) where
  allocate s size := (Backend.allocate s.inner size).mapState Shared.mk
  release s block size := ⟨Backend.release s.inner block size⟩

instance [Allocator α] : Allocator (Shared α) where
  reallocate s memory block oldSize newSize :=
    (Allocator.reallocate s.inner memory block oldSize newSize).mapState fun (inner, memory) =>
      (⟨inner⟩, memory)
  query s key := Allocator.query s.inner key
  alignment s := Allocator.alignment s.inner

end Shared

end ReservedArray
