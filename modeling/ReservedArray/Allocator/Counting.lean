/-
# Allocators that keep count

A counting allocator passes every call on and keeps four numbers: how many blocks and bytes are
out, and how many blocks were ever handed out and taken back.  The size given at a release is
believed.
-/
import ReservedArray.Allocator.Basic

namespace ReservedArray

/-- An allocator and what went through it. -/
structure Counting (α : Type) where
  inner : α
  liveBlocks : Nat := 0
  liveBytes : Nat := 0
  allocations : Nat := 0
  releases : Nat := 0

namespace Counting

variable {α : Type}

/-- A refused request counts for nothing. -/
def allocate [Backend α] (c : Counting α) (size : Size) : Reply (Counting α) (Option Address) :=
  let r := Backend.allocate c.inner size
  match r.answer with
  | none => r.mapState fun inner => { c with inner }
  | some _ =>
    r.mapState fun inner =>
      { inner
        liveBlocks := c.liveBlocks + 1
        liveBytes := c.liveBytes + size.toNat
        allocations := c.allocations + 1
        releases := c.releases }

/-- A block goes back, and its size is believed. -/
def release [Backend α] (c : Counting α) (block : Address) (size : Size) : Counting α :=
  { inner := Backend.release c.inner block size
    liveBlocks := c.liveBlocks - 1
    liveBytes := c.liveBytes - size.toNat
    allocations := c.allocations
    releases := c.releases + 1 }

instance [Backend α] : Backend (Counting α) where
  allocate := allocate
  release := release

instance [Allocator α] : Allocator (Counting α) where
  query c key := Allocator.query c.inner key
  control c key := (Allocator.control c.inner key).mapState fun inner => { c with inner }
  alignment c := Allocator.alignment c.inner

end Counting

end ReservedArray
