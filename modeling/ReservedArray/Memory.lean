/-
# Memory

Memory is one byte at every address.  It is kept apart from the allocators, which only decide
*which* addresses a caller may use: handing out or taking back a block cannot change a byte.
Every change is one of two, both instances of `Memory.overwrite`: a caller fills a block, or a
resize copies the leading bytes of one block to another.
-/

namespace ReservedArray

/-- A place in memory. -/
abbrev Address := Nat

/-- The contents of all of memory. -/
structure Memory where
  byte : Address → UInt8

namespace Memory

/-- Memory in which no byte was ever set. -/
def zeroed : Memory := ⟨fun _ => 0⟩

/-- Byte `i` of the `length` bytes from `start` becomes `value i`; no other byte changes. -/
def overwrite (memory : Memory) (start length : Nat) (value : Nat → UInt8) : Memory :=
  ⟨fun a => if start ≤ a ∧ a < start + length then value (a - start) else memory.byte a⟩

/-- The `length` bytes from `source`, as they are now, are written from `target` on. -/
def copy (memory : Memory) (source target length : Nat) : Memory :=
  memory.overwrite target length fun i => memory.byte (source + i)

/-- The `length` bytes from `start`. -/
def read (memory : Memory) (start length : Nat) : List UInt8 :=
  (List.range length).map fun i => memory.byte (start + i)

theorem byte_overwrite_inside {memory : Memory} {start length i : Nat} {value : Nat → UInt8}
    (h : i < length) : (memory.overwrite start length value).byte (start + i) = value i := by
  simp [overwrite, h]

theorem byte_overwrite_outside {memory : Memory} {start length a : Nat} {value : Nat → UInt8}
    (h : a < start ∨ start + length ≤ a) :
    (memory.overwrite start length value).byte a = memory.byte a := by
  have : ¬(start ≤ a ∧ a < start + length) := by omega
  simp [overwrite, this]

@[simp] theorem length_read (memory : Memory) (start length : Nat) :
    (memory.read start length).length = length := by
  simp [read]

end Memory

end ReservedArray
