/-
# Control keys

An allocator can be asked about itself, or told to do something, by key.  Four keys are fixed
here; `vendor` leaves room for keys that only one allocator knows.
-/
import ReservedArray.Text.Inspect

namespace ReservedArray

/-- What is asked of an allocator. -/
inductive ControlKey where
  /-- Take back every block at once. -/
  | reset
  /-- How many bytes are used up. -/
  | used
  /-- How many bytes there are in all. -/
  | capacity
  /-- A question only some allocators understand. -/
  | vendor (id : UInt32)
deriving DecidableEq

namespace ControlKey

/-- The key as it stands in an error message. -/
def message : ControlKey → String
  | reset => "reset"
  | used => "used"
  | capacity => "capacity"
  | vendor id => s!"vendor({id})"

/-- The key's outline. -/
def inspect : ControlKey → Inspect
  | reset => .atom "Reset"
  | used => .atom "Used"
  | capacity => .atom "Capacity"
  | vendor id => .tuple "Vendor" [.atom (toString id)]

end ControlKey

end ReservedArray
