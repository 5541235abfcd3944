/-
# Why an array operation fails

Three of the causes pass on the allocator's own error; `source` gives it back.
-/
import ReservedArray.AllocError

namespace ReservedArray

/-- A failed array operation. -/
inductive ArrayError where
  /-- Elements of no bytes, or aligned more strictly than the allocator promises. -/
  | unsupportedElement (size align : Size)
  /-- An array with no slots was asked for. -/
  | zeroReserve
  /-- Slots were to be filled, and nothing was given to fill them with. -/
  | missingSeed
  /-- More slots were to be filled than reserved. -/
  | countExceedsReserve (count reserve : Size)
  /-- The first block could not be had. -/
  | initAllocation (source : AllocError)
  /-- Every reserved slot is taken. -/
  | noReserve (reserved : Size)
  /-- Growing was asked to leave the array no larger than it is. -/
  | shrinkRejected (requested reserved : Size)
  /-- The larger block could not be had. -/
  | growAllocation (source : AllocError)
  /-- There is nothing to sort. -/
  | sortEmpty
  /-- A block needed for sorting could not be had. -/
  | sortAllocation (source : AllocError)
deriving DecidableEq

namespace ArrayError

/-- The name of the cause. -/
def name : ArrayError → String
  | unsupportedElement _ _ => "UnsupportedElement"
  | zeroReserve => "ZeroReserve"
  | missingSeed => "MissingSeed"
  | countExceedsReserve _ _ => "InstanceCountExceedsReserve"
  | initAllocation _ => "InitAllocationFailed"
  | noReserve _ => "NoReserve"
  | shrinkRejected _ _ => "ShrinkRejected"
  | growAllocation _ => "GrowAllocationFailed"
  | sortEmpty => "SortEmpty"
  | sortAllocation _ => "SortAllocationFailed"

/-- The error in words. -/
def message : ArrayError → String
  | unsupportedElement size align => s!"unsupported element type: size {size}, align {align}"
  | zeroReserve => "reserve must be greater than zero"
  | missingSeed => "pre-populated slots require a seed value"
  | countExceedsReserve count reserve => s!"instance count {count} exceeds reserve {reserve}"
  | initAllocation source => "init allocation failed: " ++ source.message
  | noReserve reserved => s!"no reserve left: all {reserved} slots occupied"
  | shrinkRejected requested reserved =>
    s!"grow to {requested} rejected: reserve is already {reserved}"
  | growAllocation source => "grow allocation failed: " ++ source.message
  | sortEmpty => "cannot sort an empty array"
  | sortAllocation source => "sort allocation failed: " ++ source.message

/-- The allocator's error underneath, where there is one. -/
def source : ArrayError → Option AllocError
  | initAllocation e | growAllocation e | sortAllocation e => some e
  | _ => none

/-- The fields of the error, by name. -/
def fields : ArrayError → List (String × Inspect)
  | unsupportedElement size align => [("size", .number size.toNat), ("align", .number align.toNat)]
  | zeroReserve | missingSeed | sortEmpty => []
  | countExceedsReserve count reserve =>
    [("instance_count", .number count.toNat), ("reserve", .number reserve.toNat)]
  | initAllocation e | growAllocation e | sortAllocation e => [("source", e.inspect)]
  | noReserve reserved => [("reserved", .number reserved.toNat)]
  | shrinkRejected requested reserved =>
    [("requested", .number requested.toNat), ("reserved", .number reserved.toNat)]

/-- The error's outline. -/
def inspect (e : ArrayError) : Inspect := .closed e.name e.fields

end ArrayError

end ReservedArray
