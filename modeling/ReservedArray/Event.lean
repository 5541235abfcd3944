/-
# What is logged

The allocators and the arrays report what they do as events.  An event is a value with the
numbers it is about; its level, its message and its named fields are read off it.
-/
import ReservedArray.AllocError

namespace ReservedArray

/-- Something that was reported. -/
inductive Event where
  | arenaReset (offset : Size)
  | arenaExhausted (requested offset capacity : Size)
  | allocationFailed (requested : Size)
  | reallocationFailed (oldSize requested : Size)
  | initAllocationFailed (reserve : Size) (source : AllocError)
  | growAllocationFailed (reserved newReserve : Size) (source : AllocError)
  | arrayGrown (reserved : Size) (elements : Nat)
  | sortAllocationFailed (elements : Nat) (source : AllocError)
  | arraySorted (elements : Nat)
deriving DecidableEq

namespace Event

/-- How urgent an event is. -/
inductive Level where
  | trace
  | debug
deriving DecidableEq

/-- The value of a field. -/
inductive Value where
  | number (n : Nat)
  | text (s : String)
deriving DecidableEq

/-- The level as it stands in a log. -/
def Level.name : Level → String
  | trace => "TRACE"
  | debug => "DEBUG"

/-- Refusals by an arena and failed array operations are worth a look; the rest is detail. -/
def level : Event → Level
  | arenaExhausted _ _ _ | initAllocationFailed _ _ | growAllocationFailed _ _ _
  | sortAllocationFailed _ _ => .debug
  | arenaReset _ | allocationFailed _ | reallocationFailed _ _ | arrayGrown _ _
  | arraySorted _ => .trace

/-- What happened, in words. -/
def message : Event → String
  | arenaReset _ => "bump arena reset"
  | arenaExhausted _ _ _ => "bump arena exhausted"
  | allocationFailed _ => "allocation failed"
  | reallocationFailed _ _ => "reallocation failed"
  | initAllocationFailed _ _ => "array init allocation failed"
  | growAllocationFailed _ _ _ => "array grow allocation failed"
  | arrayGrown _ _ => "array grown"
  | sortAllocationFailed _ _ => "array sort allocation failed"
  | arraySorted _ => "array sorted"

/-- The named fields; an error is given by its message. -/
def fields : Event → List (String × Value)
  | arenaReset offset => [("offset", .number offset.toNat)]
  | arenaExhausted requested offset capacity =>
    [("requested", .number requested.toNat), ("offset", .number offset.toNat),
      ("max_size", .number capacity.toNat)]
  | allocationFailed requested => [("requested", .number requested.toNat)]
  | reallocationFailed oldSize requested =>
    [("old_size", .number oldSize.toNat), ("requested", .number requested.toNat)]
  | initAllocationFailed reserve source =>
    [("reserve", .number reserve.toNat), ("source", .text source.message)]
  | growAllocationFailed reserved newReserve source =>
    [("reserved", .number reserved.toNat), ("new_reserve", .number newReserve.toNat),
      ("source", .text source.message)]
  | arrayGrown reserved elements =>
    [("reserved", .number reserved.toNat), ("elements", .number elements)]
  | sortAllocationFailed elements source =>
    [("elements", .number elements), ("source", .text source.message)]
  | arraySorted elements => [("elements", .number elements)]

end Event

end ReservedArray
