/-
# Status codes

Callers that want a number instead of a cause get one of eleven.  Both kinds of error map into
the same codes, and a call that succeeds maps to `ok` (`Status.ofResult`).
-/
import ReservedArray.ArrayError

namespace ReservedArray

/-- The outcome of a call, as a number. -/
inductive Status where
  | ok
  | invalidArgument
  | allocationFailed
  | invalidKey
  | bufferTooSmall
  | initAllocationFailed
  | noReserve
  | growAllocationFailed
  | sortGeneral
  | sortAllocationFailed
  | unsupportedElement
deriving DecidableEq

namespace Status

/-- Every status, from `ok` down. -/
def all : List Status :=
  [ok, invalidArgument, allocationFailed, invalidKey, bufferTooSmall, initAllocationFailed,
    noReserve, growAllocationFailed, sortGeneral, sortAllocationFailed, unsupportedElement]

/-- Zero for success, a negative number for each kind of failure. -/
def code : Status → Int
  | ok => 0
  | invalidArgument => -1
  | allocationFailed => -2
  | invalidKey => -3
  | bufferTooSmall => -4
  | initAllocationFailed => -5
  | noReserve => -6
  | growAllocationFailed => -7
  | sortGeneral => -8
  | sortAllocationFailed => -9
  | unsupportedElement => -10

/-- The name of the status. -/
def name : Status → String
  | ok => "Ok"
  | invalidArgument => "InvalidArgument"
  | allocationFailed => "AllocationFailed"
  | invalidKey => "InvalidKey"
  | bufferTooSmall => "BufferTooSmall"
  | initAllocationFailed => "InitAllocationFailed"
  | noReserve => "NoReserve"
  | growAllocationFailed => "GrowAllocationFailed"
  | sortGeneral => "SortGeneral"
  | sortAllocationFailed => "SortAllocationFailed"
  | unsupportedElement => "UnsupportedElement"

/-- The status of this name. -/
def ofName? (text : String) : Option Status := all.find? fun s => s.name == text

/-- The call succeeded. -/
def isOk (s : Status) : Bool := s == ok

end Status

/-- Bad requests, lack of room, and the two mistakes of configuring an arena. -/
def AllocError.status : AllocError → Status
  | zeroSize | sizeOverflow | invalidConfig _ => .invalidArgument
  | exhausted _ | misaligned _ => .allocationFailed
  | invalidKey _ => .invalidKey
  | bufferTooSmall _ _ => .bufferTooSmall

/-- Bad requests share one code; a failed allocation has the code of the operation it stopped. -/
def ArrayError.status : ArrayError → Status
  | unsupportedElement _ _ => .unsupportedElement
  | zeroReserve | missingSeed | countExceedsReserve _ _ | shrinkRejected _ _ => .invalidArgument
  | initAllocation _ => .initAllocationFailed
  | noReserve _ => .noReserve
  | growAllocation _ => .growAllocationFailed
  | sortEmpty => .sortGeneral
  | sortAllocation _ => .sortAllocationFailed

namespace Status

/-- The status of a finished call, given the status of each error. -/
def ofResult {ε : Type} (status : ε → Status) : Except ε Unit → Status
  | .ok () => ok
  | .error e => status e

theorem isOk_iff {s : Status} : s.isOk = true ↔ s.code = 0 := by
  cases s <;> decide

theorem code_injective : ∀ {s t : Status}, s.code = t.code → s = t := by
  intro s t h
  cases s <;> cases t <;> simp_all [code]

theorem ofName?_name (s : Status) : ofName? s.name = some s := by
  cases s <;> decide

theorem mem_all (s : Status) : s ∈ all := by
  cases s <;> decide

end Status

/-- An error never maps to success. -/
theorem AllocError.status_ne_ok (e : AllocError) : e.status ≠ .ok := by
  cases e <;> simp [status]

theorem ArrayError.status_ne_ok (e : ArrayError) : e.status ≠ .ok := by
  cases e <;> simp [status]

end ReservedArray
