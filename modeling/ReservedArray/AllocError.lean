/-
# Why an allocator call fails

Each constructor is one cause and carries what the message needs.  The message is written for a
person; `name` and `inspect` are for logs and tests.
-/
import ReservedArray.ControlKey
import ReservedArray.Size
import ReservedArray.Text.Quoted

namespace ReservedArray

/-- A failed allocator call. -/
inductive AllocError where
  /-- A block of no bytes was asked for. -/
  | zeroSize
  /-- The allocator had no room. -/
  | exhausted (requested : Size)
  /-- The number of bytes does not fit in a word. -/
  | sizeOverflow
  /-- The block handed out does not start at a multiple of `align`. -/
  | misaligned (align : Size)
  /-- The allocator does not answer to this key. -/
  | invalidKey (key : ControlKey)
  /-- An arena was given fewer bytes than its alignment. -/
  | bufferTooSmall (size minimum : Size)
  /-- An arena was configured with values that cannot work. -/
  | invalidConfig (reason : String)
deriving DecidableEq

namespace AllocError

/-- The name of the cause. -/
def name : AllocError → String
  | zeroSize => "ZeroSize"
  | exhausted _ => "Exhausted"
  | sizeOverflow => "SizeOverflow"
  | misaligned _ => "Misaligned"
  | invalidKey _ => "InvalidKey"
  | bufferTooSmall _ _ => "BufferTooSmall"
  | invalidConfig _ => "InvalidConfig"

/-- The error in words. -/
def message : AllocError → String
  | zeroSize => "zero-sized allocation requested"
  | exhausted requested => s!"allocator exhausted: requested {requested} bytes"
  | sizeOverflow => "allocation size overflows usize"
  | misaligned align => s!"allocator returned a block not aligned to {align} bytes"
  | invalidKey key => "invalid control key: " ++ key.message
  | bufferTooSmall size minimum =>
    s!"arena buffer too small: {size} bytes, need at least {minimum} bytes"
  | invalidConfig reason => "invalid arena config: " ++ reason

/-- The fields of the error, by name. -/
def fields : AllocError → List (String × Inspect)
  | zeroSize => []
  | exhausted requested => [("requested", .number requested.toNat)]
  | sizeOverflow => []
  | misaligned align => [("align", .number align.toNat)]
  | invalidKey key => [("key", key.inspect)]
  | bufferTooSmall size minimum =>
    [("size", .number size.toNat), ("minimum", .number minimum.toNat)]
  | invalidConfig reason => [("reason", .atom (Text.quote reason))]

/-- The error's outline. -/
def inspect (e : AllocError) : Inspect := .closed e.name e.fields

end AllocError

end ReservedArray
