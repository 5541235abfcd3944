/-
# Arenas

An arena carves blocks out of one stretch of memory, front to back.  It remembers how far it has
got; a block starts at the next multiple of the alignment and the arena moves to the block's end.
Nothing is taken back but all of it at once (`Arena.reset`).

* The alignment is of addresses, not of offsets, so where the first block starts depends on where
  the stretch lies.
* A block must end before the last byte of the stretch: `end < size` is strict.
* The sums are of 64-bit words.  A sum that does not fit refuses the request without a report.
-/
import ReservedArray.Allocator.Basic

namespace ReservedArray

/-! ## 1. Configuration -/

/-- How an arena is to place its blocks. -/
structure ArenaConfig where
  alignment : Size := defaultAlignment
deriving DecidableEq

namespace ArenaConfig

/-- The same configuration with another alignment. -/
def withAlignment (config : ArenaConfig) (alignment : Size) : ArenaConfig :=
  { config with alignment }

/-- Only powers of two can be aligned to. -/
def validate (config : ArenaConfig) : Except AllocError Unit :=
  if Size.isPowerOfTwo config.alignment then .ok ()
  else
    .error (.invalidConfig
      ("alignment must be a non-zero power of two, got " ++ toString config.alignment))

/-- The configuration's outline. -/
def inspect (config : ArenaConfig) : Inspect :=
  .closed "ArenaConfig" [("alignment", .number config.alignment.toNat)]

end ArenaConfig

/-! ## 2. The arena -/

/-- A stretch of `size` bytes from address `base`, of which the first `offset` are used up. -/
structure Arena where
  base : Size
  size : Size
  offset : Size
  alignment : Size
deriving DecidableEq

namespace Arena

/-- A fresh arena over a stretch of memory.  It must be at least as long as the alignment. -/
def create (base size : Size) (config : ArenaConfig) : Except AllocError Arena := do
  config.validate
  if size < config.alignment then .error (.bufferTooSmall size config.alignment)
  else .ok { base, size, offset := 0, alignment := config.alignment }

/-- Where the next block would start: the distance from the base to the first aligned address at
or after the used part. -/
def nextStart? (arena : Arena) : Option Size := do
  let cursor ← Size.add? arena.base arena.offset
  let aligned ← Size.alignUp? cursor arena.alignment
  return aligned - arena.base

/-- The start and end of the next block of a size, where both can be computed. -/
def nextBlock? (arena : Arena) (size : Size) : Option (Size × Size) := do
  let start ← arena.nextStart?
  let stop ← Size.add? start size
  return (start, stop)

/-- The next block, if it ends before the last byte. -/
def allocate (arena : Arena) (size : Size) : Reply Arena (Option Address) :=
  match arena.nextBlock? size with
  | none => { answer := none, state := arena }
  | some (start, stop) =>
    if arena.size ≤ stop then
      { answer := none
        state := arena
        events := [.arenaExhausted size arena.offset arena.size] }
    else
      { answer := some (arena.base.toNat + start.toNat), state := { arena with offset := stop } }

/-- All blocks are taken back. -/
def reset (arena : Arena) : Reply Arena Unit :=
  { answer := (), state := { arena with offset := 0 }, events := [.arenaReset arena.offset] }

/-- How many bytes are left after the used part. -/
def remaining (arena : Arena) : Size := arena.size - arena.offset

/-- An arena tells how much is used and how much there is. -/
def query (arena : Arena) : ControlKey → Except AllocError Size
  | .used => .ok arena.offset
  | .capacity => .ok arena.size
  | key => .error (.invalidKey key)

/-- A reset answers with zero; every other key is a question. -/
def control (arena : Arena) : ControlKey → Reply Arena (Except AllocError Size)
  | .reset => { answer := .ok 0, state := arena.reset.state, events := arena.reset.events }
  | key => { answer := arena.query key, state := arena }

end Arena

instance : Backend Arena where
  allocate := Arena.allocate
  release arena _ _ := arena

instance : Allocator Arena where
  query := Arena.query
  control := Arena.control
  alignment := Arena.alignment

end ReservedArray
