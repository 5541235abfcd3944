/-
# Working with blocks

A session with one allocator.  Blocks are taken, filled, read, resized and given back under
numbers of the caller's choosing, and every step is answered with its result and with what the
allocator shows of itself afterwards.

Of a block's bytes those are *known* that were written through this session: all of them after
a fill, and the leading ones that a resize keeps.
-/
import ReservedArray.Allocator.Stack
import ReservedArray.Registry

namespace ReservedArray.Workbench

/-- A block that is held. -/
structure HeldBlock where
  address : Address
  size : Size
  /-- How many leading bytes are known. -/
  known : Nat
deriving DecidableEq

/-- Which of the three ways to resize. -/
inductive ResizeWay where
  /-- `resize`, which turns away a size of zero. -/
  | checked
  /-- The allocator's own. -/
  | direct
  /-- `reallocateByCopy`. -/
  | byCopy
deriving DecidableEq

/-- What can be done with a block that is held. -/
inductive BlockUse where
  /-- Byte `i` becomes `i * factor + offset`. -/
  | fill (factor offset : Nat)
  | read
  | release
  | resize (way : ResizeWay) (size : Size)

/-- What can be asked of the allocator as a whole. -/
inductive AllocatorUse where
  | query (key : ControlKey)
  | control (key : ControlKey)
  | reset
  | alignment
  | budget (budget : Option Nat)
  | giveUp

/-- A step of the session. -/
inductive BlockStep where
  /-- A block by way of `request`. -/
  | request (id : Nat) (size : Size)
  /-- A block from the allocator itself. -/
  | allocate (id : Nat) (size : Size)
  | onBlock (id : Nat) (what : BlockUse)
  /-- A block may be named here too; the step is then taken only while that block is held. -/
  | onAllocator (named : Option Nat) (what : AllocatorUse)

/-- Where a block was placed. -/
inductive Place where
  /-- So far from the start of the arena. -/
  | offset (n : Nat)
  /-- So far past a multiple of sixteen. -/
  | skew (n : Nat)

/-- The result of a step. -/
inductive BlockResult where
  | nothing
  | placed (place : Place)
  | number (n : Size)
  | bytes (known : List UInt8) (size : Size)
  | refused (e : AllocError)
  | noBlock
  /-- The allocator has no such part. -/
  | unsupported

/-- A result, what was reported, and, unless the allocator was given up, what it shows. -/
structure BlockAnswer where
  result : BlockResult
  events : List Event
  report : Option Stack.Report

/-- A session. -/
structure Blocks (s : Stack) where
  allocator : s.State
  memory : Memory := Memory.zeroed
  held : Registry HeldBlock := {}
  events : List Event := []
  /-- The allocator was given up, which ends the session. -/
  givenUp : Bool := false

namespace Blocks

variable {s : Stack}

/-- The allocator's reply is taken over. -/
def absorb {β : Type} (t : Blocks s) (r : Reply s.State β) : Blocks s :=
  { t with allocator := r.state, events := t.events ++ r.events }

/-- The reply to a call that may have written to memory is taken over. -/
def absorbMemory {β : Type} (t : Blocks s) (r : Reply (s.State × Memory) β) : Blocks s :=
  { t with allocator := r.state.1, memory := r.state.2, events := t.events ++ r.events }

/-- Where an address lies. -/
def placeOf (t : Blocks s) (address : Address) : Place :=
  match s.arenaBase? t.allocator with
  | some base => .offset (address - base)
  | none => .skew (address % 16)

/-- A new block is held, and nothing of it is known. -/
def hold (t : Blocks s) (id : Nat) (address : Address) (size : Size) (known : Nat) :
    BlockResult × Blocks s :=
  (.placed (t.placeOf address), { t with held := t.held.insert id { address, size, known } })

/-- The block is replaced by a resized one. -/
def resize (t : Blocks s) (way : ResizeWay) (id : Nat) (b : HeldBlock) (size : Size) :
    BlockResult × Blocks s :=
  let kept := min b.known size.toNat
  let finish (r : Reply (s.State × Memory) (Option Address)) : BlockResult × Blocks s :=
    let t := t.absorbMemory r
    match r.answer with
    | some fresh => t.hold id fresh size kept
    | none => (.nothing, t)
  match way with
  | .checked =>
    let r := ReservedArray.resize t.allocator t.memory b.address b.size size
    let t := t.absorbMemory r
    match r.answer with
    | .ok fresh => t.hold id fresh size kept
    | .error e => (.refused e, t)
  | .direct => finish (Allocator.reallocate t.allocator t.memory b.address b.size size)
  | .byCopy => finish (reallocateByCopy t.allocator t.memory b.address b.size size)

/-- Byte `i` of a pattern. -/
def pattern (factor offset i : Nat) : UInt8 := (i * factor + offset).toUInt8

/-- The result of asking by key. -/
def answered : Except AllocError Size → BlockResult
  | .ok n => .number n
  | .error e => .refused e

/-- One use of a held block. -/
def useBlock (t : Blocks s) (id : Nat) (b : HeldBlock) : BlockUse → BlockResult × Blocks s
  | .fill factor offset =>
    (.nothing,
      { t with
        memory := t.memory.overwrite b.address b.size.toNat (pattern factor offset)
        held := t.held.insert id { b with known := b.size.toNat } })
  | .read => (.bytes (t.memory.read b.address b.known) b.size, t)
  | .release =>
    (.nothing,
      { t with
        allocator := Backend.release t.allocator b.address b.size
        held := t.held.erase id })
  | .resize way size => t.resize way id b size

/-- One use of the allocator.  A reset that is carried out forgets the blocks. -/
def useAllocator (t : Blocks s) : AllocatorUse → BlockResult × Blocks s
  | .query key => (answered (Allocator.query t.allocator key), t)
  | .control key =>
    let r := Allocator.control t.allocator key
    let t := t.absorb r
    let forgets := key = .reset ∧ r.answer.toBool
    (answered r.answer, if forgets then { t with held := {} } else t)
  | .reset =>
    match s.reset? t.allocator with
    | none => (.unsupported, t)
    | some r => (.nothing, { t.absorb r with held := {} })
  | .alignment => (.number (Allocator.alignment t.allocator), t)
  | .budget budget =>
    match s.setBudget? budget t.allocator with
    | none => (.unsupported, t)
    | some allocator => (.nothing, { t with allocator })
  | .giveUp =>
    match s.giveUp? t.allocator with
    | none => (.unsupported, t)
    | some r => (.nothing, { t.absorb r with givenUp := true })

/-- One step.  A step that names a block which is not held changes nothing. -/
def step (t : Blocks s) : BlockStep → BlockResult × Blocks s
  | .request id size =>
    let r := ReservedArray.request t.allocator size
    let t := t.absorb r
    match r.answer with
    | .ok address => t.hold id address size 0
    | .error e => (.refused e, t)
  | .allocate id size =>
    let r := Backend.allocate t.allocator size
    let t := t.absorb r
    match r.answer with
    | some address => t.hold id address size 0
    | none => (.nothing, t)
  | .onBlock id what =>
    match t.held.get? id with
    | none => (.noBlock, t)
    | some b => t.useBlock id b what
  | .onAllocator none what => t.useAllocator what
  | .onAllocator (some id) what =>
    match t.held.get? id with
    | none => (.noBlock, t)
    | some _ => t.useAllocator what

/-- The answer to a step, which takes what was reported with it. -/
def answer (t : Blocks s) (result : BlockResult) : BlockAnswer × Blocks s :=
  ({ result
     events := t.events
     report := if t.givenUp then none else some (s.report t.allocator) },
    { t with events := [] })

/-- The steps in order; giving the allocator up is the last. -/
def run (t : Blocks s) : List BlockStep → List BlockAnswer
  | [] => []
  | step :: rest =>
    let (result, t) := t.step step
    let (answer, t) := t.answer result
    if t.givenUp then [answer] else answer :: run t rest

end Blocks

/-- The answers of a session with the stack of a recipe, or why there is no such stack. -/
def runBlocks (r : Recipe) (steps : List BlockStep) : Except AllocError (List BlockAnswer) := do
  let allocator ← r.create
  return ({ allocator : Blocks r.stack } : Blocks r.stack).run steps

end ReservedArray.Workbench
