/-
# Stacks of allocators

A stack is the plan of an allocator built from the ones of this library: one at the bottom and
any number of wrappers above it.  `Stack.State` is the type of its states, and every stack is an
allocator.  A `Recipe` also says with which numbers the stack starts.
-/
import ReservedArray.Allocator.Arena
import ReservedArray.Allocator.Counting
import ReservedArray.Allocator.Failing
import ReservedArray.Allocator.Sample
import ReservedArray.Allocator.Shared

namespace ReservedArray

/-- One allocator and the wrappers above it. -/
inductive Stack where
  | heap
  | arena
  | plain
  | skewed
  | failing (inner : Stack)
  | counting (inner : Stack)
  | shared (inner : Stack)
deriving DecidableEq

namespace Stack

/-- The states of a stack. -/
@[reducible] def State : Stack → Type
  | heap => Heap
  | arena => Arena
  | plain => Plain
  | skewed => Skewed
  | failing inner => Failing inner.State
  | counting inner => Counting inner.State
  | shared inner => Shared inner.State

/-- Every stack is an allocator, by the instances of its parts. -/
@[reducible] def allocator : (s : Stack) → Allocator s.State
  | heap => inferInstanceAs (Allocator Heap)
  | arena => inferInstanceAs (Allocator Arena)
  | plain => inferInstanceAs (Allocator Plain)
  | skewed => inferInstanceAs (Allocator Skewed)
  | failing inner => have := inner.allocator; inferInstanceAs (Allocator (Failing inner.State))
  | counting inner => have := inner.allocator; inferInstanceAs (Allocator (Counting inner.State))
  | shared inner => have := inner.allocator; inferInstanceAs (Allocator (Shared inner.State))

instance instAllocator (s : Stack) : Allocator s.State := s.allocator

/-! ## 1. What can be seen of a state -/

/-- The numbers that a stack shows. -/
inductive Report where
  | heap
  | arena (used capacity remaining : Size)
  | live (blocks : Nat)
  | failing (refused : Nat) (used : Option Size)
  | counting (liveBlocks liveBytes allocations releases : Nat) (inner : Report)

/-- The numbers that the state shows. -/
def report : (s : Stack) → s.State → Report
  | heap, _ => .heap
  | arena, a => .arena a.offset a.size a.remaining
  | plain, p => .live p.live
  | skewed, s => .live s.live
  | failing inner, f =>
    .failing f.refused (Allocator.query (α := inner.State) f.inner .used).toOption
  | counting inner, c =>
    .counting c.liveBlocks c.liveBytes c.allocations c.releases (inner.report c.inner)
  | shared inner, s => inner.report s.inner

/-- Where the arena at the bottom begins, if there is one. -/
def arenaBase? : (s : Stack) → s.State → Option Address
  | arena, a => some a.base.toNat
  | failing inner, f => inner.arenaBase? f.inner
  | counting inner, c => inner.arenaBase? c.inner
  | shared inner, s => inner.arenaBase? s.inner
  | heap, _ | plain, _ | skewed, _ => none

/-! ## 2. What is done to a part of it -/

/-- The budget of the topmost failing allocator is replaced; no more than counting allocators
may lie above it. -/
def setBudget? (budget : Option Nat) : (s : Stack) → s.State → Option s.State
  | failing _, f => some (f.setBudget budget)
  | counting inner, c => (inner.setBudget? budget c.inner).map fun inner => { c with inner }
  | shared inner, s => (inner.setBudget? budget s.inner).map Shared.mk
  | heap, _ | arena, _ | plain, _ | skewed, _ => none

/-- The arena is reset, if the stack is an arena and nothing else. -/
def reset? : (s : Stack) → s.State → Option (Reply s.State Unit)
  | arena, a => some a.reset
  | shared inner, s => (inner.reset? s.inner).map (Reply.mapState Shared.mk)
  | heap, _ | plain, _ | skewed, _ | failing _, _ | counting _, _ => none

/-- The allocator is given up, if it is a heap or an arena and nothing else.  An arena is reset. -/
def giveUp? : (s : Stack) → s.State → Option (Reply s.State Unit)
  | heap, h => some { answer := (), state := h }
  | arena, a => some a.reset
  | shared inner, s => (inner.giveUp? s.inner).map (Reply.mapState Shared.mk)
  | plain, _ | skewed, _ | failing _, _ | counting _, _ => none

end Stack

/-! ## 3. Making one -/

/-- A stack and the numbers it starts with. -/
inductive Recipe where
  | heap
  /-- An arena over so many bytes, so far past the start of a page. -/
  | arena (size skew : Size) (config : ArenaConfig)
  | plain
  | skewed (skew claim : Size)
  | failing (inner : Recipe) (budget : Option Nat)
  | counting (inner : Recipe)
  | shared (inner : Recipe)

namespace Recipe

/-- The start of a page. -/
def page : Size := 0x100000

/-- The stack without its numbers. -/
def stack : Recipe → Stack
  | heap => .heap
  | arena _ _ _ => .arena
  | plain => .plain
  | skewed _ _ => .skewed
  | failing inner _ => .failing inner.stack
  | counting inner => .counting inner.stack
  | shared inner => .shared inner.stack

/-- The first state.  Only an arena can be refused. -/
def create : (r : Recipe) → Except AllocError r.stack.State
  | heap => .ok Heap.system
  | arena size skew config => Arena.create (page + skew) size config
  | plain => .ok {}
  | skewed skew claim => .ok { skew, claim }
  | failing inner budget => inner.create.map fun inner => { inner, budget }
  | counting inner => inner.create.map fun inner => { inner }
  | shared inner => inner.create.map fun inner => { inner }

end Recipe

end ReservedArray
