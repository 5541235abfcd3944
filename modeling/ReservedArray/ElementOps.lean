/-
# What an array may do with its elements

An array knows nothing about its elements but how large they are (`Layout`) and three operations
(`ElementOps`): it copies an element into a slot, disposes of one it no longer holds, and asks
for the order of two.  Each operation is a hook: it may keep a context of its own, answer
differently from one call to the next, and panic instead of answering.
-/
import ReservedArray.ArrayError

namespace ReservedArray

/-- The bytes an element takes up and the multiple its address must be of. -/
structure Layout where
  size : Size
  align : Size
deriving DecidableEq

namespace Layout

/-- Elements must take up space, and may not be aligned more strictly than the allocator
promises. -/
def supportedUnder (layout : Layout) (alignment : Size) : Except ArrayError Unit :=
  if layout.size = 0 ∨ alignment < layout.align then
    .error (.unsupportedElement layout.size layout.align)
  else .ok ()

end Layout

/-- Why a call did not come back. -/
inductive Panic where
  /-- A hook gave up. -/
  | hook (message : String)
  /-- An element was pushed when every slot was taken. -/
  | overfull
deriving DecidableEq

/-- What a panic says. -/
def Panic.message : Panic → String
  | hook message => message
  | overfull => "push past the reserve"

/-- A call that may change a context and may panic. -/
abbrev Hook (κ β : Type) : Type := κ → Except Panic β × κ

/-- The three operations on elements. -/
structure ElementOps (κ τ : Type) where
  copy : τ → Hook κ τ
  /-- Takes the element, whether it panics or not. -/
  dispose : τ → Hook κ Unit
  compare : τ → τ → Hook κ Ordering

namespace ElementOps

variable {κ τ : Type}

/-- Operations that keep no context and never panic: a copy is the element itself. -/
def plain (order : τ → τ → Ordering) : ElementOps κ τ where
  copy x context := (.ok x, context)
  dispose _ context := (.ok (), context)
  compare x y context := (.ok (order x y), context)

end ElementOps

/-- What all arrays over one allocator have in common. -/
structure ArrayOptions (κ τ : Type) where
  layout : Layout
  ops : ElementOps κ τ

end ReservedArray
