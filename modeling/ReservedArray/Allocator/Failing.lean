/-
# Allocators that fail on purpose

A failing allocator passes a set number of requests on and refuses the rest itself, so that the
way a failure is handled can be tried at any point.  It has no resize of its own: a resize is one
request like any other.
-/
import ReservedArray.Allocator.Basic

namespace ReservedArray

/-- An allocator behind a budget of requests; without a budget every request is passed on. -/
structure Failing (α : Type) where
  inner : α
  /-- How many more requests are passed on. -/
  budget : Option Nat := none
  /-- How many requests were not passed on. -/
  refused : Nat := 0

namespace Failing

variable {α : Type}

/-- The budget is replaced; what was refused so far still counts. -/
def setBudget (f : Failing α) (budget : Option Nat) : Failing α := { f with budget }

/-- A request is passed on while the budget lasts, whatever comes of it. -/
def allocate [Backend α] (f : Failing α) (size : Size) : Reply (Failing α) (Option Address) :=
  match f.budget with
  | some 0 => { answer := none, state := { f with refused := f.refused + 1 } }
  | some (n + 1) =>
    (Backend.allocate f.inner size).mapState fun inner => { f with inner, budget := some n }
  | none => (Backend.allocate f.inner size).mapState fun inner => { f with inner }

instance [Backend α] : Backend (Failing α) where
  allocate := allocate
  release f block size := { f with inner := Backend.release f.inner block size }

instance [Allocator α] : Allocator (Failing α) where
  query f key := Allocator.query f.inner key
  control f key := (Allocator.control f.inner key).mapState fun inner => { f with inner }
  alignment f := Allocator.alignment f.inner

/-- A request is refused without the inner allocator, or it is the inner allocator's. -/
theorem allocate_cases [Backend α] (f : Failing α) (size : Size) :
    let r := Backend.allocate f size
    let passed := Backend.allocate f.inner size
    (r.answer = none ∧ r.state.inner = f.inner) ∨
      (r.answer = passed.answer ∧ r.state.inner = passed.state) := by
  simp only [Backend.allocate, allocate]
  split
  · exact .inl ⟨rfl, rfl⟩
  · exact .inr ⟨rfl, rfl⟩
  · exact .inr ⟨rfl, rfl⟩

end Failing

end ReservedArray
