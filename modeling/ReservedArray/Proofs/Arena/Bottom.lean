/-
# An arena at the bottom of a stack

Wrappers pass requests on or refuse them, so what can happen to an arena at the bottom of a stack
(`Stack.arena?`) is what can happen to a bare one:

* a request carves a block off it or leaves it as it is (`Stack.carves_allocate`);
* a resize is such a request and a copy, whichever way it is asked for (`Stack.resizes_resizeBy`),
  since nothing over an arena has a resize of its own;
* giving a block back does nothing (`Stack.arena?_release`);
* only an order takes the blocks back (`Stack.arena?_control`).
-/
import ReservedArray.Proofs.Arena.Placement
import ReservedArray.Workbench.Blocks

namespace ReservedArray

open Workbench (ResizeWay)

/-! ## 1. Requests and resizes -/

/-- The arena at the bottom of a stack, if there is one. -/
def Stack.arena? : (s : Stack) → s.State → Option Arena
  | arena, a => some a
  | failing inner, f => inner.arena? f.inner
  | counting inner, c => inner.arena? c.inner
  | shared inner, s => inner.arena? s.inner
  | heap, _ | plain, _ | skewed, _ => none

/-- What a resize over an arena comes to. -/
inductive Resizes (arena : Arena) (memory : Memory) (block : Address) (oldSize newSize : Size) :
    Option Address → Arena → Memory → Prop
  | refused : Resizes arena memory block oldSize newSize none arena memory
  /-- The leading bytes, as many as both blocks hold, are copied into a new block. -/
  | moved {fresh : Address} {arena' : Arena} : Carves arena newSize (some fresh) arena' →
      Resizes arena memory block oldSize newSize (some fresh) arena'
        (memory.copy block fresh (min oldSize.toNat newSize.toNat))

/-- A resize in one of the three ways. -/
def resizeBy {α : Type} [Allocator α] (way : ResizeWay) (allocator : α) (memory : Memory)
    (block : Address) (oldSize newSize : Size) : Reply (α × Memory) (Option Address) :=
  match way with
  | .checked =>
    let r := resize allocator memory block oldSize newSize
    { answer := r.answer.toOption, state := r.state, events := r.events }
  | .direct => Allocator.reallocate allocator memory block oldSize newSize
  | .byCopy => reallocateByCopy allocator memory block oldSize newSize

/-- A checked resize is refused, or it is what the allocator makes of it. -/
theorem resizeBy_checked {α : Type} [Allocator α] (allocator : α) (memory : Memory)
    (block : Address) (oldSize newSize : Size) :
    let r := resizeBy .checked allocator memory block oldSize newSize
    let direct := Allocator.reallocate allocator memory block oldSize newSize
    r.answer = none ∧ r.state = (allocator, memory) ∨
      r.answer = direct.answer ∧ r.state = direct.state := by
  by_cases zero : newSize = 0
  · left
    simp [resizeBy, zero, resize_zero, Except.toOption]
  · right
    simp only [resizeBy, resize, if_neg zero]
    cases answer : (Allocator.reallocate allocator memory block oldSize newSize).answer <;>
      simp [Except.toOption]

namespace Stack

variable {s : Stack} {a : s.State} {arena : Arena}

/-- **A request to a stack is refused, or carves a block off the arena at the bottom.** -/
theorem carves_allocate (bottom : s.arena? a = some arena)
    (power : Size.isPowerOfTwo arena.alignment = true) (size : Size) :
    ∃ arena', s.arena? (Backend.allocate a size).state = some arena' ∧
      Carves arena size (Backend.allocate a size).answer arena' := by
  induction s with
  | heap | plain | skewed => cases bottom
  | arena =>
    cases bottom
    exact ⟨_, rfl, Arena.carves_allocate power size⟩
  | failing inner ih =>
    obtain ⟨arena', bottom', carves⟩ := ih (a := a.inner) bottom
    rcases Failing.allocate_cases a size with ⟨answer, inside⟩ | ⟨answer, inside⟩
    · exact ⟨arena, (congrArg inner.arena? inside).trans bottom, answer ▸ .refused⟩
    · exact ⟨arena', (congrArg inner.arena? inside).trans bottom', answer ▸ carves⟩
  | counting inner ih =>
    have passed := ih (a := a.inner) bottom
    simp only [Backend.allocate, Counting.allocate]
    split <;> exact passed
  | shared inner ih => exact ih (a := a.inner) bottom

/-- A request of no bytes is refused, and every other one is passed on. -/
theorem carves_request (bottom : s.arena? a = some arena)
    (power : Size.isPowerOfTwo arena.alignment = true) (size : Size) :
    ∃ arena', s.arena? (request a size).state = some arena' ∧
      Carves arena size (request a size).answer.toOption arena' := by
  by_cases zero : size = 0
  · rw [zero, request_zero]
    exact ⟨arena, bottom, .refused⟩
  · obtain ⟨arena', bottom', carves⟩ := carves_allocate bottom power size
    refine ⟨arena', by rwa [state_request zero], ?_⟩
    cases answer : (Backend.allocate a size).answer with
    | none => rwa [request_of_none zero answer, Except.toOption, ← answer]
    | some block => rwa [request_of_some zero answer, Except.toOption, ← answer]

/-- Nothing is given back to an arena. -/
theorem arena?_release (a : s.State) (block : Address) (size : Size) :
    s.arena? (Backend.release a block size) = s.arena? a := by
  induction s with
  | heap | plain | skewed | arena => rfl
  | failing inner ih => exact ih a.inner
  | counting inner ih => exact ih a.inner
  | shared inner ih => exact ih a.inner

theorem resizes_byCopy (bottom : s.arena? a = some arena)
    (power : Size.isPowerOfTwo arena.alignment = true) (memory : Memory) (block : Address)
    (oldSize newSize : Size) :
    let r := reallocateByCopy a memory block oldSize newSize
    ∃ arena', s.arena? r.state.1 = some arena' ∧
      Resizes arena memory block oldSize newSize r.answer arena' r.state.2 := by
  obtain ⟨arena', bottom', carves⟩ := carves_allocate bottom power newSize
  unfold reallocateByCopy
  cases answer : (Backend.allocate a newSize).answer with
  | none =>
    rw [answer] at carves
    cases carves
    simp only [answer]
    exact ⟨arena, bottom', .refused⟩
  | some fresh =>
    rw [answer] at carves
    simp only [answer]
    exact ⟨arena', by rw [arena?_release, bottom'], .moved carves⟩

/-- No allocator over an arena has a resize of its own. -/
theorem resizes_reallocate (bottom : s.arena? a = some arena)
    (power : Size.isPowerOfTwo arena.alignment = true) (memory : Memory) (block : Address)
    (oldSize newSize : Size) :
    let r := Allocator.reallocate a memory block oldSize newSize
    ∃ arena', s.arena? r.state.1 = some arena' ∧
      Resizes arena memory block oldSize newSize r.answer arena' r.state.2 := by
  induction s with
  | heap | plain | skewed => cases bottom
  | arena => exact resizes_byCopy (s := .arena) bottom power memory block oldSize newSize
  | failing inner => exact resizes_byCopy (s := .failing inner) bottom power _ _ _ _
  | counting inner => exact resizes_byCopy (s := .counting inner) bottom power _ _ _ _
  | shared inner ih => exact ih (a := a.inner) bottom

/-- **A resize over an arena is a request and a copy**, whichever way is taken. -/
theorem resizes_resizeBy (bottom : s.arena? a = some arena)
    (power : Size.isPowerOfTwo arena.alignment = true) (way : ResizeWay) (memory : Memory)
    (block : Address) (oldSize newSize : Size) :
    let r := resizeBy way a memory block oldSize newSize
    ∃ arena', s.arena? r.state.1 = some arena' ∧
      Resizes arena memory block oldSize newSize r.answer arena' r.state.2 := by
  cases way with
  | direct => exact resizes_reallocate bottom power memory block oldSize newSize
  | byCopy => exact resizes_byCopy bottom power memory block oldSize newSize
  | checked =>
    rcases resizeBy_checked a memory block oldSize newSize with ⟨answer, state⟩ | ⟨answer, state⟩
    · simp only [answer, state]
      exact ⟨arena, bottom, .refused⟩
    · simp only [answer, state]
      exact resizes_reallocate bottom power memory block oldSize newSize

/-! ## 2. Orders -/

/-- A reset is no question: only who has the allocator alone may order it. -/
theorem query_reset (a : s.State) : Allocator.query a .reset = .error (.invalidKey .reset) := by
  induction s with
  | heap | plain | skewed | arena => rfl
  | failing inner ih => exact ih a.inner
  | counting inner ih => exact ih a.inner
  | shared inner ih => exact ih a.inner

/-- **An order resets the arena or leaves it alone.**  It resets it when the key says so and the
order gets through, which a shared allocator does not let it. -/
theorem arena?_control (bottom : s.arena? a = some arena) (key : ControlKey) :
    s.arena? (Allocator.control a key).state =
      some (if key = .reset ∧ (Allocator.control a key).answer.toBool then arena.reset.state
        else arena) := by
  induction s with
  | heap | plain | skewed => cases bottom
  | arena =>
    cases bottom
    cases key <;> rfl
  | failing inner ih => exact ih (a := a.inner) bottom
  | counting inner ih => exact ih (a := a.inner) bottom
  | shared inner =>
    have refused : ¬(key = .reset ∧ (Allocator.query a key).toBool = true) := by
      rintro ⟨rfl, answered⟩
      rw [query_reset] at answered
      cases answered
    exact bottom.trans (congrArg some (if_neg refused).symm)

theorem arena?_reset? {r : Reply s.State Unit} (bottom : s.arena? a = some arena)
    (done : s.reset? a = some r) : s.arena? r.state = some arena.reset.state := by
  induction s with
  | heap | plain | skewed | failing | counting => cases done
  | arena =>
    cases bottom
    cases done
    rfl
  | shared inner ih =>
    obtain ⟨r', done', rfl⟩ := Option.map_eq_some_iff.mp done
    exact ih (a := a.inner) bottom done'

theorem arena?_setBudget? {a' : s.State} {budget : Option Nat}
    (done : s.setBudget? budget a = some a') : s.arena? a' = s.arena? a := by
  induction s with
  | heap | arena | plain | skewed => cases done
  | failing inner =>
    cases done
    rfl
  | counting inner ih =>
    obtain ⟨inner', done', rfl⟩ := Option.map_eq_some_iff.mp done
    exact ih (a := a.inner) done'
  | shared inner ih =>
    obtain ⟨inner', done', rfl⟩ := Option.map_eq_some_iff.mp done
    exact ih (a := a.inner) done'

end Stack

end ReservedArray
