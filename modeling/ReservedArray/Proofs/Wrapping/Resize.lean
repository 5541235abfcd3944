/-
# Resizing without a resize

An allocator without a resize of its own asks for another block, copies what both blocks can hold,
and gives the old one back.  The request comes first, so there are two ways this can go.  It is
refused (`resize_of_none`): then nothing was copied and nothing given back.  Or there is another
block (`resize_of_some`), with the leading bytes of the old one.

Inside wrappers the counters have to come out right as well, in every layer.  What is held is
covered by all of them (`InUse.covers`), so none is taken below zero when the old block goes back,
and in the end each says that one block took the place of another: `resize_all_or_nothing`.
-/
import Mathlib
import ReservedArray.Proofs.Wrapping.Layers

namespace ReservedArray

variable {α : Type} [Allocator α]

/-! ## 1. The two ways -/

namespace Memory

variable {memory : Memory} {source target length : Nat}

theorem byte_copy_inside {i : Nat} (h : i < length) :
    (memory.copy source target length).byte (target + i) = memory.byte (source + i) := by
  rw [copy, byte_overwrite_inside h]

theorem byte_copy_outside {x : Address} (h : x < target ∨ target + length ≤ x) :
    (memory.copy source target length).byte x = memory.byte x := by
  rw [copy, byte_overwrite_outside h]

end Memory

section Ways

variable {a : α} {memory : Memory} {block : Address} {oldSize newSize : Size}

/-- Nothing is copied and nothing goes back. -/
theorem resize_of_none (emulates : Emulates α) (positive : newSize ≠ 0)
    (refused : (Backend.allocate a newSize).answer = none) :
    resize a memory block oldSize newSize =
      { answer := .error (.exhausted newSize)
        state := ((Backend.allocate a newSize).state, memory)
        events :=
          (Backend.allocate a newSize).events ++ [.reallocationFailed oldSize newSize] } := by
  simp only [resize, if_neg positive, emulates a, reallocateByCopy, refused]

/-- The leading bytes are copied, and the old block goes back. -/
theorem resize_of_some (emulates : Emulates α) (positive : newSize ≠ 0) {fresh : Address}
    (granted : (Backend.allocate a newSize).answer = some fresh) :
    resize a memory block oldSize newSize =
      { answer := .ok fresh
        state := (Backend.release (Backend.allocate a newSize).state block oldSize,
          memory.copy block fresh (min oldSize.toNat newSize.toNat))
        events := (Backend.allocate a newSize).events } := by
  simp only [resize, if_neg positive, emulates a, reallocateByCopy, granted]

end Ways

/-! ## 2. Held blocks -/

/-- **A held block is resized or it stays**, whatever the two sizes are.  Let an allocator resize by
copying, or be inside at least one wrapper.  Then a resize of a held block

* is turned away for its size when the new size is zero, and then nothing was called;
* fails otherwise when, and only when, the outermost wrapper refuses a request of the new size: then
  nothing goes back, no byte and no counter has changed, and the old block is still held;
* succeeds otherwise: the new block begins with the bytes of the old one, as many as both hold, and
  no other byte has changed; the old block went back once, with its size, which every counter
  covered; each counter says that one block took the place of another; and the new block is held. -/
theorem resize_all_or_nothing {ws : List Wrapper} (inside : ws = [] → Emulates α)
    {w₀ w : Wrapped α ws} {K : Multiset Span} {block : Address} {oldSize : Size}
    (held : InUse w₀ w (⟨block, oldSize⟩ ::ₘ K)) (memory : Memory) (newSize : Size) :
    let asked := Backend.allocate w newSize
    let r := resize w memory block oldSize newSize
    (r.answer = .error .zeroSize ↔ newSize = 0) ∧
    (newSize = 0 → r.state = (w, memory) ∧ r.events = []) ∧
    (newSize ≠ 0 →
      (r.answer = .error (.exhausted newSize) ↔ asked.answer = none) ∧
      (asked.answer = none →
        r.state = (asked.state, memory) ∧
        r.events = asked.events ++ [.reallocationFailed oldSize newSize] ∧
        Wrapped.counters r.state.1 = w.counters ∧
        InUse w₀ r.state.1 (⟨block, oldSize⟩ ::ₘ K)) ∧
      ∀ fresh, asked.answer = some fresh →
        r.answer = .ok fresh ∧
        r.state.1 = Backend.release asked.state block oldSize ∧
        r.events = asked.events ∧
        (∀ i < min oldSize.toNat newSize.toNat,
          r.state.2.byte (fresh + i) = memory.byte (block + i)) ∧
        (∀ x, x < fresh ∨ fresh + min oldSize.toNat newSize.toNat ≤ x →
          r.state.2.byte x = memory.byte x) ∧
        (∀ n ∈ w.counters, n.Covers oldSize) ∧
        Wrapped.counters r.state.1 = w.counters.map (·.resize oldSize newSize) ∧
        InUse w₀ r.state.1 (⟨fresh, newSize⟩ ::ₘ K)) := by
  intro asked r
  have emulates := Wrapped.emulates inside
  by_cases zero : newSize = 0
  · have turned : r = { answer := .error .zeroSize, state := (w, memory) } := by
      rw [← resize_zero, ← zero]
    rw [turned]
    exact ⟨iff_of_true rfl zero, fun _ => ⟨rfl, rfl⟩, fun positive => absurd zero positive⟩
  cases answer : asked.answer with
  | none =>
    have failed : r = _ := resize_of_none emulates zero answer
    rw [failed]
    refine ⟨iff_of_false (by simp) zero, fun is => absurd is zero, fun _ => ?_⟩
    exact ⟨iff_of_true rfl rfl,
      fun _ => ⟨rfl, rfl, Wrapped.counters_allocate_none answer, held.refused answer⟩, nofun⟩
  | some fresh =>
    have moved : r = _ := resize_of_some emulates zero answer
    rw [moved]
    refine ⟨iff_of_false (by simp) zero, fun is => absurd is zero, fun _ => ?_⟩
    refine ⟨iff_of_false (by simp) (by simp), nofun, ?_⟩
    rintro _ ⟨⟩
    have covered := held.covers (Multiset.mem_cons_self _ _)
    have instead : InUse w₀ asked.state (⟨block, oldSize⟩ ::ₘ ⟨fresh, newSize⟩ ::ₘ K) := by
      rw [Multiset.cons_swap]
      exact held.granted answer
    refine ⟨rfl, rfl, rfl, fun i inside => Memory.byte_copy_inside inside,
      fun x outside => Memory.byte_copy_outside outside, covered, ?_, instead.released⟩
    rw [Wrapped.counters_release, Wrapped.counters_allocate_some answer, List.map_map]
    exact List.map_congr_left fun n mem => Counters.giveBack_obtain (covered n mem)

/-- A counted arena behind a budget of two requests, which is counted again. -/
def rationedArena : Wrapped Arena [.counting, .failing, .counting] :=
  { inner := { inner := { inner := ⟨4090, 600, 0, 16⟩ }, budget := some 2 } }

/-- Its first block is out. -/
def oneBlockOut : Wrapped Arena [.counting, .failing, .counting] :=
  (Backend.allocate rationedArena 40).state

/-- Every byte of memory is different from the next. -/
def stripes : Memory := ⟨fun x => x.toUInt8⟩

/-- The block can be made smaller once; to make it larger again there is no budget left. -/
theorem resize_all_or_nothing_within_budget :
    let r := resize oneBlockOut stripes 4096 40 8
    let r' := resize r.state.1 r.state.2 4144 8 100
    r.answer = .ok 4144 ∧
    (∀ i < 8, r.state.2.byte (4144 + i) = stripes.byte (4096 + i)) ∧
    Wrapped.counters r.state.1 = [⟨⟨1, 8⟩, 2, 1⟩, ⟨⟨1, 8⟩, 2, 1⟩] ∧
    r'.answer = .error (.exhausted 100) ∧
    r'.state.2 = r.state.2 ∧
    Wrapped.counters r'.state.1 = Wrapped.counters r.state.1 := by
  intro r r'
  have held : InUse rationedArena oneBlockOut (⟨4096, 40⟩ ::ₘ 0) := InUse.start.granted (by decide)
  obtain ⟨-, -, first⟩ := resize_all_or_nothing (fun bare => by cases bare) held stripes 8
  obtain ⟨-, -, moved⟩ := first (by decide)
  obtain ⟨answer, -, -, bytes, -, -, counters, held'⟩ := moved 4144 (by decide)
  obtain ⟨-, -, second⟩ :=
    resize_all_or_nothing (fun bare => by cases bare) held' r.state.2 100
  obtain ⟨fails, stays, -⟩ := second (by decide)
  have refused : (Backend.allocate r.state.1 100).answer = none := by decide
  obtain ⟨state, -, counters', -⟩ := stays refused
  have unchanged := congrArg Prod.snd state
  exact ⟨answer, bytes, counters.trans (by decide), fails.mpr refused, unchanged, counters'⟩

end ReservedArray
