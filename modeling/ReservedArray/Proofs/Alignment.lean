/-
# Allocators that keep their promise

An allocator states how its blocks are aligned, and arrays are accepted for what it states.  It
keeps this promise (`Aligns`) when every block is at a multiple of it, and the promise is a power of
two that never changes.

The heap keeps it, and so does an arena of any alignment; and every wrapper keeps the promise of the
allocator inside (`Stack.aligns`).  What is kept in one call is kept in a run of operations on any
number of arrays (`Aligns.steps`, `Aligns.run`).
-/
import Mathlib
import ReservedArray.Allocator.Stack
import ReservedArray.Proofs.Arena.Layout
import ReservedArray.Proofs.Conservation.Ensemble
import ReservedArray.Proofs.Demand.Supply

namespace ReservedArray

variable {α κ τ ι : Type} {T : ι → Type}

open Entry (requests)

/-! ## 1. The promise -/

/-- Every block is at a multiple of the alignment that the allocator states, which is a power of two
and stays the same. -/
structure Aligns (α : Type) [Allocator α] (good : α → Prop) : Prop where
  power {a : α} : good a → Size.isPowerOfTwo (Allocator.alignment a) = true
  granted {a : α} {size : Size} {block : Address} : good a →
    (Backend.allocate a size).answer = some block →
    block % (Allocator.alignment a).toNat = 0
  allocate {a : α} (size : Size) : good a → good (Backend.allocate a size).state ∧
    Allocator.alignment (Backend.allocate a size).state = Allocator.alignment a
  release {a : α} (block : Address) (size : Size) : good a →
    good (Backend.release a block size) ∧
      Allocator.alignment (Backend.release a block size) = Allocator.alignment a

namespace Aligns

variable [Allocator α] {good : α → Prop}

/-- **What the allocator keeps in each call it keeps in all of them.** -/
theorem steps {ops : ElementOps κ τ} {e e' : Env α κ τ} {t : List (Entry τ)}
    (aligns : Aligns α good) (h : Env.Steps ops e t e') (start : good e.allocator) :
    good e'.allocator ∧ Allocator.alignment e'.allocator = Allocator.alignment e.allocator ∧
      ∀ q ∈ requests t, ∀ block, q.2 = some block →
        block % (Allocator.alignment e.allocator).toNat = 0 := by
  induction h with
  | refl => exact ⟨start, rfl, nofun⟩
  | @head e₁ e₂ e₃ t t' step _ ih =>
    have first : good e₂.allocator ∧
        Allocator.alignment e₂.allocator = Allocator.alignment e₁.allocator ∧
        ∀ q ∈ requests t, ∀ block, q.2 = some block →
          block % (Allocator.alignment e₁.allocator).toNat = 0 := by
      rcases step.allocator_cases with
        ⟨none, same⟩ | ⟨block, size, none, released⟩ | ⟨size, -, one, state⟩
      · rw [none, same]
        exact ⟨start, rfl, nofun⟩
      · rw [none, released]
        exact ⟨(aligns.release block size start).1, (aligns.release block size start).2, nofun⟩
      · rw [one, state]
        refine ⟨(aligns.allocate size start).1, (aligns.allocate size start).2, ?_⟩
        exact List.forall_mem_singleton.mpr fun block granted => aligns.granted start granted
    obtain ⟨good', same', rest⟩ := ih first.1
    rw [Entry.requests_append]
    rw [first.2.1] at same' rest
    exact ⟨good', same', List.forall_mem_append.mpr ⟨first.2.2, rest⟩⟩

/-- So it keeps it in every run of an ensemble. -/
theorem run (aligns : Aligns α good) {allocator : α} (start : good allocator)
    (options : (k : ι) → ArrayOptions κ (T k)) (context : κ) (turns : List (Turn T)) :
    let σ := ({ allocator, context } : Ensemble α κ T).run options turns
    good σ.allocator ∧ Allocator.alignment σ.allocator = Allocator.alignment allocator := by
  refine (Ensemble.run_induction (P := fun σ => AllSound options σ.arrays ∧
    good σ.allocator ∧ Allocator.alignment σ.allocator = Allocator.alignment allocator)
    And.left ?_ ?_ turns).2
  · rintro σ σ' t advance ⟨-, good, same⟩
    refine ⟨advance.sound, ?_⟩
    cases advance with
    | still => exact ⟨good, same⟩
    | called steps =>
      obtain ⟨good', same', -⟩ := aligns.steps steps good
      exact ⟨good', same'.trans same⟩
  · exact ⟨fun _ mem => (List.not_mem_nil mem).elim, start, rfl⟩

/-- An allocator that counts keeps the promise of the one inside. -/
theorem counting (aligns : Aligns α good) : Aligns (Counting α) fun c => good c.inner where
  power start := aligns.power start
  granted start granted := aligns.granted start ((Gauge.answer_counting _ _).symm.trans granted)
  allocate {c} size start := by
    have inner : (Backend.allocate c size).state.inner =
        (Backend.allocate c.inner size).state := by
      simp only [Backend.allocate, Counting.allocate]
      split <;> rfl
    show good (Backend.allocate c size).state.inner ∧
      Allocator.alignment (Backend.allocate c size).state.inner = _
    rw [inner]
    exact aligns.allocate size start
  release block size start := aligns.release block size start

/-- So does one with a budget, which may answer without it. -/
theorem failing (aligns : Aligns α good) : Aligns (Failing α) fun f => good f.inner where
  power start := aligns.power start
  granted {f size block} start granted := by
    rcases f.allocate_cases size with ⟨refused, -⟩ | ⟨passed, -⟩
    · cases refused.symm.trans granted
    · exact aligns.granted start (passed.symm.trans granted)
  allocate {f} size start := by
    show good (Backend.allocate f size).state.inner ∧
      Allocator.alignment (Backend.allocate f size).state.inner = _
    rcases f.allocate_cases size with ⟨-, inner⟩ | ⟨-, inner⟩
    · rw [inner]
      exact ⟨start, rfl⟩
    · rw [inner]
      exact aligns.allocate size start
  release block size start := aligns.release block size start

/-- And one that is shared. -/
theorem shared (aligns : Aligns α good) : Aligns (Shared α) fun s => good s.inner where
  power start := aligns.power start
  granted start granted := aligns.granted start granted
  allocate size start := aligns.allocate size start
  release block size start := aligns.release block size start

end Aligns

/-! ## 2. Who keeps it -/

/-- The heap hands out multiples of sixteen. -/
theorem Heap.aligns : Aligns Heap fun heap => heap.next % 16 = 0 where
  power _ := by
    show Size.isPowerOfTwo defaultAlignment = true
    decide
  granted {heap size block} start granted := by
    simp only [Backend.allocate, Heap.allocate] at granted
    split at granted
    · cases granted
      exact start
    · cases granted
  allocate {heap} size start := by
    refine ⟨?_, rfl⟩
    simp only [Backend.allocate, Heap.allocate]
    split
    · exact (Nat.add_mul_mod_self_right _ _ 16).trans start
    · exact start
  release block size start := ⟨start, rfl⟩

/-- An arena hands out multiples of its alignment. -/
theorem Arena.aligns : Aligns Arena fun arena => Size.isPowerOfTwo arena.alignment = true where
  power start := start
  granted {arena size block} start granted := by
    have carves := carves_allocate start size
    change (arena.allocate size).answer = some block at granted
    rw [granted] at carves
    generalize (arena.allocate size).state = arena' at carves
    cases carves with
    | carved placed =>
      rw [placed]
      exact roundUp_mod _ _
  allocate {arena} size start := by
    show Size.isPowerOfTwo (arena.allocate size).state.alignment = true ∧
      (arena.allocate size).state.alignment = arena.alignment
    have carves := carves_allocate start size
    generalize (arena.allocate size).state = arena' at *
    generalize (arena.allocate size).answer = answer at *
    cases carves with
    | refused | carved => exact ⟨start, rfl⟩
  release block size start := ⟨start, rfl⟩

/-- At the bottom there is a heap or an arena, as they are made; the two samples promise nothing. -/
def Stack.Regular : (s : Stack) → s.State → Prop
  | heap, h => h.next % 16 = 0
  | arena, a => Size.isPowerOfTwo a.alignment = true
  | failing inner, f => inner.Regular f.inner
  | counting inner, c => inner.Regular c.inner
  | shared inner, s => inner.Regular s.inner
  | plain, _ | skewed, _ => False

/-- **Every stack over a heap or an arena keeps its promise.** -/
theorem Stack.aligns (s : Stack) : Aligns s.State s.Regular := by
  induction s with
  | heap => exact Heap.aligns
  | arena => exact Arena.aligns
  | failing inner ih => exact ih.failing
  | counting inner ih => exact ih.counting
  | shared inner ih => exact ih.shared
  | plain | skewed => exact ⟨nofun, nofun, nofun, nofun⟩

/-- An arena that can be made is one of these. -/
theorem Arena.regular_of_create {base size : Size} {config : ArenaConfig} {arena : Arena}
    (created : Arena.create base size config = .ok arena) : Stack.arena.Regular arena :=
  (Arena.laid_of_create created).2.power

end ReservedArray
