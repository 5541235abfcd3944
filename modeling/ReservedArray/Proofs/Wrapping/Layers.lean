/-
# Wrappers in layers

Wrappers that count and wrappers with a budget can be put around any allocator, in any number and
order.  `Wrapped α ws` is the allocator `α` inside the wrappers `ws`, the outermost first; its
`core` is the allocator inside.

* A wrapper has no resize of its own, so inside at least one of them a resize is a copy
  (`Wrapped.emulates`).
* Every request that comes back with a block went through all layers, and every block that is given
  back goes through all of them, so all counters move together (`Wrapped.counters_allocate_some`,
  `Wrapped.counters_release`).
* As long as callers give back only what they hold, all counters are what they were at first and
  what is held on top of it (`InUse.counters_eq`).  So no counter is ever taken below zero
  (`InUse.covers`).
-/
import Mathlib
import ReservedArray.Proofs.Arena.Session
import ReservedArray.Proofs.Gauge
import ReservedArray.Proofs.Wrapping.Dialogue

namespace ReservedArray

variable {α : Type}

/-! ## 1. Wrappers -/

inductive Wrapper where
  | failing
  | counting
deriving DecidableEq

/-- The states of an allocator inside wrappers, the outermost first. -/
@[reducible] def Wrapped (α : Type) : List Wrapper → Type
  | [] => α
  | .failing :: ws => Failing (Wrapped α ws)
  | .counting :: ws => Counting (Wrapped α ws)

namespace Wrapped

/-- Inside wrappers it is an allocator still. -/
@[reducible] def allocator [Allocator α] : (ws : List Wrapper) → Allocator (Wrapped α ws)
  | [] => inferInstanceAs (Allocator α)
  | .failing :: ws => have := allocator ws; inferInstanceAs (Allocator (Failing (Wrapped α ws)))
  | .counting :: ws => have := allocator ws; inferInstanceAs (Allocator (Counting (Wrapped α ws)))

instance instAllocator [Allocator α] (ws : List Wrapper) : Allocator (Wrapped α ws) := allocator ws

/-- The allocator inside. -/
def core : {ws : List Wrapper} → Wrapped α ws → α
  | [], a => a
  | .failing :: _, f => core f.inner
  | .counting :: _, c => core c.inner

/-- No wrapper has a budget. -/
def Unlimited : {ws : List Wrapper} → Wrapped α ws → Prop
  | [], _ => True
  | .failing :: _, f => f.budget = none ∧ Unlimited f.inner
  | .counting :: _, c => Unlimited c.inner

/-- The budget of the wrapper at a place is replaced, if it has one. -/
def setBudget (budget : Option Nat) : {ws : List Wrapper} → Nat → Wrapped α ws → Wrapped α ws
  | [], _, a => a
  | .failing :: _, 0, f => Failing.setBudget f budget
  | .counting :: _, 0, c => c
  | .failing :: _, n + 1, f => { f with inner := setBudget budget n f.inner }
  | .counting :: _, n + 1, c => { c with inner := setBudget budget n c.inner }

end Wrapped

/-- A resize is always by a copy. -/
def Emulates (α : Type) [Allocator α] : Prop :=
  ∀ (a : α) (memory : Memory) (block : Address) (oldSize newSize : Size),
    Allocator.reallocate a memory block oldSize newSize =
      reallocateByCopy a memory block oldSize newSize

theorem Arena.emulates : Emulates Arena := fun _ _ _ _ _ => rfl

/-- **No wrapper has a resize of its own.** -/
theorem Wrapped.emulates [Allocator α] {ws : List Wrapper} (inside : ws = [] → Emulates α) :
    Emulates (Wrapped α ws) := by
  match ws with
  | [] => exact inside rfl
  | .failing :: _ | .counting :: _ => exact fun _ _ _ _ _ => rfl

/-! ## 2. Counters -/

/-- The four numbers of a wrapper that counts. -/
@[ext]
structure Counters where
  live : Tally
  allocations : Nat
  releases : Nat
deriving DecidableEq

namespace Counters

/-- A block is handed out. -/
def obtain (n : Counters) (size : Size) : Counters :=
  { n with live := n.live.obtain size, allocations := n.allocations + 1 }

/-- A block goes back. -/
def giveBack (n : Counters) (size : Size) : Counters :=
  { n with live := n.live.giveBack size, releases := n.releases + 1 }

/-- A block of this size can go back without taking a number below zero. -/
def Covers (n : Counters) (size : Size) : Prop :=
  1 ≤ n.live.blocks ∧ size.toNat ≤ n.live.bytes

/-- A block of the new size is out instead of one of the old size. -/
def resize (n : Counters) (oldSize newSize : Size) : Counters where
  live := ⟨n.live.blocks, n.live.bytes - oldSize.toNat + newSize.toNat⟩
  allocations := n.allocations + 1
  releases := n.releases + 1

/-- These blocks are out as well, and so many others were out and have gone back. -/
def plus (n : Counters) (H : Multiset Span) (gone : Nat) : Counters where
  live := ⟨n.live.blocks + Multiset.card H, n.live.bytes + (H.map fun b => b.size.toNat).sum⟩
  allocations := n.allocations + Multiset.card H + gone
  releases := n.releases + gone

variable {n : Counters} {H : Multiset Span} {gone : Nat}

@[simp] theorem plus_zero (n : Counters) : n.plus 0 0 = n := rfl

theorem obtain_plus (b : Span) : (n.plus H gone).obtain b.size = n.plus (b ::ₘ H) gone := by
  ext <;> simp [plus, obtain, Tally.obtain] <;> omega

theorem giveBack_plus (b : Span) :
    (n.plus (b ::ₘ H) gone).giveBack b.size = n.plus H (gone + 1) := by
  ext <;> simp [plus, giveBack, Tally.giveBack] <;> omega

/-- One block is handed out, and then another one goes back. -/
theorem swap_plus (block fresh : Address) (oldSize newSize : Size) :
    ((n.plus ({⟨block, oldSize⟩} + H) gone).obtain newSize).giveBack oldSize =
      n.plus ({⟨fresh, newSize⟩} + H) (gone + 1) := by
  rw [Multiset.singleton_add, Multiset.singleton_add, obtain_plus ⟨fresh, newSize⟩,
    Multiset.cons_swap]
  exact giveBack_plus ⟨block, oldSize⟩

theorem covers_plus {b : Span} (held : b ∈ H) : (n.plus H gone).Covers b.size := by
  obtain ⟨K, rfl⟩ := Multiset.exists_cons_of_mem held
  constructor <;> simp [plus] <;> omega

/-- Where the old block is covered, taking the new one and giving the old one back is a resize. -/
theorem giveBack_obtain {oldSize newSize : Size} (covered : n.Covers oldSize) :
    (n.obtain newSize).giveBack oldSize = n.resize oldSize newSize := by
  obtain ⟨-, bytes⟩ := covered
  ext <;> simp [obtain, giveBack, resize, Tally.obtain, Tally.giveBack]
  omega

end Counters

namespace Wrapped

/-- The numbers of all wrappers that count, from the outermost. -/
def counters : {ws : List Wrapper} → Wrapped α ws → List Counters
  | [], _ => []
  | .failing :: _, f => counters f.inner
  | .counting :: _, c => ⟨⟨c.liveBlocks, c.liveBytes⟩, c.allocations, c.releases⟩ :: counters c.inner

variable [Allocator α] {ws : List Wrapper}

/-- A refused request counts nowhere, whichever layer refused it. -/
theorem counters_allocate_none {w : Wrapped α ws} {size : Size}
    (h : (Backend.allocate w size).answer = none) :
    counters (Backend.allocate w size).state = counters w := by
  induction ws with
  | nil => rfl
  | cons wrapper ws ih =>
    cases wrapper with
    | failing =>
      rcases Failing.allocate_cases w size with ⟨-, inner⟩ | ⟨answer, inner⟩
      · exact congrArg (counters : Wrapped α ws → _) inner
      · exact (congrArg (counters : Wrapped α ws → _) inner).trans (ih (answer.symm.trans h))
    | counting =>
      rw [Gauge.answer_counting] at h
      simp [Backend.allocate, Counting.allocate, h, counters, ih h]

/-- **A block that is handed out counts in every layer.** -/
theorem counters_allocate_some {w : Wrapped α ws} {size : Size} {block : Address}
    (h : (Backend.allocate w size).answer = some block) :
    counters (Backend.allocate w size).state = (counters w).map (·.obtain size) := by
  induction ws with
  | nil => rfl
  | cons wrapper ws ih =>
    cases wrapper with
    | failing =>
      rcases Failing.allocate_cases w size with ⟨answer, -⟩ | ⟨answer, inner⟩
      · cases answer.symm.trans h
      · exact (congrArg (counters : Wrapped α ws → _) inner).trans (ih (answer.symm.trans h))
    | counting =>
      rw [Gauge.answer_counting] at h
      simp [Backend.allocate, Counting.allocate, h, counters, ih h, Counters.obtain, Tally.obtain]

/-- **A block that goes back counts in every layer.** -/
theorem counters_release (w : Wrapped α ws) (block : Address) (size : Size) :
    counters (Backend.release w block size) = (counters w).map (·.giveBack size) := by
  induction ws with
  | nil => rfl
  | cons wrapper ws ih =>
    cases wrapper with
    | failing => exact ih w.inner
    | counting => exact congrArg (_ :: ·) (ih w.inner)

theorem counters_control (w : Wrapped α ws) (key : ControlKey) :
    counters (Allocator.control w key).state = counters w := by
  induction ws with
  | nil => rfl
  | cons wrapper ws ih =>
    cases wrapper with
    | failing => exact ih w.inner
    | counting => exact congrArg (_ :: ·) (ih w.inner)

omit [Allocator α] in
theorem counters_setBudget (budget : Option Nat) (n : Nat) (w : Wrapped α ws) :
    counters (setBudget budget n w) = counters w := by
  induction ws generalizing n with
  | nil => rfl
  | cons wrapper ws ih =>
    cases n with
    | zero => cases wrapper <;> rfl
    | succ n =>
      cases wrapper with
      | failing => exact ih n w.inner
      | counting => exact congrArg (_ :: ·) (ih n w.inner)

/-- A copying resize that is refused counts nowhere. -/
theorem counters_reallocateByCopy_none {w : Wrapped α ws} {memory : Memory} {block : Address}
    {oldSize newSize : Size} (h : (Backend.allocate w newSize).answer = none) :
    counters (reallocateByCopy w memory block oldSize newSize).state.1 = counters w := by
  simp only [reallocateByCopy, h]
  exact counters_allocate_none h

/-- A copying resize counts in every layer as a block more, and then one less. -/
theorem counters_reallocateByCopy_some {w : Wrapped α ws} {memory : Memory}
    {block fresh : Address} {oldSize newSize : Size}
    (h : (Backend.allocate w newSize).answer = some fresh) :
    counters (reallocateByCopy w memory block oldSize newSize).state.1 =
      (counters w).map fun n => (n.obtain newSize).giveBack oldSize := by
  simp only [reallocateByCopy, h]
  rw [counters_release, counters_allocate_some h, List.map_map]
  rfl

end Wrapped

/-! ## 3. Blocks that are out -/

namespace Call

/-- The blocks that a caller must hold to make the call. -/
def uses : Call → Multiset Span
  | release block size => {⟨block, size⟩}
  | reallocate block oldSize _ | reallocateByCopy block oldSize _ => {⟨block, oldSize⟩}
  | allocate _ | query _ | control _ | alignment | write .. => 0

/-- The block in an answer. -/
def Answer.block? : Answer → Option Address
  | .block place => place
  | .value _ | .alignment _ | .nothing => none

/-- The blocks that the caller holds for it afterwards. -/
def yields (answer : Answer) : Call → Multiset Span
  | allocate size =>
    match answer.block? with
    | some block => {⟨block, size⟩}
    | none => 0
  | reallocate block oldSize newSize | reallocateByCopy block oldSize newSize =>
    match answer.block? with
    | some fresh => {⟨fresh, newSize⟩}
    | none => {⟨block, oldSize⟩}
  | release _ _ | query _ | control _ | alignment | write .. => 0

end Call

/-- A call with what is held, when it is answered so, leads to this being held. -/
def Handles (call : Call) (answer : Call.Answer) (H H' : Multiset Span) : Prop :=
  ∃ K, H = call.uses + K ∧ H' = call.yields answer + K

section Use

variable [Allocator α] {ws : List Wrapper} {w w₀ : Wrapped α ws} {H H' : Multiset Span}

/-- **Every call keeps the counters at what is held.** -/
theorem Handles.counters_make {call : Call} {memory : Memory}
    (h : Handles call (call.make w memory).answer H H') {first : List Counters} {gone : Nat}
    (before : w.counters = first.map (·.plus H gone)) :
    ∃ gone', Wrapped.counters (call.make w memory).state.1 = first.map (·.plus H' gone') := by
  obtain ⟨K, rfl, rfl⟩ := h
  have byCopy (block : Address) (oldSize newSize : Size)
      (before : w.counters = first.map (·.plus ({⟨block, oldSize⟩} + K) gone)) :
      let call := Call.reallocateByCopy block oldSize newSize
      ∃ gone', Wrapped.counters (call.make w memory).state.1 =
        first.map (·.plus (call.yields (call.make w memory).answer + K) gone') := by
    simp only [Call.make, answer_reallocateByCopy]
    cases answer : (Backend.allocate w newSize).answer with
    | none => exact ⟨gone, (Wrapped.counters_reallocateByCopy_none answer).trans before⟩
    | some fresh =>
      refine ⟨gone + 1, (Wrapped.counters_reallocateByCopy_some answer).trans ?_⟩
      rw [before, List.map_map]
      exact List.map_congr_left fun n _ => Counters.swap_plus _ _ _ _
  cases call with
  | allocate size =>
    rw [Call.uses, zero_add] at before
    refine ⟨gone, ?_⟩
    simp only [Call.make]
    cases answer : (Backend.allocate w size).answer with
    | none =>
      rw [Wrapped.counters_allocate_none answer, before]
      simp [Call.yields, Call.Answer.block?]
    | some block =>
      rw [Wrapped.counters_allocate_some answer, before, List.map_map]
      exact List.map_congr_left fun n _ => Counters.obtain_plus ⟨block, size⟩
  | release block size =>
    refine ⟨gone + 1, ?_⟩
    simp only [Call.make, Call.yields, zero_add]
    rw [Wrapped.counters_release, before, List.map_map]
    exact List.map_congr_left fun n _ => Counters.giveBack_plus ⟨block, size⟩
  | reallocateByCopy block oldSize newSize => exact byCopy block oldSize newSize before
  | reallocate block oldSize newSize =>
    by_cases bare : ws = []
    · -- without a layer there is nothing to count
      subst bare
      obtain rfl : first = [] := List.map_eq_nil_iff.mp before.symm
      exact ⟨gone, rfl⟩
    · have copies := Wrapped.emulates (α := α) (absurd · bare) w memory block oldSize newSize
      simp only [Call.make, copies]
      exact byCopy block oldSize newSize before
  | query | alignment | write => exact ⟨gone, before⟩
  | control key => exact ⟨gone, (Wrapped.counters_control w key).trans before⟩

/-- Whatever is called and whatever budget is set: from `w₀` on, callers came to hold `H`, and gave
back and resized only what they held.  Memory may be anything at each call. -/
inductive InUse (w₀ : Wrapped α ws) : Wrapped α ws → Multiset Span → Prop
  | start : InUse w₀ w₀ 0
  | call {w : Wrapped α ws} {H H' : Multiset Span} {call : Call} (memory : Memory) :
      InUse w₀ w H → Handles call (call.make w memory).answer H H' →
      InUse w₀ (call.make w memory).state.1 H'
  | setBudget {w : Wrapped α ws} {H : Multiset Span} (budget : Option Nat) (n : Nat) :
      InUse w₀ w H → InUse w₀ (w.setBudget budget n) H

/-- **All counters are what they were at first, with what is held on top.** -/
theorem InUse.counters_eq (h : InUse w₀ w H) :
    ∃ gone, w.counters = w₀.counters.map (·.plus H gone) := by
  induction h with
  | start => exact ⟨0, by simp⟩
  | call memory _ handles ih =>
    obtain ⟨gone, before⟩ := ih
    exact handles.counters_make before
  | setBudget budget n _ ih =>
    obtain ⟨gone, before⟩ := ih
    exact ⟨gone, (Wrapped.counters_setBudget budget n _).trans before⟩

/-- **What is held can go back**: every counter covers it. -/
theorem InUse.covers (h : InUse w₀ w H) {b : Span} (held : b ∈ H) :
    ∀ n ∈ w.counters, n.Covers b.size := by
  obtain ⟨gone, eq⟩ := h.counters_eq
  rw [eq]
  intro n mem
  obtain ⟨n₀, -, rfl⟩ := List.mem_map.mp mem
  exact Counters.covers_plus held

/-- A request that is refused changes nothing about what is held. -/
theorem InUse.refused (h : InUse w₀ w H) {size : Size}
    (refused : (Backend.allocate w size).answer = none) :
    InUse w₀ (Backend.allocate w size).state H := by
  have handles : Handles (.allocate size) (.block (Backend.allocate w size).answer) H H := by
    rw [refused]
    exact ⟨H, (zero_add H).symm, (zero_add H).symm⟩
  exact h.call .zeroed handles

/-- A block that is handed out is held. -/
theorem InUse.granted (h : InUse w₀ w H) {size : Size} {block : Address}
    (granted : (Backend.allocate w size).answer = some block) :
    InUse w₀ (Backend.allocate w size).state (⟨block, size⟩ ::ₘ H) := by
  have handles : Handles (.allocate size) (.block (Backend.allocate w size).answer) H
      (⟨block, size⟩ ::ₘ H) := by
    rw [granted]
    exact ⟨H, (zero_add H).symm, rfl⟩
  exact h.call .zeroed handles

/-- A block that goes back is not held any more. -/
theorem InUse.released {block : Address} {size : Size} (h : InUse w₀ w (⟨block, size⟩ ::ₘ H)) :
    InUse w₀ (Backend.release w block size) H := by
  have handles : Handles (.release block size) .nothing (⟨block, size⟩ ::ₘ H) H :=
    ⟨H, rfl, (zero_add H).symm⟩
  exact h.call .zeroed handles

/-- Calls answered so lead from what is held to what is held, one after the other. -/
inductive Keeps : Multiset Span → List Call → List Call.Answer → Multiset Span → Prop
  | nil (H : Multiset Span) : Keeps H [] [] H
  | cons {H H' H'' : Multiset Span} {call : Call} {answer : Call.Answer} {calls : List Call}
      {answers : List Call.Answer} : Handles call answer H H' → Keeps H' calls answers H'' →
      Keeps H (call :: calls) (answer :: answers) H''

/-- A dialogue in which callers give back only what they hold. -/
theorem InUse.converse (h : InUse w₀ w H) {memory : Memory} {calls : List Call}
    (keeps : Keeps H calls (converse w memory calls).answer H') :
    InUse w₀ (converse w memory calls).state.1 H' := by
  induction calls generalizing w H memory with
  | nil =>
    cases keeps
    exact h
  | cons call calls ih =>
    cases keeps with
    | cons handles rest => exact ih (h.call memory handles) rest

end Use

end ReservedArray
