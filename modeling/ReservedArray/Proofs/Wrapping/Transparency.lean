/-
# Wrappers cannot be told from the allocator inside

A wrapper that counts, and a wrapper that has no budget, pass every call on.  One thing is not
passed on as it comes: they have no resize of their own, so a resize goes on as a request, a copy
and a release (`Call.emulated`).

One layer mirrors every call (`Failing.passesOn`, `Counting.passesOn`), so any number of them do
(`Wrapped.mirrors_core`), and with that whole dialogues (`Wrapped.converse_core`).  It follows that
no number and no order of wrappers changes where a block is placed: `wrappers_transparent`.
-/
import Mathlib
import ReservedArray.Proofs.Wrapping.Layers

namespace ReservedArray

variable {α β γ : Type} [Allocator α] [Allocator β] [Allocator γ]

/-! ## 1. One layer -/

/-- The call as a wrapper passes it on: a resize becomes a copying one. -/
def Call.emulated : Call → Call
  | reallocate block oldSize newSize => reallocateByCopy block oldSize newSize
  | call => call

@[simp] theorem Call.emulated_emulated (call : Call) : call.emulated.emulated = call.emulated := by
  cases call <;> rfl

/-- A view of a view mirrors what both of them mirror. -/
theorem Mirrors.comp {view : α → β} {view' : β → γ} {P : α → Prop} {P' : β → Prop}
    {call call' call'' : Call} (h : Mirrors view P call call')
    (h' : Mirrors view' P' call' call'') :
    Mirrors (view' ∘ view) (fun a => P a ∧ P' (view a)) call call'' := by
  rintro a memory ⟨holds, holds'⟩
  obtain ⟨same, keeps⟩ := h a memory holds
  obtain ⟨same', keeps'⟩ := h' (view a) memory holds'
  rw [same] at same' keeps'
  exact ⟨same', keeps, keeps'⟩

/-- What mirrors a call under a condition mirrors it under the same condition put otherwise. -/
theorem Mirrors.congr {view : α → β} {P Q : α → Prop} {call call' : Call}
    (h : Mirrors view P call call') (same : ∀ a, P a ↔ Q a) : Mirrors view Q call call' := by
  intro a memory holds
  obtain ⟨mirrored, keeps⟩ := h a memory ((same a).mpr holds)
  exact ⟨mirrored, (same _).mp keeps⟩

/-- As long as `P` holds, the allocator is what is seen of it with a layer around that passes every
call on, and has no resize of its own. -/
structure PassesOn (view : α → β) (P : α → Prop) : Prop where
  allocate {a : α} (size : Size) : P a →
    Backend.allocate (view a) size = (Backend.allocate a size).mapState view ∧
      P (Backend.allocate a size).state
  release {a : α} (block : Address) (size : Size) :
    Backend.release (view a) block size = view (Backend.release a block size)
  keeps_release {a : α} (block : Address) (size : Size) : P a → P (Backend.release a block size)
  query (a : α) (key : ControlKey) : Allocator.query (view a) key = Allocator.query a key
  control {a : α} (key : ControlKey) : P a →
    Allocator.control (view a) key = (Allocator.control a key).mapState view ∧
      P (Allocator.control a key).state
  alignment (a : α) : Allocator.alignment (view a) = Allocator.alignment a
  emulates : Emulates α

/-- What passes every call on mirrors every call. -/
theorem PassesOn.mirrors {view : α → β} {P : α → Prop} (h : PassesOn view P) (call : Call) :
    Mirrors view P call call.emulated := by
  intro a memory holds
  have byCopy (block : Address) (oldSize newSize : Size) :
      (Call.reallocateByCopy block oldSize newSize).make (view a) memory =
          ((Call.reallocateByCopy block oldSize newSize).make a memory).mapState
            (Prod.map view id) ∧
        P ((Call.reallocateByCopy block oldSize newSize).make a memory).state.1 := by
    obtain ⟨same, keeps⟩ := h.allocate newSize holds
    have copied := reallocateByCopy_view memory same fun _ => h.release block oldSize
    refine ⟨by simp only [Call.make, copied]; rfl, ?_⟩
    simp only [Call.make, reallocateByCopy]
    cases (Backend.allocate a newSize).answer with
    | none => exact keeps
    | some fresh => exact h.keeps_release block oldSize keeps
  cases call with
  | allocate size =>
    obtain ⟨same, keeps⟩ := h.allocate size holds
    exact ⟨by simp only [Call.emulated, Call.make, same]; rfl, keeps⟩
  | release block size =>
    exact ⟨by simp only [Call.emulated, Call.make, h.release]; rfl,
      h.keeps_release block size holds⟩
  | reallocate block oldSize newSize =>
    have copies : (Call.reallocate block oldSize newSize).make a memory =
        (Call.reallocateByCopy block oldSize newSize).make a memory := by
      simp only [Call.make, h.emulates a]
    rw [copies]
    exact byCopy block oldSize newSize
  | reallocateByCopy block oldSize newSize => exact byCopy block oldSize newSize
  | query key => exact ⟨by simp only [Call.emulated, Call.make, h.query]; rfl, holds⟩
  | control key =>
    obtain ⟨same, keeps⟩ := h.control key holds
    exact ⟨by simp only [Call.emulated, Call.make, same]; rfl, keeps⟩
  | alignment => exact ⟨by simp only [Call.emulated, Call.make, h.alignment]; rfl, holds⟩
  | write => exact ⟨rfl, holds⟩

/-- **A failing allocator without a budget passes every call on.** -/
theorem Failing.passesOn : PassesOn (α := Failing α) Failing.inner fun f => f.budget = none where
  allocate {f} size unlimited := by
    have passed : Backend.allocate f size =
        (Backend.allocate f.inner size).mapState fun inner => { f with inner } := by
      simp only [Backend.allocate, Failing.allocate, unlimited]
    rw [passed]
    exact ⟨rfl, unlimited⟩
  release _ _ := rfl
  keeps_release _ _ unlimited := unlimited
  query _ _ := rfl
  control _ unlimited := ⟨rfl, unlimited⟩
  alignment _ := rfl
  emulates _ _ _ _ _ := rfl

/-- **A counting allocator passes every call on.** -/
theorem Counting.passesOn : PassesOn (α := Counting α) Counting.inner fun _ => True where
  allocate {c} size _ := by
    refine ⟨?_, trivial⟩
    simp only [Backend.allocate, Counting.allocate]
    split <;> rfl
  release _ _ := rfl
  keeps_release _ _ _ := trivial
  query _ _ := rfl
  control _ _ := ⟨rfl, trivial⟩
  alignment _ := rfl
  emulates _ _ _ _ _ := rfl

/-! ## 2. All layers -/

/-- The call as it comes out of the wrappers. -/
def Call.passed : List Wrapper → Call → Call
  | [], call => call
  | _ :: _, call => call.emulated

namespace Wrapped

variable {ws ws' : List Wrapper}

/-- **Wrappers without budgets mirror every call.** -/
theorem mirrors_core (ws : List Wrapper) (call : Call) :
    Mirrors (core : Wrapped α ws → α) Unlimited call (call.passed ws) := by
  induction ws generalizing call with
  | nil => exact fun a memory _ => ⟨rfl, trivial⟩
  | cons wrapper ws ih =>
    have inside : Mirrors (core : Wrapped α ws → α) Unlimited call.emulated call.emulated := by
      have passed := ih call.emulated
      cases ws with
      | nil => exact passed
      | cons => simpa only [Call.passed, Call.emulated_emulated] using passed
    cases wrapper with
    | failing => exact (Failing.passesOn.mirrors call).comp inside
    | counting =>
      exact ((Counting.passesOn.mirrors call).comp inside).congr fun c => Iff.of_eq (true_and _)

/-- **Through a wrapper, a resize is a copying one of the allocator inside.** -/
theorem reallocate_core {wrapper : Wrapper} {w : Wrapped α (wrapper :: ws)}
    (unlimited : w.Unlimited) (memory : Memory) (block : Address) (oldSize newSize : Size) :
    (Allocator.reallocate w memory block oldSize newSize).mapState (Prod.map core id) =
      reallocateByCopy w.core memory block oldSize newSize := by
  obtain ⟨same, -⟩ := mirrors_core _ (.reallocate block oldSize newSize) w memory unlimited
  simp only [Call.passed, Call.emulated, Call.make, Reply.mapState, Reply.mk.injEq,
    Call.Answer.block.injEq] at same
  obtain ⟨answer, state, events⟩ := same
  simp only [Reply.mapState, ← answer, ← state, ← events]

/-- **A dialogue with the wrappers is one with the allocator inside.** -/
theorem converse_core {w : Wrapped α ws} (unlimited : w.Unlimited) (memory : Memory)
    (calls : List Call) :
    converse w.core memory (calls.map (Call.passed ws)) =
        (converse w memory calls).mapState (Prod.map core id) ∧
      Unlimited (converse w memory calls).state.1 :=
  converse_mirrors (fun call _ => mirrors_core ws call) unlimited memory

end Wrapped

/-- When every resize is by a copy, it does not matter how it is asked for. -/
theorem converse_emulated (emulates : Emulates α) (a : α) (memory : Memory) (calls : List Call) :
    converse a memory (calls.map Call.emulated) = converse a memory calls := by
  have each (call : Call) (_ : call ∈ calls) :
      Mirrors (id : α → α) (fun _ => True) call call.emulated := by
    intro a memory _
    refine ⟨?_, trivial⟩
    cases call with
    | reallocate block oldSize newSize =>
      simp only [Call.emulated, Call.make, emulates a, id_eq]
      rfl
    | allocate | release | reallocateByCopy | query | control | alignment | write => rfl
  exact (converse_mirrors each trivial memory).1

/-- Without a resize of the allocator's own, every call is passed on as it is. -/
theorem map_passed_of_none {calls : List Call} (ws : List Wrapper)
    (none : ∀ block oldSize newSize, .reallocate block oldSize newSize ∉ calls) :
    calls.map (Call.passed ws) = calls := by
  refine (List.map_congr_left fun call mem => ?_).trans (List.map_id calls)
  cases ws with
  | nil => rfl
  | cons =>
    cases call with
    | reallocate block oldSize newSize => exact absurd mem (none block oldSize newSize)
    | allocate | release | reallocateByCopy | query | control | alignment | write => rfl

/-! ## 3. Two stacks of wrappers -/

section Two

variable {ws ws' : List Wrapper}

/-- **Over the same allocator, different wrappers give the same answers** and leave it the same.  Both
of them resize by copying or neither does, unless it is all the same to the allocator. -/
theorem Wrapped.converse_agree {w : Wrapped α ws} {w' : Wrapped α ws'} (same : w.core = w'.core)
    (unlimited : w.Unlimited) (unlimited' : w'.Unlimited)
    (alike : (ws = [] ↔ ws' = []) ∨ Emulates α) (memory : Memory) (calls : List Call) :
    (converse w memory calls).mapState (Prod.map core id) =
      (converse w' memory calls).mapState (Prod.map core id) := by
  rw [← (converse_core unlimited memory calls).1, ← (converse_core unlimited' memory calls).1, same]
  rcases alike with alike | emulates
  · match ws, ws', alike with
    | [], [], _ | _ :: _, _ :: _, _ => rfl
    | [], _ :: _, alike => cases alike.mp rfl
    | _ :: _, [], alike => cases alike.mpr rfl
  · have unchanged (ws : List Wrapper) :
        converse w'.core memory (calls.map (Call.passed ws)) = converse w'.core memory calls := by
      match ws with
      | [] => exact congrArg _ (List.map_id calls)
      | _ :: _ => exact converse_emulated emulates _ _ _
    rw [unchanged, unchanged]

end Two

/-- **Wrappers are transparent.**  Around any allocator, let there be wrappers in any number and
order, some that count and some without a budget.

* A dialogue without resizes gets the answers, reports the same, and leaves memory and the allocator
  inside as it does without the wrappers; and the wrappers stay without budgets.
* A resize through at least one wrapper is a copying resize of the allocator inside, and so is every
  resize in the course of a dialogue.
* Wrappers chosen differently give the same answers in the same dialogue and leave the allocator
  inside the same: when there are some in both cases, or when the allocator resizes by copying.
* When callers give back what they obtained, once and with its size, the numbers of every wrapper
  that counts grow by what is held, and no release ever takes one below zero.
* So an arena inside is filled up to the same offset, whatever wrappers there are, if any. -/
theorem wrappers_transparent (α : Type) [Allocator α] :
    (∀ (ws : List Wrapper) (w : Wrapped α ws) (memory : Memory) (calls : List Call), w.Unlimited →
      (∀ block oldSize newSize, .reallocate block oldSize newSize ∉ calls) →
      converse w.core memory calls =
          (converse w memory calls).mapState (Prod.map Wrapped.core id) ∧
        Wrapped.Unlimited (converse w memory calls).state.1) ∧
    (∀ (ws : List Wrapper) (w : Wrapped α ws) (memory : Memory), ws ≠ [] → w.Unlimited →
      (∀ (block : Address) (oldSize newSize : Size),
        (Allocator.reallocate w memory block oldSize newSize).mapState (Prod.map Wrapped.core id) =
          reallocateByCopy w.core memory block oldSize newSize) ∧
      ∀ calls : List Call, (converse w memory calls).mapState (Prod.map Wrapped.core id) =
        converse w.core memory (calls.map Call.emulated)) ∧
    (∀ (ws ws' : List Wrapper) (w : Wrapped α ws) (w' : Wrapped α ws') (memory : Memory)
      (calls : List Call), w.core = w'.core → w.Unlimited → w'.Unlimited →
      (ws ≠ [] ∧ ws' ≠ [] ∨ Emulates α) →
      (converse w memory calls).mapState (Prod.map Wrapped.core id) =
        (converse w' memory calls).mapState (Prod.map Wrapped.core id)) ∧
    (∀ (ws : List Wrapper) (w : Wrapped α ws) (memory : Memory) (calls : List Call)
      (H : Multiset Span), Keeps 0 calls (converse w memory calls).answer H →
      let w' : Wrapped α ws := (converse w memory calls).state.1
      (∃ gone, w'.counters = w.counters.map (·.plus H gone)) ∧
        ∀ b ∈ H, ∀ n ∈ w'.counters, n.Covers b.size) ∧
    ∀ (ws ws' : List Wrapper) (w : Wrapped Arena ws) (w' : Wrapped Arena ws') (memory : Memory)
      (calls : List Call), w.core = w'.core → w.Unlimited → w'.Unlimited →
      (converse w memory calls).answer = (converse w' memory calls).answer ∧
        (Wrapped.core (converse w memory calls).state.1).offset =
          (Wrapped.core (converse w' memory calls).state.1).offset := by
  refine ⟨?_, ?_, ?_, ?_, ?_⟩
  · intro ws w memory calls unlimited none
    have passed := Wrapped.converse_core unlimited memory calls
    rwa [map_passed_of_none ws none] at passed
  · intro ws w memory wrapped unlimited
    obtain ⟨wrapper, ws, rfl⟩ := List.exists_cons_of_ne_nil wrapped
    exact ⟨Wrapped.reallocate_core unlimited memory,
      fun calls => (Wrapped.converse_core unlimited memory calls).1.symm⟩
  · intro ws ws' w w' memory calls same unlimited unlimited' alike
    refine Wrapped.converse_agree same unlimited unlimited' (alike.imp_left ?_) memory calls
    rintro ⟨wrapped, wrapped'⟩
    exact iff_of_false wrapped wrapped'
  · intro ws w memory calls H keeps w'
    have used : InUse w w' H := InUse.start.converse keeps
    exact ⟨used.counters_eq, fun b held => used.covers held⟩
  · intro ws ws' w w' memory calls same unlimited unlimited'
    have agree := Wrapped.converse_agree same unlimited unlimited' (.inr Arena.emulates)
      memory calls
    exact ⟨congrArg Reply.answer agree, congrArg (fun r => r.state.1.offset) agree⟩

/-- A heap below a count and a wrapper without a budget. -/
def wrappedHeap : Wrapped Heap [.failing, .counting] := { inner := { inner := Heap.system } }

/-- Requests, a resize that makes a block smaller, and an order to reset. -/
def errands : List Call :=
  [.allocate 40, .allocate 30, .reallocate 4096 40 8, .release 4144 30, .query .used,
    .control .reset, .alignment, .allocate 9]

/-- What is held after the errands. -/
def Errands.held : Multiset Span := {⟨4176, 8⟩, ⟨4192, 9⟩}

/-- An arena by itself, -/
def Errands.arena : Wrapped Arena [] := ⟨4090, 600, 0, 16⟩

/-- and inside three wrappers. -/
def Errands.wrappedArena : Wrapped Arena [.counting, .failing, .counting] :=
  { inner := { inner := { inner := ⟨4090, 600, 0, 16⟩ } } }

/-- A heap would make the block smaller where it is; inside a wrapper it hands out another one, and
two of four blocks are left.  An arena that is reset in between gets as far without wrappers as it
gets inside three of them. -/
theorem wrappers_transparent_for_errands :
    (converse wrappedHeap .zeroed errands).mapState (Prod.map Wrapped.core id) =
      converse Heap.system .zeroed (errands.map Call.emulated) ∧
    (Allocator.reallocate Heap.system .zeroed 4096 40 8).answer = some 4096 ∧
    (Allocator.reallocate wrappedHeap .zeroed 4096 40 8).answer =
      (reallocateByCopy Heap.system .zeroed 4096 40 8).answer ∧
    (converse Heap.system .zeroed [.allocate 40, .control .reset, .release 4096 40]).answer =
      (converse wrappedHeap .zeroed [.allocate 40, .control .reset, .release 4096 40]).answer ∧
    Wrapped.counters (converse wrappedHeap .zeroed errands).state.1 = [⟨⟨2, 17⟩, 4, 2⟩] ∧
    (∃ gone, Wrapped.counters (converse wrappedHeap .zeroed errands).state.1 =
      wrappedHeap.counters.map (·.plus Errands.held gone)) ∧
    (Wrapped.core (converse Errands.arena .zeroed errands).state.1).offset =
      (Wrapped.core (converse Errands.wrappedArena .zeroed errands).state.1).offset := by
  obtain ⟨plain, resized, -, counted, -⟩ := wrappers_transparent Heap
  obtain ⟨-, -, -, -, arenas⟩ := wrappers_transparent Arena
  have unlimited : wrappedHeap.Unlimited := ⟨rfl, trivial⟩
  obtain ⟨copies, dialogue⟩ := resized _ wrappedHeap .zeroed (by simp) unlimited
  have answers : (converse wrappedHeap .zeroed errands).answer =
      [.block (some 4096), .block (some 4144), .block (some 4176), .nothing,
        .value (.error (.invalidKey .used)), .value (.error (.invalidKey .reset)), .alignment 16,
        .block (some 4192)] := by cbv
  have keeps : Keeps 0 errands (converse wrappedHeap .zeroed errands).answer Errands.held := by
    rw [answers]
    have last : Handles (.allocate 9) (.block (some 4192)) {⟨4176, 8⟩} Errands.held :=
      ⟨{⟨4176, 8⟩}, by decide, by decide⟩
    exact .cons ⟨0, by decide, rfl⟩ <| .cons ⟨{⟨4096, 40⟩}, by decide, rfl⟩ <|
      .cons ⟨{⟨4144, 30⟩}, by decide, rfl⟩ <| .cons ⟨{⟨4176, 8⟩}, by decide, rfl⟩ <|
      .cons ⟨_, (zero_add _).symm, rfl⟩ <| .cons ⟨_, (zero_add _).symm, rfl⟩ <|
      .cons ⟨_, (zero_add _).symm, rfl⟩ <| .cons last (.nil _)
  refine ⟨dialogue errands, by cbv, congrArg Reply.answer (copies 4096 40 8), ?_, by cbv,
    (counted _ wrappedHeap .zeroed errands _ keeps).1, ?_⟩
  · exact congrArg Reply.answer (plain _ wrappedHeap .zeroed _ unlimited (by simp)).1
  · exact (arenas _ _ Errands.arena Errands.wrappedArena .zeroed errands rfl trivial
      ⟨rfl, trivial⟩).2

end ReservedArray
