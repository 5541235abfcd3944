/-
# What a shared reference can do

An allocator that several callers use is held by each of them behind a layer of sharing, or behind
several.  Such a layer is the allocator itself but for one thing: it gives no orders.

* A dialogue through any number of layers is the dialogue without them, as long as nobody orders a
  reset (`Stack.converse_share`): nothing that the stacks answer to is an order but this.
* A reset is refused behind a layer, and changes nothing (`Stack.make_reset_share`).

So an arena that is shared only fills up.  Its offset is never set back by what arrays do, nor by
what is called through a shared reference (`Commons.climbs_run`); only who has the arena alone
lowers it.
-/
import Mathlib
import ReservedArray.Proofs.Arena.Layout
import ReservedArray.Proofs.Conservation.Ensemble
import ReservedArray.Proofs.Demand.Supply
import ReservedArray.Proofs.Wrapping.Dialogue

namespace ReservedArray

/-! ## 1. Layers of sharing -/

namespace Stack

/-- The stack behind so many layers of sharing. -/
@[reducible] def behind : Nat → Stack → Stack
  | 0, s => s
  | n + 1, s => .shared (s.behind n)

/-- A state, seen through the layers. -/
def share {s : Stack} : (n : Nat) → s.State → (s.behind n).State
  | 0, a => a
  | n + 1, a => ⟨share n a⟩

/-- The state behind the layers. -/
def unshare {s : Stack} : (n : Nat) → (s.behind n).State → s.State
  | 0, a => a
  | n + 1, a => unshare n a.inner

variable {s : Stack}

theorem share_unshare (n : Nat) (a : (s.behind n).State) : share n (unshare n a) = a := by
  induction n with
  | zero => rfl
  | succ n ih => exact congrArg Shared.mk (ih a.inner)

theorem arena?_share (n : Nat) (a : s.State) : (s.behind n).arena? (share n a) = s.arena? a := by
  induction n with
  | zero => rfl
  | succ n ih => exact ih

theorem arena?_unshare (n : Nat) (a : (s.behind n).State) :
    s.arena? (unshare n a) = (s.behind n).arena? a := by
  rw [← arena?_share n, share_unshare]

/-! ## 2. Orders -/

/-- **No stack knows another order than the reset**: for every other key, an order is a question. -/
theorem control_eq_query (a : s.State) (key : ControlKey) (other : key ≠ .reset) :
    Allocator.control a key = { answer := Allocator.query a key, state := a } := by
  induction s with
  | heap | plain | skewed | shared => rfl
  | arena => cases key <;> first | rfl | exact absurd rfl other
  | failing inner ih => exact congrArg (Reply.mapState _) (ih a.inner)
  | counting inner ih => exact congrArg (Reply.mapState _) (ih a.inner)

/-- One more layer shows every call but the reset as it is. -/
theorem mirrors_shared {call : Call} (other : call ≠ .control .reset) :
    Mirrors (α := s.State) (β := s.shared.State) Shared.mk (fun _ => True) call call := by
  intro a memory _
  refine ⟨?_, trivial⟩
  cases call with
  | allocate | release | reallocate | query | alignment | write => rfl
  | reallocateByCopy block oldSize newSize =>
    have copied : reallocateByCopy (Shared.mk a) memory block oldSize newSize =
        (reallocateByCopy a memory block oldSize newSize).mapState (Prod.map Shared.mk id) :=
      reallocateByCopy_view memory rfl fun _ => rfl
    simp only [Call.make, copied]
    rfl
  | control key =>
    have quiet := control_eq_query a key fun same => other (congrArg Call.control same)
    simp only [Call.make, quiet]
    rfl

/-- **Through any layers a dialogue without a reset is the same.** -/
theorem converse_share (n : Nat) (a : s.State) (memory : Memory) {calls : List Call}
    (others : .control .reset ∉ calls) :
    converse (share n a) memory calls =
      (converse a memory calls).mapState (Prod.map (share n) id) := by
  induction n with
  | zero => rfl
  | succ n ih =>
    have each : ∀ call ∈ calls, Mirrors (α := (s.behind n).State)
        (β := (s.behind n).shared.State) Shared.mk (fun _ => True) call (id call) :=
      fun call mem => mirrors_shared fun same => others (same ▸ mem)
    have layer := (converse_mirrors each (a := share n a) trivial memory).1
    rw [List.map_id] at layer
    refine layer.trans ?_
    rw [ih]
    rfl

/-- **Behind a layer a reset is refused and changes nothing.** -/
theorem make_reset_share (n : Nat) (a : s.State) (memory : Memory) :
    (Call.control .reset).make (share (n + 1) a) memory =
      { answer := .value (.error (.invalidKey .reset))
        state := (share (n + 1) a, memory) } := by
  simp only [Call.make, Allocator.control, query_reset]

end Stack

/-! ## 3. An arena that fills up -/

/-- The arena is where it was and as it was, with no less of it in use. -/
structure Arena.Climbs (arena arena' : Arena) : Prop where
  same : arena' = { arena with offset := arena'.offset }
  offset_le : arena.offset ≤ arena'.offset

namespace Arena.Climbs

variable {arena arena' arena'' : Arena}

theorem refl (arena : Arena) : arena.Climbs arena := ⟨rfl, UInt64.le_refl _⟩

theorem trans (h : arena.Climbs arena') (h' : arena'.Climbs arena'') : arena.Climbs arena'' := by
  refine ⟨?_, UInt64.le_trans h.offset_le h'.offset_le⟩
  rw [h'.same, h.same]

theorem alignment_eq (h : arena.Climbs arena') : arena'.alignment = arena.alignment := by
  rw [h.same]

/-- Every request lets an arena climb. -/
theorem of_carves {size : Size} {answer : Option Address}
    (power : Size.isPowerOfTwo arena.alignment = true) (h : Carves arena size answer arena') :
    arena.Climbs arena' := by
  cases h with
  | refused => exact refl arena
  | @carved block stop placed ends below =>
    have above := le_roundUp (arena.base.toNat + arena.offset.toNat)
      (Size.toNat_pos_of_isPowerOfTwo power)
    rw [← placed] at above
    have further : arena.offset.toNat ≤ stop.toNat := by omega
    exact ⟨rfl, UInt64.le_iff_toNat_le.mpr further⟩

theorem of_resizes {memory memory' : Memory} {block : Address} {oldSize newSize : Size}
    {answer : Option Address} (power : Size.isPowerOfTwo arena.alignment = true)
    (h : Resizes arena memory block oldSize newSize answer arena' memory') :
    arena.Climbs arena' := by
  cases h with
  | refused => exact refl arena
  | moved carves => exact of_carves power carves

end Arena.Climbs

/-- The arena at the bottom of one state climbs to the one at the bottom of another. -/
def Stack.Climbs {s s' : Stack} (a : s.State) (a' : s'.State) : Prop :=
  ∃ arena arena', s.arena? a = some arena ∧ s'.arena? a' = some arena' ∧ arena.Climbs arena'

/-- There is an arena at the bottom that rounds up as it should. -/
def Stack.Grounded {s : Stack} (a : s.State) : Prop :=
  ∃ arena, s.arena? a = some arena ∧ Size.isPowerOfTwo arena.alignment = true

namespace Stack

variable {s s' s'' : Stack} {a : s.State} {a' : s'.State} {a'' : s''.State}

theorem Grounded.climbs (h : Grounded a) (same : s'.arena? a' = s.arena? a) : Climbs a a' := by
  obtain ⟨arena, bottom, -⟩ := h
  exact ⟨arena, arena, bottom, same.trans bottom, .refl arena⟩

theorem Climbs.trans (h : Climbs a a') (h' : Climbs a' a'') : Climbs a a'' := by
  obtain ⟨arena, arena', bottom, bottom', climbs⟩ := h
  obtain ⟨_, arena'', same, bottom'', climbs'⟩ := h'
  obtain rfl := Option.some.inj (bottom'.symm.trans same)
  exact ⟨arena, arena'', bottom, bottom'', climbs.trans climbs'⟩

theorem Climbs.grounded (h : Climbs a a') (start : Grounded a) : Grounded a' := by
  obtain ⟨arena, arena', bottom, bottom', climbs⟩ := h
  obtain ⟨_, same, power⟩ := start
  obtain rfl := Option.some.inj (bottom.symm.trans same)
  exact ⟨arena', bottom', climbs.alignment_eq.symm ▸ power⟩

theorem climbs_allocate (h : Grounded a) (size : Size) :
    Climbs a (Backend.allocate a size).state := by
  obtain ⟨arena, bottom, power⟩ := h
  obtain ⟨arena', bottom', carves⟩ := carves_allocate bottom power size
  exact ⟨arena, arena', bottom, bottom', .of_carves power carves⟩

theorem climbs_release (h : Grounded a) (block : Address) (size : Size) :
    Climbs a (Backend.release a block size) :=
  h.climbs (arena?_release a block size)

theorem climbs_resizeBy (h : Grounded a) (way : Workbench.ResizeWay) (memory : Memory)
    (block : Address) (oldSize newSize : Size) :
    Climbs a (resizeBy way a memory block oldSize newSize).state.1 := by
  obtain ⟨arena, bottom, power⟩ := h
  obtain ⟨arena', bottom', resizes⟩ :=
    resizes_resizeBy bottom power way memory block oldSize newSize
  exact ⟨arena, arena', bottom, bottom', .of_resizes power resizes⟩

/-- **Whatever is called but a reset, the arena climbs.** -/
theorem climbs_make (h : Grounded a) (memory : Memory) {call : Call}
    (other : call ≠ .control .reset) : Climbs a (call.make a memory).state.1 := by
  cases call with
  | allocate size => exact climbs_allocate h size
  | release block size => exact climbs_release h block size
  | reallocate block oldSize newSize => exact climbs_resizeBy h .direct _ _ _ _
  | reallocateByCopy block oldSize newSize => exact climbs_resizeBy h .byCopy _ _ _ _
  | query | alignment | write => exact h.climbs rfl
  | control key =>
    have quiet := control_eq_query a key fun same => other (congrArg Call.control same)
    refine h.climbs ?_
    simp only [Call.make, quiet]

/-- Through a layer of sharing every call lets the arena climb. -/
theorem climbs_make_share (h : Grounded a) (n : Nat) (memory : Memory) (call : Call) :
    Climbs a (unshare (n + 1) (call.make (share (n + 1) a) memory).state.1) := by
  have shared : Climbs a (share (n + 1) a) := h.climbs (arena?_share (n + 1) a)
  have made : Climbs a (call.make (share (n + 1) a) memory).state.1 := by
    by_cases reset : call = .control .reset
    · rw [reset, make_reset_share]
      exact shared
    · exact shared.trans (climbs_make (shared.grounded h) memory reset)
  exact made.trans ((made.grounded h).climbs (arena?_unshare (n + 1) _))

/-- So does every single call of an array, -/
theorem climbs_step {κ τ : Type} {ops : ElementOps κ τ} {e e' : Env s.State κ τ}
    {t : List (Entry τ)} (step : Env.Step ops e t e') (h : Grounded e.allocator) :
    Climbs e.allocator e'.allocator := by
  rcases step.allocator_cases with ⟨-, same⟩ | ⟨block, size, -, same⟩ | ⟨size, -, -, same⟩
  · exact h.climbs (congrArg s.arena? same)
  · exact same ▸ climbs_release h block size
  · exact same ▸ climbs_allocate h size

/-- and all of them. -/
theorem climbs_steps {κ τ : Type} {ops : ElementOps κ τ} {e e' : Env s.State κ τ}
    {t : List (Entry τ)} (steps : Env.Steps ops e t e') (h : Grounded e.allocator) :
    Climbs e.allocator e'.allocator := by
  induction steps with
  | refl => exact h.climbs rfl
  | head step _ ih =>
    have first := climbs_step step h
    exact first.trans (ih (first.grounded h))

theorem arena?_giveUp? {a : s.State} {arena : Arena} {r : Reply s.State Unit}
    (bottom : s.arena? a = some arena) (done : s.giveUp? a = some r) :
    s.arena? r.state = some arena.reset.state := by
  induction s with
  | heap => cases bottom
  | plain | skewed | failing | counting => cases done
  | arena =>
    cases bottom
    cases done
    rfl
  | shared inner ih =>
    obtain ⟨r', done', rfl⟩ := Option.map_eq_some_iff.mp done
    exact ih (a := a.inner) bottom done'

end Stack

/-! ## 4. What many hold in common -/

variable {ι κ : Type} {T : ι → Type}

/-- Arrays, the stack that they share with other callers, and memory. -/
structure Commons (s : Stack) (κ : Type) (T : ι → Type) where
  ensemble : Ensemble s.State κ T
  memory : Memory

/-- What is done with it: by an array or by a caller, through so many layers of sharing, or by who
has the stack alone. -/
inductive Access (T : ι → Type) where
  | turn (layers : Nat) (turn : Turn T)
  | call (layers : Nat) (call : Call)
  | setBudget (budget : Option Nat)
  | reset
  | giveUp

namespace Access

/-- Only who has the stack alone does this, and takes all blocks back by it. -/
def Rewinds : Access T → Prop
  | call 0 (.control .reset) | reset | giveUp => True
  | _ => False

/-- Other calls are made through a layer, or are no resets. -/
theorem of_not_rewinds_call {layers : Nat} {call : Call}
    (h : ¬(Access.call layers call : Access T).Rewinds) :
    call ≠ .control .reset ∨ ∃ n, layers = n + 1 := by
  cases layers with
  | zero => exact .inl fun same => h (same ▸ trivial)
  | succ n => exact .inr ⟨n, rfl⟩

end Access

namespace Commons

variable {s : Stack} (options : (k : ι) → ArrayOptions κ (T k)) (c : Commons s κ T)

/-- The stack is in another state. -/
def withAllocator (a : s.State) : Commons s κ T :=
  { c with ensemble := { c.ensemble with allocator := a } }

/-- The arrays, each with a reference through so many layers. -/
def behind (n : Nat) : Ensemble (s.behind n).State κ T :=
  { allocator := Stack.share n c.ensemble.allocator
    context := c.ensemble.context
    arrays := c.ensemble.arrays
    journal := c.ensemble.journal }

/-- What the arrays have become behind the layers. -/
def rejoin (n : Nat) (σ : Ensemble (s.behind n).State κ T) : Commons s κ T :=
  { c with
    ensemble :=
      { allocator := Stack.unshare n σ.allocator
        context := σ.context
        arrays := σ.arrays
        journal := σ.journal } }

/-- One access.  What a stack does not offer does nothing. -/
def step (c : Commons s κ T) : Access T → Commons s κ T
  | .turn n turn => c.rejoin n ((c.behind n).step options turn)
  | .call n call =>
    let r := call.make (Stack.share n c.ensemble.allocator) c.memory
    { c.withAllocator (Stack.unshare n r.state.1) with memory := r.state.2 }
  | .setBudget budget => ((s.setBudget? budget c.ensemble.allocator).map c.withAllocator).getD c
  | .reset => ((s.reset? c.ensemble.allocator).map fun r => c.withAllocator r.state).getD c
  | .giveUp => ((s.giveUp? c.ensemble.allocator).map fun r => c.withAllocator r.state).getD c

/-- The accesses in order. -/
def run (accesses : List (Access T)) : Commons s κ T := accesses.foldl (step options) c

/-! ## 5. Runs -/

/-- The arrays are sound and there is an arena at the bottom. -/
structure Settled (c : Commons s κ T) : Prop where
  sound : AllSound options c.ensemble.arrays
  grounded : Stack.Grounded c.ensemble.allocator

variable {options} {c}

/-- The calls of a turn let the arena climb, whatever layers they go through. -/
theorem climbs_turn (settled : c.Settled options) (n : Nat) (turn : Turn T) :
    (c.step options (.turn n turn)).Settled options ∧
      Stack.Climbs c.ensemble.allocator (c.step options (.turn n turn)).ensemble.allocator := by
  obtain ⟨t, advance⟩ := Ensemble.advance_step (σ := c.behind n) settled.sound turn
  have shared : Stack.Climbs c.ensemble.allocator (c.behind n).allocator :=
    settled.grounded.climbs (Stack.arena?_share n _)
  have turned : Stack.Climbs (c.behind n).allocator ((c.behind n).step options turn).allocator := by
    generalize (c.behind n).step options turn = σ at advance
    cases advance with
    | still => exact (shared.grounded settled.grounded).climbs rfl
    | called steps => exact Stack.climbs_steps steps (shared.grounded settled.grounded)
  have there := shared.trans turned
  have back := there.trans ((there.grounded settled.grounded).climbs (Stack.arena?_unshare n _))
  exact ⟨⟨advance.sound, back.grounded settled.grounded⟩, back⟩

/-- **Unless it rewinds, an access lets the arena climb.** -/
theorem climbs_step (settled : c.Settled options) {access : Access T} (h : ¬access.Rewinds) :
    (c.step options access).Settled options ∧
      Stack.Climbs c.ensemble.allocator (c.step options access).ensemble.allocator := by
  have keeping {c' : Commons s κ T} (arrays : c'.ensemble.arrays = c.ensemble.arrays)
      (climbs : Stack.Climbs c.ensemble.allocator c'.ensemble.allocator) :
      c'.Settled options ∧ Stack.Climbs c.ensemble.allocator c'.ensemble.allocator :=
    ⟨⟨arrays ▸ settled.sound, climbs.grounded settled.grounded⟩, climbs⟩
  cases access with
  | turn n turn => exact climbs_turn settled n turn
  | call n call =>
    refine keeping rfl ?_
    rcases Access.of_not_rewinds_call h with other | ⟨n, rfl⟩
    · have shared := settled.grounded.climbs (Stack.arena?_share n _)
      have made := shared.trans
        (Stack.climbs_make (shared.grounded settled.grounded) c.memory other)
      exact made.trans ((made.grounded settled.grounded).climbs (Stack.arena?_unshare n _))
    · exact Stack.climbs_make_share settled.grounded n c.memory call
  | setBudget budget =>
    simp only [step]
    cases done : s.setBudget? budget c.ensemble.allocator with
    | none => exact keeping rfl (settled.grounded.climbs rfl)
    | some a => exact keeping rfl (settled.grounded.climbs (Stack.arena?_setBudget? done))
  | reset | giveUp => exact absurd trivial h

/-- What rewinds leaves the arena alone or empties it. -/
theorem rewinds_step (settled : c.Settled options) {access : Access T} (h : access.Rewinds) :
    (c.step options access).Settled options ∧
      ∃ arena, s.arena? c.ensemble.allocator = some arena ∧
        (s.arena? (c.step options access).ensemble.allocator = some arena ∨
          s.arena? (c.step options access).ensemble.allocator = some arena.reset.state) := by
  obtain ⟨arena, bottom, power⟩ := settled.grounded
  have left {c' : Commons s κ T} (arrays : c'.ensemble.arrays = c.ensemble.arrays)
      (leaves : s.arena? c'.ensemble.allocator = some arena ∨
        s.arena? c'.ensemble.allocator = some arena.reset.state) :
      c'.Settled options ∧ ∃ arena, s.arena? c.ensemble.allocator = some arena ∧
        (s.arena? c'.ensemble.allocator = some arena ∨
          s.arena? c'.ensemble.allocator = some arena.reset.state) := by
    refine ⟨⟨arrays ▸ settled.sound, ?_⟩, arena, bottom, leaves⟩
    rcases leaves with same | empty
    · exact ⟨arena, same, power⟩
    · exact ⟨arena.reset.state, empty, power⟩
  match access, h with
  | .call 0 (.control .reset), _ =>
    refine left rfl ?_
    have ordered := Stack.arena?_control bottom .reset
    split at ordered
    · exact .inr ordered
    · exact .inl ordered
  | .reset, _ =>
    simp only [step]
    cases done : s.reset? c.ensemble.allocator with
    | none => exact left rfl (.inl bottom)
    | some r => exact left rfl (.inr (Stack.arena?_reset? bottom done))
  | .giveUp, _ =>
    simp only [step]
    cases done : s.giveUp? c.ensemble.allocator with
    | none => exact left rfl (.inl bottom)
    | some r => exact left rfl (.inr (Stack.arena?_giveUp? bottom done))

theorem settled_step (settled : c.Settled options) (access : Access T) :
    (c.step options access).Settled options := by
  by_cases h : access.Rewinds
  · exact (rewinds_step settled h).1
  · exact (climbs_step settled h).1

theorem settled_run (settled : c.Settled options) (accesses : List (Access T)) :
    (c.run options accesses).Settled options := by
  induction accesses generalizing c with
  | nil => exact settled
  | cons access accesses ih => exact ih (settled_step settled access)

/-- **As long as nothing rewinds, the arena climbs.** -/
theorem climbs_run (settled : c.Settled options) {accesses : List (Access T)}
    (forward : ∀ access ∈ accesses, ¬access.Rewinds) :
    Stack.Climbs c.ensemble.allocator (c.run options accesses).ensemble.allocator := by
  induction accesses generalizing c with
  | nil => exact settled.grounded.climbs rfl
  | cons access accesses ih =>
    obtain ⟨first, rest⟩ := List.forall_mem_cons.mp forward
    obtain ⟨settled', climbs⟩ := climbs_step settled first
    exact climbs.trans (ih settled' rest)

theorem run_append (before after : List (Access T)) :
    c.run options (before ++ after) = (c.run options before).run options after :=
  List.foldl_append

/-- How much of the arena at the bottom is in use. -/
def used? (c : Commons s κ T) : Option Size := (s.arena? c.ensemble.allocator).map Arena.offset

end Commons

/-- **Shared references never reset.**  Over every stack of the library:

* through any number of layers of sharing, a dialogue in which no reset is ordered gets the same
  answers, reports the same, and leaves the stack and memory as it does without the layers;
* through at least one layer, the order to reset is refused as an unknown key, and nothing changes;
* with an arena at the bottom and whatever was done before, the arena's offset does not fall while
  arrays are used and calls are made through shared references.  When an access lowers the offset,
  it is an order to reset by who has the stack alone, a reset of the arena, or its end; and then the
  arena is empty. -/
theorem shared_references_never_reset (s : Stack) :
    (∀ (n : Nat) (a : s.State) (memory : Memory) (calls : List Call), .control .reset ∉ calls →
      converse (Stack.share n a) memory calls =
        (converse a memory calls).mapState (Prod.map (Stack.share n) id)) ∧
    (∀ (n : Nat) (a : s.State) (memory : Memory),
      (Call.control .reset).make (Stack.share (n + 1) a) memory =
        { answer := .value (.error (.invalidKey .reset))
          state := (Stack.share (n + 1) a, memory) }) ∧
    ∀ (options : (k : ι) → ArrayOptions κ (T k)) (base size : Size) (config : ArenaConfig)
      (arena : Arena) (a : s.State) (context : κ) (memory : Memory),
      Arena.create base size config = .ok arena → s.arena? a = some arena →
      ∀ before : List (Access T),
        let c := ({ ensemble := { allocator := a, context }, memory } : Commons s κ T).run
          options before
        ∃ offset, c.used? = some offset ∧
          (∀ after : List (Access T), (∀ access ∈ after, ¬access.Rewinds) →
            ∃ offset', (c.run options after).used? = some offset' ∧ offset ≤ offset') ∧
          ∀ access : Access T, ∃ offset', (c.step options access).used? = some offset' ∧
            (offset' < offset → access.Rewinds ∧ offset' = 0) := by
  refine ⟨fun n a memory calls others => Stack.converse_share n a memory others,
    Stack.make_reset_share, ?_⟩
  intro options base size config arena a context memory created bottom before c
  have power : Size.isPowerOfTwo arena.alignment = true := (Arena.laid_of_create created).2.power
  have settled : c.Settled options :=
    Commons.settled_run ⟨fun _ mem => (List.not_mem_nil mem).elim, arena, bottom, power⟩ before
  obtain ⟨now, bottom', -⟩ := settled.grounded
  have used : c.used? = some now.offset := congrArg (Option.map Arena.offset) bottom'
  have risen {c' : Commons s κ T}
      (climbs : Stack.Climbs c.ensemble.allocator c'.ensemble.allocator) :
      ∃ offset', c'.used? = some offset' ∧ now.offset ≤ offset' := by
    obtain ⟨_, later, same, there, climbs⟩ := climbs
    obtain rfl := Option.some.inj (bottom'.symm.trans same)
    exact ⟨later.offset, congrArg (Option.map Arena.offset) there, climbs.offset_le⟩
  refine ⟨now.offset, used, fun after forward => risen (Commons.climbs_run settled forward), ?_⟩
  intro access
  by_cases h : access.Rewinds
  · obtain ⟨-, _, same, leaves⟩ := Commons.rewinds_step settled h
    obtain rfl := Option.some.inj (bottom'.symm.trans same)
    rcases leaves with kept | empty
    · exact ⟨now.offset, congrArg (Option.map Arena.offset) kept,
        fun fell => absurd fell (UInt64.lt_irrefl _)⟩
    · exact ⟨0, congrArg (Option.map Arena.offset) empty, fun _ => ⟨h, rfl⟩⟩
  · obtain ⟨offset', used', le⟩ := risen (Commons.climbs_step settled h).2
    exact ⟨offset', used', fun fell => absurd le (UInt64.not_le.mpr fell)⟩

/-- An arena below a count and a budget of nine requests. -/
def countedArena : (Stack.failing (.counting .arena)).State :=
  { inner := { inner := ⟨4110, 600, 0, 16⟩ }, budget := some 9 }

/-- It is shared by two arrays and a caller. -/
def neighbours : Commons (.failing (.counting .arena)) Unit fun _ : Bool => Nat :=
  { ensemble := { allocator := countedArena, context := () }, memory := .zeroed }

/-- Questions, requests and resizes, one of which the arena cannot serve. -/
def smallTalk : List Call :=
  [.allocate 20, .reallocateByCopy 4112 20 700, .reallocate 4112 20 40, .control .used,
    .release 4144 40, .query .capacity, .alignment, .control (.vendor 3)]

/-- A reset ordered through a layer of sharing is among what the neighbours do, and so is a sort. -/
def neighbourhood : List (Access fun _ : Bool => Nat) :=
  [.turn 1 (.deed (.operate 0 fun _ => .append 5)), .call 1 (.control .reset),
    .turn 2 (.deed (.withReserve true 1)), .turn 1 (.deed (.operate 0 fun _ => .sort)),
    .call 3 (.allocate 40), .call 0 (.query .used), .setBudget none]

/-- An array is made before the neighbours begin. -/
def settlement : List (Access fun _ : Bool => Nat) := [.turn 1 (.deed (.init false 2 1 (some 7)))]

/-- Through two layers the talk is the same; the neighbours only fill the arena up, and the order to
reset that comes without a layer empties it. -/
theorem shared_references_never_reset_among_neighbours :
    converse (Stack.share 2 countedArena) .zeroed smallTalk =
      (converse countedArena .zeroed smallTalk).mapState (Prod.map (Stack.share 2) id) ∧
    (converse countedArena .zeroed smallTalk).answer =
      [.block (some 4112), .block none, .block (some 4144), .value (.ok 74), .nothing,
        .value (.ok 600), .alignment 16, .value (.error (.invalidKey (.vendor 3)))] ∧
    (∃ first later : Size,
      (neighbours.run numberOptions settlement).used? = some first ∧
      (neighbours.run numberOptions (settlement ++ neighbourhood)).used? = some later ∧
      first ≤ later ∧ first = 10 ∧ later = 122) ∧
    ∃ last : Size,
      ((neighbours.run numberOptions (settlement ++ neighbourhood)).step numberOptions
        (.call 0 (.control .reset))).used? = some last ∧
      (last < 122 → (Access.call 0 (.control .reset) : Access fun _ : Bool => Nat).Rewinds ∧
        last = 0) := by
  obtain ⟨same, -, runs⟩ := shared_references_never_reset (κ := Unit) (T := fun _ : Bool => Nat)
    (.failing (.counting .arena))
  have forward : ∀ access ∈ neighbourhood, ¬access.Rewinds := by
    simp [neighbourhood, Access.Rewinds]
  have arenas := runs numberOptions 4110 600 {} ⟨4110, 600, 0, 16⟩ countedArena () .zeroed rfl rfl
  have settled : (neighbours.run numberOptions settlement).used? = some 10 := by cbv
  have full : (neighbours.run numberOptions (settlement ++ neighbourhood)).used? = some 122 := by
    cbv
    simp only [Buffer.merge_nil_right]
    cbv
  refine ⟨same 2 countedArena .zeroed smallTalk (by simp [smallTalk]), by cbv, ?_, ?_⟩
  · obtain ⟨first, used, climbs, -⟩ := arenas settlement
    obtain ⟨later, used', le⟩ := climbs neighbourhood forward
    rw [← Commons.run_append] at used'
    exact ⟨first, later, used, used', le, Option.some.inj (used.symm.trans settled),
      Option.some.inj (used'.symm.trans full)⟩
  · obtain ⟨offset, used, -, single⟩ := arenas (settlement ++ neighbourhood)
    obtain rfl := Option.some.inj (used.symm.trans full)
    exact single (.call 0 (.control .reset))

end ReservedArray
