/-
# What an arena reports

An arena that refuses a request should say that it is exhausted, and say it once.  It does not
always do so.  Before it can see that a block is too large it has to know where the block would
start and end, and both are computed in words: when one of them does not fit, the request is refused
on the spot and nothing is reported.

So there are two kinds of refusals, and which of them it is can be told from the numbers
(`Arena.Computes`).

* A served request reports nothing, a refused one whose block can be computed reports just this one
  event, and a refused one whose block cannot be computed reports nothing (`Arena.Sited.events_eq`).
* Over a whole run the reports of exhaustion are, in order, those of the refused requests of the
  first kind (`Session.exhaustions_eq`), whatever wrappers lie above the arena and whatever else is
  reported.  There are as many reports as refusals just when no refusal is of the second kind.

The second kind is rare: it takes a size near the end of the range, or an arena near the end of the
address space.
-/
import Mathlib
import ReservedArray.Proofs.Arena.Exactness

namespace ReservedArray

open Workbench (ResizeWay)

/-! ## 1. One request -/

/-- The event says that an arena is exhausted. -/
def Event.isExhaustion (event : Event) : Bool := event.message == "bump arena exhausted"

/-- The reports of exhaustion among the events. -/
def exhaustions (events : List Event) : List Event := events.filter Event.isExhaustion

@[simp] theorem exhaustions_nil : exhaustions [] = [] := rfl

@[simp] theorem exhaustions_append (events events' : List Event) :
    exhaustions (events ++ events') = exhaustions events ++ exhaustions events' :=
  List.filter_append events events'

@[simp] theorem exhaustions_allocationFailed (size : Size) :
    exhaustions [.allocationFailed size] = [] := by
  simp [exhaustions, Event.isExhaustion, Event.message]

@[simp] theorem exhaustions_reallocationFailed (oldSize size : Size) :
    exhaustions [.reallocationFailed oldSize size] = [] := by
  simp [exhaustions, Event.isExhaustion, Event.message]

@[simp] theorem exhaustions_arenaReset (offset : Size) :
    exhaustions [.arenaReset offset] = [] := by
  simp [exhaustions, Event.isExhaustion, Event.message]

@[simp] theorem exhaustions_arenaExhausted (size offset capacity : Size) :
    exhaustions [.arenaExhausted size offset capacity] =
      [.arenaExhausted size offset capacity] := by
  simp [exhaustions, Event.isExhaustion, Event.message]

namespace Arena

/-- The next block can be computed: both its first address and how far into the arena it ends are
words. -/
def Computes (arena : Arena) (size : Size) : Prop :=
  arena.base.toNat + arena.nextOffset < 2 ^ 64 ∧ arena.nextOffset + size.toNat < 2 ^ 64

instance (arena : Arena) (size : Size) : Decidable (arena.Computes size) :=
  inferInstanceAs (Decidable (_ ∧ _))

namespace Sited

variable {arena : Arena} (sited : arena.Sited)

include sited

/-- A start that is computed is the start, and an address. -/
theorem start_of_nextStart? {start : Size} (next : arena.nextStart? = some start) :
    start.toNat = arena.nextOffset ∧ arena.base.toNat + arena.nextOffset < 2 ^ 64 := by
  have placed := nextStart?_eq_some sited.power next
  have same := sited.base_add_nextOffset
  simp only [nextStart?, Option.pure_def, Option.bind_eq_bind, Option.bind_eq_some_iff,
    Option.some.injEq] at next
  obtain ⟨cursor, sum, aligned, rounded, rfl⟩ := next
  rw [Size.add?_eq_some_iff] at sum
  -- the aligned address is itself a word
  have word := ((Size.alignUp?_eq_some_iff sited.power).mp rounded).2
  have inRange := aligned.toNat_lt
  rw [sum] at word
  constructor
  · omega
  · omega

/-- **The next block is computed just when its numbers are words.** -/
theorem isSome_nextBlock?_iff (size : Size) :
    (arena.nextBlock? size).isSome ↔ arena.Computes size := by
  constructor
  · intro some
    obtain ⟨⟨start, stop⟩, next⟩ := Option.isSome_iff_exists.mp some
    simp only [nextBlock?, Option.pure_def, Option.bind_eq_bind, Option.bind_eq_some_iff,
      Option.some.injEq, Prod.mk.injEq] at next
    obtain ⟨_, computed, stop, sum, rfl, rfl⟩ := next
    obtain ⟨placed, inRange⟩ := sited.start_of_nextStart? computed
    have ends := Size.add?_eq_some_iff.mp sum
    have word := stop.toNat_lt
    refine ⟨inRange, ?_⟩
    omega
  · rintro ⟨inRange, ends⟩
    rw [sited.base_add_nextOffset] at inRange
    obtain ⟨start, computed, placed⟩ := sited.nextStart?_eq inRange
    have sum : Size.add? start size = some (start + size) :=
      Size.add?_of_lt (by unfold UInt64.size; omega)
    simp [nextBlock?, computed, sum]

/-- **What a request reports**: that the arena is exhausted, when it is refused and its block can be
computed, and nothing else. -/
theorem events_eq (size : Size) :
    (arena.allocate size).events =
      if (arena.allocate size).answer = none ∧ arena.Computes size then
        [.arenaExhausted size arena.offset arena.size]
      else [] := by
  simp only [← sited.isSome_nextBlock?_iff]
  unfold allocate
  cases arena.nextBlock? size with
  | none => simp
  | some block =>
    by_cases full : arena.size ≤ block.2
    · simp [full]
    · simp [full]

theorem exhaustions_events (size : Size) :
    exhaustions (arena.allocate size).events = (arena.allocate size).events := by
  rw [sited.events_eq]
  split
  · exact exhaustions_arenaExhausted _ _ _
  · rfl

end Sited

end Arena

/-! ## 2. Requests that get through -/

namespace Stack

/-- No layer turns the next request away, so that it gets to the bottom. -/
def admits : (s : Stack) → s.State → Bool
  | failing inner, f => f.budget != some 0 && inner.admits f.inner
  | counting inner, c => inner.admits c.inner
  | shared inner, s => inner.admits s.inner
  | heap, _ | arena, _ | plain, _ | skewed, _ => true

variable {s : Stack} {a : s.State} {arena : Arena}

/-- **A stack reports of a request what the arena reports**, if the request gets to it. -/
theorem events_allocate (bottom : s.arena? a = some arena) (size : Size) :
    (Backend.allocate a size).events =
      if s.admits a then (arena.allocate size).events else [] := by
  induction s with
  | heap | plain | skewed => cases bottom
  | arena =>
    cases bottom
    rfl
  | failing inner ih =>
    have passed := ih (a := a.inner) bottom
    obtain ⟨inside, budget, refused⟩ := a
    rcases budget with _ | _ | n
    · exact passed
    · rfl
    · exact passed
  | counting inner ih =>
    have passed := ih (a := a.inner) bottom
    simp only [Backend.allocate, Counting.allocate]
    split
    · exact passed
    · exact passed
  | shared inner ih => exact ih (a := a.inner) bottom

theorem events_byCopy (a : s.State) (memory : Memory) (block : Address) (oldSize size : Size) :
    (reallocateByCopy a memory block oldSize size).events = (Backend.allocate a size).events := by
  unfold reallocateByCopy
  cases answer : (Backend.allocate a size).answer with
  | none => simp only [answer]
  | some fresh => simp only [answer]

/-- A resize over an arena reports what the request in it does. -/
theorem events_reallocate (bottom : s.arena? a = some arena) (memory : Memory) (block : Address)
    (oldSize size : Size) :
    (Allocator.reallocate a memory block oldSize size).events =
      (Backend.allocate a size).events := by
  induction s with
  | heap | plain | skewed => cases bottom
  | arena => exact events_byCopy (s := .arena) a memory block oldSize size
  | failing inner => exact events_byCopy (s := .failing inner) a memory block oldSize size
  | counting inner => exact events_byCopy (s := .counting inner) a memory block oldSize size
  | shared inner ih => exact ih (a := a.inner) bottom

/-- No order reports an exhaustion. -/
theorem exhaustions_control (a : s.State) (key : ControlKey) :
    exhaustions (Allocator.control a key).events = [] := by
  induction s with
  | heap | plain | skewed | shared => rfl
  | arena =>
    cases key with
    | reset => exact exhaustions_arenaReset _
    | used | capacity | vendor => rfl
  | failing inner ih => exact ih a.inner
  | counting inner ih => exact ih a.inner

theorem exhaustions_reset? {r : Reply s.State Unit} (done : s.reset? a = some r) :
    exhaustions r.events = [] := by
  induction s with
  | heap | plain | skewed | failing | counting => cases done
  | arena =>
    cases done
    exact exhaustions_arenaReset _
  | shared inner ih =>
    obtain ⟨r', done', rfl⟩ := Option.map_eq_some_iff.mp done
    exact ih (a := a.inner) done'

end Stack

/-- A request of some bytes reports what the allocator reports, and perhaps that it failed. -/
theorem exhaustions_request {α : Type} [Backend α] (a : α) {size : Size} (positive : size ≠ 0) :
    exhaustions (request a size).events = exhaustions (Backend.allocate a size).events := by
  simp only [request, if_neg positive]
  cases (Backend.allocate a size).answer with
  | none => simp
  | some block => rfl

/-- So does a resize, by way of the request in it; a size of zero may be turned away before. -/
theorem Stack.exhaustions_resizeBy {s : Stack} {a : s.State} {arena : Arena}
    (bottom : s.arena? a = some arena) (way : ResizeWay) (memory : Memory) (block : Address)
    (oldSize size : Size) :
    exhaustions (resizeBy way a memory block oldSize size).events =
      if way = .checked ∧ size = 0 then [] else exhaustions (Backend.allocate a size).events := by
  cases way with
  | direct => exact congrArg exhaustions (events_reallocate bottom memory block oldSize size)
  | byCopy => exact congrArg exhaustions (events_byCopy a memory block oldSize size)
  | checked =>
    by_cases zero : size = 0
    · simp [resizeBy, zero, resize_zero]
    · simp only [resizeBy, resize, zero, if_false, and_false]
      rw [← events_reallocate bottom memory block oldSize size]
      cases (Allocator.reallocate a memory block oldSize size).answer with
      | none => simp
      | some fresh => rfl

/-! ## 3. Runs -/

/-- A request that an arena refused, and the arena when it did. -/
structure Refusal where
  arena : Arena
  size : Size

namespace Refusal

/-- What should be reported of it. -/
def event (r : Refusal) : Event := .arenaExhausted r.size r.arena.offset r.arena.size

/-- Its block could be computed. -/
def Computed (r : Refusal) : Prop := r.arena.Computes r.size

instance (r : Refusal) : Decidable r.Computed :=
  inferInstanceAs (Decidable (r.arena.Computes r.size))

end Refusal

namespace Session

variable {s : Stack}

/-- What is reported during one use. -/
def reports (t : Session s) : Use → List Event
  | .request size => (ReservedArray.request t.allocator size).events
  | .allocate size => (Backend.allocate t.allocator size).events
  | .resize way n size =>
    match t.held[n]? with
    | none => []
    | some h => (resizeBy way t.allocator t.memory h.start h.size size).events
  | .control key => (Allocator.control t.allocator key).events
  | .reset =>
    match s.reset? t.allocator with
    | none => []
    | some r => r.events
  | .write _ _ | .release _ | .query _ | .budget _ => []

/-- The size of the block that the allocator is asked for in one use, if it is asked for one. -/
def asks (t : Session s) : Use → Option Size
  | .request size => if size = 0 then none else some size
  | .allocate size => some size
  | .resize way n size =>
    match t.held[n]? with
    | none => none
    | some _ => if way = .checked ∧ size = 0 then none else some size
  | .write _ _ | .release _ | .query _ | .control _ | .reset | .budget _ => none

/-- The request that gets to the arena in one use and is refused by it, if there is one. -/
def refusal? (t : Session s) (use : Use) : Option Refusal := do
  let arena ← s.arena? t.allocator
  let size ← t.asks use
  if s.admits t.allocator ∧ (arena.allocate size).answer = none then some ⟨arena, size⟩ else none

/-- What is reported during all uses, in order. -/
def reported (t : Session s) : List Use → List Event
  | [] => []
  | use :: uses => t.reports use ++ (t.perform use).reported uses

/-- The requests that the arena refuses, in order. -/
def refusals (t : Session s) : List Use → List Refusal
  | [] => []
  | use :: uses => (t.refusal? use).toList ++ (t.perform use).refusals uses

variable {t : Session s} {arena : Arena}

/-- **What is asked of the allocator is all that can report an exhaustion**, in every use. -/
theorem exhaustions_reports (bottom : s.arena? t.allocator = some arena) (use : Use) :
    exhaustions (t.reports use) =
      match t.asks use with
      | none => []
      | some size => exhaustions (Backend.allocate t.allocator size).events := by
  cases use with
  | request size =>
    by_cases zero : size = 0
    · simp [reports, asks, zero, request_zero]
    · simp only [asks, if_neg zero]
      exact exhaustions_request t.allocator zero
  | allocate size => rfl
  | resize way n size =>
    simp only [reports, asks]
    cases t.held[n]? with
    | none => rfl
    | some h =>
      simp only [Stack.exhaustions_resizeBy bottom]
      by_cases idle : way = .checked ∧ size = 0
      · simp only [if_pos idle]
      · simp only [if_neg idle]
  | control key => exact Stack.exhaustions_control t.allocator key
  | reset =>
    simp only [reports, asks]
    cases done : s.reset? t.allocator with
    | none => rfl
    | some r => exact Stack.exhaustions_reset? done
  | write | release | query | budget => rfl

/-- **One use reports an exhaustion just when the arena refuses a request in it whose block can be
computed**, and then it is the one of this request. -/
theorem exhaustions_use (bottom : s.arena? t.allocator = some arena) (sited : arena.Sited)
    (use : Use) :
    exhaustions (t.reports use) =
      ((t.refusal? use).toList.filter (·.Computed)).map Refusal.event := by
  unfold refusal?
  rw [exhaustions_reports bottom use]
  cases t.asks use with
  | none => simp [bottom]
  | some size =>
    simp only [Stack.events_allocate bottom]
    by_cases through : s.admits t.allocator
    · rw [if_pos through, sited.exhaustions_events, sited.events_eq]
      by_cases refused : (arena.allocate size).answer = none
      · by_cases computes : arena.Computes size
        · simp [bottom, through, refused, computes, Refusal.Computed, Refusal.event]
        · simp [bottom, through, refused, computes, Refusal.Computed]
      · simp [bottom, refused]
    · simp [bottom, through]

/-- **Over a whole run, the reports of exhaustion are those of the refused requests whose blocks can
be computed**, in order. -/
theorem exhaustions_eq (bottom : s.arena? t.allocator = some arena) (sited : arena.Sited)
    (uses : List Use) :
    exhaustions (t.reported uses) =
      ((t.refusals uses).filter (·.Computed)).map Refusal.event := by
  induction uses generalizing t arena with
  | nil => rfl
  | cons use uses ih =>
    obtain ⟨arena', bottom', course⟩ := course_perform bottom sited.power use
    obtain ⟨offset, rfl⟩ := course.same_stretch
    have first := exhaustions_use bottom sited use
    have rest := ih bottom' (sited.withOffset offset)
    unfold reported refusals
    rw [exhaustions_append, first, rest, List.filter_append, List.map_append]

end Session

/-! ## 4. Every state of an arena -/

/-- **An arena reports that it is exhausted, unless it cannot compute the block.**  In every state
that an arena can come to, at the bottom of any stack, and for every size: a request that is served
reports nothing; a request that is refused reports the exhaustion once, with the size asked for, the
offset and the capacity, just when the address of the block and its end in the arena fit into 64
bits, and reports nothing when they do not.  Over a whole run the reports of exhaustion are those of
the refused requests with such blocks, in order; so there is one for every refusal just when all
refused requests have such blocks. -/
theorem arena_exhaustion_reported_iff (s : Stack) (b : s.State) (base size : Size)
    (config : ArenaConfig) (arena : Arena)
    (created : Arena.create base size config = .ok arena) (bottom : s.arena? b = some arena)
    (fits : base.toNat + size.toNat ≤ 2 ^ 64) (memory : Memory) (uses : List Use) :
    let t : Session s := { memory, allocator := b }
    (∃ a, s.arena? (t.run uses).allocator = some a ∧ ∀ request : Size,
      let next := roundUp (base.toNat + a.offset.toNat) config.alignment.toNat
      let r := a.allocate request
      (r.answer.isSome → r.events = []) ∧
      (r.answer = none →
        (next < 2 ^ 64 ∧ next - base.toNat + request.toNat < 2 ^ 64 →
          ∃ event, r.events = [event] ∧ event.level = .debug ∧
            event.message = "bump arena exhausted" ∧
            event.fields = [("requested", .number request.toNat), ("offset", .number a.offset.toNat),
              ("max_size", .number size.toNat)]) ∧
        (¬(next < 2 ^ 64 ∧ next - base.toNat + request.toNat < 2 ^ 64) → r.events = []))) ∧
    exhaustions (t.reported uses) =
      ((t.refusals uses).filter (·.Computed)).map Refusal.event ∧
    ((exhaustions (t.reported uses)).length = (t.refusals uses).length ↔
      ∀ refusal ∈ t.refusals uses, refusal.Computed) := by
  intro t
  have sited := Arena.sited_of_create created fits
  obtain ⟨a, bottom', -, offset, same⟩ :=
    Session.laidFrom_run (t := t) created bottom rfl uses
  have whole := Session.exhaustions_eq (t := t) bottom sited uses
  obtain ⟨rfl, -⟩ := Arena.laid_of_create created
  refine ⟨⟨a, bottom', ?_⟩, whole, ?_⟩
  · have sited' : a.Sited := same ▸ sited.withOffset offset
    have start := sited'.base_add_nextOffset
    obtain rfl : a.base = base := congrArg Arena.base same
    obtain rfl : a.size = size := congrArg Arena.size same
    have alignment_eq : a.alignment = config.alignment := congrArg Arena.alignment same
    rw [← alignment_eq]
    intro request next r
    have computes_iff : next < 2 ^ 64 ∧ next - a.base.toNat + request.toNat < 2 ^ 64 ↔
        a.Computes request := by
      unfold Arena.Computes
      rw [start]
      rfl
    rw [computes_iff]
    have events : r.events = _ := sited'.events_eq request
    refine ⟨?_, ?_⟩
    · intro served
      have not_refused : r.answer ≠ none := Option.isSome_iff_ne_none.mp served
      rw [events, if_neg fun refused => not_refused refused.1]
    · intro refused
      constructor
      · intro computes
        rw [if_pos ⟨refused, computes⟩] at events
        exact ⟨_, events, rfl, rfl, rfl⟩
      · intro computes
        rw [events, if_neg fun refused => computes refused.2]
  · rw [whole, List.length_map, List.length_filter_eq_length_iff]
    simp

/-- A refusal that nobody hears of: a fresh arena of 64 bytes serves a byte, and then it is asked
for all the bytes that a word can count. -/
theorem arena_exhaustion_unreported :
    let t : Session .arena := { memory := .zeroed, allocator := (⟨4096, 64, 0, 16⟩ : Arena) }
    let uses : List Use := [.allocate 1, .allocate 0xFFFFFFFFFFFFFFFF]
    Arena.create 4096 64 {} = .ok ⟨4096, 64, 0, 16⟩ ∧ 4096 + 64 ≤ 2 ^ 64 ∧
      Arena.allocate ⟨4096, 64, 0, 16⟩ 1 =
        { answer := some 4096, state := ⟨4096, 64, 1, 16⟩, events := [] } ∧
      (Arena.allocate ⟨4096, 64, 1, 16⟩ 0xFFFFFFFFFFFFFFFF).answer = none ∧
      (Arena.allocate ⟨4096, 64, 1, 16⟩ 0xFFFFFFFFFFFFFFFF).events = [] ∧
      (t.refusals uses).length = 1 ∧ t.reported uses = [] := by
  intro t uses
  refine ⟨rfl, by decide, rfl, by decide, by decide, by cbv, by cbv⟩

/-- A block and four requests that are refused.  One of them does not get to the arena, which is 100
bytes long, and one is too large for its block to be computed. -/
def refusedUses : List Use :=
  [.allocate 3, .request 100, .budget (some 0), .allocate 100, .budget none, .resize .checked 0 90,
    .allocate 0xFFFFFFFFFFFFFFFF, .request 0]

/-- Of the three requests that the arena refuses, two are reported.  Then 81 bytes are served, 82
bytes are refused with a report, and the largest size is refused without one. -/
theorem arena_exhaustion_reported_of_refusedUses :
    let t : Session (.failing .arena) :=
      { memory := .zeroed
        allocator := ({ inner := ⟨4110, 100, 0, 16⟩ } : (Stack.failing .arena).State) }
    let a : Arena := ⟨4110, 100, 5, 16⟩
    Arena.create 4110 100 {} = .ok ⟨4110, 100, 0, 16⟩ ∧ 4110 + 100 ≤ 2 ^ 64 ∧
      (t.refusals refusedUses).map Refusal.size = [100, 90, 0xFFFFFFFFFFFFFFFF] ∧
      exhaustions (t.reported refusedUses) =
        [.arenaExhausted 100 5 100, .arenaExhausted 90 5 100] ∧
      (a.allocate 81).events = [] ∧
      (∃ event, (a.allocate 82).events = [event] ∧ event.message = "bump arena exhausted") ∧
      (a.allocate 0xFFFFFFFFFFFFFFFF).events = [] := by
  intro t a
  obtain ⟨⟨a', bottom, reports⟩, whole, -⟩ :=
    arena_exhaustion_reported_iff (.failing .arena) t.allocator 4110 100 {} _ rfl rfl (by decide)
      .zeroed refusedUses
  have reached : Stack.arena? (.failing .arena) (t.run refusedUses).allocator = some a := by cbv
  obtain rfl : a' = a := Option.some.inj (bottom.symm.trans reached)
  obtain ⟨served, -⟩ := reports 81
  obtain ⟨-, refused⟩ := reports 82
  obtain ⟨-, beyond⟩ := reports 0xFFFFFFFFFFFFFFFF
  refine ⟨rfl, by decide, by cbv, whole.trans (by cbv), served (by decide), ?_, ?_⟩
  · obtain ⟨event, events, -, message, -⟩ := (refused (by decide)).1 (by decide)
    exact ⟨event, events, message⟩
  · exact (beyond (by decide)).2 (by decide)

end ReservedArray
