/-
# An arena somewhere else

An arena computes with addresses, so where it puts its blocks could depend on where it lies.  It
does so only by the remainder of its first address by the alignment.  Two arenas that agree in this,
and otherwise are as large and aligned alike (`Arena.Twins`), give the same answers for as long as
the same is done with both: each block as far from the first byte, each refusal at the same use, and
as much in use after each (`Session.Twins.step`, `Session.Twins.log`).

What stands in memory and which blocks were handed out before has no part in this.  An arena that
was reset is therefore as good as a new one, whatever was done with it.
-/
import Mathlib
import ReservedArray.Proofs.Arena.Exactness
import ReservedArray.Proofs.Wrapping.Dialogue

namespace ReservedArray

open Workbench (ResizeWay)

/-! ## 1. Answers -/

/-- The answer, when a place in it was counted from the base. -/
def Call.Answer.shift (base : Nat) : Call.Answer → Call.Answer
  | block place => block (place.map (base + ·))
  | other => other

namespace Session

/-- What is answered to a use. -/
def answer {s : Stack} (t : Session s) : Use → Call.Answer
  | .request size => .block (ReservedArray.request t.allocator size).answer.toOption
  | .allocate size => .block (Backend.allocate t.allocator size).answer
  | .resize way n size =>
    .block (t.held[n]?.bind fun h =>
      (resizeBy way t.allocator t.memory h.start h.size size).answer)
  | .query key => .value (Allocator.query t.allocator key)
  | .control key => .value (Allocator.control t.allocator key).answer
  | .write _ _ | .release _ | .reset | .budget _ => .nothing

/-- Each use in order with its answer, and with how much of the arena is in use after it. -/
def log (t : Session .arena) : List Use → List (Call.Answer × Size)
  | [] => []
  | use :: uses =>
    (t.answer use, Arena.offset (t.perform use).allocator) :: (t.perform use).log uses

end Session

/-! ## 2. One arena and another -/

namespace Arena

/-- A block, or none; a size of zero may be turned away. -/
def serve (arena : Arena) (turnsAway : Bool) (size : Size) : Option Address × Arena :=
  if turnsAway && size == 0 then (none, arena)
  else ((arena.allocate size).answer, (arena.allocate size).state)

theorem request_eq_serve (arena : Stack.arena.State) (size : Size) :
    ((request arena size).answer.toOption, (request arena size).state) =
      Arena.serve arena true size := by
  by_cases zero : size = 0
  · simp [serve, zero, request_zero, Except.toOption]
  · have served : Arena.serve arena true size =
        ((Backend.allocate arena size).answer, (Backend.allocate arena size).state) := by
      simp only [serve, Bool.true_and, beq_iff_eq, if_neg zero]
      rfl
    rw [served, state_request zero]
    cases answer : (Backend.allocate arena size).answer with
    | none => rw [request_of_none zero answer]; rfl
    | some block => rw [request_of_some zero answer]; rfl

/-- A resize asks an arena for a block like any request. -/
theorem resizeBy_eq_serve (way : ResizeWay) (arena : Stack.arena.State) (memory : Memory)
    (block : Address) (oldSize newSize : Size) :
    ((resizeBy way arena memory block oldSize newSize).answer,
        (resizeBy way arena memory block oldSize newSize).state.1) =
      Arena.serve arena (way == .checked) newSize := by
  have copied : ((reallocateByCopy arena memory block oldSize newSize).answer,
      (reallocateByCopy arena memory block oldSize newSize).state.1) =
        Arena.serve arena false newSize := by
    show _ = ((Backend.allocate arena newSize).answer, (Backend.allocate arena newSize).state)
    unfold reallocateByCopy
    cases answer : (Backend.allocate arena newSize).answer with
    | none => simp only [answer]
    | some fresh =>
      simp only [answer]
      rfl
  cases way with
  | direct | byCopy => exact copied
  | checked =>
    by_cases zero : newSize = 0
    · simp [resizeBy, serve, zero, resize_zero, Except.toOption]
    · have unchecked : Arena.serve arena true newSize = Arena.serve arena false newSize := by
        simp [serve, zero]
      rw [show (ResizeWay.checked == ResizeWay.checked) = true from rfl, unchecked, ← copied]
      have direct : Allocator.reallocate arena memory block oldSize newSize =
        reallocateByCopy arena memory block oldSize newSize := rfl
      simp only [resizeBy, resize, if_neg zero, direct]
      cases answer : (reallocateByCopy arena memory block oldSize newSize).answer <;> rfl

/-- Two arenas over as many bytes, aligned alike, from bases that are as far behind a multiple of
the alignment, with as much of them in use. -/
structure Twins (base base' : Size) (arena arena' : Arena) : Prop where
  base_eq : arena.base = base
  twin : arena' = { arena with base := base' }
  congruent : base.toNat % arena.alignment.toNat = base'.toNat % arena.alignment.toNat
  sited : arena.Sited
  sited' : arena'.Sited

namespace Twins

variable {base base' : Size} {arena arena' : Arena} (twins : Twins base base' arena arena')

include twins

theorem offset_eq : arena'.offset = arena.offset := by rw [twins.twin]

/-- **The next block starts as far into the one as into the other.** -/
theorem nextOffset_eq : arena'.nextOffset = arena.nextOffset := by
  obtain ⟨rfl, rfl, congruent, sited, -⟩ := twins
  calc nextOffset { arena with base := base' }
      = roundUp (base'.toNat % arena.alignment.toNat + arena.offset.toNat)
          arena.alignment.toNat - base'.toNat % arena.alignment.toNat :=
        roundUp_add_sub _ _ sited.positive
    _ = roundUp (arena.base.toNat % arena.alignment.toNat + arena.offset.toNat)
          arena.alignment.toNat - arena.base.toNat % arena.alignment.toNat := by rw [congruent]
    _ = arena.nextOffset := (roundUp_add_sub _ _ sited.positive).symm

theorem withOffset (offset : Size) :
    Twins base base' { arena with offset } { arena' with offset } := by
  obtain ⟨rfl, rfl, congruent, sited, sited'⟩ := twins
  exact ⟨rfl, rfl, congruent, sited.withOffset offset, sited'.withOffset offset⟩

/-- **One serves a request just when the other does**, and puts the block as far into itself. -/
theorem allocate (size : Size) :
    ∃ place : Option Nat,
      (arena.allocate size).answer = place.map (base.toNat + ·) ∧
      (arena'.allocate size).answer = place.map (base'.toNat + ·) ∧
      Twins base base' (arena.allocate size).state (arena'.allocate size).state := by
  have next := twins.nextOffset_eq
  have base_eq : arena'.base = base' := by rw [twins.twin]
  have size_eq : arena'.size.toNat = arena.size.toNat := by rw [twins.twin]
  rcases twins.sited.allocate_exact size with
    ⟨room, answer, stop, ends, state⟩ | ⟨full, answer, state⟩
  · rcases twins.sited'.allocate_exact size with
      ⟨-, answer', stop', ends', state'⟩ | ⟨full', -⟩
    · obtain rfl : stop = stop' := UInt64.toNat_inj.mp (by rw [ends, ends', next])
      refine ⟨some arena.nextOffset, ?_, ?_, ?_⟩
      · rw [answer, twins.base_eq, Option.map_some]
      · rw [answer', base_eq, next, Option.map_some]
      · rw [state, state']
        exact twins.withOffset stop
    · omega
  · rcases twins.sited'.allocate_exact size with ⟨room', -⟩ | ⟨-, answer', state'⟩
    · omega
    · refine ⟨none, answer, answer', ?_⟩
      rw [state, state']
      exact twins

theorem serve (turnsAway : Bool) (size : Size) :
    ∃ place : Option Nat,
      (arena.serve turnsAway size).1 = place.map (base.toNat + ·) ∧
      (arena'.serve turnsAway size).1 = place.map (base'.toNat + ·) ∧
      Twins base base' (arena.serve turnsAway size).2 (arena'.serve turnsAway size).2 := by
  unfold Arena.serve
  split
  · exact ⟨none, rfl, rfl, twins⟩
  · exact twins.allocate size

theorem query_eq (key : ControlKey) : arena'.query key = arena.query key := by
  obtain ⟨rfl, rfl, -⟩ := twins
  cases key <;> rfl

end Twins

end Arena

/-! ## 3. One session and another -/

/-- Two sessions over such arenas, in which as many blocks are held. -/
structure Session.Twins (base base' : Size) (t t' : Session .arena) : Prop where
  arenas : Arena.Twins base base' t.allocator t'.allocator
  held : t'.held.length = t.held.length

namespace Session.Twins

variable {base base' : Size} {t t' : Session .arena}

theorem settle (twins : Session.Twins base base' t t') {a a' : Arena}
    (next : Arena.Twins base base' a a') (size : Size) (place : Option Nat) :
    Session.Twins base base' (t.settle a size (place.map (base.toNat + ·)))
      (t'.settle a' size (place.map (base'.toNat + ·))) := by
  cases place with
  | none => exact ⟨next, twins.held⟩
  | some place => exact ⟨next, by simp [Session.settle, Occupancy.gain, twins.held]⟩

/-- The same places have a block that is held. -/
theorem held_cases (twins : Session.Twins base base' t t') (n : Nat) :
    (t.held[n]? = none ∧ t'.held[n]? = none) ∨
      ∃ h h', t.held[n]? = some h ∧ t'.held[n]? = some h' := by
  rcases Nat.lt_or_ge n t.held.length with inside | outside
  · have inside' : n < t'.held.length := twins.held ▸ inside
    exact .inr ⟨_, _, List.getElem?_eq_getElem inside, List.getElem?_eq_getElem inside'⟩
  · have outside' : t'.held.length ≤ n := twins.held ▸ outside
    exact .inl ⟨List.getElem?_eq_none outside, List.getElem?_eq_none outside'⟩

theorem onHeld (twins : Session.Twins base base' t t') (n : Nat) {f f' : Held → Session .arena}
    (used : ∀ h h', Session.Twins base base' (f h) (f' h')) :
    Session.Twins base base' (t.onHeld n f) (t'.onHeld n f') := by
  unfold Session.onHeld
  rcases twins.held_cases n with ⟨here, there⟩ | ⟨h, h', here, there⟩
  · simp only [here, there]
    exact twins
  · simp only [here, there]
    exact used h h'

/-- A resize is a request, and one block is held in place of another. -/
theorem resize (twins : Session.Twins base base' t t') (way : ResizeWay) (n : Nat) (size : Size) :
    ∃ place : Call.Answer, t.answer (.resize way n size) = place.shift base.toNat ∧
      t'.answer (.resize way n size) = place.shift base'.toNat ∧
      Session.Twins base base' (t.perform (.resize way n size))
        (t'.perform (.resize way n size)) := by
  simp only [Session.answer, Session.perform, Session.onHeld]
  rcases twins.held_cases n with ⟨here, there⟩ | ⟨h, h', here, there⟩
  · simp only [here, there, Option.bind_none]
    exact ⟨.block none, rfl, rfl, twins⟩
  · have served := twins.arenas.serve (way == .checked) size
    rw [← Arena.resizeBy_eq_serve way t.allocator t.memory h.start h.size,
      ← Arena.resizeBy_eq_serve way t'.allocator t'.memory h'.start h'.size] at served
    obtain ⟨place, answer, answer', next⟩ := served
    simp only at answer answer'
    simp only [here, there, Option.bind_some, answer, answer']
    refine ⟨.block place, rfl, rfl, ?_⟩
    cases place with
    | none => exact ⟨next, twins.held⟩
    | some place =>
      refine ⟨next, ?_⟩
      simp [Occupancy.replace, List.length_eraseIdx, twins.held]

/-- **Each use is answered alike**, but for where the arenas lie, and they stay twins. -/
theorem step (twins : Session.Twins base base' t t') (use : Use) :
    ∃ place : Call.Answer, t.answer use = place.shift base.toNat ∧
      t'.answer use = place.shift base'.toNat ∧
      Session.Twins base base' (t.perform use) (t'.perform use) := by
  cases use with
  | request size =>
    have served := twins.arenas.serve true size
    rw [← Arena.request_eq_serve t.allocator, ← Arena.request_eq_serve t'.allocator] at served
    obtain ⟨place, here, there, next⟩ := served
    refine ⟨.block place, congrArg _ here, congrArg _ there, ?_⟩
    simp only at here there
    simp only [Session.perform, here, there]
    exact twins.settle next size place
  | allocate size =>
    obtain ⟨place, here, there, next⟩ := twins.arenas.allocate size
    refine ⟨.block place, congrArg _ here, congrArg _ there, ?_⟩
    have settled := twins.settle next size place
    rw [← here, ← there] at settled
    exact settled
  | write n byte =>
    refine ⟨.nothing, rfl, rfl, twins.onHeld n fun h h' => ⟨twins.arenas, ?_⟩⟩
    simp [Occupancy.write, twins.held]
  | release n =>
    refine ⟨.nothing, rfl, rfl, twins.onHeld n fun h h' => ⟨twins.arenas, ?_⟩⟩
    simp [Occupancy.drop, List.length_eraseIdx, twins.held]
  | resize way n size => exact twins.resize way n size
  | query key =>
    have same := congrArg Call.Answer.value (twins.arenas.query_eq key)
    exact ⟨.value (Arena.query t.allocator key), rfl, same, twins⟩
  | control key =>
    have same := congrArg Call.Answer.value (twins.arenas.query_eq key)
    cases key with
    | reset => exact ⟨.value (.ok 0), rfl, rfl, twins.arenas.withOffset 0, rfl⟩
    | used | capacity | vendor =>
      refine ⟨.value (Arena.query t.allocator _), rfl, same, ?_⟩
      simp only [Session.perform, reduceCtorEq, false_and, if_false]
      exact ⟨twins.arenas, twins.held⟩
  | reset => exact ⟨.nothing, rfl, rfl, twins.arenas.withOffset 0, rfl⟩
  | budget budget => exact ⟨.nothing, rfl, rfl, twins⟩

/-- **So is every sequence of uses.** -/
theorem log (twins : Session.Twins base base' t t') (uses : List Use) :
    ∃ places : List (Call.Answer × Size),
      t.log uses = places.map (Prod.map (·.shift base.toNat) id) ∧
      t'.log uses = places.map (Prod.map (·.shift base'.toNat) id) := by
  induction uses generalizing t t' with
  | nil => exact ⟨[], rfl, rfl⟩
  | cons use uses ih =>
    obtain ⟨place, here, there, next⟩ := twins.step use
    obtain ⟨places, rest, rest'⟩ := ih next
    refine ⟨(place, Arena.offset (t.perform use).allocator) :: places, ?_, ?_⟩
    · rw [Session.log, here, rest]
      rfl
    · rw [Session.log, there, rest', next.arenas.offset_eq]
      rfl

end Session.Twins

/-- New arenas at two addresses that leave the same remainder are twins. -/
theorem Arena.twins_of_create {base base' size : Size} {config : ArenaConfig}
    {arena arena' : Arena} (created : create base size config = .ok arena)
    (created' : create base' size config = .ok arena')
    (fits : base.toNat + size.toNat ≤ 2 ^ 64) (fits' : base'.toNat + size.toNat ≤ 2 ^ 64)
    (congruent : base.toNat % config.alignment.toNat = base'.toNat % config.alignment.toNat) :
    Twins base base' arena arena' := by
  have sited := sited_of_create created fits
  have sited' := sited_of_create created' fits'
  obtain ⟨rfl, -⟩ := laid_of_create created
  obtain ⟨rfl, -⟩ := laid_of_create created'
  exact ⟨rfl, rfl, congruent, sited, sited'⟩

/-- After a reset of either kind an arena is the new one, and no block is held. -/
theorem Session.perform_reset_run {base size : Size} {config : ArenaConfig} {arena : Arena}
    (created : Arena.create base size config = .ok arena) (memory : Memory) (history : List Use)
    {order : Use} (resets : order = .reset ∨ order = .control .reset) :
    let t := ({ memory, allocator := arena } : Session .arena).run history
    (t.perform order).allocator = arena ∧ (t.perform order).held = [] := by
  obtain ⟨rfl, -⟩ := Arena.laid_of_create created
  obtain ⟨_, bottom, -, offset, same⟩ :=
    Session.laidFrom_run (s := .arena) (t := { memory, allocator := _ }) created rfl rfl history
  have now := (Option.some.inj bottom).trans same
  intro t
  have emptied : (Arena.reset t.allocator).state =
      { base, size, offset := 0, alignment := config.alignment } := by
    rw [now]
    rfl
  rcases resets with rfl | rfl
  · exact ⟨emptied, rfl⟩
  · exact ⟨emptied, rfl⟩

/-- **Arena placement is reproducible.**  Over two stretches of the address space that are as large
and aligned alike, from addresses that leave the same remainder by the alignment, every sequence of
uses gets the same answers and has as much in use after each of them; only the places that are
answered are counted from where the arena lies.  And after a reset, at any point and of either kind,
everything that is done is answered just as it is over a new arena in the same place. -/
theorem arena_placement_reproducible (base base' size : Size) (config : ArenaConfig)
    (arena arena' : Arena) (created : Arena.create base size config = .ok arena)
    (created' : Arena.create base' size config = .ok arena')
    (fits : base.toNat + size.toNat ≤ 2 ^ 64) (fits' : base'.toNat + size.toNat ≤ 2 ^ 64)
    (congruent : base.toNat % config.alignment.toNat = base'.toNat % config.alignment.toNat)
    (memory memory' : Memory) :
    (∀ uses, ∃ places : List (Call.Answer × Size),
      ({ memory, allocator := arena } : Session .arena).log uses =
        places.map (Prod.map (·.shift base.toNat) id) ∧
      ({ memory := memory', allocator := arena' } : Session .arena).log uses =
        places.map (Prod.map (·.shift base'.toNat) id)) ∧
    ∀ (history : List Use) (order : Use), order = .reset ∨ order = .control .reset →
      ∀ uses, ((({ memory, allocator := arena } : Session .arena).run history).perform order).log
          uses = ({ memory := memory', allocator := arena } : Session .arena).log uses := by
  constructor
  · intro uses
    have arenas := Arena.twins_of_create created created' fits fits' congruent
    have twins : Session.Twins base base' { memory, allocator := arena }
        { memory := memory', allocator := arena' } := ⟨arenas, rfl⟩
    exact twins.log uses
  · intro history order resets uses
    obtain ⟨emptied, none_held⟩ := Session.perform_reset_run created memory history resets
    -- the reset arena and a new one in the same place are twins of one another
    have arenas := Arena.twins_of_create created created fits fits rfl
    have twins : Session.Twins base base
        ((Session.run { memory, allocator := arena } history).perform order)
        { memory := memory', allocator := arena } :=
      ⟨by rw [emptied]; exact arenas, by rw [none_held]⟩
    obtain ⟨places, here, there⟩ := twins.log uses
    exact here.trans there.symm

/-- Blocks, resizes, questions, a request that is too large, and an order to reset. -/
def errandsInArena : List Use :=
  [.allocate 3, .resize .direct 0 20, .request 200, .release 0, .query .used, .allocate 0,
    .control .reset, .request 5]

/-- From two addresses that leave fourteen by sixteen, the blocks lie two, eighteen, fifty and again
two bytes into the arena; and after one more reset the whole is repeated as if it were new. -/
theorem arena_placement_reproducible_across_pages :
    Arena.create 4110 100 {} = .ok ⟨4110, 100, 0, 16⟩ ∧
      Arena.create 8206 100 {} = .ok ⟨8206, 100, 0, 16⟩ ∧ 4110 % 16 = 8206 % 16 ∧
      (∃ places : List (Call.Answer × Size),
        ({ memory := .zeroed, allocator := ⟨4110, 100, 0, 16⟩ } : Session .arena).log
          errandsInArena = places.map (Prod.map (·.shift 4110) id) ∧
        ({ memory := .zeroed, allocator := ⟨8206, 100, 0, 16⟩ } : Session .arena).log
          errandsInArena = places.map (Prod.map (·.shift 8206) id)) ∧
      ({ memory := .zeroed, allocator := ⟨8206, 100, 0, 16⟩ } : Session .arena).log
          errandsInArena =
        [(.block (some 8208), 5), (.block (some 8224), 38), (.block none, 38), (.nothing, 38),
          (.value (.ok 38), 38), (.block (some 8256), 50), (.value (.ok 0), 0),
          (.block (some 8208), 7)] ∧
      ((({ memory := .zeroed, allocator := ⟨4110, 100, 0, 16⟩ } : Session .arena).run
          errandsInArena).perform .reset).log errandsInArena =
        ({ memory := .zeroed, allocator := ⟨4110, 100, 0, 16⟩ } : Session .arena).log
          errandsInArena := by
  obtain ⟨alike, afresh⟩ := arena_placement_reproducible 4110 8206 100 {} ⟨4110, 100, 0, 16⟩
    ⟨8206, 100, 0, 16⟩ rfl rfl (by decide) (by decide) (by decide) .zeroed .zeroed
  exact ⟨rfl, rfl, by decide, alike errandsInArena, by cbv,
    afresh errandsInArena .reset (.inl rfl) errandsInArena⟩

end ReservedArray
