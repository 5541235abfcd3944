/-
# What an arena has room for

Whether an arena serves a request is known exactly (`Arena.Sited.allocate_exact`), and three things
follow for whoever plans with it.

* **It keeps a promise made in advance.**  Before a block no more than `alignment - 1` bytes are
  lost, wherever the part in use ends.  So an empty arena serves every list of sizes whose sum, with
  so many bytes added to each, is below its length (`Arena.Sited.allocateAll?_of_lt`).
* **It does not change its mind.**  The offset only climbs until the arena is reset, and rounding up
  keeps the order.  So what is refused once is refused from then on, and every larger size with it
  (`Arena.Sited.refused_of_climbs`).
* **It is not always good for a byte.**  An arena is accepted when it is at least as long as its
  alignment.  That is one byte short of what the first block may need: the padding before it and one
  byte can fill the whole length, and the last byte is never handed out
  (`accepted_arena_serves_byte_iff`).
-/
import Mathlib
import ReservedArray.Proofs.Arena.Exactness
import ReservedArray.Proofs.Wrapping.Sharing

namespace ReservedArray

/-! ## 1. A list of sizes -/

namespace Arena.Sited

variable {arena : Arena} (sited : arena.Sited)

include sited

/-- **What fits with the most padding there can be is served**, and between what was asked for and
that much is in use. -/
theorem allocateAll?_of_lt (sizes : List Size)
    (room : arena.offset.toNat +
      (sizes.map fun n => n.toNat + (arena.alignment.toNat - 1)).sum < arena.size.toNat) :
    ∃ full, arena.allocateAll? (sizes.map UInt64.toNat) = some full ∧
      arena.offset.toNat + (sizes.map UInt64.toNat).sum ≤ full.offset.toNat ∧
      full.offset.toNat ≤ arena.offset.toNat +
        (sizes.map fun n => n.toNat + (arena.alignment.toNat - 1)).sum := by
  induction sizes generalizing arena with
  | nil => exact ⟨arena, rfl, by simp, by simp⟩
  | cons n sizes ih =>
    simp only [List.map_cons, List.sum_cons] at room ⊢
    obtain ⟨above, below⟩ := sited.nextOffset_bounds
    rcases sited.allocate_exact n with ⟨-, answer, stop, ends, state⟩ | ⟨full, -⟩
    · obtain ⟨full, served, least, most⟩ := ih (sited.withOffset stop) (by simp only; omega)
      simp only at least most
      refine ⟨full, ?_, by omega, by omega⟩
      have word : n.toNat.toUInt64 = n := UInt64.ofNat_toNat
      rw [allocateAll?, word, answer, state, Option.isSome_some, if_pos rfl]
      exact served
    · omega

/-! ## 2. Refusals -/

/-- **What is refused once is refused from then on**, and so is every larger size. -/
theorem refused_of_climbs {later : Arena} (climbs : arena.Climbs later) {size size' : Size}
    (refused : (arena.allocate size).answer = none) (le : size ≤ size') :
    (later.allocate size').answer = none := by
  have further := UInt64.le_iff_toNat_le.mp climbs.offset_le
  have larger := UInt64.le_iff_toNat_le.mp le
  have full := (sited.allocate_eq_none_iff size).mp refused
  obtain ⟨offset, rfl⟩ : ∃ offset, later = { arena with offset } := ⟨_, climbs.same⟩
  have onward : arena.nextOffset ≤ nextOffset { arena with offset } :=
    Nat.sub_le_sub_right (roundUp_mono _ (Nat.add_le_add_left further _)) _
  rw [(sited.withOffset offset).allocate_eq_none_iff]
  simp only
  omega

end Arena.Sited

/-- Whatever is done with it, an arena stays the stretch that it is. -/
theorem Commons.same_stretch_run {ι κ : Type} {T : ι → Type} {s : Stack}
    {options : (k : ι) → ArrayOptions κ (T k)} {c : Commons s κ T} {arena : Arena}
    (settled : c.Settled options) (bottom : s.arena? c.ensemble.allocator = some arena)
    (accesses : List (Access T)) :
    ∃ offset, s.arena? (c.run options accesses).ensemble.allocator =
      some { arena with offset } := by
  induction accesses generalizing c arena with
  | nil => exact ⟨arena.offset, bottom⟩
  | cons access accesses ih =>
    have moved : ∃ offset, s.arena? (c.step options access).ensemble.allocator =
        some { arena with offset } := by
      by_cases h : access.Rewinds
      · obtain ⟨-, _, same, kept | empty⟩ := rewinds_step settled h
        all_goals obtain rfl := Option.some.inj (bottom.symm.trans same)
        · exact ⟨arena.offset, kept⟩
        · exact ⟨0, empty⟩
      · obtain ⟨_, later, same, there, climbs⟩ := (climbs_step settled h).2
        obtain rfl := Option.some.inj (bottom.symm.trans same)
        exact ⟨later.offset, there.trans (congrArg some climbs.same)⟩
    obtain ⟨offset, bottom'⟩ := moved
    obtain ⟨offset', bottom''⟩ := ih (settled_step settled access) bottom'
    exact ⟨offset', bottom''⟩

/-- **What an arena has room for, and what it has no room for any more.**  Of an arena that lies in
the address space, at the bottom of any stack and whatever is done with it:

* when it is new or was just reset, it serves every list of sizes that, with `alignment - 1` added
  to each, sum up to less than its length; then at least the sum of the sizes is in use, and at most
  the sum with the additions;
* when it refuses a size, it refuses this size and every larger one for as long as it is not reset,
  whatever else is done with it. -/
theorem arena_capacity_guaranteed {ι κ : Type} {T : ι → Type} (s : Stack)
    (options : (k : ι) → ArrayOptions κ (T k)) (base size : Size) (config : ArenaConfig)
    (arena : Arena) (a : s.State) (context : κ) (memory : Memory)
    (created : Arena.create base size config = .ok arena) (bottom : s.arena? a = some arena)
    (fits : base.toNat + size.toNat ≤ 2 ^ 64) (before : List (Access T)) :
    let c := ({ ensemble := { allocator := a, context }, memory } : Commons s κ T).run
      options before
    ∃ now, s.arena? c.ensemble.allocator = some now ∧
      (∀ start, start = arena ∨ start = now.reset.state → ∀ sizes : List Size,
        (sizes.map fun n => n.toNat + (config.alignment.toNat - 1)).sum < size.toNat →
        ∃ full, start.allocateAll? (sizes.map UInt64.toNat) = some full ∧
          (sizes.map UInt64.toNat).sum ≤ full.offset.toNat ∧
          full.offset.toNat ≤
            (sizes.map fun n => n.toNat + (config.alignment.toNat - 1)).sum) ∧
      ∀ request, (now.allocate request).answer = none →
        ∀ after : List (Access T), (∀ access ∈ after, ¬access.Rewinds) →
          ∃ later, s.arena? (c.run options after).ensemble.allocator = some later ∧
            ∀ request', request ≤ request' → (later.allocate request').answer = none := by
  have sited := Arena.sited_of_create created fits
  obtain ⟨rfl, -⟩ := Arena.laid_of_create created
  intro c
  have fresh : Commons.Settled options
      ({ ensemble := { allocator := a, context }, memory } : Commons s κ T) :=
    ⟨fun _ mem => (List.not_mem_nil mem).elim, _, bottom, sited.power⟩
  have settled : c.Settled options := Commons.settled_run fresh before
  obtain ⟨offset, bottom'⟩ := Commons.same_stretch_run fresh bottom before
  refine ⟨_, bottom', ?_, ?_⟩
  · intro start empty sizes room
    -- a reset arena is the new one
    obtain rfl : start = { base, size, offset := 0, alignment := config.alignment } :=
      empty.elim id id
    obtain ⟨full, served, least, most⟩ := sited.allocateAll?_of_lt sizes (by simpa using room)
    exact ⟨full, served, by simpa using least, by simpa using most⟩
  · intro request refused after forward
    obtain ⟨_, later, same, there, climbs⟩ := Commons.climbs_run settled forward
    obtain rfl := Option.some.inj (bottom'.symm.trans same)
    refine ⟨later, there, fun request' le => ?_⟩
    exact (sited.withOffset offset).refused_of_climbs climbs refused le

/-- An arena of a hundred bytes, the first of which is not aligned, for two arrays and a caller. -/
def hundredInCommon : Commons .arena Unit fun _ : Bool => Nat :=
  { ensemble := { allocator := (⟨4110, 100, 0, 16⟩ : Arena), context := () }, memory := .zeroed }

/-- A block, a reset, and a block that is left. -/
def secondTenancy : List (Access fun _ : Bool => Nat) :=
  [.call 0 (.allocate 40), .reset, .call 2 (.allocate 30)]

/-- An order to reset that does not get through, a release, an array and a small block. -/
def stay : List (Access fun _ : Bool => Nat) :=
  [.call 1 (.control .reset), .call 0 (.release 4112 30), .turn 1 (.deed (.withReserve true 1)),
    .call 0 (.allocate 5)]

/-- Three blocks of together 30 bytes are sure to find room; 70 bytes do not behind the first 30,
and 80 do not after anything that is done then. -/
theorem arena_capacity_guaranteed_in_hundred :
    Arena.create 4110 100 {} = .ok ⟨4110, 100, 0, 16⟩ ∧ 4110 + 100 ≤ 2 ^ 64 ∧
      (3 + 15) + ((20 + 15) + (7 + 15)) < 100 ∧
      (∃ full, Arena.allocateAll? ⟨4110, 100, 0, 16⟩ [3, 20, 7] = some full ∧
        30 ≤ full.offset.toNat ∧ full.offset.toNat ≤ 75) ∧
      (Arena.allocate ⟨4110, 100, 32, 16⟩ 70).answer = none ∧
      ∃ later : Arena, (hundredInCommon.run numberOptions (secondTenancy ++ stay)).used? =
          some later.offset ∧ later.offset = 55 ∧ (later.allocate 80).answer = none := by
  have forward : ∀ access ∈ stay, ¬access.Rewinds := by simp [stay, Access.Rewinds]
  have reached : ((hundredInCommon.run numberOptions secondTenancy).ensemble.allocator : Arena) =
      ⟨4110, 100, 32, 16⟩ := by cbv
  have full : (hundredInCommon.run numberOptions (secondTenancy ++ stay)).used? = some 55 := by
    cbv
  obtain ⟨now, bottom, promise, refuses⟩ :=
    arena_capacity_guaranteed .arena numberOptions 4110 100 {} _ (⟨4110, 100, 0, 16⟩ : Arena) ()
      .zeroed rfl rfl (by decide) secondTenancy
  obtain rfl : now = ⟨4110, 100, 32, 16⟩ := (Option.some.inj bottom).symm.trans reached
  have refused : (Arena.allocate ⟨4110, 100, 32, 16⟩ 70).answer = none := by decide
  obtain ⟨later, bottom', never⟩ := refuses 70 refused stay forward
  rw [← Commons.run_append] at bottom'
  have used : (hundredInCommon.run numberOptions (secondTenancy ++ stay)).used? =
      some later.offset := congrArg (Option.map Arena.offset) bottom'
  refine ⟨rfl, by decide, by decide, ?_, refused, later, used, ?_, never 80 (by decide)⟩
  · exact promise _ (.inr rfl) [3, 20, 7] (by decide)
  · exact Option.some.inj (used.symm.trans full)

/-! ## 3. The first byte -/

namespace Arena.Sited

variable {arena : Arena} (sited : arena.Sited)

include sited

/-- A byte is served just when some aligned address behind the part in use is not the last one. -/
theorem isSome_allocate_one_iff : (arena.allocate 1).answer.isSome = true ↔
    ∃ x, arena.alignment.toNat ∣ x ∧ arena.base.toNat + arena.offset.toNat ≤ x ∧
      x + 1 < arena.base.toNat + arena.size.toNat := by
  have start := sited.base_add_nextOffset
  obtain ⟨multiple, above⟩ :=
    (isLeast_roundUp (arena.base.toNat + arena.offset.toNat) sited.positive).1
  have one : (1 : Size).toNat = 1 := rfl
  rcases sited.allocate_exact 1 with ⟨room, answer, -⟩ | ⟨full, answer, -⟩
  · refine iff_of_true (by rw [answer]; rfl) ⟨_, multiple, above, by omega⟩
  · refine iff_of_false (by rw [answer]; nofun) ?_
    rintro ⟨x, multiple, above, before⟩
    have least := roundUp_le_of_dvd above multiple
    omega

/-- **When a new arena refuses a byte**: it is no longer than its alignment, and it starts one past
a multiple of it, so that the padding takes all but one byte, and this is the last one. -/
theorem first_byte_refused_iff (unused : arena.offset = 0) (long : arena.alignment ≤ arena.size) :
    (arena.allocate 1).answer = none ↔
      arena.size = arena.alignment ∧
        arena.base.toNat % arena.alignment.toNat = 1 % arena.alignment.toNat := by
  have positive := sited.positive
  have long := UInt64.le_iff_toNat_le.mp long
  have offset_eq : arena.offset.toNat = 0 := congrArg UInt64.toNat unused
  obtain ⟨-, near⟩ := sited.nextOffset_bounds
  have aligned : (arena.base.toNat + arena.nextOffset) % arena.alignment.toNat = 0 := by
    rw [sited.base_add_nextOffset]
    exact roundUp_mod _ _
  rw [sited.allocate_eq_none_iff, show (1 : Size).toNat = 1 from rfl]
  constructor
  · intro full
    have size_eq : arena.size.toNat = arena.alignment.toNat := by omega
    have padding : arena.nextOffset = arena.alignment.toNat - 1 := by omega
    refine ⟨UInt64.toNat_inj.mp size_eq, Nat.ModEq.add_right_cancel' arena.nextOffset ?_⟩
    have whole : 1 + arena.nextOffset = arena.alignment.toNat := by omega
    rw [Nat.ModEq, aligned, whole, Nat.mod_self]
  · rintro ⟨size_eq, skewed⟩
    have size_eq := congrArg UInt64.toNat size_eq
    have moved : (arena.base.toNat + arena.nextOffset) % arena.alignment.toNat =
        (1 + arena.nextOffset) % arena.alignment.toNat :=
      Nat.ModEq.add_right arena.nextOffset skewed
    have divides := Nat.dvd_of_mod_eq_zero (moved.symm.trans aligned)
    have reach := Nat.le_of_dvd (by omega) divides
    omega

end Arena.Sited

theorem Arena.alignment_le_of_create {base size : Size} {config : ArenaConfig} {arena : Arena}
    (created : create base size config = .ok arena) : config.alignment ≤ size := by
  unfold create at created
  by_contra short
  cases valid : config.validate with
  | error e => simp [valid, bind, Except.bind] at created
  | ok => simp [valid, bind, Except.bind, UInt64.not_le.mp short] at created

/-- **When an accepted arena is good for a byte.**  An arena that is accepted serves one byte just
when its stretch has an aligned byte that is not its last.  It does not do so just when it is only
as long as its alignment and starts one past a multiple of it. -/
theorem accepted_arena_serves_byte_iff (base size : Size) (config : ArenaConfig) (arena : Arena)
    (created : Arena.create base size config = .ok arena)
    (fits : base.toNat + size.toNat ≤ 2 ^ 64) :
    ((arena.allocate 1).answer.isSome ↔
      ∃ x, config.alignment.toNat ∣ x ∧ base.toNat ≤ x ∧ x + 1 < base.toNat + size.toNat) ∧
    ((arena.allocate 1).answer = none ↔
      size = config.alignment ∧
        base.toNat % config.alignment.toNat = 1 % config.alignment.toNat) := by
  have sited := Arena.sited_of_create created fits
  have long := Arena.alignment_le_of_create created
  obtain ⟨rfl, -⟩ := Arena.laid_of_create created
  exact ⟨sited.isSome_allocate_one_iff, sited.first_byte_refused_iff rfl long⟩

/-- Sixteen bytes from one past an aligned address: they are accepted, their only aligned byte is
the last one, and no byte is served. -/
theorem accepted_arena_refuses_byte :
    Arena.create 4097 16 {} = .ok ⟨4097, 16, 0, 16⟩ ∧ 4097 + 16 ≤ 2 ^ 64 ∧
      (Arena.allocate ⟨4097, 16, 0, 16⟩ 1).answer = none := by
  decide

/-- One byte more, and it serves one. -/
theorem accepted_arena_serves_byte_of_seventeen :
    Arena.create 4097 17 {} = .ok ⟨4097, 17, 0, 16⟩ ∧ 4097 + 17 ≤ 2 ^ 64 ∧
      (∃ x, 16 ∣ x ∧ 4097 ≤ x ∧ x + 1 < 4097 + 17) ∧
      (Arena.allocate ⟨4097, 17, 0, 16⟩ 1).answer.isSome := by
  have served := (accepted_arena_serves_byte_iff 4097 17 {} _ rfl (by decide)).1
  have aligned : ∃ x, 16 ∣ x ∧ 4097 ≤ x ∧ x + 1 < 4097 + 17 := ⟨4112, by decide⟩
  exact ⟨rfl, by decide, aligned, served.mpr aligned⟩

end ReservedArray
