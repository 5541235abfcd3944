/-
# When an arena serves a request

`Carves` says what can come of a request to an arena.  Here it is settled which of the two comes of
it, in natural numbers and for every size: the next block starts at the least multiple of the
alignment that is not below the part in use (`Arena.nextOffset`), and the request is served just
when this block ends before the last byte (`Arena.allocate_exact`).

The words in which the arena computes do not show in it.  A sum that does not fit refuses a request,
but `2 ^ 64` is a multiple of every alignment, so a start that cannot be computed would lie behind
every address (`Size.add_lt_of_roundUp_lt`), and an end that cannot be computed behind every arena.
-/
import Mathlib
import ReservedArray.Proofs.Arena.Layout

namespace ReservedArray

/-! ## 1. Sums that fit -/

theorem isLeast_roundUp (n : Nat) {unit : Nat} (positive : 0 < unit) :
    IsLeast {x | unit ∣ x ∧ n ≤ x} (roundUp n unit) := by
  constructor
  · exact ⟨Nat.dvd_of_mod_eq_zero (roundUp_mod n unit), le_roundUp n positive⟩
  · rintro x ⟨multiple, above⟩
    exact roundUp_le_of_dvd above multiple

/-- **Where rounding up stays in the range, so does the sum by which it is computed.** -/
theorem Size.add_lt_of_roundUp_lt {unit : Size} {n : Nat} (power : isPowerOfTwo unit = true)
    (inRange : roundUp n unit.toNat < 2 ^ 64) : n + (unit.toNat - 1) < 2 ^ 64 := by
  obtain ⟨k, exponent⟩ := isPowerOfTwo_iff.mp power
  have small : 2 ^ k < 2 ^ 64 := exponent ▸ unit.toNat_lt
  have divides : unit.toNat ∣ 2 ^ 64 := by
    rw [exponent]
    exact Nat.pow_dvd_pow 2 ((Nat.pow_lt_pow_iff_right Nat.one_lt_two).mp small).le
  by_contra overflow
  -- the end of the range is itself rounded, and rounding keeps the order
  have beyond : 2 ^ 64 ≤ roundUp n unit.toNat :=
    calc 2 ^ 64 = 2 ^ 64 / unit.toNat * unit.toNat := (Nat.div_mul_cancel divides).symm
      _ ≤ roundUp n unit.toNat :=
        Nat.mul_le_mul_right _ (Nat.div_le_div_right (Nat.not_lt.mp overflow))
  omega

/-! ## 2. The next block -/

namespace Arena

/-- How far into the arena the next block starts, counted without a bound. -/
def nextOffset (arena : Arena) : Nat :=
  roundUp (arena.base.toNat + arena.offset.toNat) arena.alignment.toNat - arena.base.toNat

/-- The arena lies in the address space and rounds up as it should. -/
structure Sited (arena : Arena) : Prop where
  power : Size.isPowerOfTwo arena.alignment = true
  fits : arena.base.toNat + arena.size.toNat ≤ 2 ^ 64

/-- A new arena over a stretch of the address space. -/
theorem sited_of_create {base size : Size} {config : ArenaConfig} {arena : Arena}
    (created : create base size config = .ok arena)
    (fits : base.toNat + size.toNat ≤ 2 ^ 64) : arena.Sited := by
  obtain ⟨rfl, laid⟩ := laid_of_create created
  exact ⟨laid.power, fits⟩

namespace Sited

variable {arena : Arena} (sited : arena.Sited)

include sited

theorem positive : 0 < arena.alignment.toNat := Size.toNat_pos_of_isPowerOfTwo sited.power

theorem withOffset (offset : Size) : { arena with offset }.Sited := ⟨sited.power, sited.fits⟩

theorem base_add_nextOffset : arena.base.toNat + arena.nextOffset =
    roundUp (arena.base.toNat + arena.offset.toNat) arena.alignment.toNat := by
  have above := le_roundUp (arena.base.toNat + arena.offset.toNat) sited.positive
  unfold nextOffset
  omega

/-- The next block starts behind the part in use, by less than the alignment. -/
theorem nextOffset_bounds : arena.offset.toNat ≤ arena.nextOffset ∧
    arena.nextOffset ≤ arena.offset.toNat + (arena.alignment.toNat - 1) := by
  have start := sited.base_add_nextOffset
  have above := le_roundUp (arena.base.toNat + arena.offset.toNat) sited.positive
  have below := roundUp_lt (arena.base.toNat + arena.offset.toNat) sited.positive
  constructor <;> omega

/-- **The mask rounds up**, where its sums fit. -/
theorem toNat_masked (inRange : roundUp (arena.base.toNat + arena.offset.toNat)
      arena.alignment.toNat < 2 ^ 64) :
    ((arena.base + arena.offset + (arena.alignment - 1)) &&& ~~~(arena.alignment - 1)).toNat =
      arena.base.toNat + arena.nextOffset := by
  have fits := Size.add_lt_of_roundUp_lt sited.power inRange
  have sum : (arena.base + arena.offset + (arena.alignment - 1)).toNat =
      arena.base.toNat + arena.offset.toNat + (arena.alignment.toNat - 1) := by
    rw [UInt64.toNat_add, UInt64.toNat_add, Size.toNat_sub_one sited.power,
      Nat.mod_eq_of_lt (a := arena.base.toNat + arena.offset.toNat) (by omega),
      Nat.mod_eq_of_lt fits]
  rw [Size.toNat_clearLow _ sited.power, sum, sited.base_add_nextOffset]
  rfl

/-- A start that is in the range is computed as it is. -/
theorem nextStart?_eq (inRange : roundUp (arena.base.toNat + arena.offset.toNat)
      arena.alignment.toNat < 2 ^ 64) :
    ∃ start : Size, arena.nextStart? = some start ∧ start.toNat = arena.nextOffset := by
  have fits := Size.add_lt_of_roundUp_lt sited.power inRange
  have cursor : Size.add? arena.base arena.offset = some (arena.base + arena.offset) :=
    Size.add?_of_lt (by unfold UInt64.size; omega)
  have sum := Size.add?_eq_some_iff.mp cursor
  have rounded : Size.alignUp? (arena.base + arena.offset) arena.alignment =
      some (UInt64.ofNat (arena.base.toNat + arena.nextOffset)) := by
    rw [Size.alignUp?_eq_some_iff sited.power, sum, sited.base_add_nextOffset]
    exact ⟨fits, UInt64.toNat_ofNat_of_lt' inRange⟩
  have next : arena.nextStart? =
      some (UInt64.ofNat (arena.base.toNat + arena.nextOffset) - arena.base) := by
    simp only [nextStart?, cursor, rounded, Option.bind_eq_bind, Option.bind_some, Option.pure_def]
  refine ⟨_, next, ?_⟩
  have placed := nextStart?_eq_some sited.power next
  have start := sited.base_add_nextOffset
  omega

/-- A block that ends before the last byte is not refused. -/
theorem isSome_allocate {size : Size}
    (room : arena.nextOffset + size.toNat < arena.size.toNat) :
    (arena.allocate size).answer.isSome = true := by
  have start := sited.base_add_nextOffset
  have fits := sited.fits
  obtain ⟨place, next, placed⟩ := sited.nextStart?_eq (by omega)
  have sum : Size.add? place size = some (place + size) :=
    Size.add?_of_lt (by unfold UInt64.size; omega)
  have stop := Size.add?_eq_some_iff.mp sum
  have before : ¬arena.size ≤ place + size := by
    rw [UInt64.le_iff_toNat_le]
    omega
  have block : arena.nextBlock? size = some (place, place + size) := by
    simp only [nextBlock?, next, sum, Option.bind_eq_bind, Option.bind_some, Option.pure_def]
  simp only [allocate, block, if_neg before, Option.isSome_some]

/-- **A request is served just when its block ends before the last byte.**  It is put at the next
offset, and the arena is in use up to its end; or it is refused, and the arena is as it was. -/
theorem allocate_exact (size : Size) :
    (arena.nextOffset + size.toNat < arena.size.toNat ∧
      (arena.allocate size).answer = some (arena.base.toNat + arena.nextOffset) ∧
      ∃ stop : Size, stop.toNat = arena.nextOffset + size.toNat ∧
        (arena.allocate size).state = { arena with offset := stop }) ∨
    (arena.size.toNat ≤ arena.nextOffset + size.toNat ∧
      (arena.allocate size).answer = none ∧ (arena.allocate size).state = arena) := by
  have start := sited.base_add_nextOffset
  have served (room : arena.nextOffset + size.toNat < arena.size.toNat) :
      (arena.allocate size).answer.isSome = true := sited.isSome_allocate room
  have carves := carves_allocate sited.power size
  generalize (arena.allocate size).answer = answer at *
  generalize (arena.allocate size).state = arena' at *
  cases carves with
  | refused =>
    right
    refine ⟨?_, rfl, rfl⟩
    by_contra room
    cases served (Nat.not_le.mp room)
  | @carved block stop placed ends below =>
    have below := UInt64.lt_iff_toNat_lt.mp below
    rw [← placed] at start
    left
    refine ⟨by omega, ?_, stop, by omega, rfl⟩
    rw [start]

/-- A request is refused just when its block would reach the last byte. -/
theorem allocate_eq_none_iff (size : Size) :
    (arena.allocate size).answer = none ↔ arena.size.toNat ≤ arena.nextOffset + size.toNat := by
  rcases sited.allocate_exact size with ⟨room, answer, -⟩ | ⟨full, answer, -⟩
  · simp [answer, room]
  · simp [answer, full]

end Sited

end Arena

/-! ## 3. Every state of an arena -/

/-- **An arena serves what fits, and in the first place where it can.**  In every state that an
arena can come to, at the bottom of any stack, and for every size: the word computed by masking is
the natural number rounded up; a request is served just when the block that starts there ends before
the arena's last byte, with no bound on any sum; a block that is handed out starts at the least
multiple of the alignment that is not in the part in use, and the arena is then in use up to its
end; and what is refused leaves the arena as it is. -/
theorem arena_allocation_exact (s : Stack) (b : s.State) (base size : Size) (config : ArenaConfig)
    (arena : Arena) (created : Arena.create base size config = .ok arena)
    (bottom : s.arena? b = some arena)
    (room : base.toNat + size.toNat + config.alignment.toNat ≤ 2 ^ 64) (memory : Memory)
    (uses : List Use) :
    ∃ a, s.arena? (({ memory, allocator := b } : Session s).run uses).allocator = some a ∧
      let used := base.toNat + a.offset.toNat
      let next := roundUp used config.alignment.toNat
      ((base + a.offset + (config.alignment - 1)) &&& ~~~(config.alignment - 1)).toNat = next ∧
      a.nextStart?.map UInt64.toNat = some (next - base.toNat) ∧
      ∀ request : Size,
        ((a.allocate request).answer.isSome ↔ next - base.toNat + request.toNat < size.toNat) ∧
        (∀ block, (a.allocate request).answer = some block →
          IsLeast {x | config.alignment.toNat ∣ x ∧ used ≤ x} block ∧
          ∃ stop : Size, stop.toNat = block - base.toNat + request.toNat ∧
            (a.allocate request).state = { a with offset := stop }) ∧
        ((a.allocate request).answer = none → (a.allocate request).state = a) := by
  obtain ⟨rfl, -⟩ := Arena.laid_of_create created
  obtain ⟨a, bottom', laid, offset, same⟩ :=
    Session.laidFrom_run (t := { memory, allocator := b }) created bottom rfl uses
  obtain rfl : a.base = base := congrArg Arena.base same
  obtain rfl : a.size = size := congrArg Arena.size same
  have alignment_eq : a.alignment = config.alignment := congrArg Arena.alignment same
  rw [← alignment_eq] at room ⊢
  have sited : a.Sited := ⟨laid.power, Nat.le_trans (Nat.le_add_right _ _) room⟩
  have start := sited.base_add_nextOffset
  have inUse : a.offset.toNat < a.size.toNat := UInt64.lt_iff_toNat_lt.mp laid.offset_lt
  have least := isLeast_roundUp (a.base.toNat + a.offset.toNat) sited.positive
  refine ⟨a, bottom', ?_⟩
  intro used next
  have inRange : next < 2 ^ 64 := by
    have near := roundUp_lt used sited.positive
    omega
  have offset_eq : next - a.base.toNat = a.nextOffset := rfl
  refine ⟨?_, ?_, ?_⟩
  · rw [sited.toNat_masked inRange]
    exact start
  · obtain ⟨place, computed, placed⟩ := sited.nextStart?_eq inRange
    rw [computed, Option.map_some, placed, offset_eq]
  · intro request
    rw [offset_eq]
    rcases sited.allocate_exact request with
      ⟨fits, answer, stop, ends, state⟩ | ⟨full, answer, state⟩
    · rw [answer, start]
      refine ⟨by simp [fits], ?_, nofun⟩
      rintro block ⟨⟩
      exact ⟨least, stop, ends, state⟩
    · rw [answer]
      exact ⟨by simp [full], nofun, fun _ => state⟩

/-- An arena of 300 bytes, aligned to 64, that was reset and filled again. -/
def refilledSession : Session .arena :=
  ({ memory := .zeroed, allocator := ⟨4110, 300, 0, 64⟩ } : Session .arena).run
    [.allocate 3, .request 20, .control .reset, .allocate 70, .release 0]

/-- Its next block starts 178 bytes into it.  With 121 bytes it ends just before the last byte, and
with one more it is refused, as is the largest size there is. -/
theorem arena_allocation_exact_at_end :
    Arena.create 4110 300 { alignment := 64 } = .ok ⟨4110, 300, 0, 64⟩ ∧
      4110 + 300 + 64 ≤ 2 ^ 64 ∧ (refilledSession.allocator : Arena) = ⟨4110, 300, 120, 64⟩ ∧
      IsLeast {x | 64 ∣ x ∧ 4110 + 120 ≤ x} 4288 ∧
      (Arena.allocate ⟨4110, 300, 120, 64⟩ 121).answer = some 4288 ∧
      (Arena.allocate ⟨4110, 300, 120, 64⟩ 122).answer = none ∧
      (Arena.allocate ⟨4110, 300, 120, 64⟩ 0xFFFFFFFFFFFFFFFF).answer = none := by
  have reached : (refilledSession.allocator : Arena) = ⟨4110, 300, 120, 64⟩ := by cbv
  obtain ⟨a, bottom, -, -, serves⟩ :=
    arena_allocation_exact .arena (⟨4110, 300, 0, 64⟩ : Arena) 4110 300 { alignment := 64 } _ rfl
      rfl (by decide) .zeroed _
  obtain rfl : a = ⟨4110, 300, 120, 64⟩ := (Option.some.inj bottom).symm.trans reached
  have answer : (Arena.allocate ⟨4110, 300, 120, 64⟩ 121).answer = some 4288 := by decide
  have refused {size : Size} (full : ¬(178 + size.toNat < 300)) :
      (Arena.allocate ⟨4110, 300, 120, 64⟩ size).answer = none :=
    Option.not_isSome_iff_eq_none.mp fun served => full ((serves size).1.mp served)
  refine ⟨rfl, by decide, reached, ((serves 121).2.1 4288 answer).1, answer, ?_, ?_⟩
  · exact refused (by decide)
  · exact refused (by decide)

end ReservedArray
