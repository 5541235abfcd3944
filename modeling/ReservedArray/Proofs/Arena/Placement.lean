/-
# Where an arena places its blocks

An arena finds the start of its next block with 64-bit words: it adds `alignment - 1` to an
address and clears the bits below the alignment.  This file says what comes of that in natural
numbers.

* `Size.toNat_clearLow` — for a power of two, clearing the bits below it is rounding down;
* `Size.alignUp?_eq_some_iff` — where the sum fits, `Size.alignUp?` is rounding up (`roundUp`);
* `Carves` — what a request to an arena comes to: it is refused and the arena is as before, or the
  block starts at the next aligned address and the arena is used up to the end of it, which lies
  before the last byte (`Arena.carves_allocate`).
-/
import ReservedArray.Allocator.Arena

namespace ReservedArray

/-! ## 1. Rounding -/

/-- The least multiple of `unit` not below `n`. -/
def roundUp (n unit : Nat) : Nat := (n + (unit - 1)) / unit * unit

theorem le_roundUp (n : Nat) {unit : Nat} (positive : 0 < unit) : n ≤ roundUp n unit := by
  have split := Nat.div_add_mod' (n + (unit - 1)) unit
  have rest := Nat.mod_lt (n + (unit - 1)) positive
  unfold roundUp
  omega

theorem roundUp_mod (n unit : Nat) : roundUp n unit % unit = 0 := Nat.mul_mod_left _ _

/-- No multiple is passed over. -/
theorem roundUp_le_of_dvd {n m unit : Nat} (above : n ≤ m) (multiple : unit ∣ m) :
    roundUp n unit ≤ m := by
  obtain ⟨k, rfl⟩ := multiple
  rcases Nat.eq_zero_or_pos unit with rfl | positive
  · simp [roundUp]
  · have less : n + (unit - 1) < unit * (k + 1) := by
      rw [Nat.mul_succ]
      omega
    have quotient : (n + (unit - 1)) / unit ≤ k := Nat.le_of_lt_succ (Nat.div_lt_of_lt_mul less)
    calc roundUp n unit ≤ k * unit := Nat.mul_le_mul_right unit quotient
      _ = unit * k := Nat.mul_comm k unit

theorem roundUp_lt (n : Nat) {unit : Nat} (positive : 0 < unit) : roundUp n unit < n + unit := by
  have below := Nat.div_mul_le_self (n + (unit - 1)) unit
  unfold roundUp
  omega

theorem roundUp_mono {n m : Nat} (unit : Nat) (le : n ≤ m) : roundUp n unit ≤ roundUp m unit :=
  Nat.mul_le_mul_right unit (Nat.div_le_div_right (Nat.add_le_add_right le (unit - 1)))

/-- **How far it is to the next multiple is a matter of the remainder.** -/
theorem roundUp_add_sub (base n : Nat) {unit : Nat} (positive : 0 < unit) :
    roundUp (base + n) unit - base = roundUp (base % unit + n) unit - base % unit := by
  have split := Nat.div_add_mod base unit
  have sum : base + n + (unit - 1) = unit * (base / unit) + (base % unit + n + (unit - 1)) := by
    omega
  have carried : roundUp (base + n) unit =
      unit * (base / unit) + roundUp (base % unit + n) unit := by
    unfold roundUp
    rw [sum, Nat.mul_add_div positive, Nat.add_mul, Nat.mul_comm (base / unit)]
  omega

namespace Size

variable {a c unit : Size}

theorem isPowerOfTwo_iff : isPowerOfTwo a = true ↔ a.toNat.isPowerOfTwo := by
  have nonzero_iff : a ≠ 0 ↔ a.toNat ≠ 0 := not_congr UInt64.toNat_inj.symm
  rw [← Nat.ne_zero_and_sub_one_eq_zero_iff_isPowerOfTwo, ← nonzero_iff]
  simp only [isPowerOfTwo, Bool.and_eq_true, bne_iff_ne, beq_iff_eq, ← UInt64.toNat_inj,
    UInt64.toNat_and, UInt64.toNat_zero]
  refine and_congr_right fun nonzero => ?_
  have one : (1 : Size) ≤ a :=
    UInt64.le_iff_toNat_le.mpr (Nat.one_le_iff_ne_zero.mpr (nonzero_iff.mp nonzero))
  rw [UInt64.toNat_sub_of_le a 1 one]
  rfl

theorem toNat_pos_of_isPowerOfTwo (power : isPowerOfTwo a = true) : 0 < a.toNat :=
  Nat.pos_of_isPowerOfTwo (isPowerOfTwo_iff.mp power)

theorem toNat_sub_one (power : isPowerOfTwo a = true) : (a - 1).toNat = a.toNat - 1 :=
  UInt64.toNat_sub_of_le a 1 (UInt64.le_iff_toNat_le.mpr (toNat_pos_of_isPowerOfTwo power))

/-- **Clearing the bits below a power of two is rounding down** to a multiple of it. -/
theorem toNat_clearLow (x : Size) (power : isPowerOfTwo unit = true) :
    (x &&& ~~~(unit - 1)).toNat = x.toNat / unit.toNat * unit.toNat := by
  obtain ⟨k, exponent⟩ := isPowerOfTwo_iff.mp power
  have below : (unit - 1).toNat = 2 ^ k - 1 := by rw [toNat_sub_one power, exponent]
  have small : 2 ^ k - 1 < 2 ^ 64 := below ▸ UInt64.toNat_lt _
  have range : UInt64.size = 2 ^ 64 := rfl
  have mask : (~~~(unit - 1)).toNat = 2 ^ 64 - ((2 ^ k - 1) + 1) := by
    rw [UInt64.toNat_not, range, below, Nat.sub_sub, Nat.add_comm 1]
  -- bit by bit: the mask has the bits from `k` up to the end of the word
  refine Nat.eq_of_testBit_eq fun i => ?_
  rw [exponent, UInt64.toNat_and, Nat.testBit_and, mask, Nat.testBit_two_pow_sub_succ small,
    Nat.testBit_two_pow_sub_one, Nat.testBit_mul_two_pow, Nat.testBit_div_two_pow]
  by_cases high : k ≤ i
  · have inWord : x.toNat.testBit i = true → i < 64 := fun set =>
      (Nat.pow_lt_pow_iff_right (a := 2) (by decide)).mp
        (Nat.lt_of_le_of_lt (Nat.ge_two_pow_of_testBit set) x.toNat_lt)
    rw [Nat.sub_add_cancel high]
    cases bit : x.toNat.testBit i with
    | false => simp
    | true => simp [high, inWord bit]
  · simp [high, Nat.not_le.mp high]

/-- **Aligning is rounding up**, where adding `unit - 1` stays in the range. -/
theorem alignUp?_eq_some_iff (power : isPowerOfTwo unit = true) :
    alignUp? a unit = some c ↔
      a.toNat + (unit.toNat - 1) < UInt64.size ∧ c.toNat = roundUp a.toNat unit.toNat := by
  have cleared (sum : Size) (fits : sum.toNat = a.toNat + (unit.toNat - 1)) :
      (sum &&& ~~~(unit - 1)).toNat = roundUp a.toNat unit.toNat := by
    rw [toNat_clearLow sum power, fits]
    rfl
  simp only [alignUp?, Option.map_eq_some_iff, add?_eq_some_iff, toNat_sub_one power]
  constructor
  · rintro ⟨sum, fits, rfl⟩
    exact ⟨fits ▸ sum.toNat_lt, cleared sum fits⟩
  · rintro ⟨fits, aligned⟩
    have sum : (a + (unit - 1)).toNat = a.toNat + (unit.toNat - 1) := by
      rw [UInt64.toNat_add, toNat_sub_one power, Nat.mod_eq_of_lt fits]
    refine ⟨a + (unit - 1), sum, UInt64.toNat_inj.mp ?_⟩
    rw [cleared _ sum, aligned]

end Size

/-! ## 2. The next block -/

/-- What a request to an arena comes to. -/
inductive Carves (arena : Arena) (size : Size) : Option Address → Arena → Prop
  | refused : Carves arena size none arena
  /-- The block starts at the next aligned address, and ends before the arena's last byte. -/
  | carved {block : Address} {stop : Size} :
      block = roundUp (arena.base.toNat + arena.offset.toNat) arena.alignment.toNat →
      arena.base.toNat + stop.toNat = block + size.toNat → stop < arena.size →
      Carves arena size (some block) { arena with offset := stop }

namespace Arena

variable {arena : Arena} {start stop size : Size}

theorem nextStart?_eq_some (power : Size.isPowerOfTwo arena.alignment = true)
    (h : arena.nextStart? = some start) :
    arena.base.toNat + start.toNat =
      roundUp (arena.base.toNat + arena.offset.toNat) arena.alignment.toNat := by
  simp only [nextStart?, Option.pure_def, Option.bind_eq_bind, Option.bind_eq_some_iff,
    Option.some.injEq] at h
  obtain ⟨cursor, sum, aligned, rounded, rfl⟩ := h
  rw [Size.add?_eq_some_iff] at sum
  have least := ((Size.alignUp?_eq_some_iff power).mp rounded).2
  have above := le_roundUp cursor.toNat (Size.toNat_pos_of_isPowerOfTwo power)
  have le : arena.base ≤ aligned := UInt64.le_iff_toNat_le.mpr (by omega)
  rw [UInt64.toNat_sub_of_le aligned arena.base le, ← sum, ← least]
  omega

theorem nextBlock?_eq_some (power : Size.isPowerOfTwo arena.alignment = true)
    (h : arena.nextBlock? size = some (start, stop)) :
    arena.base.toNat + start.toNat =
        roundUp (arena.base.toNat + arena.offset.toNat) arena.alignment.toNat ∧
      stop.toNat = start.toNat + size.toNat := by
  simp only [nextBlock?, Option.pure_def, Option.bind_eq_bind, Option.bind_eq_some_iff,
    Option.some.injEq, Prod.mk.injEq] at h
  obtain ⟨_, next, _, sum, rfl, rfl⟩ := h
  exact ⟨nextStart?_eq_some power next, Size.add?_eq_some_iff.mp sum⟩

/-- **Every request to an arena is refused or carves the next block off.** -/
theorem carves_allocate (power : Size.isPowerOfTwo arena.alignment = true) (size : Size) :
    Carves arena size (arena.allocate size).answer (arena.allocate size).state := by
  unfold allocate
  cases next : arena.nextBlock? size with
  | none => exact .refused
  | some block =>
    obtain ⟨start, stop⟩ := block
    obtain ⟨placed, ends⟩ := nextBlock?_eq_some power next
    by_cases full : arena.size ≤ stop
    · simp only [if_pos full]
      exact .refused
    · simp only [if_neg full]
      exact .carved placed (by omega) (UInt64.not_le.mp full)

end Arena

end ReservedArray
