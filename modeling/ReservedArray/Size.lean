/-
# Sizes in a 64-bit address space

Byte counts, slot counts, offsets and alignments are 64-bit words, and whatever is computed
from them may leave the range.  The two operations that can leave it answer `none` instead of
wrapping, so every caller has to say what an impossible size means.

* `Size.add?` and `Size.mul?` hold the natural-number result exactly when it fits
  (`add?_eq_some_iff`, `mul?_eq_some_iff`).
* `Size.alignUp?` rounds up to a multiple of a power of two by clearing the low bits.
-/

namespace ReservedArray

/-- A byte count, slot count, offset or alignment. -/
abbrev Size := UInt64

namespace Size

/-- The sum, or `none` when it does not fit. -/
def add? (a b : Size) : Option Size :=
  if a.toNat + b.toNat < UInt64.size then some (a + b) else none

/-- The product, or `none` when it does not fit. -/
def mul? (a b : Size) : Option Size :=
  if a.toNat * b.toNat < UInt64.size then some (a * b) else none

/-- Non-zero, and no bit is left once the lowest one is taken away. -/
def isPowerOfTwo (a : Size) : Bool := a != 0 && a &&& (a - 1) == 0

/-- The least multiple of `unit` not below `a`, for a power of two `unit`; `none` when adding
`unit - 1` leaves the range. -/
def alignUp? (a unit : Size) : Option Size :=
  (add? a (unit - 1)).map (· &&& ~~~(unit - 1))

/-- A product that is in the range is computed as it is. -/
theorem toNat_mul_of_lt {a b : Size} (fits : a.toNat * b.toNat < UInt64.size) :
    (a * b).toNat = a.toNat * b.toNat := by
  rw [UInt64.toNat_mul, Nat.mod_eq_of_lt fits]

theorem add?_of_lt {a b : Size} (fits : a.toNat + b.toNat < UInt64.size) :
    add? a b = some (a + b) := if_pos fits

theorem add?_eq_some_iff {a b c : Size} : add? a b = some c ↔ c.toNat = a.toNat + b.toNat := by
  have hc := c.toNat_lt_size
  unfold add?
  split
  · rename_i h
    rw [Option.some.injEq, ← UInt64.toNat_inj, UInt64.toNat_add, Nat.mod_eq_of_lt h]
    exact eq_comm
  · simp only [reduceCtorEq, false_iff]; omega

theorem mul?_eq_some_iff {a b c : Size} : mul? a b = some c ↔ c.toNat = a.toNat * b.toNat := by
  have hc := c.toNat_lt_size
  unfold mul?
  split
  · rename_i h
    rw [Option.some.injEq, ← UInt64.toNat_inj, toNat_mul_of_lt h]
    exact eq_comm
  · simp only [reduceCtorEq, false_iff]; omega

theorem add?_eq_none_iff {a b : Size} : add? a b = none ↔ UInt64.size ≤ a.toNat + b.toNat := by
  unfold add?
  split <;> simp <;> omega

theorem mul?_eq_none_iff {a b : Size} : mul? a b = none ↔ UInt64.size ≤ a.toNat * b.toNat := by
  unfold mul?
  split <;> simp <;> omega

end Size

end ReservedArray
