/-
# A ledger of values

A ledger counts what is made, copied and dropped among the values that belong to it.  A
`Tracked` value belongs to a ledger; its operations on arrays (`Tracked.ops`) write into it.
Tracked values are ordered by their value alone; the tag tells equal ones apart.
-/
import ReservedArray.ElementOps

namespace ReservedArray

/-- How many values were made, copied and dropped. -/
structure Ledger where
  made : Nat := 0
  copies : Nat := 0
  drops : Nat := 0
deriving DecidableEq

namespace Ledger

/-- A value comes to be by being made or by being copied. -/
def created (l : Ledger) : Nat := l.made + l.copies

/-- Values that were created and not dropped. -/
def live (l : Ledger) : Nat := l.created - l.drops

/-- So many values are made. -/
def make (l : Ledger) (n : Nat) : Ledger := { l with made := l.made + n }

/-- A value is copied. -/
def copy (l : Ledger) : Ledger := { l with copies := l.copies + 1 }

/-- So many values are dropped. -/
def drop (l : Ledger) (n : Nat) : Ledger := { l with drops := l.drops + n }

@[simp] theorem created_make (l : Ledger) (n : Nat) : (l.make n).created = l.created + n := by
  simp only [created, make]; omega

@[simp] theorem created_copy (l : Ledger) : l.copy.created = l.created + 1 := by
  simp only [created, copy]; omega

@[simp] theorem created_drop (l : Ledger) (n : Nat) : (l.drop n).created = l.created := rfl

end Ledger

/-- A value that belongs to a ledger. -/
structure Tracked where
  value : Int32
  tag : UInt32
deriving DecidableEq

namespace Tracked

/-- The tag does not count. -/
def order (x y : Tracked) : Ordering := compare x.value.toInt y.value.toInt

/-- The value with its tag after it. -/
def inspect (x : Tracked) : Inspect :=
  .atom ("Tracked(" ++ toString x.value.toInt ++ "#" ++ toString x.tag ++ ")")

/-- Copies and disposals are written into the ledger. -/
def ops : ElementOps Ledger Tracked where
  copy x ledger := (.ok x, ledger.copy)
  dispose _ ledger := (.ok (), ledger.drop 1)
  compare x y ledger := (.ok (x.order y), ledger)

end Tracked

end ReservedArray
