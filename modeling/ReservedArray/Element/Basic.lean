/-
# Elements that can be examined

What the sample arrays need to know of their elements beyond the three operations: a layout, a
natural order, a number and a text to compare by, how a copy may be told from its source, and how
an element is shown.
-/
import ReservedArray.Ledger

namespace ReservedArray

/-- A type of elements that can be laid out, ordered, changed and shown. -/
class Element (τ : Type) where
  layout : Layout
  order : τ → τ → Ordering
  number : τ → Int
  text : τ → String := fun _ => ""
  /-- The element as a copy that differs from its source. -/
  increment : τ → τ
  inspect : τ → Inspect
  /-- Whether copies and disposals are written into a ledger. -/
  tracked : Bool := false
  /-- Whether the elements can be handled by hooks alone. -/
  hooksOnly : Bool := false

namespace Element

/-- Whole numbers of so many bytes. -/
@[reducible]
def integer {τ : Type} (bytes : Size) (value : τ → Int) (next : τ → τ) : Element τ where
  layout := ⟨bytes, bytes⟩
  order x y := compare (value x) (value y)
  number := value
  increment := next
  inspect x := .atom (toString (value x))

instance : Element UInt8 := integer 1 (fun x => x.toNat) (· + 1)
instance : Element Int8 := integer 1 Int8.toInt (· + 1)
instance : Element Int16 := integer 2 Int16.toInt (· + 1)
instance : Element Int32 := integer 4 Int32.toInt (· + 1)
instance : Element UInt32 := integer 4 (fun x => x.toNat) (· + 1)
instance : Element Int64 := integer 8 Int64.toInt (· + 1)
instance : Element UInt64 := integer 8 (fun x => x.toNat) (· + 1)
instance : Element (BitVec 128) := integer 16 (fun x => x.toNat) (· + 1)

/-- Texts have the length of their encoding as a number; its bytes have the order of the
characters. -/
instance : Element String where
  layout := ⟨24, 8⟩
  order x y := compare x y
  number x := x.utf8ByteSize
  text x := x
  increment x := x ++ "+"
  inspect x := .atom (Text.quote x)

instance : Element Tracked where
  layout := ⟨16, 8⟩
  order := Tracked.order
  number x := x.value.toInt
  increment x := { x with value := x.value + 1 }
  inspect := Tracked.inspect
  tracked := true

instance : Element Unit where
  layout := ⟨0, 1⟩
  order _ _ := .eq
  number _ := 0
  increment x := x
  inspect _ := .atom "()"

/-! ## 1. Ledger entries -/

variable {τ : Type} [Element τ]

/-- The ledger after elements of this type are made. -/
def noteMade (τ : Type) [Element τ] (n : Nat) (l : Ledger) : Ledger :=
  if tracked τ then l.make n else l

/-- The ledger after an element of this type is copied. -/
def noteCopy (τ : Type) [Element τ] (l : Ledger) : Ledger := if tracked τ then l.copy else l

/-- The ledger after elements of this type are dropped. -/
def noteDrops (τ : Type) [Element τ] (n : Nat) (l : Ledger) : Ledger :=
  if tracked τ then l.drop n else l

/-- The operations by which elements of the type are copied, dropped and ordered of themselves. -/
def naturalOps : ElementOps Ledger τ where
  copy x ledger := (.ok x, noteCopy τ ledger)
  dispose _ ledger := (.ok (), noteDrops τ 1 ledger)
  compare x y ledger := (.ok (order x y), ledger)

end Element

end ReservedArray
