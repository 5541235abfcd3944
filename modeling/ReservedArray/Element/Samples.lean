/-
# Sample elements

Four structured types of elements: named entries, pairs, numbers that are laid out more strictly
than most allocators promise, and sealed numbers, which have no operations of their own.
-/
import ReservedArray.Element.Basic

namespace ReservedArray

/-- A name and a number; ordered by both. -/
structure NamedEntry where
  name : String
  id : UInt32
deriving DecidableEq

instance : Element NamedEntry where
  layout := ⟨32, 8⟩
  order x y := (compare x.name y.name).then (compare x.id.toNat y.id.toNat)
  number x := x.id.toNat
  text x := x.name
  increment x := { x with id := x.id + 1 }
  inspect x :=
    .closed "Entry" [("name", .atom (Text.quote x.name)), ("id", .number x.id.toNat)]

/-- A small number and a large one; ordered by the first, then by the second. -/
structure NumberPair where
  first : UInt8
  second : UInt32
deriving DecidableEq

instance : Element NumberPair where
  layout := ⟨8, 4⟩
  order x y := (compare x.first.toNat y.first.toNat).then (compare x.second.toNat y.second.toNat)
  number x := x.second.toNat
  increment x := { x with second := x.second + 1 }
  inspect x :=
    .closed "Pair" [("a", .number x.first.toNat), ("b", .number x.second.toNat)]

/-- A number that takes up 32 bytes and must lie at a multiple of 32. -/
structure WideNumber where
  value : Int32
deriving DecidableEq

instance : Element WideNumber where
  layout := ⟨32, 32⟩
  order x y := compare x.value.toInt y.value.toInt
  number x := x.value.toInt
  increment x := ⟨x.value + 1⟩
  inspect x := .tuple "Wide" [.atom (toString x.value.toInt)]

/-- A number that can only be handled by hooks. -/
structure SealedNumber where
  value : Int32
deriving DecidableEq

instance : Element SealedNumber where
  layout := ⟨4, 4⟩
  order x y := compare x.value.toInt y.value.toInt
  number x := x.value.toInt
  increment x := ⟨x.value + 1⟩
  inspect x := .tuple "Opaque" [.atom (toString x.value.toInt)]
  hooksOnly := true

end ReservedArray
