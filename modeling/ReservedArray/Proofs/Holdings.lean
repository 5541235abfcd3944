/-
# What is held

While operations run, blocks are out and elements are in them.  A `Holding` is one such block with
the elements that still have to be disposed of, and a call moves holdings (`Move`):

* a block handed out is a new holding, without elements;
* a copy goes behind the elements of one holding;
* an element is disposed of from the front of one holding;
* a block goes back with the size it was handed out for, and only when it has no elements left.

No other element can be disposed of and no other block can go back.  So `Moves H t H'` says of a
whole sequence of calls that what was held at first and what the calls obtained is either held in
the end or was given up, each thing once (`Moves.contents_eq`,
`Moves.outstanding_eq`).  When a disposal
panics its holding is *lost*: nothing moves it any more.

The elements are values, and two copies may be equal.  The hooks are arbitrary, though: they may
give every copy a mark of its own, and then the statements are about each single copy.
-/
import Mathlib.Data.Multiset.Bind
import ReservedArray.Proofs.Calls

namespace ReservedArray

variable {α κ τ : Type}

/-! ## 1. Holdings -/

/-- A block that is out, with the size it was handed out for and the elements left in it. -/
structure Holding (τ : Type) where
  block : Address
  size : Size
  elements : List τ
  /-- A disposal panicked, and the rest is given up. -/
  lost : Bool := false

/-- One call moves holdings. -/
inductive Move : Multiset (Holding τ) → Entry τ → Multiset (Holding τ) → Prop
  | allocate (block : Address) (size : Size) (H : Multiset (Holding τ)) :
      Move H (.allocate size (some block)) ({ block, size, elements := [] } ::ₘ H)
  | copy (block : Address) (size : Size) (x y : τ) (xs : List τ) (H : Multiset (Holding τ)) :
      Move ({ block, size, elements := xs } ::ₘ H) (.copy x (some y))
        ({ block, size, elements := xs ++ [y] } ::ₘ H)
  | dispose (block : Address) (size : Size) (x : τ) (xs : List τ) (H : Multiset (Holding τ)) :
      Move ({ block, size, elements := x :: xs } ::ₘ H) (.dispose x true)
        ({ block, size, elements := xs } ::ₘ H)
  | lose (block : Address) (size : Size) (x : τ) (xs : List τ) (H : Multiset (Holding τ)) :
      Move ({ block, size, elements := x :: xs } ::ₘ H) (.dispose x false)
        ({ block, size, elements := xs, lost := true } ::ₘ H)
  | release (block : Address) (size : Size) (H : Multiset (Holding τ)) :
      Move ({ block, size, elements := [] } ::ₘ H) (.release block size) H
  | refused (size : Size) (H : Multiset (Holding τ)) : Move H (.allocate size none) H
  | copyPanicked (x : τ) (H : Multiset (Holding τ)) : Move H (.copy x none) H
  | compare (x y : τ) (answer : Option Ordering) (H : Multiset (Holding τ)) :
      Move H (.compare x y answer) H
  | report (event : Event) (H : Multiset (Holding τ)) : Move H (.report event) H

/-- A sequence of calls moves holdings, one call after the other. -/
inductive Moves : Multiset (Holding τ) → List (Entry τ) → Multiset (Holding τ) → Prop
  | nil (H : Multiset (Holding τ)) : Moves H [] H
  | cons {H H' H'' : Multiset (Holding τ)} {q : Entry τ} {t : List (Entry τ)} :
      Move H q H' → Moves H' t H'' → Moves H (q :: t) H''

/-- What else is held stays as it is. -/
theorem Move.frame {H H' : Multiset (Holding τ)} {q : Entry τ} (h : Move H q H')
    (K : Multiset (Holding τ)) : Move (H + K) q (H' + K) := by
  cases h with
  | allocate block size =>
    rw [Multiset.cons_add]
    exact .allocate block size _
  | copy block size x y xs =>
    rw [Multiset.cons_add, Multiset.cons_add]
    exact .copy block size x y xs _
  | dispose block size x xs =>
    rw [Multiset.cons_add, Multiset.cons_add]
    exact .dispose block size x xs _
  | lose block size x xs =>
    rw [Multiset.cons_add, Multiset.cons_add]
    exact .lose block size x xs _
  | release block size =>
    rw [Multiset.cons_add]
    exact .release block size _
  | refused size => exact .refused size _
  | copyPanicked x => exact .copyPanicked x _
  | compare x y answer => exact .compare x y answer _
  | report event => exact .report event _

namespace Moves

variable {H H' H'' : Multiset (Holding τ)} {t t' : List (Entry τ)}

theorem single {q : Entry τ} (h : Move H q H') : Moves H [q] H' := .cons h (.nil H')

theorem append (h : Moves H t H') (h' : Moves H' t' H'') : Moves H (t ++ t') H'' := by
  induction h with
  | nil => exact h'
  | cons move _ ih => exact .cons move (ih h')

theorem split (h : Moves H (t ++ t') H'') : ∃ H', Moves H t H' ∧ Moves H' t' H'' := by
  induction t generalizing H with
  | nil => exact ⟨H, .nil H, h⟩
  | cons q t ih =>
    cases h with
    | cons move rest =>
      obtain ⟨H', first, second⟩ := ih rest
      exact ⟨H', .cons move first, second⟩

theorem frame (h : Moves H t H') (K : Multiset (Holding τ)) : Moves (H + K) t (H' + K) := by
  induction h with
  | nil => exact .nil _
  | cons move _ ih => exact .cons (move.frame K) ih

theorem reports (events : List Event) (H : Multiset (Holding τ)) :
    Moves H (events.map .report) H := by
  induction events with
  | nil => exact .nil H
  | cons event events ih => exact .cons (.report event H) ih

end Moves

/-! ## 2. What was obtained and what was given up -/

namespace Entry

/-- The copies made in a trace. -/
def copied (t : List (Entry τ)) : List τ :=
  t.filterMap fun
    | .copy _ result => result
    | _ => none

/-- The elements handed to the dispose hook in a trace. -/
def disposed (t : List (Entry τ)) : List τ :=
  t.filterMap fun
    | .dispose x _ => some x
    | _ => none

/-- The blocks handed out in a trace, with their sizes. -/
def obtained (t : List (Entry τ)) : List (Address × Size) :=
  t.filterMap fun
    | .allocate size block => block.map (·, size)
    | _ => none

/-- The blocks given back in a trace, with the sizes they were given back with. -/
def released (t : List (Entry τ)) : List (Address × Size) :=
  t.filterMap fun
    | .release block size => some (block, size)
    | _ => none

theorem copied_cons (q : Entry τ) (t : List (Entry τ)) : copied (q :: t) = copied [q] ++ copied t :=
  List.filterMap_append (l := [q])

theorem disposed_cons (q : Entry τ) (t : List (Entry τ)) :
    disposed (q :: t) = disposed [q] ++ disposed t :=
  List.filterMap_append (l := [q])

theorem obtained_cons (q : Entry τ) (t : List (Entry τ)) :
    obtained (q :: t) = obtained [q] ++ obtained t :=
  List.filterMap_append (l := [q])

theorem released_cons (q : Entry τ) (t : List (Entry τ)) :
    released (q :: t) = released [q] ++ released t :=
  List.filterMap_append (l := [q])

end Entry

/-- All elements in the holdings. -/
def contents (H : Multiset (Holding τ)) : Multiset τ :=
  H.bind fun h => (h.elements : Multiset τ)

/-- All blocks of the holdings, with their sizes. -/
def outstanding (H : Multiset (Holding τ)) : Multiset (Address × Size) :=
  H.map fun h => (h.block, h.size)

@[simp] theorem contents_zero : contents (0 : Multiset (Holding τ)) = 0 := rfl

@[simp] theorem contents_cons (h : Holding τ) (H : Multiset (Holding τ)) :
    contents (h ::ₘ H) = (h.elements : Multiset τ) + contents H :=
  Multiset.cons_bind h H _

@[simp] theorem outstanding_zero : outstanding (0 : Multiset (Holding τ)) = 0 := rfl

@[simp] theorem outstanding_cons (h : Holding τ) (H : Multiset (Holding τ)) :
    outstanding (h ::ₘ H) = (h.block, h.size) ::ₘ outstanding H :=
  Multiset.map_cons _ _ _

section Conservation

variable {H H' : Multiset (Holding τ)}

theorem Move.contents_eq {q : Entry τ} (h : Move H q H') :
    contents H + (Entry.copied [q] : Multiset τ) =
      contents H' + (Entry.disposed [q] : Multiset τ) := by
  cases h with
  | allocate | release | refused | copyPanicked | compare | report =>
    simp [Entry.copied, Entry.disposed]
  | copy block size x y xs H =>
    have added : ((xs ++ [y] : List τ) : Multiset τ) = xs + {y} := (Multiset.coe_add xs [y]).symm
    simp [Entry.copied, Entry.disposed, added, add_right_comm]
  | dispose block size x xs H | lose block size x xs H =>
    have taken : ((x :: xs : List τ) : Multiset τ) = xs + {x} := by
      rw [← Multiset.cons_coe, ← Multiset.singleton_add, add_comm]
    simp [Entry.copied, Entry.disposed, taken, add_right_comm]

theorem Move.outstanding_eq {q : Entry τ} (h : Move H q H') :
    outstanding H + (Entry.obtained [q] : Multiset (Address × Size)) =
      outstanding H' + (Entry.released [q] : Multiset (Address × Size)) := by
  cases h with
  | allocate block size H =>
    simp only [Entry.obtained, Entry.released, outstanding_cons, List.filterMap_cons,
      Option.map_some, List.filterMap_nil, Multiset.coe_nil, add_zero]
    exact add_comm _ _
  | release block size H =>
    simp only [Entry.obtained, Entry.released, outstanding_cons, List.filterMap_cons,
      List.filterMap_nil, Multiset.coe_nil, add_zero]
    exact add_comm (G := Multiset (Address × Size)) {(block, size)} _
  | copy | dispose | lose | refused | copyPanicked | compare | report =>
    simp [Entry.obtained, Entry.released]

/-- **Elements are conserved.**  What was there and what was copied is there or was disposed of. -/
theorem Moves.contents_eq {t : List (Entry τ)} (h : Moves H t H') :
    contents H + (Entry.copied t : Multiset τ) =
      contents H' + (Entry.disposed t : Multiset τ) := by
  induction h with
  | nil => rfl
  | @cons H K H' q t move _ ih =>
    rw [Entry.copied_cons q t, Entry.disposed_cons q t, ← Multiset.coe_add, ← Multiset.coe_add,
      ← add_assoc, move.contents_eq, add_right_comm, ih, add_right_comm, add_assoc]

/-- **Blocks are conserved**, with their sizes. -/
theorem Moves.outstanding_eq {t : List (Entry τ)} (h : Moves H t H') :
    outstanding H + (Entry.obtained t : Multiset (Address × Size)) =
      outstanding H' + (Entry.released t : Multiset (Address × Size)) := by
  induction h with
  | nil => rfl
  | @cons H K H' q t move _ ih =>
    rw [Entry.obtained_cons q t, Entry.released_cons q t, ← Multiset.coe_add, ← Multiset.coe_add,
      ← add_assoc, move.outstanding_eq, add_right_comm, ih, add_right_comm, add_assoc]

end Conservation

/-! ## 3. Elements seen differently -/

section Views

variable {σ : Type} (f : τ → σ)

/-- The call, with every element seen through `f`. -/
def Entry.map : Entry τ → Entry σ
  | .copy x result => .copy (f x) (result.map f)
  | .dispose x completed => .dispose (f x) completed
  | .compare x y answer => .compare (f x) (f y) answer
  | .allocate size block => .allocate size block
  | .release block size => .release block size
  | .report event => .report event

/-- The holding, with every element seen through `f`. -/
def Holding.map (h : Holding τ) : Holding σ :=
  { block := h.block, size := h.size, elements := h.elements.map f, lost := h.lost }

theorem Move.map {H H' : Multiset (Holding τ)} {q : Entry τ} (h : Move H q H') :
    Move (H.map (Holding.map f)) (q.map f) (H'.map (Holding.map f)) := by
  cases h with
  | allocate block size =>
    rw [Multiset.map_cons]
    exact .allocate block size _
  | copy block size x y xs =>
    simp only [Multiset.map_cons, Holding.map, List.map_append]
    exact .copy block size (f x) (f y) (xs.map f) _
  | dispose block size x xs =>
    simp only [Multiset.map_cons, Holding.map]
    exact .dispose block size (f x) (xs.map f) _
  | lose block size x xs =>
    simp only [Multiset.map_cons, Holding.map]
    exact .lose block size (f x) (xs.map f) _
  | release block size =>
    rw [Multiset.map_cons]
    exact .release block size _
  | refused size => exact .refused size _
  | copyPanicked x => exact .copyPanicked (f x) _
  | compare x y answer => exact .compare (f x) (f y) answer _
  | report event => exact .report event _

/-- Calls move holdings in the same way, whatever their elements are taken for. -/
theorem Moves.map {H H' : Multiset (Holding τ)} {t : List (Entry τ)} (h : Moves H t H') :
    Moves (H.map (Holding.map f)) (t.map (Entry.map f)) (H'.map (Holding.map f)) := by
  induction h with
  | nil => exact .nil _
  | cons move _ ih => exact .cons (move.map f) ih

end Views

end ReservedArray
