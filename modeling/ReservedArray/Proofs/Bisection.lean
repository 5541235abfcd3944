/-
# What the searches find

Both searches run in any monad.  Here the probe is a function without effects, and it is said what
they come to then.

* A linear search finds the first element that is probed equal (`linearPure_eq_findIdx?`).
* Bisection only ever finds an element that is probed equal (`binaryPure_eq_some`).
* Bisection finds one whenever there is one, in an array in which the elements that are probed less
  come first and those that are probed greater come last (`Partitioned`, `isSome_binaryPure_iff`).
  It need not be the first one.

The second half of the last point rests on the window: what a step of the bisection cuts off was all
probed less or all probed greater, so every equal element stays inside.
-/
import ReservedArray.Search

namespace ReservedArray.Search

variable {τ : Type} {probe : τ → Ordering} {items : Array τ} {i low high : Nat}

/-- A linear search with a probe that has no effect. -/
def linearPure (probe : τ → Ordering) (items : List τ) : Option Nat :=
  Id.run (linear (fun x => pure (probe x)) items)

/-- Bisection with a probe that has no effect. -/
def binaryPure (probe : τ → Ordering) (items : Array τ) : Option Nat :=
  Id.run (binary (fun x => pure (probe x)) items)

/-! ## 1. Linear search -/

theorem linearFrom_eq_findIdx? (probe : τ → Ordering) (start : Nat) (items : List τ) :
    Id.run (linearFrom (fun x => pure (probe x)) start items) =
      (items.findIdx? (probe · == .eq)).map (· + start) := by
  induction items generalizing start with
  | nil => rfl
  | cons x items ih =>
    have later : (items.findIdx? (probe · == .eq)).map (· + (start + 1)) =
        ((items.findIdx? (probe · == .eq)).map (· + 1)).map (· + start) := by
      simp [Nat.add_assoc, Nat.add_comm 1, Function.comp_def]
    rw [List.findIdx?_cons]
    cases answer : probe x with
    | eq => simp [linearFrom, answer]
    | lt | gt => simp [linearFrom, answer, ih, later]

/-- **A linear search finds the first equal element.** -/
theorem linearPure_eq_findIdx? (probe : τ → Ordering) (items : List τ) :
    linearPure probe items = items.findIdx? (probe · == .eq) := by
  rw [linearPure, linear, linearFrom_eq_findIdx?]
  simp

/-- An equal element is not before the one that a linear search finds. -/
theorem linearPure_le {items : List τ} (bound : i < items.length) (equal : probe items[i] = .eq) :
    ∃ j ≤ i, linearPure probe items = some j := by
  rw [linearPure_eq_findIdx?]
  cases first : items.findIdx? (probe · == .eq) with
  | none =>
    have unequal := List.findIdx?_eq_none_iff.mp first items[i] (List.getElem_mem bound)
    simp [equal] at unequal
  | some j =>
    obtain ⟨_, -, before⟩ := List.findIdx?_eq_some_iff_getElem.mp first
    exact ⟨j, Nat.not_lt.mp fun lt => before i lt (by simp [equal]), rfl⟩

theorem isSome_linearPure_iff {items : List τ} :
    (linearPure probe items).isSome ↔ ∃ x ∈ items, probe x = .eq := by
  simp [linearPure_eq_findIdx?]

/-! ## 2. Bisection -/

/-- What is probed less comes first, and what is probed greater comes last. -/
def Partitioned (probe : τ → Ordering) (items : List τ) : Prop :=
  items.Pairwise fun x y => (probe y = .lt → probe x = .lt) ∧ (probe x = .gt → probe y = .gt)

theorem Partitioned.getElem (h : Partitioned probe items.toList) {j k : Nat} (lt : j < k)
    (bound : k < items.size) :
    (probe items[k] = .lt → probe items[j] = .lt) ∧
      (probe items[j] = .gt → probe items[k] = .gt) :=
  List.pairwise_iff_getElem.mp h j k (by simp; omega) (by simpa using bound) lt

theorem binaryWithin_eq_some (bound : high ≤ items.size)
    (found : Id.run (binaryWithin (fun x => pure (probe x)) items low high bound) = some i) :
    ∃ h : i < items.size, probe items[i] = .eq := by
  induction low, high, bound using binaryWithin.induct with
  | case1 low high bound window below above ihBelow ihAbove =>
    rw [binaryWithin, dif_pos window] at found
    cases answer : probe items[middle low high] with
    | eq =>
      simp only [answer, pure_bind] at found
      cases found
      exact ⟨_, answer⟩
    | gt =>
      simp only [answer, pure_bind] at found
      exact ihBelow found
    | lt =>
      simp only [answer, pure_bind] at found
      exact ihAbove found
  | case2 low high bound window =>
    rw [binaryWithin, dif_neg window] at found
    cases found

/-- **What bisection finds is probed equal**, in any array. -/
theorem binaryPure_eq_some (found : binaryPure probe items = some i) :
    ∃ h : i < items.size, probe items[i] = .eq :=
  binaryWithin_eq_some _ found

/-- Bisection does not miss an equal element in its window. -/
theorem isSome_binaryWithin (parted : Partitioned probe items.toList) (bound : high ≤ items.size)
    (after : low ≤ i) (before : i < high) (equal : probe items[i] = .eq) :
    (Id.run (binaryWithin (fun x => pure (probe x)) items low high bound)).isSome := by
  induction low, high, bound using binaryWithin.induct with
  | case1 low high bound window below above ihBelow ihAbove =>
    rw [binaryWithin, dif_pos window]
    cases answer : probe items[middle low high] with
    | eq => simp [answer]
    | gt =>
      -- the equal element is not behind the middle, where all is greater
      have first : i < middle low high := by
        rcases Nat.lt_trichotomy i (middle low high) with lt | rfl | gt
        · exact lt
        · simp [answer] at equal
        · simp [(parted.getElem gt (by omega)).2 answer] at equal
      simp only [answer, pure_bind]
      exact ihBelow after first equal
    | lt =>
      -- nor before it, where all is less
      have last : middle low high < i := by
        rcases Nat.lt_trichotomy i (middle low high) with lt | rfl | gt
        · simp [(parted.getElem lt (by omega)).1 answer] at equal
        · simp [answer] at equal
        · exact gt
      simp only [answer, pure_bind]
      exact ihAbove last before equal
  | case2 low high bound window => omega

/-- **Bisection finds an equal element where there is one**, in an array that is partitioned. -/
theorem isSome_binaryPure_iff (parted : Partitioned probe items.toList) :
    (binaryPure probe items).isSome ↔ ∃ x ∈ items.toList, probe x = .eq := by
  constructor
  · intro some
    obtain ⟨i, found⟩ := Option.isSome_iff_exists.mp some
    obtain ⟨h, equal⟩ := binaryPure_eq_some found
    exact ⟨items[i], by simp, equal⟩
  · rintro ⟨x, mem, equal⟩
    obtain ⟨i, h, rfl⟩ := List.mem_iff_getElem.mp mem
    exact isSome_binaryWithin parted (Nat.le_refl _) (Nat.zero_le i) (by simpa using h)
      (by simpa using equal)

end ReservedArray.Search
