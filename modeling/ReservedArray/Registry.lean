/-
# Things under numbers

A registry holds at most one thing under each number and keeps them in ascending order of the
numbers, so that going through all of it has a fixed order.
-/

namespace ReservedArray

/-- Things under numbers, in ascending order. -/
structure Registry (β : Type) where
  entries : List (Nat × β) := []

namespace Registry

variable {β : Type}

/-- What stands under the number. -/
def find (key : Nat) : List (Nat × β) → Option β
  | [] => none
  | (k, x) :: rest => if k = key then some x else find key rest

/-- Puts a thing under the number, before all greater numbers. -/
def place (key : Nat) (x : β) : List (Nat × β) → List (Nat × β)
  | [] => [(key, x)]
  | (k, y) :: rest =>
    if key < k then (key, x) :: (k, y) :: rest
    else if key = k then (key, x) :: rest
    else (k, y) :: place key x rest

/-- The thing under the number, if there is one. -/
def get? (r : Registry β) (key : Nat) : Option β := find key r.entries

/-- What was under the number before is replaced. -/
def insert (r : Registry β) (key : Nat) (x : β) : Registry β := ⟨place key x r.entries⟩

/-- Nothing is left under the number. -/
def erase (r : Registry β) (key : Nat) : Registry β := ⟨r.entries.filter fun e => e.1 != key⟩

/-- All things, in ascending order of their numbers. -/
def values (r : Registry β) : List β := r.entries.map Prod.snd

theorem find_place_self (key : Nat) (x : β) (l : List (Nat × β)) :
    find key (place key x l) = some x := by
  induction l with
  | nil => simp [place, find]
  | cons e rest ih =>
    obtain ⟨k, y⟩ := e
    simp only [place]
    split
    · simp [find]
    · split
      · simp [find]
      · have : ¬k = key := by omega
        simp [find, this, ih]

theorem find_place_of_ne {key other : Nat} (h : other ≠ key) (x : β) (l : List (Nat × β)) :
    find other (place key x l) = find other l := by
  induction l with
  | nil => simp [place, find, Ne.symm h]
  | cons e rest ih =>
    obtain ⟨k, y⟩ := e
    simp only [place]
    split
    · simp [find, Ne.symm h]
    · split
      · rename_i hk
        subst hk
        simp [find, Ne.symm h]
      · simp [find, ih]

@[simp] theorem get?_insert_self (r : Registry β) (key : Nat) (x : β) :
    (r.insert key x).get? key = some x := find_place_self key x r.entries

theorem get?_insert_of_ne (r : Registry β) {key other : Nat} (h : other ≠ key) (x : β) :
    (r.insert key x).get? other = r.get? other := find_place_of_ne h x r.entries

end Registry

end ReservedArray
