/-
# Every order of a list, once and in order

`draws n xs` are the ways to draw `n` elements of a list one after the other.  An element that is
drawn is put at the front, and the next one comes from the others, which keep their order; so the
proofs go by induction on the number of draws, and one step is a look at `extractions`.

* Drawn are the lists of `n` elements of `xs`, each taken no more often than it is there
  (`mem_draws`).  When all are drawn, these are the orders of the list.
* From an ascending list they come in strictly ascending lexicographic order
  (`pairwise_lex_draws`), so none of them comes twice.
* Their number is a falling factorial (`length_draws`); the first takes the elements from the front
  (`head?_draws`), and the last takes them from the back (`getLast?_draws`).

None of this depends on what the elements are.  They are drawn by their positions, in the
lexicographic order of these (`draws_by_position`), which is all that is assumed of the
enumeration that `draws` stands for; and nothing else comes in this way (`selectsByPosition_iff`).
So what is shown of `permutations` holds with any enumeration that keeps to the assumption
(`eq_permutations_iff`).
-/
import Mathlib
import ReservedArray.Permutations

namespace ReservedArray

variable {β γ : Type}

/-! ## 1. One draw -/

/-- Each element is drawn once, in order. -/
theorem map_fst_extractions (xs : List β) : (extractions xs).map Prod.fst = xs := by
  induction xs with
  | nil => rfl
  | cons x xs ih => simp [extractions, Function.comp_def, ih]

theorem exists_extraction {x : β} {xs : List β} (mem : x ∈ xs) :
    ∃ rest, (x, rest) ∈ extractions xs := by
  rw [← map_fst_extractions xs, List.mem_map] at mem
  obtain ⟨⟨_, rest⟩, found, rfl⟩ := mem
  exact ⟨rest, found⟩

/-- The others keep their order. -/
theorem sublist_of_mem_extractions {x : β} {xs rest : List β} (mem : (x, rest) ∈ extractions xs) :
    rest.Sublist xs := by
  induction xs generalizing rest with
  | nil => cases mem
  | cons y ys ih =>
    rw [extractions] at mem
    rcases List.mem_cons.mp mem with first | later
    · obtain ⟨rfl, rfl⟩ := Prod.mk.inj first
      exact List.sublist_cons_self x rest
    · obtain ⟨⟨z, others⟩, found, same⟩ := List.mem_map.mp later
      cases same
      exact (ih found).cons_cons y

theorem extractions_map (f : β → γ) (xs : List β) :
    extractions (xs.map f) = (extractions xs).map fun p => (f p.1, p.2.map f) := by
  induction xs with
  | nil => rfl
  | cons x xs ih => simp [extractions, ih]

/-- The last element is the last to be drawn. -/
theorem extractions_concat (xs : List β) (x : β) :
    extractions (xs ++ [x]) = (extractions xs).map (fun p => (p.1, p.2 ++ [x])) ++ [(x, xs)] := by
  induction xs with
  | nil => rfl
  | cons y ys ih => simp [extractions, ih]

/-! ## 2. What is drawn -/

theorem mem_draws_succ {n : Nat} {xs l : List β} :
    l ∈ draws (n + 1) xs ↔
      ∃ x rest, (x, rest) ∈ extractions xs ∧ ∃ l', l' ∈ draws n rest ∧ l = x :: l' := by
  simp only [draws, List.mem_flatMap, List.mem_map, Prod.exists, eq_comm (b := l)]

/-- **Drawn is what there is**, as many elements as asked for. -/
theorem mem_draws {n : Nat} {xs l : List β} : l ∈ draws n xs ↔ l.length = n ∧ l.Subperm xs := by
  induction n generalizing xs l with
  | zero =>
    rw [draws, List.mem_singleton, List.length_eq_zero_iff]
    refine ⟨?_, And.left⟩
    rintro rfl
    exact ⟨rfl, List.nil_subperm⟩
  | succ n ih =>
    rw [mem_draws_succ]
    constructor
    · rintro ⟨x, rest, found, l, drawn, rfl⟩
      obtain ⟨rfl, among⟩ := ih.mp drawn
      exact ⟨rfl, ((List.subperm_cons x).mpr among).trans (perm_of_mem_extractions found).subperm⟩
    · rintro ⟨long, among⟩
      obtain ⟨x, l, rfl⟩ := List.exists_cons_of_length_eq_add_one long
      obtain ⟨rest, found⟩ := exists_extraction (among.subset List.mem_cons_self)
      have others := among.trans (perm_of_mem_extractions found).symm.subperm
      exact ⟨x, rest, found, l, ih.mpr ⟨Nat.succ.inj long, (List.subperm_cons x).mp others⟩, rfl⟩

/-- When all elements are drawn, the list is in another order. -/
theorem mem_draws_length {xs l : List β} : l ∈ draws xs.length xs ↔ l.Perm xs := by
  rw [mem_draws]
  exact ⟨fun drawn => drawn.2.perm_of_length_le drawn.1.ge, fun perm =>
    ⟨perm.length_eq, perm.subperm⟩⟩

/-! ## 3. In which order, and how many -/

/-- **From an ascending list the draws come in lexicographic order.** -/
theorem pairwise_lex_draws {r : β → β → Prop} (n : Nat) {xs : List β} (ascending : xs.Pairwise r) :
    (draws n xs).Pairwise (List.Lex r) := by
  induction n generalizing xs with
  | zero => exact List.pairwise_singleton _ _
  | succ n ih =>
    rw [draws, List.pairwise_flatMap]
    constructor
    -- with the same element in front, the others decide
    · rintro ⟨x, rest⟩ found
      rw [List.pairwise_map]
      exact (ih (ascending.sublist (sublist_of_mem_extractions found))).imp .cons
    -- otherwise the elements in front do
    · rw [← map_fst_extractions xs, List.pairwise_map] at ascending
      refine ascending.imp fun before l mem l' mem' => ?_
      obtain ⟨_, -, rfl⟩ := List.mem_map.mp mem
      obtain ⟨_, -, rfl⟩ := List.mem_map.mp mem'
      exact .rel before

/-- **Each draw leaves one element less to choose from.** -/
theorem length_draws (n : Nat) (xs : List β) :
    (draws n xs).length = xs.length.descFactorial n := by
  induction n generalizing xs with
  | zero => rfl
  | succ n ih =>
    have each : ∀ p ∈ extractions xs,
        ((draws n p.2).map (p.1 :: ·)).length = (xs.length - 1).descFactorial n := by
      rintro ⟨x, rest⟩ found
      have others := (perm_of_mem_extractions found).length_eq
      rw [List.length_map, ih, ← others]
      rfl
    rw [draws, List.length_flatMap, List.map_congr_left each, List.map_const', List.sum_replicate,
      extractions_length, smul_eq_mul]
    cases xs with
    | nil => rw [List.length_nil, Nat.zero_mul, Nat.zero_descFactorial_succ]
    | cons x xs => rw [List.length_cons, Nat.succ_descFactorial_succ, Nat.add_sub_cancel]

/-! ## 4. The first and the last -/

theorem head?_draws {n : Nat} {xs : List β} (enough : n ≤ xs.length) :
    (draws n xs).head? = some (xs.take n) := by
  induction n generalizing xs with
  | zero => rfl
  | succ n ih =>
    cases xs with
    | nil => cases enough
    | cons x xs => simp [draws, extractions, List.head?_append, ih (Nat.le_of_succ_le_succ enough)]

theorem getLast?_draws {n : Nat} {xs : List β} (enough : n ≤ xs.length) :
    (draws n xs).getLast? = some (xs.reverse.take n) := by
  induction n generalizing xs with
  | zero => rfl
  | succ n ih =>
    cases xs using List.reverseRecOn with
    | nil => cases enough
    | append_singleton xs x =>
      have enough' : n ≤ xs.length := by simpa using enough
      simp [draws, extractions_concat, List.getLast?_append, ih enough']

/-! ## 5. By position -/

theorem draws_map (f : β → γ) (n : Nat) (xs : List β) :
    draws n (xs.map f) = (draws n xs).map (List.map f) := by
  induction n generalizing xs with
  | zero => rfl
  | succ n ih =>
    simp [draws, extractions_map, List.flatMap_map, List.map_flatMap, ih, Function.comp_def]

/-- **Elements are drawn by their positions.**  The selections of `n` different positions come in
strictly ascending lexicographic order, all of them, and each gives the elements that are there. -/
theorem draws_by_position (n : Nat) (xs : List β) : SelectsByPosition n xs (draws n xs) := by
  refine ⟨draws n (List.finRange xs.length), fun s => ?_, ?_, ?_⟩
  · rw [mem_draws]
    refine and_congr_right fun _ => ⟨fun among => ?_, fun distinct => ?_⟩
    · obtain ⟨s', same, sublist⟩ := among
      exact same.nodup_iff.mp ((List.nodup_finRange _).sublist sublist)
    · exact distinct.subperm fun i _ => List.mem_finRange i
  · exact pairwise_lex_draws n (List.pairwise_lt_finRange _)
  · rw [← draws_map, List.map_get_finRange]

/-- **What is assumed of the enumeration settles it.**  The selections are known, and so is their
order; so there is one list of them. -/
theorem selectsByPosition_iff {n : Nat} {xs : List β} {lists : List (List β)} :
    SelectsByPosition n xs lists ↔ lists = draws n xs := by
  constructor
  · rintro ⟨selections, all, ascending, rfl⟩
    obtain ⟨selections', all', ascending', drawn⟩ := draws_by_position n xs
    have same : selections = selections' :=
      ascending.eq_of_mem_iff ascending' fun s => (all s).trans (all' s).symm
    rw [drawn, same]
  · rintro rfl
    exact draws_by_position n xs

/-! ## 6. All permutations -/

/-- Any enumeration that keeps to the assumption gives these permutations of the numbers from 1 to
`k`, and no others. -/
theorem eq_permutations_iff {k : Nat} {lists : List (List Nat)} :
    lists = permutations k ↔ SelectsByPosition k (List.range' 1 k) lists :=
  selectsByPosition_iff.symm

/-- **All permutations, each once and in order.**  The permutations of the numbers from 1 to `k` are
their orders and nothing else; none of them is there twice; each one comes before all that are
greater in the lexicographic order.  There are `k!` of them, the ascending one first and the
descending one last; of no numbers there is one, which is empty.  This is about `draws`, and with
`eq_permutations_iff` about every enumeration that may be in its place. -/
theorem permutations_exhaustive (k : Nat) :
    (∀ l, l ∈ permutations k ↔ l.Perm (List.range' 1 k)) ∧ (permutations k).Nodup ∧
    (permutations k).Pairwise (List.Lex (· < ·)) ∧ (permutations k).length = k.factorial ∧
    (permutations k).head? = some (List.range' 1 k) ∧
    (permutations k).getLast? = some (List.range' 1 k).reverse ∧ permutations 0 = [[]] := by
  have whole : permutations k = draws (List.range' 1 k).length (List.range' 1 k) := by
    rw [List.length_range', permutations]
  have ascending : (permutations k).Pairwise (List.Lex (· < ·)) :=
    pairwise_lex_draws k List.pairwise_lt_range'
  refine ⟨fun l => ?_, ascending.imp fun before same => ?_, ascending, ?_, ?_, ?_, rfl⟩
  · rw [whole, mem_draws_length]
  · subst same
    exact List.lex_irrefl Nat.lt_irrefl _ before
  · rw [whole, length_draws, Nat.descFactorial_self, List.length_range']
  · rw [whole, head?_draws le_rfl, List.take_length]
  · rw [whole, getLast?_draws le_rfl, ← List.length_reverse, List.take_length]

example : permutations 3 = [[1, 2, 3], [1, 3, 2], [2, 1, 3], [2, 3, 1], [3, 1, 2], [3, 2, 1]] := rfl

end ReservedArray
