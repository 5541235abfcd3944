/-
# Searching what was sorted

Bisection asks for a sorted array and does not check that it has one.  This file proves that a sort
by the same comparisons is enough.  Whatever key is looked for, bisection of the sorted array finds
an equal element just when there is one, and a linear search finds one then as well, before the sort
and after it (`search_after_sort`).  When several elements are equal to the key the two searches may
find different ones, and the linear search finds the first.

What is asked of the hooks is asked of the calls that are made, as for the sort itself
(`Entry.Follows`): every comparison is answered by one total preorder, on what can be seen of the
elements and of the key.

* A search whose comparisons are answered by an order gives what it gives with a probe that has no
  effect (`Buffer.linearIndex_of_follows`, `Buffer.binaryIndex_of_follows`), so what is known of
  `Search.linearPure` and `Search.binaryPure` is true of it.
* What is in ascending order is partitioned by every key (`partitioned_of_ascending`), and a sort
  loses no element and adds none (`exists_probed_iff`).
-/
import Mathlib
import ReservedArray.Proofs.Bisection
import ReservedArray.Proofs.StableSort

namespace ReservedArray

variable {α κ τ σ β : Type}

/-! ## 1. Searches whose comparisons are answered by an order -/

section Answering

variable {view : τ → σ} {order : σ → σ → Ordering}

/-- The probe by the order itself. -/
def probeBy (view : τ → σ) (order : σ → σ → Ordering) (key x : τ) : Ordering :=
  order (view x) (view key)

/-- The search comes back with this value if the comparisons are answered by the order. -/
def Answers (view : τ → σ) (order : σ → σ → Ordering) (value : β) (r : Except Panic β)
    (t : List (Entry τ)) : Prop :=
  (∀ q ∈ t, q.Follows view order) → r = .ok value

variable [Backend α] {ops : ElementOps κ τ}

/-- A probe is answered by the order, and the search goes on from there. -/
theorem Meets.probe_answers (key x : τ) {next : Ordering → ExceptT Panic (Run α κ τ) β}
    {value : β}
    (hnext : ∀ o, Meets ops (next o).run fun r t =>
      probeBy view order key x = o → Answers view order value r t) :
    Meets ops (Buffer.probeHook ops key x >>= next).run (Answers view order value) := by
  refine .bind_except (P := fun r t => t = [.compare x key r.toOption]) (meets_compare x key) ?_ ?_
  · rintro o _ rfl
    refine (hnext o).mono ?_
    intro r t answers follows
    obtain ⟨answer, rest⟩ := List.forall_mem_cons.mp follows
    cases answer
    exact answers rfl rest
  · rintro panic _ rfl follows
    cases List.forall_mem_singleton.mp follows

theorem meets_linear_answers (key : τ) (xs : List τ) :
    Meets ops (Search.linear (Buffer.probeHook ops key) xs : ExceptT Panic (Run α κ τ) _).run
      (Answers view order (Search.linearPure (probeBy view order key) xs)) := by
  unfold Search.linearPure Search.linear
  generalize 0 = start
  induction xs generalizing start with
  | nil => exact .pure fun _ => rfl
  | cons x xs ih =>
    refine Meets.probe_answers key x ?_
    intro o
    simp only [Search.linearFrom, pure_bind]
    cases o with
    | eq =>
      refine .pure ?_
      intro probed _
      rw [probed]
      rfl
    | lt | gt =>
      refine (ih (start + 1)).mono ?_
      intro r t answers probed
      rw [probed]
      exact answers

theorem meets_binary_answers (key : τ) (xs : Array τ) :
    Meets ops (Search.binary (Buffer.probeHook ops key) xs : ExceptT Panic (Run α κ τ) _).run
      (Answers view order (Search.binaryPure (probeBy view order key) xs)) := by
  have within (low high : Nat) (bound : high ≤ xs.size) : Meets ops
      (Search.binaryWithin (Buffer.probeHook ops key) xs low high bound :
        ExceptT Panic (Run α κ τ) _).run
      (Answers view order (Id.run
        (Search.binaryWithin (fun x => pure (probeBy view order key x)) xs low high bound))) := by
    induction low, high, bound using Search.binaryWithin.induct with
    | case1 low high bound window below above ihBelow ihAbove =>
      rw [Search.binaryWithin.eq_def _ _ low, Search.binaryWithin.eq_def _ _ low, dif_pos window,
        dif_pos window]
      refine Meets.probe_answers key _ ?_
      intro o
      simp only [pure_bind]
      cases o with
      | eq =>
        refine .pure ?_
        intro probed _
        rw [probed]
        rfl
      | gt =>
        refine ihBelow.mono ?_
        intro r t answers probed
        rw [probed]
        exact answers
      | lt =>
        refine ihAbove.mono ?_
        intro r t answers probed
        rw [probed]
        exact answers
    | case2 low high bound window =>
      rw [Search.binaryWithin, dif_neg window, Search.binaryWithin, dif_neg window]
      exact .pure fun _ => rfl
  exact within 0 xs.size (Nat.le_refl _)

/-- **A linear search by an order** finds what it finds without effects. -/
theorem Buffer.linearIndex_of_follows {b : Buffer τ} {key : τ} {e : Env α κ τ}
    (follows : ∀ q ∈ e.calls (b.linearIndex ops none key), q.Follows view order) :
    ((b.linearIndex ops none key).run e).1 =
      .ok (Search.linearPure (probeBy view order key) b.toList) :=
  (meets_linear_answers key b.toList).calls e follows

/-- **Bisection by an order** finds what it finds without effects. -/
theorem Buffer.binaryIndex_of_follows {b : Buffer τ} {key : τ} {e : Env α κ τ}
    (follows : ∀ q ∈ e.calls (b.binaryIndex ops key), q.Follows view order) :
    ((b.binaryIndex ops key).run e).1 =
      .ok (Search.binaryPure (probeBy view order key) b.slots) :=
  (meets_binary_answers key b.slots).calls e follows

end Answering

/-! ## 2. What sorting does for it -/

section Sorting

variable {layout : Layout} {b b' : Buffer τ} {t : List (Entry τ)} {view : τ → σ}
  {order : σ → σ → Ordering}

/-- **What is ascending is partitioned by every key.** -/
theorem partitioned_of_ascending [Std.TransCmp order] {xs : List τ}
    (ascending : (xs.map view).Pairwise fun x y => order x y ≠ .gt) (key : τ) :
    Search.Partitioned (probeBy view order key) xs := by
  refine (List.pairwise_map.mp ascending).imp ?_
  intro x y le
  have isLE : (order (view x) (view y)).isLE := Ordering.isLE_iff_ne_gt.mpr le
  constructor
  · intro less
    show order (view x) (view key) = .lt
    exact Std.TransCmp.lt_of_isLE_of_lt isLE less
  · intro greater
    show order (view y) (view key) = .gt
    have isGE := Std.OrientedCmp.isGE_iff_isLE.mpr isLE
    exact Std.TransCmp.gt_of_isGE_of_gt isGE greater

/-- Lists of the same elements, seen from outside, are probed equal somewhere or nowhere. -/
theorem exists_probed_iff {xs zs : List τ} (perm : (zs.map view).Perm (xs.map view)) (key : τ) :
    (∃ x ∈ zs, probeBy view order key x = .eq) ↔ ∃ x ∈ xs, probeBy view order key x = .eq := by
  have seen (ys : List τ) : (∃ x ∈ ys, probeBy view order key x = .eq) ↔
      ∃ v ∈ ys.map view, order v (view key) = .eq := by
    simp [probeBy]
  rw [seen zs, seen xs]
  simp only [perm.mem_iff]

/-- What an array holds once it is sorted is the stable sort of what it held. -/
theorem SortsArray.stableSort [Std.TransCmp order] (h : SortsArray layout b (.done (), b') t)
    (follows : ∀ q ∈ t, q.Follows view order) :
    StableSort order (b.toList.map view) (b'.toList.map view) := by
  obtain ⟨t₁, t₂, rfl, sorts, -⟩ := h.of_done
  exact sorts.stableSort (List.forall_mem_append.mp follows).1

end Sorting

/-! ## 3. Together -/

/-- **Sort, then search.**  When an array is sorted by a total preorder, bisection of what it then
holds finds an element equal to the key if and only if there is one, and a linear search agrees,
before the sort and after it.  What bisection finds is a live element that compares equal, and the
linear search finds one there or in front of it. -/
theorem search_after_sort [Backend α] (options : ArrayOptions κ τ) (e e₀ e₁ e₂ : Env α κ τ)
    {b b' : Buffer τ} (sound : b.Sound options.layout) (view : τ → σ)
    (order : σ → σ → Ordering) [Std.TransCmp order] (key : τ)
    (sorted : ((b.sort options).run e).1 = (.done (), b'))
    (sorting : ∀ q ∈ e.calls (b.sort options), q.Follows view order)
    (before : ∀ q ∈ e₀.calls (b.linearIndex options.ops none key), q.Follows view order)
    (after : ∀ q ∈ e₁.calls (b'.linearIndex options.ops none key), q.Follows view order)
    (bisecting : ∀ q ∈ e₂.calls (b'.binaryIndex options.ops key), q.Follows view order) :
    ∃ unsorted first found : Option Nat,
      ((b.linearIndex options.ops none key).run e₀).1 = .ok unsorted ∧
      ((b'.linearIndex options.ops none key).run e₁).1 = .ok first ∧
      ((b'.binaryIndex options.ops key).run e₂).1 = .ok found ∧
      (found.isSome ↔ unsorted.isSome) ∧ (found.isSome ↔ first.isSome) ∧
      ∀ i, found = some i → i < b'.length ∧
        (∃ x, b'.get? i = some x ∧ order (view x) (view key) = .eq) ∧
        ∃ j ≤ i, first = some j := by
  have course := (meets_sort (α := α) options sound.length_le).calls e
  rw [sorted] at course
  have stable := course.stableSort sorting
  have parted := partitioned_of_ascending stable.ascending key
  have same : (∃ x ∈ b'.toList, probeBy view order key x = .eq) ↔ _ :=
    exists_probed_iff stable.perm key
  refine ⟨_, _, _, Buffer.linearIndex_of_follows before, Buffer.linearIndex_of_follows after,
    Buffer.binaryIndex_of_follows bisecting, ?_, ?_, ?_⟩
  · rw [Search.isSome_binaryPure_iff parted, Search.isSome_linearPure_iff]
    exact same
  · rw [Search.isSome_binaryPure_iff parted, Search.isSome_linearPure_iff]
    rfl
  · intro i found
    obtain ⟨bound, equal⟩ := Search.binaryPure_eq_some found
    refine ⟨bound, ⟨b'.slots[i], Array.getElem?_eq_getElem bound, equal⟩, ?_⟩
    have within : i < b'.toList.length := bound
    exact Search.linearPure_le within equal

/-- Numbers that are compared by their tens only. -/
def byTens : ElementOps Unit Nat := .plain fun x y => compare (x / 10) (y / 10)

/-- Three numbers, two of which have the same tens. -/
def Buffer.tens : Buffer Nat := { block := 64, reserve := 3, slots := #[35, 41, 31] }

theorem Buffer.sound_tens : Buffer.tens.Sound ⟨4, 4⟩ where
  length_le := by decide
  positive := by decide
  fits := by decide
  aligned := by decide

/-- Bisection finds the second of two equal numbers, and the linear search the first. -/
theorem search_after_sort_of_tens :
    ∃ b', ((Buffer.tens.sort (wordOptions byTens)).run (scarce 5 ())).1 = (.done (), b') ∧
      ∃ unsorted first found : Option Nat,
        ((Buffer.tens.linearIndex byTens none 30).run (scarce 0 ())).1 = .ok unsorted ∧
        ((b'.linearIndex byTens none 30).run (scarce 0 ())).1 = .ok first ∧
        ((b'.binaryIndex byTens 30).run (scarce 0 ())).1 = .ok found ∧
        (found.isSome ↔ unsorted.isSome) ∧ (found.isSome ↔ first.isSome) ∧
        ∀ i, found = some i → i < b'.length ∧
          (∃ x, b'.get? i = some x ∧ compare (x / 10) (30 / 10) = .eq) ∧
          ∃ j ≤ i, first = some j := by
  have sorted : ((Buffer.tens.sort (wordOptions byTens)).run (scarce 5 ())).1 =
      (.done (), { block := 4096, reserve := 3, slots := #[35, 31, 41] }) := by
    cbv
    iterate 3
      simp only [Buffer.merge_nil_left, Buffer.merge_nil_right]
      cbv
  have follows {β : Type} {c : Run (Counting (Failing Heap)) Unit Nat β}
      {post : β → List (Entry Nat) → Prop} (meets : Meets byTens c post)
      (e : Env (Counting (Failing Heap)) Unit Nat) : ∀ q ∈ e.calls c, q.Follows (· / 10) compare :=
    (meets.steps e).follows (fun x _ => ⟨x, rfl, rfl⟩) fun _ _ _ => rfl
  exact ⟨_, sorted, search_after_sort (wordOptions byTens) _ _ _ _ Buffer.sound_tens _ _ 30 sorted
    (follows (meets_sort (wordOptions byTens) Buffer.sound_tens.length_le) _)
    (follows (meets_linearIndex _ _ _ _) _) (follows (meets_linearIndex _ _ _ _) _)
    (follows (meets_binaryIndex _ _ _) _)⟩

end ReservedArray
