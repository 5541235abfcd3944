/-
# How often a sort calls the hooks

A sort of `n` elements copies all of them once on every level of the halving, and once more at the
bottom.  How many levels there are is the same for all elements only when `n` is a power of two, but
the sum has a closed form for every `n`: with `k` the logarithm of `n`, rounded up, there are
`n * k - 2 ^ k + 2 * n` copies.  The form solves the recursion because `m * k - 2 ^ k` is the same
for `k` and `k + 1` when `m` is `2 ^ k`, which is the only case in which the halves have different
depths (`levels_eq_of_le`, `levels_halves`).

No answer of the compare hook has a part in it.  It has a part in the number of comparisons, since
what is left of one half is copied without any more of them.  A merge makes one comparison at least
and one less than there are elements at most (`Merges.work_eq`), which gives bounds for the sort.

Every copy that is not in the result is disposed of, and so is every original; so there are just as
many disposals as copies.
-/
import Mathlib
import ReservedArray.Proofs.Conservation.Elements
import ReservedArray.Proofs.Leak
import ReservedArray.Proofs.SortedSearch

namespace ReservedArray

variable {α κ τ ε β : Type}

open Entry (copyCalls disposeCalls copied disposed panics)

/-! ## 1. The sum over all levels -/

/-- The elements of all levels of halving `n` elements down to single ones, less those that the last
level has too few. -/
def levels (n : Nat) : ℤ := n * Nat.clog 2 n - 2 ^ Nat.clog 2 n

/-- It may as well be counted with one level more, when the last one is full. -/
theorem levels_eq_of_le {m k : Nat} (lower : Nat.clog 2 m ≤ k) (upper : k ≤ Nat.clog 2 (m + 1))
    (positive : 0 < m) : levels m = m * k - 2 ^ k := by
  rcases lower.eq_or_lt with rfl | deeper
  · rfl
  -- then `m` is a power of two, so that one more element takes one more level
  have le : m ≤ 2 ^ Nat.clog 2 m := Nat.le_pow_clog Nat.one_lt_two m
  have full : m = 2 ^ Nat.clog 2 m := by
    refine le.antisymm (Nat.not_lt.mp fun room => ?_)
    have shallow : Nat.clog 2 (m + 1) ≤ Nat.clog 2 m := Nat.clog_le_of_le_pow room
    omega
  have next : Nat.clog 2 (m + 1) ≤ Nat.clog 2 m + 1 := by
    refine Nat.clog_le_of_le_pow ?_
    rw [Nat.pow_succ, ← full]
    omega
  obtain rfl : k = Nat.clog 2 m + 1 := by omega
  have full' : (m : ℤ) = 2 ^ Nat.clog 2 m := by exact_mod_cast full
  rw [levels, pow_succ, ← full']
  push_cast
  ring

/-- **The sum for a list is that for its halves, and one level.** -/
theorem levels_halves {n : Nat} (long : 1 < n) :
    levels n = levels (n / 2) + levels (n - n / 2) + n := by
  have deeper : Nat.clog 2 n = Nat.clog 2 (n - n / 2) + 1 := by
    rw [Nat.clog_of_two_le Nat.one_lt_two long]
    congr 2
    omega
  have upper : Nat.clog 2 (n - n / 2) ≤ Nat.clog 2 (n / 2 + 1) := Nat.clog_mono_right 2 (by omega)
  have lower : Nat.clog 2 (n / 2) ≤ Nat.clog 2 (n - n / 2) := Nat.clog_mono_right 2 (by omega)
  have split : (n : ℤ) = (n / 2 : Nat) + (n - n / 2 : Nat) := by omega
  rw [levels_eq_of_le lower upper (by omega)]
  unfold levels
  rw [deeper, Nat.cast_succ, pow_succ]
  linear_combination (Nat.clog 2 (n - n / 2) : ℤ) * split

/-! ## 2. Copies and comparisons -/

namespace Entry

/-- A call to the compare hook. -/
def isCompare : Entry τ → Bool
  | .compare _ _ _ => true
  | _ => false

/-- How often the compare hook was called. -/
def compareCalls (t : List (Entry τ)) : Nat := t.countP isCompare

/-- How often the copy hook and the compare hook were called. -/
def work (t : List (Entry τ)) : Nat × Nat := (copyCalls t, compareCalls t)

@[simp] theorem work_nil : work ([] : List (Entry τ)) = 0 := rfl

@[simp] theorem work_append (t t' : List (Entry τ)) : work (t ++ t') = work t + work t' := by
  simp [work, copyCalls, compareCalls]

theorem work_cons (q : Entry τ) (t : List (Entry τ)) :
    work (q :: t) = work t + (q.isCopy.toNat, q.isCompare.toNat) := by
  cases q <;> simp [work, copyCalls, compareCalls, List.countP_cons, isCopy, isCompare]

@[simp] theorem work_copy (x : τ) (result : Option τ) (t : List (Entry τ)) :
    work (.copy x result :: t) = work t + (1, 0) :=
  work_cons _ t

@[simp] theorem work_compare (x y : τ) (answer : Option Ordering) (t : List (Entry τ)) :
    work (.compare x y answer :: t) = work t + (0, 1) :=
  work_cons _ t

theorem Idle.work_eq {t : List (Entry τ)} (idle : Idle t) : work t = 0 := by
  induction t with
  | nil => rfl
  | cons q t ih =>
    obtain ⟨idle, rest⟩ := (idle_cons q t).mp idle
    rw [work_cons, ih rest]
    cases q with
    | copy | compare => cases idle
    | dispose | allocate | release | report => rfl

end Entry

open Entry (compareCalls work)

/-! ## 3. In the course of a sort -/

section Courses

variable {layout : Layout} {b : Buffer τ} {t : List (Entry τ)}

/-- Filling slots is copying. -/
theorem Fills.work_eq {xs ys : List τ} (h : Fills xs ys (.ok ()) t) : work t = (xs.length, 0) := by
  generalize ended : (.ok () : Except Panic Unit) = r at h
  induction h with
  | done => rfl
  | copied _ ih =>
    rw [Entry.work_copy, ih ended]
    rfl
  | panicked => cases ended

/-- **A merge copies everything**, and it compares at least once, if there is anything to compare,
and never after the last but one. -/
theorem Merges.work_eq {xs ys zs : List τ} (h : Merges xs ys zs (.ok ()) t) :
    ∃ n, work t = (xs.length + ys.length, n) ∧ n ≤ xs.length + ys.length - 1 ∧
      (xs ≠ [] → ys ≠ [] → 1 ≤ n) := by
  generalize ended : (.ok () : Except Panic Unit) = r at h
  induction h with
  | rest short fills =>
    subst ended
    refine ⟨0, ?_, Nat.zero_le _, ?_⟩
    · rw [fills.work_eq, List.length_append]
    · rintro left right
      rcases short with rfl | rfl
      · exact absurd rfl left
      · exact absurd rfl right
  | left _ _ ih | right _ ih =>
    obtain ⟨n, calls, most, -⟩ := ih ended
    simp only [List.length_cons] at calls most ⊢
    refine ⟨n + 1, ?_, by omega, fun _ _ => Nat.le_add_left 1 n⟩
    rw [Entry.work_compare, Entry.work_copy, calls]
    ext
    · simp only [Prod.fst_add]
      omega
    · rfl
  | compareFailed | leftFailed | rightFailed => cases ended

/-- **How often a sort that is done copies and compares.** -/
theorem Sorts.work_eq {xs ys : List τ} (h : Sorts layout xs ys (.done ()) t) (some : xs ≠ []) :
    ((copyCalls t : ℤ) = levels xs.length + 2 * xs.length) ∧
      xs.length - 1 ≤ compareCalls t ∧ (compareCalls t : ℤ) ≤ levels xs.length + 1 := by
  induction h using Sorts.done_induction_on with
  | @short xs ys t short fills =>
    have one : xs.length = 1 := short.antisymm (List.length_pos_of_ne_nil some)
    have calls := fills.work_eq
    rw [one] at calls ⊢
    obtain ⟨copies, compares⟩ := Prod.mk.inj calls
    rw [copies, compares]
    decide
  | @merged xs ls rs ys left right t₁ t₂ t₃ t₄ t₅ long takes sortsLeft sortsRight merges leaves
      ihLeft ihRight =>
    have lower : (xs.take (xs.length / 2)).length = xs.length / 2 :=
      List.length_take_of_le (Nat.div_le_self _ 2)
    have upper : (xs.drop (xs.length / 2)).length = xs.length - xs.length / 2 := List.length_drop
    have someLeft : xs.take (xs.length / 2) ≠ [] := List.ne_nil_of_length_pos (by omega)
    have someRight : xs.drop (xs.length / 2) ≠ [] := List.ne_nil_of_length_pos (by omega)
    obtain ⟨copiesLeft, leastLeft, mostLeft⟩ := ihLeft someLeft
    obtain ⟨copiesRight, leastRight, mostRight⟩ := ihRight someRight
    obtain ⟨n, merging, most, least⟩ := merges.work_eq
    rw [sortsLeft.length_eq, sortsRight.length_eq, lower, upper] at merging most
    have least := least (List.ne_nil_of_length_pos (by rw [sortsLeft.length_eq]; omega))
      (List.ne_nil_of_length_pos (by rw [sortsRight.length_eq]; omega))
    -- only the halves and the merge count
    have calls : work (t₁ ++ (t₂ ++ (t₃ ++ (t₄ ++ t₅)))) = work t₂ + (work t₃ + work t₄) := by
      simp only [Entry.work_append, takes.idle.work_eq, leaves.idle.work_eq, zero_add, add_zero]
    rw [merging] at calls
    have copies : copyCalls _ =
        copyCalls t₂ + (copyCalls t₃ + (xs.length / 2 + (xs.length - xs.length / 2))) :=
      congrArg Prod.fst calls
    have compares : compareCalls _ = compareCalls t₂ + (compareCalls t₃ + n) :=
      congrArg Prod.snd calls
    rw [lower] at copiesLeft leastLeft mostLeft
    rw [upper] at copiesRight leastRight mostRight
    have sum := levels_halves long
    rw [copies, compares]
    refine ⟨?_, ?_, ?_⟩
    · omega
    · omega
    · omega

/-- **What becomes of the copies**: they are in the new buffer, or they were disposed of. -/
theorem SortsAnew.copies_disposed {fresh : Buffer τ} (h : SortsAnew layout b (.done fresh) t) :
    panics t = [] ∧ (disposed t : Multiset τ) + fresh.toList = copied t ∧
      disposeCalls t + fresh.length = copyCalls t := by
  obtain ⟨L, moves, ends⟩ := h.moves
  obtain ⟨calm, rfl⟩ := ends.of_done
  have moves : Moves 0 t {fresh.held layout} := by rwa [add_zero] at moves
  have contents_eq : contents {fresh.held layout} = (fresh.toList : Multiset τ) :=
    Multiset.singleton_bind _ _
  have balance := moves.contents_eq
  have sum := moves.card_contents_eq calm
  rw [contents_eq, contents_zero] at balance sum
  rw [Multiset.card_zero, Multiset.coe_card, Buffer.length_toList] at sum
  refine ⟨calm, ?_, ?_⟩
  · rw [add_comm, ← balance, zero_add]
  · omega

/-- Tearing the old buffer down disposes of its elements, and copies nothing. -/
theorem Supersedes.disposed_eq {event : Event} (h : Supersedes layout b event (.done ()) t) :
    panics t = [] ∧ disposed t = b.toList ∧ copied t = [] := by
  cases h with
  | complete down =>
    have calm := down.moves_ok.2
    cases down with
    | complete =>
      refine ⟨?_, ?_, ?_⟩
      · rw [Entry.panics_append, calm]
        rfl
      · simp [disposed, disposals]
      · simp [copied, disposals]

/-- How often sorting an array copies and compares. -/
theorem SortsArray.work_eq {b' : Buffer τ} (h : SortsArray layout b (.done (), b') t) :
    b.toList ≠ [] ∧ (copyCalls t : ℤ) = levels b.length + 2 * b.length ∧
      b.length - 1 ≤ compareCalls t ∧ (compareCalls t : ℤ) ≤ levels b.length + 1 := by
  cases h with
  | @superseded _ _ t₁ t₂ nonempty sorts supersedes =>
    obtain ⟨out, ys, u₁, u₂, -, rfl, takes, inner⟩ := sorts.of_done
    have calls : work (u₁ ++ u₂ ++ t₂) = work u₂ := by
      simp only [Entry.work_append, takes.idle.work_eq, supersedes.idle.work_eq, zero_add, add_zero]
    have copies : copyCalls _ = copyCalls u₂ := congrArg Prod.fst calls
    have compares : compareCalls _ = compareCalls u₂ := congrArg Prod.snd calls
    have counts := inner.work_eq nonempty
    rw [Buffer.length_toList] at counts
    rw [copies, compares]
    exact ⟨nonempty, counts⟩

end Courses

/-! ## 4. A sort that is done -/

/-- **How often a sort calls the hooks.**  A sort that is done makes `n * k - 2 ^ k + 2 * n` copies
of its `n` elements, with `k` the logarithm of `n` to base two, rounded up, whatever the hooks do.
It disposes just as often: of all copies that are not in the result, and then of the originals.  And
it makes at least `n - 1` and at most `n * k - 2 ^ k + 1` comparisons, however they are answered. -/
theorem sort_hook_calls [Backend α] (options : ArrayOptions κ τ) (e : Env α κ τ) {b b' : Buffer τ}
    (sound : b.Sound options.layout) (sorted : ((b.sort options).run e).1 = (.done (), b')) :
    let n : ℤ := b.length
    let k := Nat.clog 2 b.length
    let t := e.calls (b.sort options)
    (1 ≤ b.length ∧ panics t = []) ∧
    (copyCalls t : ℤ) = n * k - 2 ^ k + 2 * n ∧
    disposeCalls t = copyCalls t ∧
    (∃ t₁ t₂, t = t₁ ++ t₂ ∧ (disposed t₁ : Multiset τ) + b'.toList = copied t₁ ∧
      disposed t₂ = b.toList ∧ copied t₂ = []) ∧
    n - 1 ≤ compareCalls t ∧ (compareCalls t : ℤ) ≤ n * k - 2 ^ k + 1 := by
  intro n k t
  have course : SortsArray options.layout b (.done (), b') t :=
    sorted ▸ (meets_sort (α := α) options sound.length_le).calls e
  obtain ⟨nonempty, copies, least, most⟩ := course.work_eq
  have positive : 1 ≤ b.length := by
    rw [← Buffer.length_toList]
    exact List.length_pos_of_ne_nil nonempty
  obtain ⟨t₁, t₂, split, sorts, supersedes⟩ := course.of_done
  obtain ⟨calm, balance, sum⟩ := sorts.copies_disposed
  obtain ⟨calm', originals, none⟩ := supersedes.disposed_eq
  have total : disposeCalls t = copyCalls t := by
    have disposals : disposeCalls t₂ = b.length := by
      rw [← Entry.length_disposed, originals, Buffer.length_toList]
    have copies : copyCalls t₂ = 0 := by
      rw [← Entry.length_copied calm', none, List.length_nil]
    have same := sorts.same_shape.1
    rw [split]
    simp only [copyCalls, disposeCalls, List.countP_append] at disposals copies sum ⊢
    omega
  refine ⟨⟨positive, ?_⟩, copies, total, ⟨t₁, t₂, split, balance, originals, none⟩, ?_, most⟩
  · rw [split, Entry.panics_append, calm, calm']
    rfl
  · show (b.length : ℤ) - 1 ≤ _
    omega

/-- Numbers of which the right one always comes first. -/
def backwards : ElementOps Unit Nat := .plain fun _ _ => .gt

/-- Three numbers are copied eight times, and compared three times at most. -/
theorem sort_hook_calls_of_tens :
    let t := (scarce 5 ()).calls (Buffer.tens.sort (wordOptions backwards))
    Buffer.tens.Sound ⟨4, 4⟩ ∧
      ((Buffer.tens.sort (wordOptions backwards)).run (scarce 5 ())).1 =
        (.done (), { block := 4096, reserve := 3, slots := #[31, 41, 35] }) ∧
      copyCalls t = 8 ∧ disposeCalls t = 8 ∧ 2 ≤ compareCalls t ∧ compareCalls t ≤ 3 := by
  have sorted : ((Buffer.tens.sort (wordOptions backwards)).run (scarce 5 ())).1 =
      (.done (), { block := 4096, reserve := 3, slots := #[31, 41, 35] }) := by
    cbv
    iterate 3
      simp only [Buffer.merge_nil_right]
      cbv
  obtain ⟨-, copies, disposals, -, least, most⟩ :=
    sort_hook_calls (wordOptions backwards) (scarce 5 ()) Buffer.sound_tens sorted
  have depth : Nat.clog 2 Buffer.tens.length = 2 := by decide
  have length : (Buffer.tens.length : ℤ) = 3 := rfl
  rw [depth, length] at copies most
  rw [length] at least
  dsimp only
  refine ⟨Buffer.sound_tens, sorted, ?_, ?_, ?_, ?_⟩ <;> omega

end ReservedArray
