/-
# The sizes that an allocator is given

An array gives its allocator a size whenever it takes a block and whenever it gives one back.  Each
time the size is worked out as a product of words, from the slots of the buffer and the size of an
element, and a product of words may wrap.  None of these does (`Exact`):

* what a block is asked for with is checked first (`Takes.exact`);
* what it goes back with is not checked, but it is worked out from the same two numbers
  (`TearsDown.exact`, `Takes.exact_leaves`);
* the halves of a list that has room in a block are smaller than the block (`Sorts.exact`).

Nor is any of them zero.  An element takes up some bytes, a new array has some slots, and a list is
halved only if both halves have elements.
-/
import Mathlib
import ReservedArray.Proofs.Conservation.Blocks
import ReservedArray.Proofs.Demand.Requests

namespace ReservedArray

variable {α κ τ ε β : Type}

/-! ## 1. Sizes in the calls -/

namespace Entry

/-- The sizes in the calls to the allocator: what is asked for, and what goes back. -/
def measures (t : List (Entry τ)) : List Size :=
  t.filterMap fun
    | .allocate size _ | .release _ size => some size
    | _ => none

@[simp] theorem measures_append (t t' : List (Entry τ)) :
    measures (t ++ t') = measures t ++ measures t' :=
  List.filterMap_append

@[simp] theorem measures_reports (events : List Event) :
    measures (events.map (Entry.report (τ := τ))) = [] := by
  simp [measures]

@[simp] theorem measures_disposals (xs : List τ) : measures (disposals xs) = [] := by
  simp [measures, disposals]

end Entry

open Entry (measures)

/-- Every size in the calls to the allocator is one of these products of natural numbers, and not
zero.  In particular it has not wrapped. -/
def Exact (products : List Nat) (t : List (Entry τ)) : Prop :=
  ∀ size ∈ measures t, size.toNat ∈ products ∧ size.toNat ≠ 0

namespace Exact

variable {products products' : List Nat} {t t' : List (Entry τ)}

theorem of_nil (none : measures t = []) : Exact products t := by
  rw [Exact, none]
  exact nofun

theorem mono (h : Exact products t) (sub : products ⊆ products') : Exact products' t :=
  fun size mem => ⟨sub (h size mem).1, (h size mem).2⟩

theorem append (h : Exact products t) (h' : Exact products t') : Exact products (t ++ t') := by
  rw [Exact, Entry.measures_append]
  exact List.forall_mem_append.mpr ⟨h, h'⟩

/-- What is reported in the end makes no difference. -/
theorem append_report (h : Exact products t) (event : Event) :
    Exact products (t ++ [.report event]) :=
  h.append (of_nil rfl)

end Exact

/-! ## 2. The courses of the operations -/

section Products

variable {layout : Layout} {b : Buffer τ} {t : List (Entry τ)}

/-- **A block is asked for with its exact size**, and goes back with it if it is not aligned. -/
theorem Takes.exact {reserve : Size} {r : Except AllocError (Buffer τ)}
    (h : Takes layout reserve r t) (positive : 0 < reserve.toNat * layout.size.toNat) :
    Exact [reserve.toNat * layout.size.toNat] t := by
  have one (fits : reserve.toNat * layout.size.toNat < UInt64.size) :
      (reserve * layout.size).toNat ∈ [reserve.toNat * layout.size.toNat] ∧
        (reserve * layout.size).toNat ≠ 0 := by
    rw [Size.toNat_mul_of_lt fits]
    exact ⟨List.mem_singleton.mpr rfl, positive.ne'⟩
  cases h with
  | sizeOverflow | zeroSize => exact .of_nil rfl
  | exhausted events fits | granted events block fits =>
    intro size mem
    rw [← List.singleton_append, Entry.measures_append, Entry.measures_reports] at mem
    obtain rfl := List.mem_singleton.mp mem
    exact one fits
  | misaligned events block fits =>
    intro size mem
    rw [← List.singleton_append, Entry.measures_append, Entry.measures_append,
      Entry.measures_reports] at mem
    rcases List.mem_cons.mp mem with rfl | mem
    · exact one fits
    · obtain rfl := List.mem_singleton.mp mem
      exact one fits

/-- A block for a part of a list that has room in a block has an exact size as well. -/
theorem Takes.exact_part {m n : Nat} {r : Except AllocError (Buffer τ)}
    (h : Takes layout m.toUInt64 r t) (some : 0 < m) (part : m ≤ n)
    (positive : 0 < layout.size.toNat) (fits : n * layout.size.toNat < UInt64.size) :
    Exact [m * layout.size.toNat] t := by
  obtain ⟨positive', -⟩ := part_fits some part positive fits
  have small : m ≤ m * layout.size.toNat := Nat.le_mul_of_pos_right m positive
  have within : m * layout.size.toNat ≤ n * layout.size.toNat := Nat.mul_le_mul_right _ part
  have same : m.toUInt64.toNat = m := UInt64.toNat_ofNat_of_lt' (by omega)
  have exact := h.exact positive'
  rwa [same] at exact

theorem Fills.measures_eq {xs ys : List τ} {r : Except Panic Unit} (h : Fills xs ys r t) :
    measures t = [] := by
  induction h with
  | done | panicked => rfl
  | copied _ ih => exact ih

theorem Merges.measures_eq {xs ys zs : List τ} {r : Except Panic Unit}
    (h : Merges xs ys zs r t) : measures t = [] := by
  induction h with
  | rest _ fills => exact fills.measures_eq
  | left _ _ ih | right _ ih => exact ih
  | compareFailed | leftFailed | rightFailed => rfl

/-- **The size that is worked out when a buffer goes** is the one it was taken with. -/
theorem TearsDown.exact {r : Except Panic Unit} (h : TearsDown layout b r t)
    (sound : 0 < b.reserve.toNat * layout.size.toNat ∧
      b.reserve.toNat * layout.size.toNat < UInt64.size) :
    Exact [b.reserve.toNat * layout.size.toNat] t := by
  cases h with
  | complete =>
    intro size mem
    rw [Entry.measures_append, Entry.measures_disposals] at mem
    obtain rfl := List.mem_singleton.mp mem
    rw [Buffer.bytes, Size.toNat_mul_of_lt sound.2]
    exact ⟨List.mem_singleton.mpr rfl, sound.1.ne'⟩
  | panicked =>
    refine .of_nil ?_
    rw [Entry.measures_append, Entry.measures_disposals]
    rfl

theorem Leaves.exact {o o' : Outcome ε β} (h : Leaves layout b o o' t)
    (sound : 0 < b.reserve.toNat * layout.size.toNat ∧
      b.reserve.toNat * layout.size.toNat < UInt64.size) :
    Exact [b.reserve.toNat * layout.size.toNat] t := by
  cases h with
  | aborted => exact .of_nil rfl
  | torn _ down => exact down.exact sound

/-- A buffer that goes before it was used goes with the size that it was taken for. -/
theorem Takes.exact_leaves {reserve : Size} {ys : List τ} {o o' : Outcome ε β} {t' : List (Entry τ)}
    (h : Takes layout reserve (.ok b) t) (leaves : Leaves layout (b.filled ys) o o' t') :
    Exact [reserve.toNat * layout.size.toNat] t' := by
  have exact := leaves.exact ⟨h.sound.positive, h.sound.fits⟩
  rwa [Buffer.reserve_filled, h.fresh.1] at exact

theorem Supersedes.exact {event : Event} {o : Outcome ArrayError Unit}
    (h : Supersedes layout b event o t) (sound : b.Sound layout) :
    Exact [b.reserve.toNat * layout.size.toNat] t := by
  cases h with
  | complete down => exact (down.exact ⟨sound.positive, sound.fits⟩).append_report event
  | unwound down => exact down.exact ⟨sound.positive, sound.fits⟩

/-- What is needed for the halves is needed for the whole. -/
theorem scratch_subset (size : Nat) {n : Nat} (long : 1 < n) :
    [n / 2 * size] ⊆ scratch size n ∧ [(n - n / 2) * size] ⊆ scratch size n ∧
      scratch size (n / 2) ⊆ scratch size n ∧ scratch size (n - n / 2) ⊆ scratch size n := by
  rw [scratch_of_long long]
  refine ⟨?_, ?_, ?_, ?_⟩
  · exact List.subset_append_left _ _
  · exact List.subset_append_of_subset_right _ (List.subset_append_left _ _)
  · exact List.subset_append_of_subset_right _ (List.subset_append_of_subset_right _
      (List.subset_append_left _ _))
  · exact List.subset_append_of_subset_right _ (List.subset_append_of_subset_right _
      (List.subset_append_right _ _))

/-- The buffer for a part of a list goes with the size of the part. -/
theorem Leaves.exact_part {m n : Nat} {o o' : Outcome ε β} (h : Leaves layout b o o' t)
    (taken : b.reserve = m.toUInt64) (some : 0 < m) (part : m ≤ n)
    (positive : 0 < layout.size.toNat) (fits : n * layout.size.toNat < UInt64.size) :
    Exact [m * layout.size.toNat] t := by
  have small : m ≤ m * layout.size.toNat := Nat.le_mul_of_pos_right m positive
  have within : m * layout.size.toNat ≤ n * layout.size.toNat := Nat.mul_le_mul_right _ part
  have same : m.toUInt64.toNat = m := UInt64.toNat_ofNat_of_lt' (by omega)
  have exact := h.exact (taken ▸ part_fits some part positive fits)
  rwa [taken, same] at exact

theorem TakesHalves.exact {n : Nat} {left right : Buffer τ}
    (h : TakesHalves layout n left right t) (long : 1 < n) (positive : 0 < layout.size.toNat)
    (fits : n * layout.size.toNat < UInt64.size) :
    Exact (scratch layout.size.toNat n) t ∧ left.reserve = (n / 2).toUInt64 ∧
      right.reserve = (n - n / 2).toUInt64 := by
  obtain ⟨lower, upper, -, -⟩ := scratch_subset layout.size.toNat long
  cases h with
  | both takesLeft takesRight =>
    refine ⟨.append ?_ ?_, takesLeft.fresh.1, takesRight.fresh.1⟩
    · exact (takesLeft.exact_part (by omega) (Nat.div_le_self n 2) positive fits).mono lower
    · exact (takesRight.exact_part (by omega) (Nat.sub_le n _) positive fits).mono upper

theorem LeavesHalves.exact {n : Nat} {left right : Buffer τ} {o o' : Outcome ε β}
    (h : LeavesHalves layout left right o o' t)
    (taken : left.reserve = (n / 2).toUInt64 ∧ right.reserve = (n - n / 2).toUInt64)
    (long : 1 < n) (positive : 0 < layout.size.toNat)
    (fits : n * layout.size.toNat < UInt64.size) :
    Exact (scratch layout.size.toNat n) t := by
  obtain ⟨lower, upper, -, -⟩ := scratch_subset layout.size.toNat long
  cases h with
  | both leavesRight leavesLeft =>
    refine .append ?_ ?_
    · exact (leavesRight.exact_part taken.2 (by omega) (Nat.sub_le n _) positive fits).mono upper
    · exact (leavesLeft.exact_part taken.1 (by omega) (Nat.div_le_self n 2) positive fits).mono
        lower

/-- **All sizes in a sort are exact**, however it ends. -/
theorem Sorts.exact {xs ys : List τ} {o : Outcome AllocError Unit} (h : Sorts layout xs ys o t)
    (positive : 0 < layout.size.toNat) (fits : xs.length * layout.size.toNat < UInt64.size) :
    Exact (scratch layout.size.toNat xs.length) t := by
  have halves {xs : List τ} (long : 1 < xs.length) :
      scratch layout.size.toNat (xs.take (xs.length / 2)).length ⊆
          scratch layout.size.toNat xs.length ∧
        scratch layout.size.toNat (xs.drop (xs.length / 2)).length ⊆
          scratch layout.size.toNat xs.length := by
    rw [List.length_take_of_le (Nat.div_le_self _ 2), List.length_drop]
    exact (scratch_subset _ long).2.2
  induction h with
  | short _ fills => exact .of_nil fills.measures_eq
  | leftRefused long takesLeft =>
    exact (takesLeft.exact_part (by omega) (Nat.div_le_self _ 2) positive fits).mono
      (scratch_subset _ long).1
  | rightRefused long takesLeft takesRight leaves =>
    obtain ⟨lower, upper, -, -⟩ := scratch_subset layout.size.toNat long
    refine .append ?_ (.append ?_ ?_)
    · exact (takesLeft.exact_part (by omega) (Nat.div_le_self _ 2) positive fits).mono lower
    · exact (takesRight.exact_part (by omega) (Nat.sub_le _ _) positive fits).mono upper
    · exact (leaves.exact_part takesLeft.fresh.1 (by omega) (Nat.div_le_self _ 2) positive
        fits).mono lower
  | leftStopped long takes _ _ leaves ihLeft =>
    obtain ⟨exact, taken⟩ := takes.exact long positive fits
    refine exact.append (.append ?_ (leaves.exact taken long positive fits))
    exact (ihLeft (halves_fit fits).1).mono (halves long).1
  | rightStopped long takes _ _ _ leaves ihLeft ihRight =>
    obtain ⟨exact, taken⟩ := takes.exact long positive fits
    refine exact.append (.append ?_ (.append ?_ (leaves.exact taken long positive fits)))
    · exact (ihLeft (halves_fit fits).1).mono (halves long).1
    · exact (ihRight (halves_fit fits).2).mono (halves long).2
  | merged long takes _ _ merges leaves ihLeft ihRight =>
    obtain ⟨exact, taken⟩ := takes.exact long positive fits
    refine exact.append (.append ?_ (.append ?_ (.append (.of_nil merges.measures_eq)
      (leaves.exact taken long positive fits))))
    · exact (ihLeft (halves_fit fits).1).mono (halves long).1
    · exact (ihRight (halves_fit fits).2).mono (halves long).2

/-- The new buffer of a sort has the size of the old one. -/
theorem SortsAnew.exact {o : Outcome AllocError (Buffer τ)} (h : SortsAnew layout b o t)
    (sound : b.Sound layout) : Exact (b.demand layout) t := by
  obtain ⟨positive, fits⟩ := sound.elements_fit
  have whole : [b.reserve.toNat * layout.size.toNat] ⊆ b.demand layout := by
    simp [Buffer.demand]
  have parts : scratch layout.size.toNat b.toList.length ⊆ b.demand layout := by
    rw [Buffer.length_toList]
    exact List.subset_cons_self _ _
  cases h with
  | refused takes => exact (takes.exact sound.positive).mono whole
  | stopped takes sorts _ leaves =>
    refine ((takes.exact sound.positive).mono whole).append (.append ?_ ?_)
    · exact (sorts.exact positive fits).mono parts
    · exact (takes.exact_leaves leaves).mono whole
  | sorted takes sorts =>
    exact ((takes.exact sound.positive).mono whole).append ((sorts.exact positive fits).mono parts)

/-- **All sizes in sorting an array are exact.** -/
theorem SortsArray.exact {v : Outcome ArrayError Unit × Buffer τ} (h : SortsArray layout b v t)
    (sound : b.Sound layout) : Exact (b.demand layout) t := by
  cases h with
  | empty => exact .of_nil rfl
  | refused _ sorts => exact (sorts.exact sound).append_report _
  | unwound _ sorts | aborted _ sorts => exact sorts.exact sound
  | superseded _ sorts supersedes =>
    exact (sorts.exact sound).append ((supersedes.exact sound).mono (by simp [Buffer.demand]))

/-- Elements of some bytes, in a reserve of some slots, take up some bytes. -/
theorem bytes_pos {reserve size : Size} (some : reserve ≠ 0) (sized : 0 < size.toNat) :
    0 < reserve.toNat * size.toNat :=
  Nat.mul_pos (Nat.pos_of_ne_zero fun zero => some (UInt64.toNat_inj.mp zero)) sized

/-- **All sizes in making an array are exact.** -/
theorem MakesArray.exact {reserve count : Size} {seed : Option τ}
    {o : Outcome ArrayError (Buffer τ)} (h : MakesArray layout reserve count seed o t)
    (sized : 0 < layout.size.toNat) : Exact [reserve.toNat * layout.size.toNat] t := by
  cases h with
  | zeroReserve | countExceedsReserve | missingSeed => exact .of_nil rfl
  | refused acceptable takes =>
    exact (takes.exact (bytes_pos acceptable.reserve_ne sized)).append_report _
  | made acceptable takes fills =>
    exact (takes.exact (bytes_pos acceptable.reserve_ne sized)).append (.of_nil fills.measures_eq)
  | interrupted acceptable takes fills leaves =>
    exact (takes.exact (bytes_pos acceptable.reserve_ne sized)).append
      ((Exact.of_nil fills.measures_eq).append (takes.exact_leaves leaves))

/-- **All sizes in growing an array are exact.** -/
theorem Grows.exact {reserve : Size} {v : Outcome ArrayError Unit × Buffer τ}
    (h : Grows layout reserve b v t) (sound : b.Sound layout) :
    Exact [b.reserve.toNat * layout.size.toNat, reserve.toNat * layout.size.toNat] t := by
  have larger (lt : b.reserve < reserve) : 0 < reserve.toNat * layout.size.toNat :=
    sound.positive.trans_le (Nat.mul_le_mul_right _ (UInt64.lt_iff_toNat_lt.mp lt).le)
  have fresh : [reserve.toNat * layout.size.toNat] ⊆
      [b.reserve.toNat * layout.size.toNat, reserve.toNat * layout.size.toNat] := by simp
  have old : [b.reserve.toNat * layout.size.toNat] ⊆
      [b.reserve.toNat * layout.size.toNat, reserve.toNat * layout.size.toNat] := by simp
  cases h with
  | rejected => exact .of_nil rfl
  | refused lt takes => exact ((takes.exact (larger lt)).mono fresh).append_report _
  | interrupted lt takes fills leaves =>
    exact ((takes.exact (larger lt)).mono fresh).append
      ((Exact.of_nil fills.measures_eq).append ((takes.exact_leaves leaves).mono fresh))
  | superseded lt takes fills supersedes =>
    exact ((takes.exact (larger lt)).mono fresh).append
      ((Exact.of_nil fills.measures_eq).append ((supersedes.exact sound).mono old))

end Products

/-! ## 3. Nothing given, nothing changed -/

/-- **Where the allocator is not called, it stays as it is.** -/
theorem Env.Steps.allocator_eq [Backend α] {ops : ElementOps κ τ} {e e' : Env α κ τ}
    {t : List (Entry τ)} (h : Env.Steps ops e t e') (uncalled : measures t = []) :
    e'.allocator = e.allocator := by
  induction h with
  | refl => rfl
  | head step _ ih =>
    rw [Entry.measures_append, List.append_eq_nil_iff] at uncalled
    rw [ih uncalled.2]
    cases step with
    | report | copy | dispose | compare => rfl
    | giveBack => cases uncalled.1
    | obtain size =>
      by_cases zero : size = 0
      · rw [Env.allocator_obtain, zero, request_zero]
      · rw [Env.entriesOf, if_neg zero] at uncalled
        cases uncalled.1

end ReservedArray
