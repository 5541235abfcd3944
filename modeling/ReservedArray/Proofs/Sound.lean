/-
# Sound arrays

Not every buffer that can be written down can be had.  An array that can has room for what it
holds, its block has at least one byte and a size that can be computed, and the block is aligned
for the elements.  `Buffer.Sound` puts this together.

A new array is sound (`Buffer.sound_of_init`), and every operation leaves a sound array sound,
however it ends.  So what is proved of sound arrays is true of all arrays there are.
-/
import ReservedArray.Allocator.Counting
import ReservedArray.Allocator.Failing
import ReservedArray.Allocator.Heap
import ReservedArray.Proofs.Course.Array

namespace ReservedArray

variable {α κ τ : Type}

/-- What is true of every array. -/
structure Buffer.Sound (layout : Layout) (b : Buffer τ) : Prop where
  length_le : b.length ≤ b.reserve.toNat
  positive : 0 < b.reserve.toNat * layout.size.toNat
  fits : b.reserve.toNat * layout.size.toNat < UInt64.size
  aligned : b.block % layout.align.toNat = 0

section Courses

variable {layout : Layout} {b : Buffer τ} {t : List (Entry τ)}

theorem Takes.sound {reserve : Size} (h : Takes layout reserve (.ok b) t) : b.Sound layout := by
  cases h with
  | granted _ block fits positive aligned =>
    refine ⟨Nat.zero_le _, ?_, fits, aligned⟩
    have ne : (reserve * layout.size).toNat ≠ 0 := fun zero =>
      positive (UInt64.toNat_inj.mp (by rw [zero]; rfl))
    rw [← Size.toNat_mul_of_lt fits]
    exact Nat.pos_of_ne_zero ne

/-- Elements for which there is room leave a buffer sound. -/
theorem Buffer.Sound.filled (h : b.Sound layout) {ys : List τ}
    (room : b.length + ys.length ≤ b.reserve.toNat) : (b.filled ys).Sound layout :=
  ⟨by rwa [Buffer.length_filled], h.positive, h.fits, h.aligned⟩

/-- A buffer that was just taken has room for as many elements as it was taken for. -/
theorem Takes.sound_filled {reserve : Size} (h : Takes layout reserve (.ok b) t) {ys : List τ}
    (room : ys.length ≤ reserve.toNat) : (b.filled ys).Sound layout := by
  obtain ⟨reserve_eq, -, empty⟩ := h.fresh
  exact h.sound.filled (by rw [empty, reserve_eq, Nat.zero_add]; exact room)

/-- **A new array is sound.** -/
theorem MakesArray.sound {reserve count : Size} {seed : Option τ}
    (h : MakesArray layout reserve count seed (.done b) t) : b.Sound layout := by
  generalize made : Outcome.done b = o at h
  cases h with
  | zeroReserve | countExceedsReserve | missingSeed | refused => cases made
  | made acceptable takes fills =>
    cases made
    refine takes.sound_filled ?_
    have bound := length_seeds_le count seed
    have fits : count.toNat ≤ reserve.toNat := UInt64.le_iff_toNat_le.mp acceptable.count_le
    rw [fills.length_eq]
    exact Nat.le_trans bound fits
  | interrupted _ _ _ leaves =>
    subst made
    cases leaves.eq_of_standing nofun nofun

theorem Appends.sound {x : τ} {v : Outcome ArrayError Unit × Buffer τ} (h : Appends x b v t)
    (sound : b.Sound layout) : v.2.Sound layout := by
  cases h with
  | full => exact sound
  | placed free places =>
    cases places with
    | copied y =>
      refine sound.filled ?_
      have bound := sound.length_le
      rw [List.length_singleton]
      omega
    | panicked => exact sound

theorem Grows.sound {reserve : Size} {v : Outcome ArrayError Unit × Buffer τ}
    (h : Grows layout reserve b v t) (sound : b.Sound layout) : v.2.Sound layout := by
  cases h with
  | rejected | refused | interrupted => exact sound
  | superseded larger takes fills =>
    refine takes.sound_filled ?_
    have bound := sound.length_le
    have lt : b.reserve.toNat < reserve.toNat := UInt64.lt_iff_toNat_lt.mp larger
    rw [fills.length_eq, Buffer.length_toList]
    omega

/-- A sort into a new buffer that is done has gone all the way. -/
theorem SortsAnew.of_done {fresh : Buffer τ} (h : SortsAnew layout b (.done fresh) t) :
    ∃ out ys t₁ t₂, fresh = out.filled ys ∧ t = t₁ ++ t₂ ∧ Takes layout b.reserve (.ok out) t₁ ∧
      Sorts layout b.toList ys (.done ()) t₂ := by
  generalize made : Outcome.done fresh = o at h
  cases h with
  | refused => cases made
  | stopped _ _ same leaves =>
    subst made
    rw [leaves.eq_of_standing nofun nofun] at same
    cases same
  | @sorted out ys t₁ t₂ takes sorts =>
    cases made
    exact ⟨out, ys, t₁, t₂, rfl, rfl, takes, sorts⟩

/-- A buffer with the elements in order is as long and as large as the one it is made from. -/
theorem SortsAnew.same_shape {fresh : Buffer τ} (h : SortsAnew layout b (.done fresh) t) :
    fresh.length = b.length ∧ fresh.reserve = b.reserve := by
  obtain ⟨out, ys, t₁, t₂, rfl, -, takes, sorts⟩ := h.of_done
  obtain ⟨reserve_eq, -, empty⟩ := takes.fresh
  rw [Buffer.length_filled, empty, sorts.length_eq, Buffer.length_toList, Nat.zero_add]
  exact ⟨rfl, reserve_eq⟩

theorem SortsAnew.sound {fresh : Buffer τ} (h : SortsAnew layout b (.done fresh) t)
    (sound : b.Sound layout) : fresh.Sound layout := by
  obtain ⟨out, ys, t₁, t₂, rfl, -, takes, sorts⟩ := h.of_done
  refine takes.sound_filled ?_
  rw [sorts.length_eq, Buffer.length_toList]
  exact sound.length_le

/-- An array that is sorted has the sorted copies, and its old buffer is torn down. -/
theorem SortsArray.of_done {fresh : Buffer τ} (h : SortsArray layout b (.done (), fresh) t) :
    ∃ t₁ t₂, t = t₁ ++ t₂ ∧ SortsAnew layout b (.done fresh) t₁ ∧
      Supersedes layout b (.arraySorted fresh.length) (.done ()) t₂ := by
  cases h with
  | @superseded _ _ t₁ t₂ _ sorts supersedes => exact ⟨t₁, t₂, rfl, sorts, supersedes⟩

/-- It is as long and as large as before. -/
theorem SortsArray.same_shape {fresh : Buffer τ} (h : SortsArray layout b (.done (), fresh) t) :
    fresh.length = b.length ∧ fresh.reserve = b.reserve := by
  obtain ⟨_, _, -, sorts, -⟩ := h.of_done
  exact sorts.same_shape

theorem SortsArray.sound {v : Outcome ArrayError Unit × Buffer τ} (h : SortsArray layout b v t)
    (sound : b.Sound layout) : v.2.Sound layout := by
  cases h with
  | empty | refused | unwound | aborted => exact sound
  | superseded _ sorts => exact sorts.sound sound

end Courses

/-! ## Every array is sound -/

namespace Buffer

variable [Backend α] (options : ArrayOptions κ τ) (e : Env α κ τ) {b : Buffer τ}

theorem sound_of_init {reserve count : Size} {seed : Option τ}
    (made : ((init options reserve count seed).run e).1 = .done b) : b.Sound options.layout :=
  MakesArray.sound (made ▸ (meets_init options reserve count seed).calls e)

theorem Sound.append (h : b.Sound options.layout) (x : τ) :
    ((b.append options x).run e).1.2.Sound options.layout :=
  ((meets_append options x h.length_le).calls e).sound h

theorem Sound.grow (h : b.Sound options.layout) (reserve : Size) :
    ((b.grow options reserve).run e).1.2.Sound options.layout :=
  ((meets_grow options reserve h.length_le).calls e).sound h

theorem Sound.sort (h : b.Sound options.layout) :
    ((b.sort options).run e).1.2.Sound options.layout :=
  ((meets_sort options h.length_le).calls e).sound h

theorem Sound.set {layout : Layout} (h : b.Sound layout) (i : Nat) (x : τ) :
    (b.set i x).Sound layout :=
  ⟨by rw [length_set]; exact h.length_le, h.positive, h.fits, h.aligned⟩

theorem Sound.reverse {layout : Layout} (h : b.Sound layout) : b.reverse.Sound layout :=
  ⟨by rw [← length_toList, toList_reverse, List.length_reverse, length_toList]; exact h.length_le,
    h.positive, h.fits, h.aligned⟩

end Buffer

/-! ## A small array

Two numbers of four bytes, the larger one first.  To sort it takes all that sorting takes: three
blocks, a comparison and copies in both halves. -/

/-- Two numbers, in the wrong order. -/
def Buffer.pair : Buffer Nat := { block := 64, reserve := 2, slots := #[2, 1] }

/-- Options for numbers of four bytes. -/
def wordOptions {κ : Type} (ops : ElementOps κ Nat) : ArrayOptions κ Nat := ⟨⟨4, 4⟩, ops⟩

/-- A counted heap that serves so many requests. -/
def scarce {κ : Type} (budget : Nat) (context : κ) : Env (Counting (Failing Heap)) κ Nat :=
  { allocator := { inner := { inner := Heap.system, budget := some budget } }, context }

theorem Buffer.sound_pair : Buffer.pair.Sound ⟨4, 4⟩ where
  length_le := by decide
  positive := by decide
  fits := by decide
  aligned := by decide

end ReservedArray
