/-
# A resize of its own, and a copy

The heap has a resize of its own.  Through a wrapper it is not used: there a resize takes another
block, copies and gives the old one back.  The two go different ways.  Each makes sure by itself
that the size makes sense, and what is then left to the provider of the heap is one call in one
case, and two calls with a copy in between in the other.

From what is known of the provider (`Dependable`) follows the same for both ways (`Resized`), and so
they succeed for the same sizes.  The blocks may then lie in different places, but that is not seen
of blocks in custody (`Custody.run_eq`), in a row of any number of resizes.
-/
import Mathlib
import ReservedArray.Proofs.Wrapping.Custody

namespace ReservedArray

variable {γ : Type}

/-! ## 1. The provider of the heap -/

/-- No two of the blocks have a byte in common. -/
def AllApart (B : Multiset Span) : Prop := ∀ b c C, B = b ::ₘ c ::ₘ C → b.Apart c

namespace AllApart

variable {b c : Span} {B : Multiset Span}

theorem of_cons (h : AllApart (b ::ₘ B)) : AllApart B := by
  rintro x y C rfl
  refine h x y (b ::ₘ C) ?_
  rw [Multiset.cons_swap b x, Multiset.cons_swap b y]

theorem head (h : AllApart (b ::ₘ B)) (mem : c ∈ B) : b.Apart c := by
  obtain ⟨C, rfl⟩ := Multiset.exists_cons_of_mem mem
  exact h b c C rfl

theorem cons (h : AllApart B) (apart : ∀ c ∈ B, b.Apart c) : AllApart (b ::ₘ B) := by
  intro x y C same
  rcases Multiset.cons_eq_cons.mp same with ⟨rfl, rfl⟩ | ⟨-, D, rfl, rest⟩
  · exact apart y (Multiset.mem_cons_self _ _)
  · rcases Multiset.cons_eq_cons.mp rest with ⟨rfl, rfl⟩ | ⟨-, E, rfl, rfl⟩
    · exact (apart x (Multiset.mem_cons_self _ _)).symm
    · exact h x y E rfl

end AllApart

/-- The blocks that are out lie below the first address that was never used. -/
structure Heap.Below (serves : Size → Bool) (heap : Heap) (B : Multiset Span) : Prop where
  serves_eq : heap.serves = serves
  next_aligned : heap.next % 16 = 0
  aligned : ∀ b ∈ B, b.start % 16 = 0
  below : ∀ b ∈ B, b.stop ≤ heap.next
  apart : AllApart B

namespace Heap

variable {serves : Size → Bool} {heap : Heap} {b : Span} {B : Multiset Span} {size : Size}

theorem le_next_advance (heap : Heap) (size : Size) :
    heap.next + size.toNat ≤ (heap.advance size).next := by
  have rounded : size.toNat ≤ (size.toNat + 15) / 16 * 16 := by omega
  exact Nat.add_le_add_left rounded heap.next

/-- A block behind all others. -/
theorem Below.advance (h : Below serves heap B) (size : Size) :
    Below serves (heap.advance size) (⟨heap.next, size⟩ ::ₘ B) where
  serves_eq := h.serves_eq
  next_aligned := (Nat.add_mul_mod_self_right _ _ 16).trans h.next_aligned
  aligned := by
    intro c mem
    rcases Multiset.mem_cons.mp mem with rfl | mem
    · exact h.next_aligned
    · exact h.aligned c mem
  below := by
    have more := heap.le_next_advance size
    intro c mem
    rcases Multiset.mem_cons.mp mem with rfl | mem
    · exact more
    · exact (h.below c mem).trans ((Nat.le_add_right _ _).trans more)
  apart := h.apart.cons fun c mem => .inr (h.below c mem)

theorem Below.release (h : Below serves heap (b ::ₘ B)) : Below serves heap B where
  serves_eq := h.serves_eq
  next_aligned := h.next_aligned
  aligned c mem := h.aligned c (Multiset.mem_cons_of_mem mem)
  below c mem := h.below c (Multiset.mem_cons_of_mem mem)
  apart := h.apart.of_cons

/-- A block that becomes smaller where it is. -/
theorem Below.shrink (h : Below serves heap (b ::ₘ B)) (less : size ≤ b.size) :
    Below serves heap (⟨b.start, size⟩ ::ₘ B) := by
  have less : size.toNat ≤ b.size.toNat := UInt64.le_iff_toNat_le.mp less
  refine ⟨h.serves_eq, h.next_aligned, ?_, ?_, h.apart.of_cons.cons fun c mem => ?_⟩
  · intro c mem
    rcases Multiset.mem_cons.mp mem with rfl | mem
    · exact h.aligned b (Multiset.mem_cons_self _ _)
    · exact h.aligned c (Multiset.mem_cons_of_mem mem)
  · intro c mem
    rcases Multiset.mem_cons.mp mem with rfl | mem
    · exact (Nat.add_le_add_left less _).trans (h.below b (Multiset.mem_cons_self _ _))
    · exact h.below c (Multiset.mem_cons_of_mem mem)
  · have apart := h.apart.head mem
    unfold Span.Apart Span.stop at apart ⊢
    dsimp only
    omega

/-- **The provider of the heap is dependable.** -/
theorem dependable (serves : Size → Bool) : Dependable Heap serves (Below serves) where
  aligned held := held.aligned
  apart held := held.apart.head (Multiset.mem_cons_self _ _)
  granted {heap B size} held _ decided := by
    simp only [Provider.allocate, held.serves_eq, decided, if_true]
    exact ⟨heap.next, rfl, held.advance size⟩
  refused {heap B size} held _ decided := by
    simp only [Provider.allocate, held.serves_eq, decided, Bool.false_eq_true, if_false]
    exact ⟨trivial, held⟩
  released held := held.release
  resized {heap b B size} memory held _ decided := by
    simp only [Provider.reallocate, held.serves_eq, decided, if_true]
    by_cases shrinks : size ≤ b.size
    · rw [if_pos shrinks]
      exact ⟨b.start, heap, memory, rfl, held.shrink shrinks, rfl, fun _ _ => rfl⟩
    · rw [if_neg shrinks]
      have grows : b.size.toNat ≤ size.toNat :=
        (UInt64.lt_iff_toNat_lt.mp (UInt64.not_le.mp shrinks)).le
      have more := held.release.advance size
      refine ⟨heap.next, _, _, rfl, more, ?_, fun c mem => ?_⟩
      · rw [Nat.min_eq_left grows]
        exact Memory.read_copy ..
      · exact Memory.read_copy_apart (more.apart.head mem) grows le_rfl _
  stayed {heap b B size} memory held _ decided := by
    simp only [Provider.reallocate, held.serves_eq, decided, Bool.false_eq_true, if_false]
    exact ⟨heap, memory, rfl, held, fun _ _ => rfl⟩

/-- So is the heap itself, which does with its blocks what it does over this provider. -/
theorem reliable (serves : Size → Bool) : Reliable Heap (serving serves) (Below serves) where
  aligned held := held.aligned
  apart held := held.apart.head (Multiset.mem_cons_self _ _)
  granted {heap B size} held decided := by
    show ∃ block, (heap.allocate size).answer = some block ∧
      Below serves (heap.allocate size).state _
    rw [allocate_eq]
    exact (dependable serves).lends.granted (a := ⟨heap⟩) held decided
  refused {heap B size} held decided := by
    show (heap.allocate size).answer = none ∧ Below serves (heap.allocate size).state _
    rw [allocate_eq]
    exact (dependable serves).lends.refused (a := ⟨heap⟩) held decided
  released held := held.release
  resized {heap b B} held memory newSize := by
    have resized := (dependable serves).reliable.resized (a := ⟨heap⟩) held memory newSize
    show Resized _ _ _ _ _ _ (heap.reallocate memory b.start b.size newSize)
    rw [reallocate_eq]
    exact ⟨resized.served_iff, resized.moved, resized.stayed, resized.others⟩

end Heap

/-! ## 2. Both ways -/

/-- **A heap's own resize and a copying one cannot be told apart.**  Let the provider of a heap be
dependable, and let blocks be out.  For every one of them, whatever memory is and whatever the new
size, zero and sizes out of range included: both ways succeed for the same sizes, namely for those
that make sense and that the provider serves; and both do what a resize should do (`Resized`), to
the block and to the others.

So the heap by itself and the heap inside wrappers, which resize by copying, show the same in every
run: from the same blocks on, the same requests and resizes are served, and in every block the same
bytes are found, as far as they are known, at any time and in the end. -/
theorem native_resize_agrees [Provider γ] {serves : Size → Bool} {out : γ → Multiset Span → Prop}
    (dependable : Dependable γ serves out) :
    (∀ (g : γ) (b : Span) (B : Multiset Span) (memory : Memory) (newSize : Size),
      out g (b ::ₘ B) →
      let heap : HeapOver γ := ⟨g⟩
      let native := Allocator.reallocate heap memory b.start b.size newSize
      let copied := reallocateByCopy heap memory b.start b.size newSize
      native.answer.isSome = copied.answer.isSome ∧
      (native.answer.isSome = true ↔
        newSize ≠ 0 ∧ roundUp newSize.toNat 16 ≤ 2 ^ 63 - 1 ∧ serves newSize = true) ∧
      Resized (Heap.serving serves) (fun heap B => out heap.provider B) memory b B newSize native ∧
      Resized (Heap.serving serves) (fun heap B => out heap.provider B) memory b B newSize
        copied) ∧
    ∀ (g : γ) (memory : Memory) (blocks : List KnownBlock) (ws : List Wrapper)
      (w : Wrapped (HeapOver γ) ws), out g (Custody.spans blocks) →
      (∀ b ∈ blocks, b.known ≤ b.size.toNat) → ws ≠ [] → w.Unlimited → w.core = ⟨g⟩ →
      ∀ chores : List Chore,
      let native := ({ allocator := ⟨g⟩, memory, blocks } : Custody (HeapOver γ)).run chores
      let wrapped := ({ allocator := w, memory, blocks } : Custody (Wrapped _ ws)).run chores
      native.1 = wrapped.1 ∧ native.2.contents = wrapped.2.contents := by
  constructor
  · intro g b B memory newSize held heap native copied
    have resized := dependable.reliable.resized (a := heap) held memory newSize
    have copied := dependable.lends.copied (a := heap) held memory newSize
    refine ⟨resized.served_iff.trans copied.served_iff.symm, ?_, resized, copied⟩
    rw [← Heap.serving_iff, ← resized.served_iff]
  · intro g memory blocks ws w held known wrapped unlimited same chores native through
    have emulates : Emulates (Wrapped (HeapOver γ) ws) :=
      Wrapped.emulates fun bare => absurd bare wrapped
    have inside : w.Unlimited ∧ out w.core.provider (Custody.spans blocks) := by
      rw [same]
      exact ⟨unlimited, held⟩
    have first := Custody.run_eq (c := { allocator := (⟨g⟩ : HeapOver γ), memory, blocks })
      dependable.reliable ⟨held, known⟩ chores
    have second := Custody.run_eq (c := { allocator := w, memory, blocks })
      ((dependable.lends.wrapped ws).reliable emulates) ⟨inside, known⟩ chores
    exact ⟨first.1.trans second.1.symm, first.2.trans second.2.symm⟩

/-- Two blocks of the system's heap are out, of which one is filled. -/
def twoBlocks : List KnownBlock := [⟨⟨4096, 40⟩, 40⟩, ⟨⟨4144, 30⟩, 0⟩]

/-- The heap that they are from. -/
def twoBlocksOut : Heap := (Heap.system.advance 40).advance 30

/-- The heap inside a count and a wrapper without a budget. -/
def twoBlocksBelow : Wrapped (HeapOver Heap) [.failing, .counting] :=
  { inner := { inner := ⟨twoBlocksOut⟩ } }

/-- The first block becomes smaller and larger again, and the second one cannot become nothing. -/
def resizeChores : List Chore := [.resize 0 8, .resize 0 100, .look 0, .resize 1 0, .look 1]

/-- A block becomes smaller where it is, or in another place when it is copied.  A resize to no
bytes fails in both ways, and so does one to more bytes than there can be. -/
theorem native_resize_agrees_for_two_blocks :
    (Heap.reallocate twoBlocksOut stripes 4096 40 8).answer = some 4096 ∧
    (reallocateByCopy (HeapOver.mk twoBlocksOut) stripes 4096 40 8).answer = some 4176 ∧
    (∀ newSize : Size, newSize = 0 ∨ 0x7FFFFFFFFFFFFFF1 ≤ newSize →
      (Allocator.reallocate (HeapOver.mk twoBlocksOut) stripes 4096 40 newSize).answer = none ∧
      (reallocateByCopy (HeapOver.mk twoBlocksOut) stripes 4096 40 newSize).answer = none) ∧
    (({ allocator := HeapOver.mk twoBlocksOut, memory := stripes, blocks := twoBlocks } :
        Custody (HeapOver Heap)).run resizeChores).1 =
      (({ allocator := twoBlocksBelow, memory := stripes, blocks := twoBlocks } :
        Custody (Wrapped (HeapOver Heap) [.failing, .counting])).run resizeChores).1 := by
  obtain ⟨ways, runs⟩ := native_resize_agrees (Heap.dependable Heap.system.serves)
  have start : Heap.Below Heap.system.serves Heap.system 0 :=
    ⟨rfl, by decide, by simp, by simp, fun _ _ _ same => by simp at same⟩
  have held : Heap.Below Heap.system.serves twoBlocksOut (⟨4144, 30⟩ ::ₘ ⟨4096, 40⟩ ::ₘ 0) :=
    (start.advance 40).advance 30
  rw [Multiset.cons_swap] at held
  refine ⟨by decide, by decide, fun newSize senseless => ?_, ?_⟩
  · obtain ⟨same, served, -, -⟩ := ways twoBlocksOut ⟨4096, 40⟩ _ stripes newSize held
    have unserved : ¬ (newSize ≠ 0 ∧ roundUp newSize.toNat 16 ≤ 2 ^ 63 - 1 ∧
        Heap.system.serves newSize = true) := by
      rintro ⟨positive, small, -⟩
      rcases senseless with rfl | large
      · exact positive rfl
      · have large : (0x7FFFFFFFFFFFFFF1 : Size).toNat ≤ newSize.toNat :=
          UInt64.le_iff_toNat_le.mp large
        have mono := roundUp_mono 16 large
        have beyond : roundUp (0x7FFFFFFFFFFFFFF1 : Size).toNat 16 = 2 ^ 63 := by decide
        omega
    rw [← served, Bool.not_eq_true] at unserved
    exact ⟨Option.isSome_eq_false_iff.mp unserved |> Option.isNone_iff_eq_none.mp,
      Option.isSome_eq_false_iff.mp (same ▸ unserved) |> Option.isNone_iff_eq_none.mp⟩
  · have known : ∀ b ∈ twoBlocks, b.known ≤ b.size.toNat := by decide
    exact (runs twoBlocksOut stripes twoBlocks _ twoBlocksBelow held known (by simp)
      ⟨rfl, trivial⟩ rfl resizeChores).1

end ReservedArray
