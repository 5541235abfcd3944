/-
# Allocators that lend blocks

Most of what a caller may rely on when it holds blocks can be said without saying where they lie.
An allocator lends (`Lends`) when whether it serves a request is a matter of the size alone, and the
blocks that are out are aligned and have no byte in common.  A resize is then what it should be
(`Resized`) when the new block has the leading bytes of the old one, when a block that is not
resized stays as it is, and when no other block changes.

An allocator that lends resizes so by copying (`Lends.copied`).  A heap has a resize of its own, and
resizes so if its provider is `Dependable` (`Dependable.reliable`): of that it is only known that it
keeps leading bytes where it serves the size, and leaves all as it is where it does not.  The two
ways make sure for themselves that a size makes sense, and agree in this with the range of sizes
(`Heap.serving_iff`).
-/
import Mathlib
import ReservedArray.Allocator.Provider
import ReservedArray.Proofs.Arena.Placement
import ReservedArray.Proofs.Wrapping.Resize
import ReservedArray.Proofs.Wrapping.Transparency

namespace ReservedArray

variable {α γ : Type}

/-! ## 1. Bytes of blocks -/

/-- The blocks have no byte in common. -/
def Span.Apart (b c : Span) : Prop := b.stop ≤ c.start ∨ c.stop ≤ b.start

namespace Memory

variable {memory memory' : Memory} {b c : Span}

/-- The bytes of a block. -/
def bytesOf (memory : Memory) (b : Span) : List UInt8 := memory.read b.start b.size.toNat

theorem read_congr {start start' n : Nat}
    (same : ∀ i < n, memory'.byte (start' + i) = memory.byte (start + i)) :
    memory'.read start' n = memory.read start n :=
  List.map_congr_left fun i mem => same i (List.mem_range.mp mem)

/-- Fewer bytes are the first ones of more. -/
theorem take_read (memory : Memory) (start : Address) (n k : Nat) :
    (memory.read start n).take k = memory.read start (min k n) := by
  rw [read, ← List.map_take, List.take_range]
  rfl

/-- What is read is what was written. -/
theorem read_overwrite (memory : Memory) (start : Address) (n : Nat) (value : Nat → UInt8) :
    (memory.overwrite start n value).read start n = (List.range n).map value :=
  List.map_congr_left fun _ mem => byte_overwrite_inside (List.mem_range.mp mem)

/-- What is written into one block is not read in another. -/
theorem read_overwrite_apart (apart : b.Apart c) {n k : Nat} (inside : n ≤ b.size.toNat)
    (inside' : k ≤ c.size.toNat) (value : Nat → UInt8) :
    (memory.overwrite b.start n value).read c.start k = memory.read c.start k := by
  refine read_congr fun i less => byte_overwrite_outside ?_
  unfold Span.Apart Span.stop at apart
  omega

/-- The same of a copy into a block. -/
theorem read_copy_apart (apart : b.Apart c) {n k : Nat} (inside : n ≤ b.size.toNat)
    (inside' : k ≤ c.size.toNat) (source : Address) :
    (memory.copy source b.start n).read c.start k = memory.read c.start k :=
  read_overwrite_apart apart inside inside' _

/-- A copy is read where it was copied to. -/
theorem read_copy (memory : Memory) (source target : Address) (n : Nat) :
    (memory.copy source target n).read target n = memory.read source n :=
  read_congr fun _ less => byte_copy_inside less

end Memory

/-! ## 2. What is known of a provider -/

/-- A provider that decides by the size alone, and whose blocks are those of `out`. -/
structure Dependable (γ : Type) [Provider γ] (serves : Size → Bool)
    (out : γ → Multiset Span → Prop) : Prop where
  aligned {g : γ} {B : Multiset Span} : out g B → ∀ b ∈ B, b.start % 16 = 0
  apart {g : γ} {b c : Span} {B : Multiset Span} : out g (b ::ₘ c ::ₘ B) → b.Apart c
  granted {g : γ} {B : Multiset Span} {size : Size} : out g B → Heap.wellSized size = true →
    serves size = true → ∃ block, (Provider.allocate g size).1 = some block ∧
      out (Provider.allocate g size).2 (⟨block, size⟩ ::ₘ B)
  refused {g : γ} {B : Multiset Span} {size : Size} : out g B → Heap.wellSized size = true →
    serves size = false →
    (Provider.allocate g size).1 = none ∧ out (Provider.allocate g size).2 B
  released {g : γ} {b : Span} {B : Multiset Span} : out g (b ::ₘ B) →
    out (Provider.release g b.start b.size) B
  resized {g : γ} {b : Span} {B : Multiset Span} {size : Size} (memory : Memory) :
    out g (b ::ₘ B) → Heap.wellSized size = true → serves size = true →
    ∃ block g' memory',
      Provider.reallocate g memory b.start b.size size = (some block, g', memory') ∧
      out g' (⟨block, size⟩ ::ₘ B) ∧
      memory'.read block (min b.size.toNat size.toNat) =
        memory.read b.start (min b.size.toNat size.toNat) ∧
      ∀ c ∈ B, memory'.bytesOf c = memory.bytesOf c
  stayed {g : γ} {b : Span} {B : Multiset Span} {size : Size} (memory : Memory) :
    out g (b ::ₘ B) → Heap.wellSized size = true → serves size = false →
    ∃ g' memory', Provider.reallocate g memory b.start b.size size = (none, g', memory') ∧
      out g' (b ::ₘ B) ∧ ∀ c ∈ b ::ₘ B, memory'.bytesOf c = memory.bytesOf c

/-! ## 3. What is known of an allocator -/

section Allocators

variable {served : Size → Bool} {out : α → Multiset Span → Prop}

/-- An allocator that hands out and takes back blocks in the same way. -/
structure Lends (α : Type) [Backend α] (served : Size → Bool) (out : α → Multiset Span → Prop) :
    Prop where
  aligned {a : α} {B : Multiset Span} : out a B → ∀ b ∈ B, b.start % 16 = 0
  apart {a : α} {b c : Span} {B : Multiset Span} : out a (b ::ₘ c ::ₘ B) → b.Apart c
  granted {a : α} {B : Multiset Span} {size : Size} : out a B → served size = true →
    ∃ block, (Backend.allocate a size).answer = some block ∧
      out (Backend.allocate a size).state (⟨block, size⟩ ::ₘ B)
  refused {a : α} {B : Multiset Span} {size : Size} : out a B → served size = false →
    (Backend.allocate a size).answer = none ∧ out (Backend.allocate a size).state B
  released {a : α} {b : Span} {B : Multiset Span} : out a (b ::ₘ B) →
    out (Backend.release a b.start b.size) B

/-- What becomes of a block `b` that is out with others when it is resized: if the new size is
served there is an aligned block with its leading bytes instead, and if not it is still there with
all its bytes; and no other block has changed. -/
structure Resized (served : Size → Bool) (out : α → Multiset Span → Prop) (memory : Memory)
    (b : Span) (B : Multiset Span) (newSize : Size)
    (r : Reply (α × Memory) (Option Address)) : Prop where
  served_iff : r.answer.isSome = served newSize
  moved {fresh : Address} : r.answer = some fresh → fresh % 16 = 0 ∧
    out r.state.1 (⟨fresh, newSize⟩ ::ₘ B) ∧
    r.state.2.read fresh (min b.size.toNat newSize.toNat) =
      memory.read b.start (min b.size.toNat newSize.toNat)
  stayed : r.answer = none → out r.state.1 (b ::ₘ B) ∧ r.state.2.bytesOf b = memory.bytesOf b
  others : ∀ c ∈ B, r.state.2.bytesOf c = memory.bytesOf c

/-- **A copying resize is a resize.** -/
theorem Lends.copied [Backend α] (lends : Lends α served out) {a : α} {b : Span}
    {B : Multiset Span} (held : out a (b ::ₘ B)) (memory : Memory) (newSize : Size) :
    Resized served out memory b B newSize
      (reallocateByCopy a memory b.start b.size newSize) := by
  cases decided : served newSize with
  | false =>
    obtain ⟨refusal, kept⟩ := lends.refused held decided
    have refused : reallocateByCopy a memory b.start b.size newSize =
        { answer := none, state := ((Backend.allocate a newSize).state, memory)
          events := (Backend.allocate a newSize).events } := by
      simp only [reallocateByCopy, refusal]
    rw [refused]
    refine ⟨decided.symm, ?_, fun _ => ⟨kept, rfl⟩, fun _ _ => rfl⟩
    rintro _ ⟨⟩
  | true =>
    obtain ⟨fresh, grant, more⟩ := lends.granted held decided
    have copied : reallocateByCopy a memory b.start b.size newSize =
        { answer := some fresh
          state := (Backend.release (Backend.allocate a newSize).state b.start b.size,
            memory.copy b.start fresh (min b.size.toNat newSize.toNat))
          events := (Backend.allocate a newSize).events } := by
      simp only [reallocateByCopy, grant]
    rw [copied]
    -- the old block is the one that goes back, with the new one among the others
    have less : out (Backend.release (Backend.allocate a newSize).state b.start b.size)
        (⟨fresh, newSize⟩ ::ₘ B) := by
      rw [Multiset.cons_swap] at more
      exact lends.released more
    refine ⟨decided.symm, ?_, ?_, ?_⟩
    · rintro _ ⟨⟩
      exact ⟨lends.aligned less _ (Multiset.mem_cons_self _ _), less, Memory.read_copy ..⟩
    · rintro ⟨⟩
    · intro c mem
      obtain ⟨C, rfl⟩ := Multiset.exists_cons_of_mem mem
      exact Memory.read_copy_apart (lends.apart less) (min_le_right _ _) le_rfl _

/-- An allocator whose own resize does the same. -/
structure Reliable (α : Type) [Allocator α] (served : Size → Bool)
    (out : α → Multiset Span → Prop) : Prop extends Lends α served out where
  resized {a : α} {b : Span} {B : Multiset Span} : out a (b ::ₘ B) →
    ∀ (memory : Memory) (newSize : Size), Resized served out memory b B newSize
      (Allocator.reallocate a memory b.start b.size newSize)

/-- What is resized by copying is resized. -/
theorem Lends.reliable [Allocator α] (lends : Lends α served out) (emulates : Emulates α) :
    Reliable α served out where
  toLends := lends
  resized held memory newSize := by
    rw [emulates]
    exact lends.copied held memory newSize

/-- A request through wrappers without budgets is one of the allocator inside. -/
theorem Wrapped.allocate_core [Allocator α] {ws : List Wrapper} {w : Wrapped α ws}
    (unlimited : w.Unlimited) (size : Size) :
    (Backend.allocate w.core size).answer = (Backend.allocate w size).answer ∧
      (Backend.allocate w.core size).state = core (Backend.allocate w size).state ∧
      Unlimited (Backend.allocate w size).state := by
  obtain ⟨same, still⟩ := mirrors_core ws (.allocate size) w .zeroed unlimited
  have passed : (Call.allocate size).passed ws = .allocate size := by cases ws <;> rfl
  rw [passed] at same
  simp only [Call.make, Reply.mapState, Reply.mk.injEq, Call.Answer.block.injEq, Prod.map,
    Prod.mk.injEq] at same
  exact ⟨same.1, same.2.1.1, still⟩

/-- And so is a block that goes back. -/
theorem Wrapped.release_core [Allocator α] {ws : List Wrapper} {w : Wrapped α ws}
    (unlimited : w.Unlimited) (block : Address) (size : Size) :
    Backend.release w.core block size = core (Backend.release w block size) ∧
      Unlimited (Backend.release w block size) := by
  obtain ⟨same, still⟩ := mirrors_core ws (.release block size) w .zeroed unlimited
  have passed : (Call.release block size).passed ws = .release block size := by cases ws <;> rfl
  rw [passed] at same
  simp only [Call.make, Reply.mapState, Reply.mk.injEq, Prod.map, Prod.mk.injEq] at same
  exact ⟨same.2.1.1, still⟩

/-- **Wrappers without budgets lend what is lent inside.** -/
theorem Lends.wrapped [Allocator α] (lends : Lends α served out) (ws : List Wrapper) :
    Lends (Wrapped α ws) served fun w B => w.Unlimited ∧ out w.core B := by
  constructor
  · exact fun held => lends.aligned held.2
  · exact fun held => lends.apart held.2
  · rintro w B size ⟨unlimited, held⟩ decided
    obtain ⟨answer, state, still⟩ := Wrapped.allocate_core unlimited size
    obtain ⟨block, grant, more⟩ := lends.granted held decided
    exact ⟨block, answer.symm.trans grant, still, state ▸ more⟩
  · rintro w B size ⟨unlimited, held⟩ decided
    obtain ⟨answer, state, still⟩ := Wrapped.allocate_core unlimited size
    obtain ⟨refusal, kept⟩ := lends.refused held decided
    exact ⟨answer.symm.trans refusal, still, state ▸ kept⟩
  · rintro w b B ⟨unlimited, held⟩
    obtain ⟨state, still⟩ := Wrapped.release_core unlimited b.start b.size
    exact ⟨still, state ▸ lends.released held⟩

end Allocators

/-! ## 4. The heap -/

/-- The sizes that a heap serves over a provider that serves these. -/
def Heap.serving (serves : Size → Bool) (size : Size) : Bool := wellSized size && serves size

/-- **Which sizes make sense**: those of some bytes, which stay in the range of signed words when
rounded up to the alignment. -/
theorem Heap.serving_iff (serves : Size → Bool) (size : Size) :
    serving serves size = true ↔
      size ≠ 0 ∧ roundUp size.toNat 16 ≤ 2 ^ 63 - 1 ∧ serves size = true := by
  have range : (size ≤ Heap.maxSize) ↔ roundUp size.toNat 16 ≤ 2 ^ 63 - 1 := by
    have bound : Heap.maxSize.toNat = 2 ^ 63 - 16 := by decide
    rw [UInt64.le_iff_toNat_le, bound, roundUp]
    omega
  simp only [serving, wellSized, Bool.and_eq_true, bne_iff_ne, ne_eq, decide_eq_true_eq, range,
    and_assoc]

section Heaps

variable [Provider γ] {serves : Size → Bool} {out : γ → Multiset Span → Prop}

theorem Dependable.lends (dependable : Dependable γ serves out) :
    Lends (HeapOver γ) (Heap.serving serves) fun heap B => out heap.provider B := by
  constructor
  · exact dependable.aligned
  · exact dependable.apart
  · intro heap B size held decided
    rw [Heap.serving, Bool.and_eq_true] at decided
    obtain ⟨block, grant, more⟩ := dependable.granted held decided.1 decided.2
    rw [HeapOver.allocate_of_sensible decided.1]
    exact ⟨block, grant, more⟩
  · intro heap B size held decided
    cases sensible : Heap.wellSized size with
    | false =>
      rw [HeapOver.allocate_of_senseless sensible]
      exact ⟨rfl, held⟩
    | true =>
      rw [Heap.serving, sensible, Bool.true_and] at decided
      rw [HeapOver.allocate_of_sensible sensible]
      exact dependable.refused held sensible decided
  · exact dependable.released

/-- **The heap's own resize is a resize.** -/
theorem Dependable.reliable (dependable : Dependable γ serves out) :
    Reliable (HeapOver γ) (Heap.serving serves) fun heap B => out heap.provider B where
  toLends := dependable.lends
  resized {heap b B} held memory newSize := by
    cases sensible : Heap.wellSized newSize with
    | false =>
      rw [HeapOver.reallocate_of_senseless sensible]
      refine ⟨?_, nofun, fun _ => ⟨held, rfl⟩, fun _ _ => rfl⟩
      simp [Heap.serving, sensible]
    | true =>
      rw [HeapOver.reallocate_of_sensible sensible]
      cases decided : serves newSize with
      | false =>
        obtain ⟨g', memory', same, kept, bytes⟩ :=
          dependable.stayed memory held sensible decided
        rw [same]
        refine ⟨by simp [Heap.serving, sensible, decided], nofun, fun _ => ⟨kept, ?_⟩, ?_⟩
        · exact bytes b (Multiset.mem_cons_self _ _)
        · exact fun c mem => bytes c (Multiset.mem_cons_of_mem mem)
      | true =>
        obtain ⟨fresh, g', memory', same, more, leading, bytes⟩ :=
          dependable.resized memory held sensible decided
        rw [same]
        refine ⟨by simp [Heap.serving, sensible, decided], ?_, nofun, bytes⟩
        rintro _ ⟨⟩
        exact ⟨dependable.aligned more _ (Multiset.mem_cons_self _ _), more, leading⟩

end Heaps

end ReservedArray
