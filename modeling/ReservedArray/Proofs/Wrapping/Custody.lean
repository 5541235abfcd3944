/-
# What is seen of blocks in custody

Allocators put their blocks in different places.  But who holds them sees their sizes and the bytes
that were written into them, and whether a request is served; and of these an allocator that can be
relied on (`Reliable`) has no choice.  They follow from what was done before, by a calculation in
which no address comes up (`Chore.foretell`).

One chore is foretold case by case (`Custody.foretold_perform`), and so is a run
(`Custody.run_eq`).
-/
import Mathlib
import ReservedArray.Proofs.Wrapping.Lending

namespace ReservedArray

variable {α : Type}

/-! ## 1. Chores -/

/-- A block that is held, of which the leading bytes are known. -/
structure KnownBlock extends Span where
  known : Nat

/-- What is done with an allocator and its blocks.  A block is named by its place among those that
are held; where there is none, nothing happens. -/
inductive Chore where
  | take (size : Size)
  | fill (n : Nat) (value : Nat → UInt8)
  | resize (n : Nat) (newSize : Size)
  | giveBack (n : Nat)
  | look (n : Nat)

/-- What is seen of it. -/
inductive Sight where
  | nothing
  | served (success : Bool)
  | bytes (known : List UInt8) (size : Size)

/-- A block without its place: its size and the bytes of it that are known. -/
structure Content where
  size : Size
  known : List UInt8

/-- What is known of a block, where memory is this. -/
def KnownBlock.content (memory : Memory) (b : KnownBlock) : Content :=
  ⟨b.size, memory.read b.start b.known⟩

/-- What is seen and what is then in the blocks, by what was in them before. -/
def Chore.foretell (served : Size → Bool) (contents : List Content) :
    Chore → Sight × List Content
  | take size =>
    if served size then (.served true, contents ++ [⟨size, []⟩]) else (.served false, contents)
  | fill n value =>
    match contents[n]? with
    | none => (.nothing, contents)
    | some c => (.nothing, contents.set n { c with known := (List.range c.size.toNat).map value })
  | resize n newSize =>
    match contents[n]? with
    | none => (.nothing, contents)
    | some c =>
      if served newSize then (.served true, contents.set n ⟨newSize, c.known.take newSize.toNat⟩)
      else (.served false, contents)
  | giveBack n => (.nothing, contents.eraseIdx n)
  | look n =>
    match contents[n]? with
    | none => (.nothing, contents)
    | some c => (.bytes c.known c.size, contents)

/-- The same for one chore after another. -/
def Chore.foretellAll (served : Size → Bool) (contents : List Content) :
    List Chore → List Sight × List Content
  | [] => ([], contents)
  | chore :: chores =>
    let (sight, contents) := chore.foretell served contents
    let (sights, contents) := foretellAll served contents chores
    (sight :: sights, contents)

/-- An allocator, the memory, and the blocks that are held. -/
structure Custody (α : Type) where
  allocator : α
  memory : Memory
  blocks : List KnownBlock

namespace Custody

/-- What is known of the blocks. -/
def contents (c : Custody α) : List Content := c.blocks.map (KnownBlock.content c.memory)

/-- Where the blocks lie. -/
def spans (blocks : List KnownBlock) : Multiset Span := (blocks.map KnownBlock.toSpan : List Span)

variable [Allocator α]

/-- The chore is done. -/
def perform (c : Custody α) : Chore → Sight × Custody α
  | .take size =>
    let r := Backend.allocate c.allocator size
    match r.answer with
    | none => (.served false, { c with allocator := r.state })
    | some start =>
      (.served true,
        { c with allocator := r.state, blocks := c.blocks ++ [{ start, size, known := 0 }] })
  | .fill n value =>
    match c.blocks[n]? with
    | none => (.nothing, c)
    | some b =>
      (.nothing,
        { c with
          memory := c.memory.overwrite b.start b.size.toNat value
          blocks := c.blocks.set n { b with known := b.size.toNat } })
  | .resize n newSize =>
    match c.blocks[n]? with
    | none => (.nothing, c)
    | some b =>
      let r := Allocator.reallocate c.allocator c.memory b.start b.size newSize
      match r.answer with
      | none => (.served false, { c with allocator := r.state.1, memory := r.state.2 })
      | some start =>
        (.served true,
          { allocator := r.state.1
            memory := r.state.2
            blocks :=
              c.blocks.set n { start, size := newSize, known := min b.known newSize.toNat } })
  | .giveBack n =>
    match c.blocks[n]? with
    | none => (.nothing, c)
    | some b =>
      (.nothing,
        { c with
          allocator := Backend.release c.allocator b.start b.size
          blocks := c.blocks.eraseIdx n })
  | .look n =>
    match c.blocks[n]? with
    | none => (.nothing, c)
    | some b => (.bytes (c.memory.read b.start b.known) b.size, c)

/-- The chores are done in order; what is seen is listed. -/
def run (c : Custody α) : List Chore → List Sight × Custody α
  | [] => ([], c)
  | chore :: chores =>
    let (sight, c) := c.perform chore
    let (sights, c) := c.run chores
    (sight :: sights, c)

omit [Allocator α] in
/-- The blocks are the ones that are out, and no more of them is known than there is. -/
structure Sound (out : α → Multiset Span → Prop) (c : Custody α) : Prop where
  held : out c.allocator (spans c.blocks)
  known_le : ∀ b ∈ c.blocks, b.known ≤ b.size.toNat

end Custody

/-! ## 2. Blocks in their places -/

/-- In all places but one, two functions are as good as each other if they agree there. -/
theorem set_map_congr {β δ : Type} {l : List β} {f g : β → δ} {n : Nat}
    (same : ∀ c ∈ l.eraseIdx n, f c = g c) (x : δ) : (l.map f).set n x = (l.map g).set n x := by
  refine List.ext_getElem? fun i => ?_
  by_cases here : n = i
  · subst here
    simp [List.getElem?_set]
  · rw [List.getElem?_set_ne here, List.getElem?_set_ne here, List.getElem?_map,
      List.getElem?_map]
    cases there : l[i]? with
    | none => rfl
    | some c =>
      exact congrArg some (same c (List.mem_eraseIdx_iff_getElem?.mpr ⟨i, Ne.symm here, there⟩))

/-- As much as is known of a block is among its bytes. -/
theorem KnownBlock.content_congr {memory memory' : Memory} {b : KnownBlock}
    (known : b.known ≤ b.size.toNat) (same : memory'.bytesOf b.toSpan = memory.bytesOf b.toSpan) :
    b.content memory' = b.content memory := by
  have leading := congrArg (List.take b.known) same
  rw [Memory.bytesOf, Memory.bytesOf, Memory.take_read, Memory.take_read,
    Nat.min_eq_left known] at leading
  rw [content, content, leading]

namespace Custody

section Places

variable {blocks : List KnownBlock} {n : Nat} {b : KnownBlock} {memory memory' : Memory}

theorem spans_eraseIdx (there : blocks[n]? = some b) :
    spans blocks = b.toSpan ::ₘ spans (blocks.eraseIdx n) := by
  obtain ⟨h, rfl⟩ := List.getElem?_eq_some_iff.mp there
  exact (Multiset.coe_eq_coe.mpr ((List.getElem_cons_eraseIdx_perm h).map _)).symm

theorem spans_set (there : blocks[n]? = some b) (b' : KnownBlock) :
    spans (blocks.set n b') = b'.toSpan ::ₘ spans (blocks.eraseIdx n) := by
  obtain ⟨h, -⟩ := List.getElem?_eq_some_iff.mp there
  exact Multiset.coe_eq_coe.mpr ((List.set_perm_cons_eraseIdx h b').map _)

theorem spans_append (b : KnownBlock) : spans (blocks ++ [b]) = b.toSpan ::ₘ spans blocks :=
  Multiset.coe_eq_coe.mpr (List.perm_append_singleton b blocks |>.map _)

theorem mem_spans {c : KnownBlock} (mem : c ∈ blocks) : c.toSpan ∈ spans blocks :=
  Multiset.mem_coe.mpr (List.mem_map_of_mem mem)

/-- With another block in one place, the others are known as before if their bytes are the same. -/
theorem contents_set (known : ∀ c ∈ blocks, c.known ≤ c.size.toNat) (b' : KnownBlock)
    (others : ∀ c ∈ spans (blocks.eraseIdx n), memory'.bytesOf c = memory.bytesOf c) :
    (blocks.set n b').map (KnownBlock.content memory') =
      (blocks.map (KnownBlock.content memory)).set n (b'.content memory') := by
  rw [List.map_set]
  refine set_map_congr (fun c mem => ?_) _
  exact KnownBlock.content_congr (known c (List.mem_of_mem_eraseIdx mem)) (others _ (mem_spans mem))

theorem known_le_set (known : ∀ c ∈ blocks, c.known ≤ c.size.toNat) {b' : KnownBlock}
    (known' : b'.known ≤ b'.size.toNat) : ∀ c ∈ blocks.set n b', c.known ≤ c.size.toNat := by
  intro c mem
  rcases List.mem_or_eq_of_mem_set mem with mem | rfl
  · exact known c mem
  · exact known'

end Places

/-! ## 3. What is foretold -/

section Perform

variable [Allocator α] {served : Size → Bool} {out : α → Multiset Span → Prop} {c : Custody α}

/-- What is seen of the chore and what is known afterwards are foretold, and all is sound again. -/
structure Foretold (served : Size → Bool) (out : α → Multiset Span → Prop) (c : Custody α)
    (chore : Chore) : Prop where
  sight : (c.perform chore).1 = (chore.foretell served c.contents).1
  contents : (c.perform chore).2.contents = (chore.foretell served c.contents).2
  sound : (c.perform chore).2.Sound out

omit [Allocator α] in
/-- What is known of the block at a place. -/
theorem contents_getElem? (c : Custody α) (n : Nat) :
    c.contents[n]? = c.blocks[n]?.map (KnownBlock.content c.memory) := List.getElem?_map ..

theorem foretold_take (reliable : Reliable α served out) (sound : c.Sound out) (size : Size) :
    Foretold served out c (.take size) := by
  cases decided : served size with
  | false =>
    obtain ⟨refusal, kept⟩ := reliable.refused sound.held decided
    constructor
    · simp [perform, Chore.foretell, refusal, decided]
    · simp [perform, Chore.foretell, refusal, decided, contents]
    · simp only [perform, refusal]
      exact ⟨kept, sound.known_le⟩
  | true =>
    obtain ⟨start, grant, more⟩ := reliable.granted sound.held decided
    constructor
    · simp [perform, Chore.foretell, grant, decided]
    · simp [perform, Chore.foretell, grant, decided, contents, KnownBlock.content, Memory.read]
    · simp only [perform, grant]
      refine ⟨?_, ?_⟩
      · rw [spans_append]
        exact more
      · intro b mem
        rcases List.mem_append.mp mem with mem | mem
        · exact sound.known_le b mem
        · obtain rfl := List.mem_singleton.mp mem
          exact Nat.zero_le _

theorem foretold_fill (reliable : Reliable α served out) (sound : c.Sound out) (n : Nat)
    (value : Nat → UInt8) : Foretold served out c (.fill n value) := by
  cases there : c.blocks[n]? with
  | none =>
    constructor
    · simp [perform, Chore.foretell, contents_getElem?, there]
    · simp [perform, Chore.foretell, contents_getElem?, there]
    · simpa only [perform, there] using sound
  | some b =>
    have held := sound.held
    rw [spans_eraseIdx there] at held
    have others : ∀ s ∈ spans (c.blocks.eraseIdx n),
        (c.memory.overwrite b.start b.size.toNat value).bytesOf s = c.memory.bytesOf s := by
      intro s mem
      obtain ⟨C, same⟩ := Multiset.exists_cons_of_mem mem
      rw [same] at held
      exact Memory.read_overwrite_apart (reliable.apart held) le_rfl le_rfl value
    constructor
    · simp [perform, Chore.foretell, contents_getElem?, there]
    · simp only [perform, Chore.foretell, contents_getElem?, there, Option.map_some]
      rw [contents, contents_set sound.known_le _ others]
      simp only [contents, KnownBlock.content, Memory.read_overwrite]
    · simp only [perform, there]
      refine ⟨?_, known_le_set sound.known_le le_rfl⟩
      rw [spans_set there]
      exact held

theorem foretold_resize (reliable : Reliable α served out) (sound : c.Sound out) (n : Nat)
    (newSize : Size) : Foretold served out c (.resize n newSize) := by
  cases there : c.blocks[n]? with
  | none =>
    constructor
    · simp [perform, Chore.foretell, contents_getElem?, there]
    · simp [perform, Chore.foretell, contents_getElem?, there]
    · simpa only [perform, there] using sound
  | some b =>
    have known := sound.known_le b (List.mem_of_getElem? there)
    have held := sound.held
    rw [spans_eraseIdx there] at held
    have resized := reliable.resized held c.memory newSize
    have decided := resized.served_iff
    cases answer : (Allocator.reallocate c.allocator c.memory b.start b.size newSize).answer with
    | none =>
      obtain ⟨kept, own⟩ := resized.stayed answer
      rw [answer, Option.isSome_none] at decided
      constructor
      · simp [perform, Chore.foretell, contents_getElem?, there, answer, ← decided]
      · simp only [perform, Chore.foretell, contents_getElem?, there, answer, ← decided,
          Option.map_some]
        refine List.map_congr_left fun b' mem => ?_
        refine KnownBlock.content_congr (sound.known_le b' mem) ?_
        have among := mem_spans mem
        rw [spans_eraseIdx there] at among
        rcases Multiset.mem_cons.mp among with same | among
        · rw [same]
          exact own
        · exact resized.others _ among
      · simp only [perform, there, answer]
        refine ⟨?_, sound.known_le⟩
        rw [spans_eraseIdx there]
        exact kept
    | some fresh =>
      obtain ⟨-, more, leading⟩ := resized.moved answer
      rw [answer, Option.isSome_some] at decided
      constructor
      · simp [perform, Chore.foretell, contents_getElem?, there, answer, ← decided]
      · simp only [perform, Chore.foretell, contents_getElem?, there, answer, ← decided,
          Option.map_some]
        -- the bytes that are still known are the first ones of those that were moved
        have moved := congrArg (List.take (min b.known newSize.toNat)) leading
        have fewer : min (min b.known newSize.toNat) (min b.size.toNat newSize.toNat) =
            min b.known newSize.toNat := by omega
        rw [Memory.take_read, Memory.take_read, fewer] at moved
        rw [contents, contents_set sound.known_le _ resized.others]
        simp only [contents, KnownBlock.content, Memory.take_read, moved, if_true]
        rw [Nat.min_comm b.known]
      · simp only [perform, there, answer]
        refine ⟨?_, known_le_set sound.known_le (min_le_right _ _)⟩
        rw [spans_set there]
        exact more

theorem foretold_giveBack (reliable : Reliable α served out) (sound : c.Sound out) (n : Nat) :
    Foretold served out c (.giveBack n) := by
  cases there : c.blocks[n]? with
  | none =>
    have beyond : c.blocks.length ≤ n := List.getElem?_eq_none_iff.mp there
    constructor
    · simp [perform, Chore.foretell, there]
    · simp only [perform, Chore.foretell, there]
      rw [List.eraseIdx_of_length_le]
      rwa [contents, List.length_map]
    · simpa only [perform, there] using sound
  | some b =>
    have held := sound.held
    rw [spans_eraseIdx there] at held
    constructor
    · simp [perform, Chore.foretell, there]
    · simp only [perform, Chore.foretell, there, contents, List.eraseIdx_map]
    · simp only [perform, there]
      exact ⟨reliable.released held, fun b' mem =>
        sound.known_le b' (List.mem_of_mem_eraseIdx mem)⟩

theorem foretold_look (sound : c.Sound out) (n : Nat) :
    Foretold served out c (.look n) := by
  cases there : c.blocks[n]? with
  | none =>
    constructor
    · simp [perform, Chore.foretell, contents_getElem?, there]
    · simp [perform, Chore.foretell, contents_getElem?, there]
    · simpa only [perform, there] using sound
  | some b =>
    constructor
    · simp [perform, Chore.foretell, contents_getElem?, there, KnownBlock.content]
    · simp [perform, Chore.foretell, contents_getElem?, there]
    · simpa only [perform, there] using sound

/-- **Every chore is foretold.** -/
theorem foretold_perform (reliable : Reliable α served out) (sound : c.Sound out) (chore : Chore) :
    Foretold served out c chore := by
  cases chore with
  | take size => exact foretold_take reliable sound size
  | fill n value => exact foretold_fill reliable sound n value
  | resize n newSize => exact foretold_resize reliable sound n newSize
  | giveBack n => exact foretold_giveBack reliable sound n
  | look n => exact foretold_look sound n

/-- **What is seen in a run, and what is known after it, does not depend on the allocator**, if it
can be relied on. -/
theorem run_eq (reliable : Reliable α served out) (sound : c.Sound out) (chores : List Chore) :
    (c.run chores).1 = (Chore.foretellAll served c.contents chores).1 ∧
      (c.run chores).2.contents = (Chore.foretellAll served c.contents chores).2 := by
  induction chores generalizing c with
  | nil => exact ⟨rfl, rfl⟩
  | cons chore chores ih =>
    have first := foretold_perform reliable sound chore
    obtain ⟨sights, contents⟩ := ih first.sound
    rw [first.contents] at sights contents
    exact ⟨congrArg₂ List.cons first.sight sights, contents⟩

end Perform

end Custody

end ReservedArray
