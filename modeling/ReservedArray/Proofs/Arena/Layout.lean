/-
# How an arena's blocks lie

The blocks that an arena has issued since its last reset lie one after the other, aligned, between
its first byte and its last, and what the arena counts as used ends with the last of them
(`Arena.Laid`).  It begins so, each course of a use keeps it (`Course.laid`), and so it is after
every run, over a bare arena and at the bottom of a stack.
-/
import Mathlib
import ReservedArray.Proofs.Arena.Session

namespace ReservedArray

/-! ## 1. One block behind the other -/

/-- The issued blocks lie in the arena one after the other, up to the part that is used. -/
structure Arena.Laid (arena : Arena) (issued : List Span) : Prop where
  power : Size.isPowerOfTwo arena.alignment = true
  offset_lt : arena.offset < arena.size
  aligned : ∀ b ∈ issued, b.start % arena.alignment.toNat = 0
  base_le : ∀ b ∈ issued, arena.base.toNat ≤ b.start
  stop_le : ∀ b ∈ issued, b.stop ≤ arena.base.toNat + arena.offset.toNat
  ordered : issued.Pairwise fun b c => b.stop ≤ c.start
  /-- What is used ends with the last block. -/
  offset_eq : arena.base.toNat + arena.offset.toNat =
    (issued.getLast?.map Span.stop).getD arena.base.toNat

namespace Arena

variable {arena arena' : Arena} {issued : List Span}

/-- An arena that is accepted is empty, and has room for its alignment and so for something. -/
theorem laid_of_create {base size : Size} {config : ArenaConfig}
    (created : create base size config = .ok arena) :
    arena = { base, size, offset := 0, alignment := config.alignment } ∧ arena.Laid [] := by
  simp only [create, ArenaConfig.validate] at created
  split at created
  · rename_i power
    by_cases small : size < config.alignment
    · simp [bind, Except.bind, if_pos small] at created
    · simp only [bind, Except.bind, if_neg small, Except.ok.injEq] at created
      subst created
      have positive := Size.toNat_pos_of_isPowerOfTwo power
      have large : config.alignment.toNat ≤ size.toNat :=
        UInt64.le_iff_toNat_le.mp (UInt64.not_lt.mp small)
      have room : (0 : Size) < size := UInt64.lt_iff_toNat_lt.mpr (Nat.lt_of_lt_of_le positive large)
      exact ⟨rfl, power, room, by simp, by simp, by simp, .nil, rfl⟩
  · cases created

/-- A reset arena is empty again. -/
theorem Laid.reset (laid : arena.Laid issued) : arena.reset.state.Laid [] where
  power := laid.power
  offset_lt := Nat.lt_of_le_of_lt (Nat.zero_le _) laid.offset_lt
  aligned := by simp
  base_le := by simp
  stop_le := by simp
  ordered := .nil
  offset_eq := rfl

/-- A block that is carved off lies behind all others. -/
theorem Laid.stop_le_carved {size : Size} {block : Address} (laid : arena.Laid issued)
    (carves : Carves arena size (some block) arena') : ∀ b ∈ issued, b.stop ≤ block := by
  cases carves with
  | carved placed =>
    have above := le_roundUp (arena.base.toNat + arena.offset.toNat)
      (Size.toNat_pos_of_isPowerOfTwo laid.power)
    exact fun b mem => Nat.le_trans (laid.stop_le b mem) (placed ▸ above)

/-- **One more block is laid behind the others.** -/
theorem Laid.carved {size : Size} {block : Address} (laid : arena.Laid issued)
    (carves : Carves arena size (some block) arena') :
    arena'.Laid (issued ++ [{ start := block, size }]) := by
  have behind := laid.stop_le_carved carves
  cases carves with
  | @carved _ stop placed ends below =>
    have above := le_roundUp (arena.base.toNat + arena.offset.toNat)
      (Size.toNat_pos_of_isPowerOfTwo laid.power)
    rw [← placed] at above
    refine ⟨laid.power, below, ?_, ?_, ?_, ?_, ?_⟩
    · simp only [List.forall_mem_append, List.forall_mem_singleton]
      exact ⟨laid.aligned, placed ▸ roundUp_mod _ _⟩
    · simp only [List.forall_mem_append, List.forall_mem_singleton]
      exact ⟨laid.base_le, by omega⟩
    · simp only [List.forall_mem_append, List.forall_mem_singleton, Span.stop, ends]
      exact ⟨fun b mem => Nat.le_add_right_of_le (behind b mem), Nat.le_refl _⟩
    · refine List.pairwise_append.mpr ⟨laid.ordered, List.pairwise_singleton _ _, ?_⟩
      simpa using behind
    · simp [Span.stop, ends]

end Arena

theorem Course.laid {arena arena' : Arena} {o o' : Occupancy} (h : Course arena o arena' o')
    (laid : arena.Laid o.issued) : arena'.Laid o'.issued := by
  cases h with
  | idle | written | released => exact laid
  | gained carves | moved _ carves => exact laid.carved carves
  | forgotten => exact laid.reset

/-- The arena stays where it is, as large as it is. -/
theorem Course.same_stretch {arena arena' : Arena} {o o' : Occupancy}
    (h : Course arena o arena' o') : ∃ offset, arena' = { arena with offset } := by
  cases h with
  | idle | written | released => exact ⟨arena.offset, rfl⟩
  | gained carves | moved _ carves =>
    cases carves
    exact ⟨_, rfl⟩
  | forgotten => exact ⟨0, rfl⟩

/-! ## 2. Runs -/

/-- What is known of an arena and its blocks after any run, when `arena` is how it began. -/
structure Occupancy.LaidFrom (arena : Arena) (a : Arena) (o : Occupancy) : Prop where
  laid : a.Laid o.issued
  same : ∃ offset, a = { arena with offset }

theorem Course.laidFrom {arena a a' : Arena} {o o' : Occupancy} (h : Course a o a' o')
    (before : o.LaidFrom arena a) : o'.LaidFrom arena a' := by
  refine ⟨h.laid before.laid, ?_⟩
  obtain ⟨offset, rfl⟩ := before.same
  obtain ⟨offset', rfl⟩ := h.same_stretch
  exact ⟨offset', rfl⟩

/-- **After every run over a new arena, at the bottom of any stack, its blocks lie as they should**,
and the arena is where it was. -/
theorem Session.laidFrom_run {s : Stack} {t : Session s} {base size : Size} {config : ArenaConfig}
    {arena : Arena} (created : Arena.create base size config = .ok arena)
    (bottom : s.arena? t.allocator = some arena) (fresh : t.issued = []) (uses : List Use) :
    ∃ a, s.arena? (t.run uses).allocator = some a ∧
      (t.run uses).toOccupancy.LaidFrom arena a := by
  have empty := (Arena.laid_of_create created).2
  rw [← fresh] at empty
  exact run_induction (fun after => after.laid.power) Course.laidFrom bottom
    ⟨empty, arena.offset, rfl⟩ uses

/-- The address is one of a byte of the block. -/
def Span.Covers (b : Span) (x : Address) : Prop := b.start ≤ x ∧ x < b.stop

/-- **An arena's blocks never meet and never leave it**, and it never runs over.  Whatever is done
with an arena that was accepted: it is where it was; the part in use ends before its last byte, so
that what remains is computed without wrapping and is never nothing; every block issued since the
last reset is aligned and lies between the arena's first byte and, without it, its last; each of
these blocks ends before the next one starts, so no byte belongs to two of them; and the part in
use ends where the last of them does. -/
theorem arena_blocks_apart (base size : Size) (config : ArenaConfig) (arena : Arena)
    (created : Arena.create base size config = .ok arena) (memory : Memory) (uses : List Use) :
    let t := ({ memory, allocator := arena } : Session .arena).run uses
    let a : Arena := t.allocator
    (a.base = base ∧ a.size = size ∧ a.alignment = config.alignment) ∧
    (a.offset < size ∧ a.remaining.toNat = size.toNat - a.offset.toNat ∧
      1 ≤ a.remaining.toNat) ∧
    (∀ b ∈ t.issued, b.start % config.alignment.toNat = 0 ∧ base.toNat ≤ b.start ∧
      b.stop ≤ base.toNat + (size.toNat - 1)) ∧
    (t.issued.Pairwise fun b c => b.stop ≤ c.start) ∧
    (t.issued.Pairwise fun b c => ∀ x, ¬(b.Covers x ∧ c.Covers x)) ∧
    base.toNat + a.offset.toNat = (t.issued.getLast?.map Span.stop).getD base.toNat := by
  intro t a
  obtain ⟨_, bottom, laid, offset, same⟩ := Session.laidFrom_run (s := .arena)
    (t := { memory, allocator := arena }) created rfl rfl uses
  cases bottom
  change a.Laid t.issued at laid
  obtain ⟨rfl, -⟩ := Arena.laid_of_create created
  have base_eq : a.base = base := congrArg Arena.base same
  have size_eq : a.size = size := congrArg Arena.size same
  have alignment_eq : a.alignment = config.alignment := congrArg Arena.alignment same
  have below : a.offset.toNat < size.toNat := size_eq ▸ UInt64.lt_iff_toNat_lt.mp laid.offset_lt
  have left : a.remaining.toNat = size.toNat - a.offset.toNat := by
    rw [Arena.remaining, UInt64.toNat_sub_of_le _ _ (UInt64.le_of_lt laid.offset_lt), size_eq]
  refine ⟨⟨base_eq, size_eq, alignment_eq⟩, ⟨size_eq ▸ laid.offset_lt, left, by omega⟩, ?_,
    laid.ordered, ?_, base_eq ▸ laid.offset_eq⟩
  · intro b issued
    have stop := laid.stop_le b issued
    refine ⟨alignment_eq ▸ laid.aligned b issued, base_eq ▸ laid.base_le b issued, ?_⟩
    rw [base_eq] at stop
    omega
  · refine laid.ordered.imp fun {b c} apart x both => ?_
    exact absurd (Nat.lt_of_lt_of_le both.1.2 apart) (Nat.not_lt.mpr both.2.1)

/-- A session over an arena whose first byte is not aligned.  The first request is refused, and the
second one is from before the reset; an empty block follows, and a resize. -/
def resetSession : Session .arena :=
  ({ memory := .zeroed, allocator := ⟨4110, 100, 0, 16⟩ } : Session .arena).run
    [.allocate 200, .allocate 3, .control .reset, .allocate 5, .allocate 0, .resize .byCopy 0 20]

/-- Two bytes of padding in front, then three blocks one after the other. -/
theorem arena_blocks_apart_after_reset :
    Arena.create 4110 100 { alignment := 16 } = .ok ⟨4110, 100, 0, 16⟩ ∧
      resetSession.issued = [⟨4112, 5⟩, ⟨4128, 0⟩, ⟨4128, 20⟩] ∧
      resetSession.issued.Pairwise (fun b c => b.stop ≤ c.start) ∧
      4128 % 16 = 0 ∧ 4110 ≤ 4128 ∧ 4128 + 20 ≤ 4110 + 99 := by
  have issued : resetSession.issued = [⟨4112, 5⟩, ⟨4128, 0⟩, ⟨4128, 20⟩] := by cbv
  have last : ⟨4128, 20⟩ ∈ resetSession.issued := by simp [issued]
  obtain ⟨-, -, inside, ordered, -⟩ :=
    arena_blocks_apart 4110 100 { alignment := 16 } _ rfl .zeroed _
  exact ⟨rfl, issued, ordered, inside _ last⟩

end ReservedArray
