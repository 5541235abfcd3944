/-
# Blocks are conserved

Every array has one block, which goes back when the array is dropped or takes another buffer, and
with the size it was handed out for, although that size is worked out anew from the reserve.  So an
allocator that counts what goes through it has out, between two turns, just the blocks of the arrays
and just their bytes.  Its counters are never taken below zero: whenever a block goes back, it is
out, and so are its bytes (`Moves.covers`).

What the counters show is what the calls say.  For the blocks and bytes that are out this holds of
every gauge (`Gauge.read_steps`), and for the numbers of blocks ever handed out and taken back it is
counted here (`Counting.turnover_steps`).
-/
import ReservedArray.Proofs.Conservation.Ensemble

namespace ReservedArray

variable {α β κ τ ι : Type} {T : ι → Type}

open Entry (panics obtained released)

/-! ## 1. What goes through a counting allocator -/

namespace Entry

@[simp] theorem obtained_append (t t' : List (Entry τ)) :
    obtained (t ++ t') = obtained t ++ obtained t' :=
  List.filterMap_append

@[simp] theorem released_append (t t' : List (Entry τ)) :
    released (t ++ t') = released t ++ released t' :=
  List.filterMap_append

@[simp] theorem obtained_reports (events : List Event) :
    obtained (events.map (Entry.report (τ := τ))) = [] := by
  simp [obtained]

@[simp] theorem released_reports (events : List Event) :
    released (events.map (Entry.report (τ := τ))) = [] := by
  simp [released]

@[simp] theorem obtained_ofKind (k : ι) (t : List (Entry τ)) :
    obtained (ofKind k t) = obtained t := by
  rw [obtained, ofKind, List.filterMap_map]
  congr
  funext q
  cases q <;> rfl

@[simp] theorem released_ofKind (k : ι) (t : List (Entry τ)) :
    released (ofKind k t) = released t := by
  rw [released, ofKind, List.filterMap_map]
  congr
  funext q
  cases q <;> rfl

end Entry

theorem Tally.afterAll_ofKind (n : Tally) (k : ι) (t : List (Entry τ)) :
    n.afterAll (Entry.ofKind k t) = n.afterAll t := by
  have same (n : Tally) (q : Entry τ) : n.after (q.map fun _ => k) = n.after q := by
    cases q with
    | allocate size block => cases block <;> rfl
    | copy | dispose | compare | release | report => rfl
  simp only [afterAll, Entry.ofKind, List.foldl_map, same]

namespace Counting

variable [Backend β] {ops : ElementOps κ τ} {e e' : Env (Counting β) κ τ} {t : List (Entry τ)}

theorem turnover_step (h : Env.Step ops e t e') :
    e'.allocator.allocations = e.allocator.allocations + (obtained t).length ∧
      e'.allocator.releases = e.allocator.releases + (released t).length := by
  cases h with
  | report | copy | dispose | compare | giveBack => exact ⟨rfl, rfl⟩
  | obtain size =>
    rw [Env.allocator_obtain, Env.entriesOf]
    by_cases zero : size = 0
    · rw [if_pos zero, zero, request_zero]
      exact ⟨rfl, rfl⟩
    rw [if_neg zero, state_request zero, ← List.singleton_append, Entry.obtained_append,
      Entry.released_append, Entry.obtained_reports, Entry.released_reports]
    cases answer : (Backend.allocate e.allocator size).answer with
    | none =>
      rw [request_of_none zero answer]
      rw [Gauge.answer_counting] at answer
      simp [Backend.allocate, Counting.allocate, answer, obtained, released, Except.toOption]
    | some block =>
      rw [request_of_some zero answer]
      rw [Gauge.answer_counting] at answer
      simp [Backend.allocate, Counting.allocate, answer, obtained, released, Except.toOption]

/-- The allocator counts the blocks that it hands out and those that it takes back. -/
theorem turnover_steps (h : Env.Steps ops e t e') :
    e'.allocator.allocations = e.allocator.allocations + (obtained t).length ∧
      e'.allocator.releases = e.allocator.releases + (released t).length := by
  induction h with
  | refl => exact ⟨rfl, rfl⟩
  | head step _ ih =>
    have first := turnover_step step
    rw [ih.1, ih.2, first.1, first.2, Entry.obtained_append, Entry.released_append,
      List.length_append, List.length_append, Nat.add_assoc, Nat.add_assoc]
    exact ⟨rfl, rfl⟩

end Counting

/-! ## 2. Blocks that go back -/

section Releases

variable {H : Multiset (Holding τ)} {t p q : List (Entry τ)} {block : Address} {size : Size}

/-- Before a block goes back it is held, without elements and with the size it goes back with. -/
theorem Moves.before_release (h : Moves 0 t H) (there : t = p ++ .release block size :: q) :
    ∃ K, Moves 0 p ({ block, size, elements := [] } ::ₘ K) := by
  rw [there] at h
  obtain ⟨_, moves, rest⟩ := h.split
  cases rest with
  | cons move _ =>
    cases move with
    | release => exact ⟨_, moves⟩

/-- **A block that goes back is one that is out.**  With the blocks that went back before it, it is
among those that were obtained before it. -/
theorem Moves.release_of_obtained (h : Moves 0 t H) (there : t = p ++ .release block size :: q) :
    (block, size) ::ₘ (released p : Multiset (Address × Size)) ≤ obtained p := by
  obtain ⟨K, moves⟩ := h.before_release there
  have balance := moves.outstanding_eq
  rw [outstanding_zero, zero_add, outstanding_cons] at balance
  rw [balance, Multiset.cons_add, Multiset.cons_le_cons_iff]
  exact Multiset.le_add_left _ _

/-- **A count of what is out covers what goes back**, so it has not to be taken below zero. -/
theorem Moves.covers (h : Moves 0 t H) (there : t = p ++ .release block size :: q) :
    1 ≤ ((⟨0, 0⟩ : Tally).afterAll p).blocks ∧
      size.toNat ≤ ((⟨0, 0⟩ : Tally).afterAll p).bytes := by
  obtain ⟨K, moves⟩ := h.before_release there
  have counted := moves.tally_eq ⟨0, 0⟩
  rw [Tally.plus_zero, Tally.plus_cons] at counted
  rw [counted]
  exact ⟨Nat.le_add_left _ _, Nat.le_add_left _ _⟩

end Releases

/-! ## 3. Runs -/

section Runs

variable {options : (k : ι) → ArrayOptions κ (T k)}

/-- How many bytes the arrays have reserved, all together. -/
def byteCount (options : (k : ι) → ArrayOptions κ (T k)) (arrays : List ((k : ι) × Buffer (T k))) :
    Nat :=
  (arrays.map fun a => a.2.reserve.toNat * (options a.1).layout.size.toNat).sum

/-- The blocks of the arrays, each with its size. -/
def blocksOf (options : (k : ι) → ArrayOptions κ (T k)) (arrays : List ((k : ι) × Buffer (T k))) :
    List (Address × Size) :=
  arrays.map fun a => (a.2.block, a.2.bytes (options a.1).layout)

theorem outstanding_heldByAll (arrays : List ((k : ι) × Buffer (T k))) :
    outstanding (heldByAll options arrays) = blocksOf options arrays := by
  rw [heldByAll, outstanding, Multiset.map_coe, List.map_map]
  rfl

/-- A block is as large as its array needs. -/
theorem Buffer.Sound.toNat_bytes {layout : Layout} {b : Buffer τ} (h : b.Sound layout) :
    (b.bytes layout).toNat = b.reserve.toNat * layout.size.toNat :=
  Size.toNat_mul_of_lt h.fits

/-- What the arrays hold is one block for each, with just the bytes it has reserved. -/
theorem plus_heldByAll {arrays : List ((k : ι) × Buffer (T k))}
    (sound : AllSound options arrays) :
    (⟨0, 0⟩ : Tally).plus (heldByAll options arrays) =
      ⟨arrays.length, byteCount options arrays⟩ := by
  induction arrays with
  | nil => rfl
  | cons a arrays ih =>
    have first : heldByAll options (a :: arrays) =
        heldBy options a ::ₘ heldByAll options arrays := rfl
    have size : (heldBy options a).size.toNat =
        a.2.reserve.toNat * (options a.1).layout.size.toNat :=
      (sound a List.mem_cons_self).toNat_bytes
    have rest : AllSound options arrays := fun a mem => sound a (List.mem_cons_of_mem _ mem)
    rw [first, Tally.plus_cons, ih rest]
    refine Tally.ext rfl ?_
    show byteCount options arrays + (heldBy options a).size.toNat = _
    rw [size, Nat.add_comm]
    rfl

variable [Backend β] {σ σ' : Ensemble (Counting β) κ T} {t : List (Entry ι)}

/-- The counters of the allocator show what the journal says. -/
structure Ensemble.Counted (σ : Ensemble (Counting β) κ T) : Prop where
  live : Gauge.counting.read σ.allocator = (⟨0, 0⟩ : Tally).afterAll σ.journal
  allocations : σ.allocator.allocations = (obtained σ.journal).length
  releases : σ.allocator.releases = (released σ.journal).length

theorem Ensemble.Counted.advance (h : σ.Counted) (advance : Advance options σ t σ') :
    σ'.Counted := by
  cases advance with
  | still => exact ⟨h.live, h.allocations, h.releases⟩
  | called steps =>
    have turnover := Counting.turnover_steps steps
    refine ⟨?_, ?_, ?_⟩
    · rw [Tally.afterAll_append, Tally.afterAll_ofKind, ← h.live]
      exact Gauge.counting.read_steps steps
    · rw [Entry.obtained_append, Entry.obtained_ofKind, List.length_append, ← h.allocations]
      exact turnover.1
    · rw [Entry.released_append, Entry.released_ofKind, List.length_append, ← h.releases]
      exact turnover.2

/-- In every run the counters show what the journal says. -/
theorem Ensemble.counted_run (options : (k : ι) → ArrayOptions κ (T k)) (inner : β) (context : κ)
    (turns : List (Turn T)) :
    (({ allocator := { inner }, context } : Ensemble (Counting β) κ T).run options
      turns).Counted := by
  refine (run_induction (P := fun σ => σ.Counted ∧ AllSound options σ.arrays) And.right ?_ ?_
    turns).1
  · intro σ σ' t advance both
    exact ⟨both.1.advance advance, advance.sound⟩
  · exact ⟨⟨rfl, rfl, rfl⟩, fun _ mem => (List.not_mem_nil mem).elim⟩

end Runs

/-- **Blocks are conserved.**  Whatever is done with any number of arrays over one counting
allocator, whatever lies under it: the counters are the tally of the calls, and when no hook has
panicked, the allocator has out a block for every array, with just the bytes that are reserved; it
has handed out as many blocks as it has taken back and has out; every block was given back, each
once and with its own size, or is the block of an array; and whenever a block was given back it was
out, and the tally covered it. -/
theorem blocks_conserved [Backend β] (options : (k : ι) → ArrayOptions κ (T k)) (inner : β)
    (context : κ) (turns : List (Turn T)) :
    let σ := ({ allocator := { inner }, context } : Ensemble (Counting β) κ T).run options turns
    Gauge.counting.read σ.allocator = (⟨0, 0⟩ : Tally).afterAll σ.journal ∧
    (panics σ.journal = [] →
      σ.allocator.liveBlocks = σ.arrays.length ∧
      σ.allocator.liveBytes = byteCount options σ.arrays ∧
      σ.allocator.allocations = σ.allocator.releases + σ.allocator.liveBlocks ∧
      (obtained σ.journal).Perm (released σ.journal ++ blocksOf options σ.arrays) ∧
      ∀ p block size q, σ.journal = p ++ .release block size :: q →
        (block, size) ::ₘ (released p : Multiset (Address × Size)) ≤ obtained p ∧
        1 ≤ ((⟨0, 0⟩ : Tally).afterAll p).blocks ∧
        size.toNat ≤ ((⟨0, 0⟩ : Tally).afterAll p).bytes) := by
  intro σ
  have settled := Ensemble.settled_run options ({ inner } : Counting β) context turns
  have counted := Ensemble.counted_run options inner context turns
  refine ⟨counted.live, fun calm => ?_⟩
  have moves := settled.moves calm
  have live : Gauge.counting.read σ.allocator = ⟨σ.arrays.length, byteCount options σ.arrays⟩ := by
    rw [← plus_heldByAll settled.sound, ← moves.tally_eq ⟨0, 0⟩]
    exact counted.live
  obtain ⟨blocks, bytes⟩ := Tally.ext_iff.mp live
  have balance : (obtained σ.journal).Perm (released σ.journal ++ blocksOf options σ.arrays) := by
    have balance := moves.outstanding_eq
    rw [outstanding_zero, zero_add, outstanding_heldByAll, add_comm, Multiset.coe_add] at balance
    exact Multiset.coe_eq_coe.mp balance
  refine ⟨blocks, bytes, ?_, balance, fun p block size q there => ?_⟩
  · have same := balance.length_eq
    rw [List.length_append, blocksOf, List.length_map, ← counted.allocations,
      ← counted.releases] at same
    rw [same]
    exact congrArg _ blocks.symm
  · exact ⟨moves.release_of_obtained there, moves.covers there⟩

/-- Six blocks were handed out, one more was refused, and only the block of the first array is still
out.  The first of them that went back was the sixth, which was out then. -/
theorem blocks_conserved_of_numbers :
    panics numbers.journal = [] ∧ numbers.allocator.allocations = 6 ∧
      numbers.allocator.liveBlocks = 1 ∧ numbers.allocator.liveBytes = 12 ∧
      (4176, 4) ::ₘ (released (numbers.journal.take 13) : Multiset (Address × Size)) ≤
        obtained (numbers.journal.take 13) := by
  have calm : panics numbers.journal = [] := by cbv
  have made : numbers.allocator.allocations = 6 := by cbv
  have left : numbers.arrays.length = 1 ∧ byteCount numberOptions numbers.arrays = 12 := by cbv
  have first : numbers.journal[13]? = some (.release 4176 4) := by cbv
  have there := (List.take_append_drop 13 numbers.journal).symm
  rw [List.drop_eq_getElem?_toList_append, first] at there
  obtain ⟨blocks, bytes, -, -, back⟩ :=
    (blocks_conserved numberOptions _ () numberTurns).2 calm
  exact ⟨calm, made, blocks.trans left.1, bytes.trans left.2, (back _ _ _ _ there).1⟩

end ReservedArray
