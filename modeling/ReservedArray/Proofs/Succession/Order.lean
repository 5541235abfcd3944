/-
# Originals outlive their replacement

Growing and sorting give an array another buffer.  All calls they make fall into two parts
(`Succeeds`).  In the first one the other buffer is *built*, with whatever scratch buffers that
takes; in the second one the old buffer is *retired*.  When building is stopped, by a refusal or a
panic, there is no second part, and the array keeps its buffer.

While the other buffer is built, the old one is not touched.  Its elements are copied, but all that
is disposed of was made since, and all blocks that go back were obtained since: as a statement about
holdings, building starts with none (`Moves 0`).  When the old buffer is retired, all scratch
buffers are gone, nothing is copied, compared or asked for any more, and the originals are disposed
of in slot order before the old block goes back.

To tell originals from copies, which may be equal, the elements are given marks
(`originals_outlive_replacement`).
-/
import Mathlib
import ReservedArray.Proofs.Conservation.Blocks
import ReservedArray.Proofs.Rollback
import ReservedArray.Proofs.Succession.Views

namespace ReservedArray

variable {α κ τ : Type}

open Entry (copied disposed obtained released)

/-! ## 1. Building and retiring -/

/-- What is called for an array while another buffer is built, and while the old one is retired. -/
inductive Succeeds (layout : Layout) (b : Buffer τ) :
    Outcome ArrayError Unit × Buffer τ → List (Entry τ) → List (Entry τ) → Prop
  /-- Building is stopped, and the array keeps its buffer. -/
  | kept {o : Outcome ArrayError Unit} {t : List (Entry τ)} {L : Multiset (Holding τ)} :
      Moves 0 t L → Succeeds layout b (o, b) t []
  /-- All that is left of building is the other buffer. -/
  | replaced {o : Outcome ArrayError Unit} {b' : Buffer τ} {event : Event}
      {t₁ t₂ : List (Entry τ)} : Moves 0 t₁ {b'.held layout} → b'.length = b.length →
      Supersedes layout b event o t₂ → Succeeds layout b (o, b') t₁ t₂

section Courses

variable {layout : Layout} {b : Buffer τ} {v : Outcome ArrayError Unit × Buffer τ}
  {t : List (Entry τ)}

theorem Grows.succeeds {reserve : Size} (h : Grows layout reserve b v t) :
    ∃ t₁ t₂, t = t₁ ++ t₂ ∧ Succeeds layout b v t₁ t₂ := by
  cases h with
  | rejected => exact ⟨[], [], rfl, .kept (.nil 0)⟩
  | refused _ takes =>
    have moves := takes.moves_error.1
    exact ⟨_, [], (List.append_nil _).symm, .kept (moves.append (.single (.report _ 0)))⟩
  | @interrupted fresh ys panic o t₁ t₂ t₃ _ takes fills leaves =>
    obtain ⟨moves, ends⟩ := fills.moves fresh
    obtain ⟨L, moves, -⟩ := takes.moves_leaves (by rwa [add_zero]) ends leaves
    exact ⟨_, [], (List.append_nil _).symm, .kept moves⟩
  | @superseded fresh ys o t₁ t₂ t₃ _ takes fills supersedes =>
    have taken := takes.moves_ok.1
    have moves : Moves {fresh.held layout} t₂ {(fresh.filled ys).held layout} :=
      (fills.moves (ε := ArrayError) fresh).1
    refine ⟨t₁ ++ t₂, t₃, (List.append_assoc t₁ t₂ t₃).symm, .replaced (taken.append moves) ?_
      supersedes⟩
    rw [Buffer.length_filled, takes.fresh.2.2, fills.length_eq, Buffer.length_toList, Nat.zero_add]

theorem SortsArray.succeeds (h : SortsArray layout b v t) :
    ∃ t₁ t₂, t = t₁ ++ t₂ ∧ Succeeds layout b v t₁ t₂ := by
  cases h with
  | empty => exact ⟨[], [], rfl, .kept (.nil 0)⟩
  | refused _ sorts =>
    obtain ⟨L, moves, -⟩ := sorts.moves
    exact ⟨_, [], (List.append_nil _).symm, .kept (moves.append (.single (.report _ _)))⟩
  | unwound _ sorts | aborted _ sorts =>
    obtain ⟨L, moves, -⟩ := sorts.moves
    exact ⟨_, [], (List.append_nil _).symm, .kept moves⟩
  | @superseded fresh o t₁ t₂ _ sorts supersedes =>
    obtain ⟨L, moves, ends⟩ := sorts.moves
    obtain ⟨-, rfl⟩ := ends.of_done
    rw [add_zero] at moves
    exact ⟨t₁, t₂, rfl, .replaced moves sorts.same_shape.1 supersedes⟩

end Courses

/-! ## 2. The two operations -/

/-- An operation that gives an array another buffer. -/
inductive Rebuild where
  | grow (reserve : Size)
  | sort

namespace Rebuild

/-- The operation on an array. -/
def run [Backend α] (options : ArrayOptions κ τ) (b : Buffer τ) :
    Rebuild → Run α κ τ (Outcome ArrayError Unit × Buffer τ)
  | grow reserve => b.grow options reserve
  | sort => b.sort options

variable [Backend α]

theorem meets_run (options : ArrayOptions κ τ) {b : Buffer τ} (room : b.length ≤ b.reserve.toNat)
    (rebuild : Rebuild) :
    Meets options.ops (rebuild.run options b : Run α κ τ _) fun v t =>
      ∃ t₁ t₂, t = t₁ ++ t₂ ∧ Succeeds options.layout b v t₁ t₂ := by
  cases rebuild with
  | grow reserve => exact (meets_grow options reserve room).mono fun _ _ grows => grows.succeeds
  | sort => exact (meets_sort options room).mono fun _ _ sorts => sorts.succeeds

/-- Neither takes notice of the marks. -/
theorem seen_run (options : ArrayOptions κ τ) (b : Buffer τ) (rebuild : Rebuild) :
    Seen Marked.element (Prod.map id (Buffer.seen Marked.element))
      (rebuild.run options.marked b.marked : Run α κ (Marked τ) _) (rebuild.run options b) := by
  have shows := options.shows_marked
  cases rebuild with
  | grow reserve =>
    have grown := seen_grow (α := α) shows reserve b.marked
    rwa [Buffer.seen_marked] at grown
  | sort =>
    have sorted := seen_sort (α := α) shows b.marked
    rwa [Buffer.seen_marked] at sorted

end Rebuild

/-! ## 3. Originals and copies -/

/-- Every copy in a trace of marked elements is marked as one. -/
def Entry.CopiesPlain : Entry (Marked τ) → Prop
  | .copy _ (some y) => y.origin = none
  | _ => True

/-- **The marked hooks make no originals.** -/
theorem Env.Steps.copiesPlain [Backend α] {ops : ElementOps κ τ} {e e' : Env α κ (Marked τ)}
    {t : List (Entry (Marked τ))} (h : Env.Steps ops.marked e t e') :
    ∀ q ∈ t, q.CopiesPlain := by
  have copied (x : Marked τ) (context : κ) :
      Entry.CopiesPlain (.copy x (ops.marked.copy x context).1.toOption) := by
    show Entry.CopiesPlain (.copy x ((ops.copy x.element context).1.map Marked.plain).toOption)
    cases (ops.copy x.element context).1 with
    | error panic => trivial
    | ok y => rfl
  exact h.forall_entries copied (fun _ _ => trivial) (fun _ _ _ => trivial) (fun _ _ => trivial)
    (fun _ _ => trivial) fun _ => trivial

section Building

variable {H : Multiset (Holding (Marked τ))} {t : List (Entry (Marked τ))}

theorem origin_of_mem_copied (plain : ∀ q ∈ t, q.CopiesPlain) {y : Marked τ} (mem : y ∈ copied t) :
    y.origin = none := by
  obtain ⟨q, there, result⟩ := List.mem_filterMap.mp mem
  cases q with
  | copy x answer =>
    obtain rfl : answer = some y := result
    exact plain _ there
  | dispose | compare | allocate | release | report => cases result

/-- **Where nothing is held at first, only copies are disposed of**, and only copies are left. -/
theorem Moves.only_copies (h : Moves 0 t H) (plain : ∀ q ∈ t, q.CopiesPlain) :
    (∀ x completed, .dispose x completed ∈ t → x.origin = none) ∧
      ∀ x ∈ contents H, x.origin = none := by
  have balance := h.contents_eq
  rw [contents_zero, zero_add] at balance
  constructor
  · intro x completed mem
    have gone : x ∈ disposed t := List.mem_filterMap.mpr ⟨_, mem, rfl⟩
    refine origin_of_mem_copied plain ?_
    rw [← Multiset.mem_coe, balance]
    exact Multiset.mem_add.mpr (.inr gone)
  · intro x mem
    refine origin_of_mem_copied plain ?_
    rw [← Multiset.mem_coe, balance]
    exact Multiset.mem_add.mpr (.inl mem)

end Building

/-! ## 4. Both operations, on every array -/

/-- **Originals outlive their replacement.**  Whatever the array, the hooks and the allocator, a
growing or a sorting goes, call by call, as it does with marks in the elements, which nothing takes
notice of.  With marks, its calls fall into two parts.

In the first one no original is disposed of, and every block that goes back is, with those that went
back before it, among the blocks obtained before it in this operation; so it is not the old one.
Either this is all, and the array is as it was.  Or the array has a buffer with a copy for every
element, which is the only block of this operation that is still out, and only then comes the second
part, in which nothing is copied, compared or asked for.  In it the originals are disposed of in slot
order, each of them once, and then the old block goes back; or a disposal panics, and then the
originals behind it are not disposed of and the old block does not go back. -/
theorem originals_outlive_replacement [Backend α] (options : ArrayOptions κ τ) (e : Env α κ τ)
    {b : Buffer τ} (sound : b.Sound options.layout) (rebuild : Rebuild) :
    let c : Run α κ τ (Outcome ArrayError Unit × Buffer τ) := rebuild.run options b
    let c' : Run α κ (Marked τ) (Outcome ArrayError Unit × Buffer (Marked τ)) :=
      rebuild.run options.marked b.marked
    let b' := (c'.run e.marked).1.2
    ((c.run e).1 = Prod.map id (Buffer.seen Marked.element) (c'.run e.marked).1 ∧
      e.calls c = (e.marked.calls c').map (Entry.map Marked.element)) ∧
    (b.marked.seen Marked.element = b ∧
      b.marked.toList.map Marked.origin = (List.range b.length).map some) ∧
    ∃ building retiring, e.marked.calls c' = building ++ retiring ∧
      (∀ x completed, .dispose x completed ∈ building → x.origin = none) ∧
      (∀ before block size rest, building = before ++ .release block size :: rest →
        (block, size) ::ₘ (released before : Multiset (Address × Size)) ≤ obtained before) ∧
      (retiring = [] ∧ b' = b.marked ∨
        (b'.length = b.length ∧ ∀ x ∈ b'.toList, x.origin = none) ∧
        (obtained building : Multiset (Address × Size)) =
          (b'.block, b'.bytes options.layout) ::ₘ released building ∧
        ((∃ event, retiring =
            disposals b.marked.toList ++ [.release b.block (b.bytes options.layout), .report event]) ∨
          ∃ before x after, b.marked.toList = before ++ x :: after ∧
            retiring = disposals before ++ [.dispose x false])) := by
  intro c c' b'
  have seen := Rebuild.seen_run (α := α) options b rebuild
  have value := seen.value_eq e.marked
  have calls := seen.calls_eq e.marked
  rw [Env.seen_marked] at value calls
  refine ⟨⟨value, calls⟩, ⟨b.seen_marked, b.origins_marked⟩, ?_⟩
  have room : b.marked.length ≤ b.marked.reserve.toNat := by
    rw [Buffer.length_marked]
    exact sound.length_le
  have meets : Meets options.marked.ops c' _ := Rebuild.meets_run options.marked room rebuild
  have copies : ∀ q ∈ e.marked.calls c', q.CopiesPlain := (meets.steps e.marked).copiesPlain
  obtain ⟨building, retiring, split, succeeds⟩ := meets.calls e.marked
  rw [split] at copies
  have plain := (List.forall_mem_append.mp copies).1
  refine ⟨building, retiring, split, ?_⟩
  generalize same : (c'.run e.marked).1 = v at succeeds
  have array_eq : b' = v.2 := congrArg Prod.snd same
  rw [array_eq]
  cases succeeds with
  | kept moves =>
    refine ⟨(moves.only_copies plain).1, ?_, .inl ⟨rfl, rfl⟩⟩
    intro before block size rest there
    exact moves.release_of_obtained there
  | @replaced o fresh event _ _ moves length_eq supersedes =>
    obtain ⟨disposed, left⟩ := moves.only_copies plain
    have blocks := moves.outstanding_eq
    rw [outstanding_zero, zero_add] at blocks
    refine ⟨disposed, ?_, .inr ⟨⟨?_, ?_⟩, blocks, ?_⟩⟩
    · intro before block size rest there
      exact moves.release_of_obtained there
    · rw [← b.length_marked]
      exact length_eq
    · intro x mem
      refine left x ?_
      exact Multiset.mem_bind.mpr ⟨_, Multiset.mem_singleton_self _, mem⟩
    · cases supersedes with
      | complete down =>
        cases down with
        | complete => exact .inl ⟨event, List.append_assoc _ _ _⟩
      | unwound down =>
        cases down with
        | panicked panic elements => exact .inr ⟨_, _, _, elements, rfl⟩

/-- Two numbers are sorted, and the disposal of the second original panics.  The trace shows two
disposals of a one and two of a two; the marks tell that the last two are of the originals. -/
theorem originals_outlive_replacement_of_pair :
    Buffer.pair.Sound ⟨4, 4⟩ ∧
      (scarce 3 0).calls (Buffer.pair.sort (wordOptions (panickingAt 8))) =
        [.allocate 8 (some 4096), .allocate 4 (some 4112), .allocate 4 (some 4128),
          .copy 2 (some 2), .copy 1 (some 1), .compare 2 1 (some .gt), .copy 1 (some 1),
          .copy 2 (some 2), .dispose 1 true, .release 4128 4, .dispose 2 true, .release 4112 4,
          .dispose 2 true, .dispose 1 false] ∧
      ∃ building retiring,
        (scarce 3 0).marked.calls
          (Buffer.pair.marked.sort (wordOptions (panickingAt 8)).marked) = building ++ retiring ∧
        (∀ x completed, .dispose x completed ∈ building → x.origin = none) ∧
        ∃ before x after, Buffer.pair.marked.toList = before ++ x :: after ∧
          retiring = disposals before ++ [.dispose x false] := by
  have calls : (scarce 3 0).calls (Buffer.pair.sort (wordOptions (panickingAt 8))) =
      [.allocate 8 (some 4096), .allocate 4 (some 4112), .allocate 4 (some 4128),
        .copy 2 (some 2), .copy 1 (some 1), .compare 2 1 (some .gt), .copy 1 (some 1),
        .copy 2 (some 2), .dispose 1 true, .release 4128 4, .dispose 2 true, .release 4112 4,
        .dispose 2 true, .dispose 1 false] := by
    cbv
    simp only [Buffer.merge_nil_right]
    cbv
  have replaced : ((Buffer.pair.sort (wordOptions (panickingAt 8))).run (scarce 3 0)).1.2 =
      { block := 4096, reserve := 2, slots := #[1, 2] } := by
    cbv
    simp only [Buffer.merge_nil_right]
    cbv
  obtain ⟨⟨value, seen⟩, -, building, retiring, split, disposed, -, kept | ⟨-, -, retired⟩⟩ :=
    originals_outlive_replacement (wordOptions (panickingAt 8)) (scarce 3 0) Buffer.sound_pair .sort
  · -- the array has another block
    have same : ({ block := 4096, reserve := 2, slots := #[1, 2] } : Buffer Nat) = Buffer.pair :=
      calc
        _ = _ := replaced.symm
        _ = Buffer.seen Marked.element _ := congrArg Prod.snd value
        _ = Buffer.pair.marked.seen Marked.element := congrArg (Buffer.seen _) kept.2
        _ = Buffer.pair := Buffer.pair.seen_marked
    exact absurd (congrArg Buffer.block same) (by decide)
  · refine ⟨Buffer.sound_pair, calls, building, retiring, split, disposed, ?_⟩
    rcases retired with ⟨event, rfl⟩ | torn
    · -- the last call is not a report
      have last := congrArg List.getLast? (calls.symm.trans seen)
      rw [split] at last
      simp [Entry.map] at last
    · exact torn

end ReservedArray
