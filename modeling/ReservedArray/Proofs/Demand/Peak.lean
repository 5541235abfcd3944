/-
# How much a sort has out at once

A sort of `n` elements takes `2 * n - 1` blocks altogether, but never has that many.  The buffers of
a level are taken before the first half is sorted and given back when both halves are merged; and
when the sort goes on with the second half, all that the first one needed for itself has gone back.
So what is out at any moment is the block for the result, and two blocks for each level from the top
down to where the sort is.

`Within` says of a trace that at no moment of it more than so many blocks and bytes are out on top
of what was out before.  Along the courses of a sort there are two rules for one trace after
another:

* what is still out after the first one adds to what is out in the second (`Within.append`);
* when nothing is, the larger of both is enough (`Within.append_balanced`).

The second rule is for the two halves, and makes the blocks logarithmic (`Sorts.within`).  The bytes
of a level are those of its list, and an odd list adds one element to its upper half.  This gives
another element for every level, so `2 * n` elements for all levels are not enough, but
`2 * n + ⌈log₂ n⌉` are.
-/
import Mathlib
import ReservedArray.Proofs.Demand.Exact

namespace ReservedArray

variable {α κ τ ε β : Type}

open Entry (requests obtained released measures)

/-! ## 1. Traces within bounds -/

/-- At every moment of the trace, so many blocks and bytes at most are out on top of what was out
before it. -/
def Within (blocks bytes : Nat) (t : List (Entry τ)) : Prop :=
  ∀ (n : Tally) (p : List (Entry τ)), p <+: t →
    (n.afterAll p).blocks ≤ n.blocks + blocks ∧ (n.afterAll p).bytes ≤ n.bytes + bytes

/-- A moment of one trace after another is in the first one or has it behind. -/
theorem prefix_append_cases {p t t' : List β} (before : p <+: t ++ t') :
    p <+: t ∨ ∃ rest, p = t ++ rest ∧ rest <+: t' := by
  rcases Nat.le_total p.length t.length with inside | behind
  · exact .inl (List.prefix_of_prefix_length_le before (List.prefix_append t t') inside)
  · obtain ⟨rest, rfl⟩ := List.prefix_of_prefix_length_le (List.prefix_append t t') before behind
    exact .inr ⟨rest, rfl, (List.prefix_append_right_inj t).mp before⟩

namespace Within

variable {blocks bytes blocks' bytes' : Nat} {t t' : List (Entry τ)}

theorem mono (h : Within blocks bytes t) (le : blocks ≤ blocks') (le' : bytes ≤ bytes') :
    Within blocks' bytes' t := by
  intro n p before
  obtain ⟨few, small⟩ := h n p before
  exact ⟨few.trans (Nat.add_le_add_left le _), small.trans (Nat.add_le_add_left le' _)⟩

/-- For one trace after another, the moments in the first are looked at, and those behind it. -/
theorem of_append (first : Within blocks bytes t)
    (second : ∀ (n : Tally) (p : List (Entry τ)), p <+: t' →
      ((n.afterAll t).afterAll p).blocks ≤ n.blocks + blocks ∧
        ((n.afterAll t).afterAll p).bytes ≤ n.bytes + bytes) :
    Within blocks bytes (t ++ t') := by
  intro n p before
  rcases prefix_append_cases before with inside | ⟨rest, rfl, inside⟩
  · exact first n p inside
  · rw [Tally.afterAll_append]
    exact second n rest inside

/-- **One trace after another**: what is out after the first adds to the second. -/
theorem append (h : Within blocks bytes t) (h' : Within blocks' bytes' t') :
    Within (blocks + blocks') (bytes + bytes') (t ++ t') := by
  refine .of_append (h.mono (Nat.le_add_right _ _) (Nat.le_add_right _ _)) ?_
  intro n p before
  obtain ⟨few, small⟩ := h n t (List.prefix_refl t)
  obtain ⟨few', small'⟩ := h' (n.afterAll t) p before
  constructor <;> omega

/-- **One trace after another, when all has gone back in between.** -/
theorem append_balanced (h : Within blocks bytes t) (balanced : ∀ n : Tally, n.afterAll t = n)
    (h' : Within blocks bytes t') : Within blocks bytes (t ++ t') := by
  refine .of_append h ?_
  intro n p before
  rw [balanced n]
  exact h' n p before

/-- Without a request, nothing more is out at any moment. -/
theorem of_unasked (unasked : requests t = []) : Within 0 0 t := by
  induction t with
  | nil =>
    intro n p before
    rw [List.prefix_nil.mp before]
    exact ⟨le_rfl, le_rfl⟩
  | cons q t ih =>
    intro n p before
    rcases List.prefix_cons_iff.mp before with rfl | ⟨p, rfl, rest⟩
    · exact ⟨le_rfl, le_rfl⟩
    · have first : (n.after q).blocks ≤ n.blocks ∧ (n.after q).bytes ≤ n.bytes ∧
          requests t = [] := by
        cases q with
        | allocate => cases unasked
        | release block size => exact ⟨Nat.sub_le _ _, Nat.sub_le _ _, unasked⟩
        | copy | dispose | compare | report => exact ⟨le_rfl, le_rfl, unasked⟩
      obtain ⟨few, small⟩ := ih first.2.2 (n.after q) p rest
      exact ⟨few.trans first.1, small.trans first.2.1⟩

/-- What comes behind without a request makes no difference. -/
theorem append_unasked (h : Within blocks bytes t) (unasked : requests t' = []) :
    Within blocks bytes (t ++ t') :=
  h.append (of_unasked unasked)

/-- One request, and no other. -/
theorem cons_allocate (size : Size) (block : Option Address) (unasked : requests t = []) :
    Within 1 size.toNat (.allocate size block :: t) := by
  intro n p before
  rcases List.prefix_cons_iff.mp before with rfl | ⟨p, rfl, rest⟩
  · exact ⟨Nat.le_add_right _ _, Nat.le_add_right _ _⟩
  · obtain ⟨few, small⟩ := of_unasked unasked (n.after (.allocate size block)) p rest
    cases block with
    | none => exact ⟨few.trans (Nat.le_succ _), small.trans (Nat.le_add_right _ _)⟩
    | some block => exact ⟨few, small⟩

end Within

/-! ## 2. The courses of a sort -/

section Courses

variable {layout : Layout} {b : Buffer τ} {t : List (Entry τ)}

/-- For a block, no more than its bytes are out, whatever comes of it. -/
theorem Takes.within {reserve : Size} {r : Except AllocError (Buffer τ)}
    (h : Takes layout reserve r t) : Within 1 (reserve.toNat * layout.size.toNat) t := by
  have wrapped : (reserve * layout.size).toNat ≤ reserve.toNat * layout.size.toNat := by
    rw [UInt64.toNat_mul]
    exact Nat.mod_le _ _
  cases h with
  | sizeOverflow | zeroSize =>
    exact (Within.of_unasked rfl).mono (Nat.zero_le _) (Nat.zero_le _)
  | exhausted events | granted events =>
    exact (Within.cons_allocate _ _ (Entry.requests_reports events)).mono le_rfl wrapped
  | misaligned events =>
    rw [List.cons_append]
    refine (Within.cons_allocate _ _ ?_).mono le_rfl wrapped
    rw [Entry.requests_append, Entry.requests_reports]
    rfl

/-- For a part of a list, no more than the bytes of the part. -/
theorem Takes.within_part {m : Nat} {r : Except AllocError (Buffer τ)}
    (h : Takes layout m.toUInt64 r t) : Within 1 (m * layout.size.toNat) t := by
  have wrapped : m.toUInt64.toNat ≤ m := by
    rw [Nat.toUInt64_eq, UInt64.toNat_ofNat']
    exact Nat.mod_le _ _
  exact h.within.mono le_rfl (Nat.mul_le_mul_right _ wrapped)

/-- The halves of a list take up as much as the list. -/
theorem halves_eq (n size : Nat) : n / 2 * size + (n - n / 2) * size = n * size := by
  rw [← Nat.add_mul, Nat.add_sub_cancel' (Nat.div_le_self n 2)]

/-- For the two halves of a list, no more than the bytes of the list. -/
theorem TakesHalves.within {n : Nat} {left right : Buffer τ}
    (h : TakesHalves layout n left right t) : Within 2 (n * layout.size.toNat) t := by
  cases h with
  | both takesLeft takesRight =>
    exact (takesLeft.within_part.append takesRight.within_part).mono le_rfl (halves_eq n _).le

/-- A buffer that was taken is out. -/
theorem Takes.afterAll_eq {reserve : Size} (h : Takes layout reserve (.ok b) t) (n : Tally) :
    n.afterAll t = n.obtain (b.bytes layout) := by
  cases h with
  | granted events block => exact Tally.afterAll_reports _ events

/-- Where the allocator is not called, nothing comes or goes. -/
theorem Tally.afterAll_of_unmeasured (unmeasured : measures t = []) (n : Tally) :
    n.afterAll t = n := by
  induction t with
  | nil => rfl
  | cons q t ih =>
    cases q with
    | allocate | release => cases unmeasured
    | copy | dispose | compare | report => exact ih unmeasured

/-- A buffer that was torn down has gone back. -/
theorem TearsDown.afterAll_eq (h : TearsDown layout b (.ok ()) t) (n : Tally) :
    n.afterAll t = n.giveBack (b.bytes layout) := by
  cases h with
  | complete =>
    rw [Tally.afterAll_append, Tally.afterAll_of_unmeasured (Entry.measures_disposals _)]
    rfl

/-- Only what is cleaned up without a panic ends well. -/
theorem Outcome.eq_ok_of_after {o : Outcome ε β} {r : Except Panic Unit} {value : β}
    (h : o.after r = .done value) : r = .ok () := by
  cases r with
  | ok => rfl
  | error panic => rcases Outcome.after_error panic o with stopped | stopped <;> simp [stopped] at h

theorem Leaves.afterAll_eq {o o' : Outcome ε Unit} (h : Leaves layout b o o' t)
    (done : o' = .done ()) (n : Tally) : n.afterAll t = n.giveBack (b.bytes layout) := by
  cases h with
  | aborted => cases done
  | torn _ down =>
    obtain rfl := Outcome.eq_ok_of_after done
    exact down.afterAll_eq n

/-- **A sort that is done has given everything back.** -/
theorem Sorts.afterAll_eq {xs ys : List τ} (h : Sorts layout xs ys (.done ()) t) (n : Tally) :
    n.afterAll t = n := by
  induction h using Sorts.done_induction_on generalizing n with
  | short _ fills => exact Tally.afterAll_of_unmeasured fills.measures_eq n
  | merged _ takes _ _ merges leaves ihLeft ihRight =>
    simp only [Tally.afterAll_append, ihLeft, ihRight,
      Tally.afterAll_of_unmeasured merges.measures_eq]
    cases takes with
    | both takesLeft takesRight =>
      cases leaves with
      | both leavesRight leavesLeft =>
        obtain rfl := leavesLeft.eq_of_standing nofun nofun
        rw [Tally.afterAll_append, Tally.afterAll_append, takesLeft.afterAll_eq,
          takesRight.afterAll_eq, leavesRight.afterAll_eq rfl, leavesLeft.afterAll_eq rfl,
          Buffer.bytes_filled, Buffer.bytes_filled, Tally.giveBack_obtain, Tally.giveBack_obtain]

/-! ## 3. Levels -/

/-- How many blocks a sort of `n` elements has out at most, besides the one for its result. -/
def peakBlocks (n : Nat) : Nat := 2 * Nat.clog 2 n

/-- How many elements these blocks have room for at most. -/
def peakSlots (n : Nat) : Nat := 2 * n + Nat.clog 2 n

theorem peakBlocks_mono {m n : Nat} (le : m ≤ n) : peakBlocks m ≤ peakBlocks n :=
  Nat.mul_le_mul_left 2 (Nat.clog_mono_right 2 le)

theorem peakSlots_mono {m n : Nat} (le : m ≤ n) : peakSlots m ≤ peakSlots n :=
  Nat.add_le_add (Nat.mul_le_mul_left 2 le) (Nat.clog_mono_right 2 le)

/-- **One level more**: two blocks with room for the whole list, and what the larger half needs. -/
theorem peak_level {n : Nat} (long : 1 < n) :
    2 + peakBlocks (n - n / 2) = peakBlocks n ∧ n + peakSlots (n - n / 2) ≤ peakSlots n := by
  have upper : (n + 2 - 1) / 2 = n - n / 2 := by omega
  have depth : Nat.clog 2 n = Nat.clog 2 (n - n / 2) + 1 := by
    rw [Nat.clog_of_two_le Nat.one_lt_two long, upper]
  unfold peakBlocks peakSlots
  constructor <;> omega

/-- What is out for a list of `n` elements at most. -/
abbrev WithinPeak (layout : Layout) (n : Nat) (t : List (Entry τ)) : Prop :=
  Within (peakBlocks n) (peakSlots n * layout.size.toNat) t

theorem WithinPeak.mono {m n : Nat} (h : WithinPeak layout m t) (le : m ≤ n) :
    WithinPeak layout n t :=
  Within.mono h (peakBlocks_mono le) (Nat.mul_le_mul_right _ (peakSlots_mono le))

theorem WithinPeak.of_unasked {n : Nat} (unasked : requests t = []) : WithinPeak layout n t :=
  (Within.of_unasked unasked).mono (Nat.zero_le _) (Nat.zero_le _)

/-- The blocks of a level, and below it what is out for the larger half. -/
theorem WithinPeak.of_level {n : Nat} {t' : List (Entry τ)} (long : 1 < n)
    (level : Within 2 (n * layout.size.toNat) t) (below : WithinPeak layout (n - n / 2) t') :
    WithinPeak layout n (t ++ t') := by
  obtain ⟨blocks, slots⟩ := peak_level long
  refine (level.append below).mono blocks.le ?_
  rw [← Nat.add_mul]
  exact Nat.mul_le_mul_right _ slots

/-- **What a sort has out at any moment**, however it goes on. -/
theorem Sorts.within {xs ys : List τ} {o : Outcome AllocError Unit} (h : Sorts layout xs ys o t) :
    WithinPeak layout xs.length t := by
  -- the lower half needs no more than the upper one
  have lower (xs : List τ) :
      (xs.take (xs.length / 2)).length ≤ xs.length - xs.length / 2 := by
    rw [List.length_take_of_le (Nat.div_le_self _ 2)]
    omega
  have upper (xs : List τ) : (xs.drop (xs.length / 2)).length ≤ xs.length - xs.length / 2 := by
    rw [List.length_drop]
  induction h with
  | short _ fills => exact .of_unasked fills.requests_eq
  | @leftRefused xs e t long takesLeft =>
    have part : xs.length / 2 * layout.size.toNat ≤ xs.length * layout.size.toNat :=
      Nat.mul_le_mul_right _ (Nat.div_le_self _ 2)
    rw [← List.append_nil t]
    exact .of_level long (takesLeft.within_part.mono one_le_two part) (.of_unasked rfl)
  | @rightRefused xs left e o t₁ t₂ t₃ long takesLeft takesRight leaves =>
    have level := (takesLeft.within_part.append takesRight.within_part).mono le_rfl
      (halves_eq xs.length layout.size.toNat).le
    rw [← List.append_assoc]
    exact .of_level long level (.of_unasked leaves.requests_eq)
  | leftStopped long takes _ _ leaves ihLeft =>
    refine .of_level long takes.within ?_
    exact Within.append_unasked (ihLeft.mono (lower _)) leaves.requests_eq
  | rightStopped long takes sortsLeft _ _ leaves ihLeft ihRight =>
    refine .of_level long takes.within ?_
    exact Within.append_balanced (ihLeft.mono (lower _)) sortsLeft.afterAll_eq
      (Within.append_unasked (ihRight.mono (upper _)) leaves.requests_eq)
  | merged long takes sortsLeft _ merges leaves ihLeft ihRight =>
    refine .of_level long takes.within ?_
    refine Within.append_balanced (ihLeft.mono (lower _)) sortsLeft.afterAll_eq ?_
    refine Within.append_unasked (ihRight.mono (upper _)) ?_
    rw [Entry.requests_append, merges.requests_eq, leaves.requests_eq]
    rfl

/-! ## 4. Arrays -/

/-- The block for the result, and what is out for sorting into it. -/
theorem SortsAnew.within {o : Outcome AllocError (Buffer τ)} (h : SortsAnew layout b o t) :
    Within (1 + peakBlocks b.length)
      ((b.reserve.toNat + peakSlots b.length) * layout.size.toNat) t := by
  rw [Nat.add_mul, ← Buffer.length_toList]
  cases h with
  | refused takes =>
    exact takes.within.mono (Nat.le_add_right _ _) (Nat.le_add_right _ _)
  | stopped takes sorts _ leaves =>
    exact takes.within.append (sorts.within.append_unasked leaves.requests_eq)
  | sorted takes sorts => exact takes.within.append sorts.within

/-- **What sorting an array has out at any moment.** -/
theorem SortsArray.within {v : Outcome ArrayError Unit × Buffer τ} (h : SortsArray layout b v t) :
    Within (1 + peakBlocks b.length)
      ((b.reserve.toNat + peakSlots b.length) * layout.size.toNat) t := by
  cases h with
  | empty => exact (Within.of_unasked rfl).mono (Nat.zero_le _) (Nat.zero_le _)
  | refused _ sorts => exact sorts.within.append_unasked rfl
  | unwound _ sorts | aborted _ sorts => exact sorts.within
  | superseded _ sorts supersedes => exact sorts.within.append_unasked supersedes.requests_eq

/-- The blocks that were obtained in a trace and not given back. -/
def unreturned (t : List (Entry τ)) : Multiset (Address × Size) :=
  (obtained t : Multiset (Address × Size)) - (released t : Multiset (Address × Size))

/-- As many blocks, of as many bytes, as the tally has. -/
theorem Moves.unreturned_eq {L : Multiset (Holding τ)} (h : Moves 0 t L) :
    Multiset.card (unreturned t) = ((⟨0, 0⟩ : Tally).afterAll t).blocks ∧
      ((unreturned t).map fun q => q.2.toNat).sum = ((⟨0, 0⟩ : Tally).afterAll t).bytes := by
  have held : unreturned t = outstanding L := by
    have balance := h.outstanding_eq
    rw [outstanding_zero, zero_add] at balance
    rw [unreturned, balance, Multiset.add_sub_cancel_right]
  have counted := h.tally_eq ⟨0, 0⟩
  rw [Tally.plus_zero] at counted
  rw [held, counted, outstanding, Multiset.card_map, Multiset.map_map]
  exact ⟨(Nat.zero_add _).symm, (Nat.zero_add _).symm⟩

theorem obtained_of_unasked (unasked : requests t = []) : obtained t = [] := by
  induction t with
  | nil => rfl
  | cons q t ih =>
    cases q with
    | allocate => cases unasked
    | copy | dispose | compare | release | report => exact ih unasked

/-- What comes behind without a request only gives back. -/
theorem unreturned_append_le {t' : List (Entry τ)} (unasked : requests t' = []) :
    unreturned (t ++ t') ≤ unreturned t := by
  rw [unreturned, Entry.obtained_append, Entry.released_append, obtained_of_unasked unasked,
    List.append_nil, ← Multiset.coe_add, tsub_add_eq_tsub_tsub]
  exact tsub_le_self

/-- Until the old buffer is torn down, a sort moves only what it takes itself; and from then on it
takes nothing. -/
theorem SortsArray.split {v : Outcome ArrayError Unit × Buffer τ} (h : SortsArray layout b v t) :
    ∃ (t₁ t₂ : List (Entry τ)) (L : Multiset (Holding τ)), t = t₁ ++ t₂ ∧ Moves 0 t₁ L ∧
      requests t₂ = [] := by
  cases h with
  | empty => exact ⟨[], [], 0, rfl, .nil 0, rfl⟩
  | @refused source t _ sorts =>
    obtain ⟨L, moves, -⟩ := sorts.moves
    exact ⟨t, _, _, rfl, moves, rfl⟩
  | unwound _ sorts | aborted _ sorts =>
    obtain ⟨L, moves, -⟩ := sorts.moves
    exact ⟨t, [], _, (List.append_nil t).symm, moves, rfl⟩
  | superseded _ sorts supersedes =>
    obtain ⟨L, moves, -⟩ := sorts.moves
    exact ⟨_, _, _, rfl, moves, supersedes.requests_eq⟩

/-- At every moment of a sort, the blocks that it obtained and has not given back are bounded. -/
theorem SortsArray.unreturned_le {v : Outcome ArrayError Unit × Buffer τ} {p : List (Entry τ)}
    (h : SortsArray layout b v t) (before : p <+: t) :
    Multiset.card (unreturned p) ≤ 1 + peakBlocks b.length ∧
      ((unreturned p).map fun q => q.2.toNat).sum ≤
        (b.reserve.toNat + peakSlots b.length) * layout.size.toNat := by
  obtain ⟨t₁, t₂, L, whole, moves, unasked⟩ := h.split
  have own {p : List (Entry τ)} (inside : p <+: t₁) :
      Multiset.card (unreturned p) ≤ 1 + peakBlocks b.length ∧
        ((unreturned p).map fun q => q.2.toNat).sum ≤
          (b.reserve.toNat + peakSlots b.length) * layout.size.toNat := by
    obtain ⟨rest, rfl⟩ := inside
    obtain ⟨K, moves, -⟩ := moves.split
    have first : p <+: t := by
      rw [whole, List.append_assoc]
      exact List.prefix_append _ _
    have within := h.within ⟨0, 0⟩ p first
    rw [moves.unreturned_eq.1, moves.unreturned_eq.2]
    simpa using within
  rw [whole] at before
  rcases prefix_append_cases before with inside | ⟨rest, rfl, tail, rfl⟩
  · exact own inside
  · obtain ⟨few, small⟩ := own (List.prefix_refl t₁)
    rw [Entry.requests_append, List.append_eq_nil_iff] at unasked
    obtain ⟨more, same⟩ := Multiset.le_iff_exists_add.mp
      (unreturned_append_le (t := t₁) unasked.1)
    rw [same, Multiset.card_add] at few
    rw [same, Multiset.map_add, Multiset.sum_add] at small
    exact ⟨(Nat.le_add_right _ _).trans few, (Nat.le_add_right _ _).trans small⟩

end Courses

/-- **A moment of a computation** is a state that calls lead to from its beginning, and from which
calls lead to its end. -/
structure Moment [Backend α] (ops : ElementOps κ τ) (c : Run α κ τ β) (e e₁ : Env α κ τ)
    (p : List (Entry τ)) : Prop where
  before : Env.Steps ops e p e₁
  after : ∃ q, Env.Steps ops e₁ q (c.run e).2

/-- What was called until then is a first part of what is called altogether. -/
theorem Moment.calls [Backend α] {ops : ElementOps κ τ} {c : Run α κ τ β} {e e₁ : Env α κ τ}
    {p : List (Entry τ)} (h : Moment ops c e e₁ p) : p <+: e.calls c := by
  obtain ⟨q, after⟩ := h.after
  rw [(h.before.trans after).calls_eq]
  exact List.prefix_append p q

/-- **How much a sort has out at once.**  Whatever the hooks and the allocator do, and however the
sort ends: at every moment of it the blocks that it has obtained and not given back are no more than
one and two for each level, and their sizes add up to no more than the reserve, twice the elements
and one element for each level take up.  So no gauge of the allocator ever reads more than that
above what it read when the sort began, nor do the counters of an allocator that counts. -/
theorem sort_peak (options : ArrayOptions κ τ) {b : Buffer τ} (sound : b.Sound options.layout) :
    let blocks := 1 + 2 * Nat.clog 2 b.length
    let bytes := (b.reserve.toNat + 2 * b.length + Nat.clog 2 b.length) * options.layout.size.toNat
    (∀ {α : Type} [Backend α] (e : Env α κ τ) (p : List (Entry τ)),
      p <+: e.calls (b.sort options) →
      Multiset.card (unreturned p) ≤ blocks ∧
      ((unreturned p).map fun q => q.2.toNat).sum ≤ bytes) ∧
    (∀ {α : Type} [Backend α] (e e₁ : Env α κ τ) (p : List (Entry τ)),
      Moment options.ops (b.sort options) e e₁ p → ∀ g : Gauge α,
      (g.read e₁.allocator).blocks ≤ (g.read e.allocator).blocks + blocks ∧
      (g.read e₁.allocator).bytes ≤ (g.read e.allocator).bytes + bytes) ∧
    ∀ {α : Type} [Backend α] (e e₁ : Env (Counting α) κ τ) (p : List (Entry τ)),
      Moment options.ops (b.sort options) e e₁ p →
      e₁.allocator.liveBlocks ≤ e.allocator.liveBlocks + blocks ∧
      e₁.allocator.liveBytes ≤ e.allocator.liveBytes + bytes := by
  intro blocks bytes
  have slots : b.reserve.toNat + peakSlots b.length =
      b.reserve.toNat + 2 * b.length + Nat.clog 2 b.length := (Nat.add_assoc _ _ _).symm
  have gauged {α : Type} [Backend α] (e e₁ : Env α κ τ) (p : List (Entry τ))
      (moment : Moment options.ops (b.sort options) e e₁ p) (g : Gauge α) :
      (g.read e₁.allocator).blocks ≤ (g.read e.allocator).blocks + blocks ∧
        (g.read e₁.allocator).bytes ≤ (g.read e.allocator).bytes + bytes := by
    have within := ((meets_sort options sound.length_le).calls e).within
    rw [slots] at within
    rw [g.read_steps moment.before]
    exact within _ p moment.calls
  refine ⟨?_, gauged, ?_⟩
  · intro α _ e p before
    have bounds := ((meets_sort options sound.length_le).calls e).unreturned_le before
    rwa [slots] at bounds
  · intro α _ e e₁ p moment
    exact gauged e e₁ p moment Gauge.counting

/-- Two numbers need three blocks, which are all out when the two halves are merged; and no more
than that can be out. -/
theorem sort_peak_of_pair :
    let calls := (scarce 3 ()).calls (Buffer.pair.sort (wordOptions (.plain compare)))
    (Multiset.card (unreturned (calls.take 3)) = 3 ∧
      ((unreturned (calls.take 3)).map fun q => q.2.toNat).sum = 16) ∧
    ∀ p, p <+: calls → Multiset.card (unreturned p) ≤ 3 ∧
      ((unreturned p).map fun q => q.2.toNat).sum ≤ 28 := by
  intro calls
  have taken : ((scarce 3 ()).calls (Buffer.pair.sort (wordOptions (.plain compare)))).take 3 =
      [.allocate 8 (some 4096), .allocate 4 (some 4112), .allocate 4 (some 4128)] := by
    cbv
    simp only [Buffer.merge_nil_right]
    cbv
  have bounds := (sort_peak (κ := Unit) (wordOptions (.plain compare)) Buffer.sound_pair).1
    (scarce 3 ())
  have depth : Nat.clog 2 Buffer.pair.length = 1 := Nat.clog_eq_one le_rfl le_rfl
  rw [depth] at bounds
  refine ⟨?_, bounds⟩
  rw [taken]
  decide

end ReservedArray
