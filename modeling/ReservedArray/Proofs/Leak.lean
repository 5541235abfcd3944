/-
# What a disposal that panics costs

When the dispose hook panics, the buffer that is being torn down is given up: its block and the
elements behind the one at fault are lost.  This file proves that it is only this one buffer, when
no other hook panics.

`Leaks H t x h H'` puts it together.  At some point of the calls `t` the element `x` came first in
a buffer and its disposal panicked, and `h` is what was left of that buffer.  From then on the
calls went on without it, from the other holdings to `H'`.  So what was held and what was obtained
on the way is, each thing once, in `H'` or in `h` or was given up; in particular no element was
disposed of twice.

* An array that is dropped is lost from there on.
* An array that grows has the new buffer by then, complete, and loses the old one.
* An array that is sorted either has its old elements still, and loses a buffer that the sort had
  taken, or has them in order by then, and loses its old buffer.  Which of the two it is depends on
  how far the sort came (`Buffer.sorted`).
-/
import ReservedArray.Proofs.Rollback
import ReservedArray.Proofs.StableSort

namespace ReservedArray

variable {α κ τ σ ε β γ : Type}

open Entry (panics copied disposed obtained released)

/-! ## 1. What is lost stays lost -/

/-- A holding that is not lost is another one than a lost one. -/
theorem cons_of_lost {k h : Holding τ} {H K : Multiset (Holding τ)} (standing : k.lost = false)
    (lost : h.lost = true) (same : h ::ₘ K = k ::ₘ H) : ∃ C, H = h ::ₘ C ∧ K = k ::ₘ C := by
  rcases Multiset.cons_eq_cons.mp same with ⟨rfl, -⟩ | ⟨-, C, rest, rest'⟩
  · rw [lost] at standing
    cases standing
  · exact ⟨C, rest', rest⟩

/-- No call touches a lost holding. -/
theorem Move.of_lost {h : Holding τ} {K H' : Multiset (Holding τ)} {q : Entry τ}
    (move : Move (h ::ₘ K) q H') (lost : h.lost = true) : ∃ K', H' = h ::ₘ K' ∧ Move K q K' := by
  generalize before : h ::ₘ K = H at move
  cases move with
  | allocate block size =>
    subst before
    exact ⟨_, Multiset.cons_swap _ _ _, .allocate block size K⟩
  | copy block size x y xs H =>
    obtain ⟨C, rfl, rfl⟩ := cons_of_lost rfl lost before
    exact ⟨_, Multiset.cons_swap _ _ _, .copy block size x y xs C⟩
  | dispose block size x xs H =>
    obtain ⟨C, rfl, rfl⟩ := cons_of_lost rfl lost before
    exact ⟨_, Multiset.cons_swap _ _ _, .dispose block size x xs C⟩
  | lose block size x xs H =>
    obtain ⟨C, rfl, rfl⟩ := cons_of_lost rfl lost before
    exact ⟨_, Multiset.cons_swap _ _ _, .lose block size x xs C⟩
  | release block size H =>
    obtain ⟨C, rfl, rfl⟩ := cons_of_lost rfl lost before
    exact ⟨C, rfl, .release block size C⟩
  | refused size => exact ⟨K, before.symm, .refused size K⟩
  | copyPanicked x => exact ⟨K, before.symm, .copyPanicked x K⟩
  | compare x y answer => exact ⟨K, before.symm, .compare x y answer K⟩
  | report event => exact ⟨K, before.symm, .report event K⟩

theorem Moves.of_lost {h : Holding τ} {K H' : Multiset (Holding τ)} {t : List (Entry τ)}
    (moves : Moves (h ::ₘ K) t H') (lost : h.lost = true) :
    ∃ K', H' = h ::ₘ K' ∧ Moves K t K' := by
  generalize before : h ::ₘ K = H at moves
  induction moves generalizing K with
  | nil => exact ⟨K, before.symm, .nil K⟩
  | cons move _ ih =>
    subst before
    obtain ⟨K₁, rfl, first⟩ := move.of_lost lost
    obtain ⟨K₂, rfl, rest⟩ := ih rfl
    exact ⟨K₂, rfl, .cons first rest⟩

/-! ## 2. One disposal that panics -/

/-- The disposal of `x` panics, and `h` is what is left of the buffer it was in; all else that was
held or obtained is held in the end or was given up. -/
structure Leaks (H : Multiset (Holding τ)) (t : List (Entry τ)) (x : τ) (h : Holding τ)
    (H' : Multiset (Holding τ)) : Prop where
  /-- With `x` in front the buffer was whole, and the calls after that go on without it. -/
  torn : ∃ t₁ t₂ K, t = t₁ ++ .dispose x false :: t₂ ∧
    Moves H t₁ ({{ block := h.block, size := h.size, elements := x :: h.elements }} + K) ∧
    Moves K t₂ H'
  /-- No element is disposed of twice. -/
  once : (disposed t : Multiset τ) ≤ contents H + (copied t : Multiset τ)
  /-- Every element is disposed of, is left in the buffer that is lost, or is held. -/
  elements : contents H + (copied t : Multiset τ) =
    contents H' + (h.elements : Multiset τ) + (disposed t : Multiset τ)
  /-- Every block goes back once with its own size, is the one that is lost, or is held. -/
  blocks : outstanding H + (obtained t : Multiset (Address × Size)) =
    outstanding H' + {(h.block, h.size)} + (released t : Multiset (Address × Size))

/-- **One disposal that panics loses one buffer.** -/
theorem Leaks.of_moves {H H' : Multiset (Holding τ)} {t : List (Entry τ)} {x : τ} {h : Holding τ}
    (moves : Moves H t ({h} + H')) (lost : h.lost = true) (standing : ∀ k ∈ H', k.lost = false)
    (panicked : panics t = [.dispose x false]) : Leaks H t x h H' := by
  have balance := moves.contents_eq
  rw [Multiset.singleton_add, contents_cons, add_comm (h.elements : Multiset τ)] at balance
  refine ⟨?_, ?_, balance, ?_⟩
  · have mem : Entry.dispose x false ∈ t :=
      (List.mem_filter.mp (panicked ▸ List.mem_singleton.mpr rfl)).1
    obtain ⟨t₁, t₂, rfl⟩ := List.append_of_mem mem
    obtain ⟨M, first, rest⟩ := moves.split
    cases rest with
    | cons move rest =>
      cases move with
      | lose block size x xs K =>
        obtain ⟨K', same, rest⟩ := rest.of_lost rfl
        -- the holding that is lost in the end is the one that was lost here
        rw [Multiset.singleton_add] at same
        rcases Multiset.cons_eq_cons.mp same with ⟨rfl, rfl⟩ | ⟨-, C, rfl, -⟩
        · exact ⟨t₁, t₂, K, rfl, first, rest⟩
        · have held := standing _ (Multiset.mem_cons_self _ C)
          cases held
  · rw [balance]
    exact Multiset.le_add_left _ _
  · have balance := moves.outstanding_eq
    rw [Multiset.singleton_add, outstanding_cons] at balance
    rw [balance, ← Multiset.singleton_add, add_comm (outstanding H')]

/-- An array is given up from its element `x` on, whose disposal panics. -/
def Buffer.LostFrom (layout : Layout) (b : Buffer τ) (x : τ) (t : List (Entry τ))
    (H : Multiset (Holding τ)) : Prop :=
  ∃ before after, b.toList = before ++ x :: after ∧
    Leaks {b.held layout} t x (b.remains layout after) H

/-! ## 3. Dropping -/

/-- A buffer that is torn down loses what is behind the element at fault. -/
theorem TearsDown.leaks {layout : Layout} {b : Buffer τ} {r : Except Panic Unit}
    {t : List (Entry τ)} {x : τ} (h : TearsDown layout b r t)
    (panicked : panics t = [.dispose x false]) :
    (∃ panic, r = .error panic) ∧ b.LostFrom layout x t 0 := by
  cases r with
  | ok =>
    rw [h.moves_ok.2] at panicked
    cases panicked
  | error panic =>
    obtain ⟨before, y, after, elements, panicked', moves⟩ := h.moves_error
    rw [panicked'] at panicked
    cases panicked
    refine ⟨⟨panic, rfl⟩, before, after, elements, ?_⟩
    exact .of_moves (by rwa [add_zero]) rfl nofun panicked'

/-- So does an array that is replaced, and the one in its place is whole. -/
theorem Replaces.leaks {layout : Layout} {b b' : Buffer τ} {o : Outcome ArrayError Unit}
    {t : List (Entry τ)} {x : τ} (h : Replaces layout b b' o t)
    (panicked : panics t = [.dispose x false]) :
    (∃ panic, o = .unwound panic) ∧ b.LostFrom layout x t {b'.held layout} := by
  cases h with
  | done _ calm =>
    rw [calm] at panicked
    cases panicked
  | @torn _ before after y panic elements panicked' moves =>
    rw [panicked'] at panicked
    cases panicked
    refine ⟨⟨panic, rfl⟩, before, after, elements, .of_moves moves rfl ?_ panicked'⟩
    rintro k mem
    rw [Multiset.mem_singleton.mp mem]
    rfl

/-! ## 4. Growing -/

namespace Entry

/-- A call that copies or compares elements. -/
def isWork : Entry τ → Bool
  | .copy _ _ | .compare _ _ _ => true
  | _ => false

/-- Nothing is copied or compared. -/
def Idle (t : List (Entry τ)) : Prop := ∀ q ∈ t, q.isWork = false

@[simp] theorem idle_nil : Idle ([] : List (Entry τ)) := List.forall_mem_nil _

@[simp] theorem idle_cons (q : Entry τ) (t : List (Entry τ)) :
    Idle (q :: t) ↔ q.isWork = false ∧ Idle t :=
  List.forall_mem_cons

@[simp] theorem idle_append (t t' : List (Entry τ)) : Idle (t ++ t') ↔ Idle t ∧ Idle t' :=
  List.forall_mem_append

@[simp] theorem idle_reports (events : List Event) :
    Idle (events.map (Entry.report (τ := τ))) := by
  simp [Idle, isWork]

@[simp] theorem idle_disposals (xs : List τ) : Idle (disposals xs) := by
  simp [Idle, isWork, disposals]

/-- The copies made in a trace, each with the element it was made from. -/
def copyPairs (t : List (Entry τ)) : List (τ × τ) :=
  t.filterMap fun
    | .copy x (some y) => some (x, y)
    | _ => none

@[simp] theorem copyPairs_append (t t' : List (Entry τ)) :
    copyPairs (t ++ t') = copyPairs t ++ copyPairs t' :=
  List.filterMap_append

theorem Idle.copyPairs_eq {t : List (Entry τ)} (idle : Idle t) : copyPairs t = [] := by
  refine List.filterMap_eq_nil_iff.mpr fun q mem => ?_
  cases q with
  | copy => cases idle _ mem
  | dispose | compare | allocate | release | report => rfl

end Entry

section Idling

variable {layout : Layout} {b : Buffer τ} {t : List (Entry τ)}

theorem Takes.idle {reserve : Size} {r : Except AllocError (Buffer τ)}
    (h : Takes layout reserve r t) : Entry.Idle t := by
  cases h with
  | sizeOverflow | zeroSize => exact Entry.idle_nil
  | exhausted | misaligned | granted => simp [Entry.isWork]

theorem TearsDown.idle {r : Except Panic Unit} (h : TearsDown layout b r t) : Entry.Idle t := by
  cases h with
  | complete | panicked => simp [Entry.isWork]

theorem Leaves.idle {ε β : Type} {o o' : Outcome ε β} (h : Leaves layout b o o' t) :
    Entry.Idle t := by
  cases h with
  | aborted => exact Entry.idle_nil
  | torn _ down => exact down.idle

theorem Supersedes.idle {event : Event} {o : Outcome ArrayError Unit}
    (h : Supersedes layout b event o t) : Entry.Idle t := by
  cases h with
  | complete down => simp [down.idle, Entry.isWork]
  | unwound down => exact down.idle

theorem TakesHalves.idle {n : Nat} {left right : Buffer τ}
    (h : TakesHalves layout n left right t) : Entry.Idle t := by
  cases h with
  | both takesLeft takesRight => simp [takesLeft.idle, takesRight.idle]

theorem LeavesHalves.idle {ε β : Type} {left right : Buffer τ} {o o' : Outcome ε β}
    (h : LeavesHalves layout left right o o' t) : Entry.Idle t := by
  cases h with
  | both leavesRight leavesLeft => simp [leavesRight.idle, leavesLeft.idle]

end Idling

section Growing

variable {layout : Layout} {b : Buffer τ} {t : List (Entry τ)}

open Entry (copyPairs)

/-- Copying goes through the elements in order. -/
theorem Fills.copyPairs_eq {xs ys : List τ} {r : Except Panic Unit} (h : Fills xs ys r t) :
    copyPairs t = xs.zip ys := by
  induction h with
  | done | panicked => rfl
  | @copied x y xs ys r t _ ih =>
    rw [List.zip_cons_cons, ← ih]
    rfl

/-- Copying is only stopped by a copy. -/
theorem Fills.interrupts {xs ys : List τ} {panic : Panic} (h : Fills xs ys (.error panic) t) :
    ∃ q ∈ panics t, q.Interrupts := by
  generalize stopped : (.error panic : Except Panic Unit) = r at h
  induction h with
  | done => cases stopped
  | copied _ ih => exact ih stopped
  | panicked x => exact ⟨.copy x none, List.mem_singleton.mpr rfl, .copy x⟩

/-- **When growing is unwound by a disposal, it has grown.** -/
theorem Grows.leaks {reserve : Size} {v : Outcome ArrayError Unit × Buffer τ} {x : τ}
    (h : Grows layout reserve b v t) (panicked : panics t = [.dispose x false]) :
    (∃ panic, v.1 = .unwound panic) ∧
      (v.2.reserve = reserve ∧ v.2.length = b.length ∧ copyPairs t = b.toList.zip v.2.toList) ∧
      b.LostFrom layout x t {v.2.held layout} := by
  cases h with
  | rejected => cases panicked
  | refused _ takes =>
    rw [Entry.panics_append, takes.moves_error.2] at panicked
    cases panicked
  | interrupted _ takes fills =>
    obtain ⟨q, mem, interrupts⟩ := fills.interrupts
    rw [Entry.panics_append, Entry.panics_append, takes.moves_ok.2, List.nil_append] at panicked
    have among : q ∈ [Entry.dispose x false] := panicked ▸ List.mem_append_left _ mem
    rw [List.mem_singleton.mp among] at interrupts
    cases interrupts
  | @superseded fresh ys o t₁ t₂ t₃ _ takes fills supersedes =>
    obtain ⟨reserve_eq, elements, empty⟩ := takes.fresh
    obtain ⟨unwound, lost⟩ := (supersedes.replaces_fills takes fills).leaks panicked
    refine ⟨unwound, ⟨reserve_eq, ?_, ?_⟩, lost⟩
    · rw [Buffer.length_filled, empty, fills.length_eq, Buffer.length_toList, Nat.zero_add]
    · rw [Entry.copyPairs_append, Entry.copyPairs_append, takes.idle.copyPairs_eq,
        fills.copyPairs_eq, supersedes.idle.copyPairs_eq, Buffer.toList_filled, elements, List.append_nil]
      rfl

end Growing

/-! ## 5. Sorting -/

/-- A complete sort: as long and as large as before, and the stable sort of what was there if the
calls follow an order. -/
structure CompleteSort (b b' : Buffer τ) (t : List (Entry τ)) : Prop where
  length_eq : b'.length = b.length
  reserve_eq : b'.reserve = b.reserve
  stable : ∀ {σ : Type} (view : τ → σ) (order : σ → σ → Ordering) [Std.TransCmp order],
    (∀ q ∈ t, q.Follows view order) → StableSort order (b.toList.map view) (b'.toList.map view)

section Sorting

variable [Backend α] {options : ArrayOptions κ τ} {e : Env α κ τ} {b : Buffer τ} {x : τ}

/-- What becomes of the array once a sorted copy is made, or is not. -/
def Buffer.conclude (options : ArrayOptions κ τ) (b : Buffer τ) :
    Outcome AllocError (Buffer τ) → Run α κ τ (Outcome ArrayError Unit × Buffer τ)
  | .done fresh => b.supersede options fresh (.arraySorted fresh.length)
  | .refused source => do
    Env.report (.sortAllocationFailed b.length source)
    return (.refused (.sortAllocation source), b)
  | .unwound panic => return (.unwound panic, b)
  | .aborted => return (.aborted, b)

/-- An array that is not empty is sorted in two parts. -/
theorem Buffer.sort_eq_bind (nonempty : b.isEmpty = false) :
    (b.sort options : Run α κ τ _) = b.sorted options >>= b.conclude options := by
  rw [Buffer.sort, nonempty, if_neg Bool.false_ne_true]
  rfl

theorem Buffer.calls_sort_of_isEmpty (empty : b.isEmpty = true) :
    e.calls (b.sort options) = [] := by
  rw [Buffer.sort, if_pos empty]
  have still : Env.Steps options.ops e [] e := .refl e
  exact still.calls_eq

/-- Nothing more happens to an array that has no sorted copy. -/
theorem meets_conclude_of_stopped (options : ArrayOptions κ τ) (b : Buffer τ)
    {o : Outcome AllocError (Buffer τ)} (stopped : ∀ fresh, o ≠ .done fresh) :
    Meets options.ops (b.conclude options o : Run α κ τ _) fun v t =>
      v.2 = b ∧ (∀ panic, o = .unwound panic → v.1 = .unwound panic) ∧ Moves 0 t 0 ∧
        panics t = [] := by
  cases o with
  | done fresh => exact absurd rfl (stopped fresh)
  | refused source =>
    refine .bind (meets_report _) ?_
    rintro _ _ rfl
    exact .pure ⟨rfl, nofun, .single (.report _ 0), rfl⟩
  | unwound panic =>
    refine .pure ⟨rfl, ?_, .nil 0, rfl⟩
    rintro _ ⟨⟩
    rfl
  | aborted => exact .pure ⟨rfl, nofun, .nil 0, rfl⟩

/-- When just one disposal has panicked, the end is that it unwinds, and one buffer is lost. -/
theorem Ends.of_disposal {o : Outcome ε β} {L : Multiset (Holding τ)}
    (h : Ends o [.dispose x false] L) :
    (∃ panic, o = .unwound panic) ∧ ∃ k : Holding τ, k.lost = true ∧ L = {k} := by
  cases h with
  | interrupted _ interrupts => cases interrupts
  | leaked panic _ k lost => exact ⟨⟨panic, rfl⟩, k, lost, rfl⟩
  | aborted _ _ two => exact absurd two (Nat.not_succ_le_self 1)

/-- The sort into a new buffer is not done, so the array is what it was. -/
theorem Buffer.Sound.sort_leaks_of_stopped (sound : b.Sound options.layout)
    (nonempty : b.isEmpty = false)
    (stopped : ∀ fresh, ((b.sorted options).run e).1 ≠ .done fresh)
    (panicked : panics (e.calls (b.sort options)) = [.dispose x false]) :
    ∃ panic, ((b.sorted options).run e).1 = .unwound panic ∧
      ((b.sort options).run e).1 = (.unwound panic, b) ∧
      ∃ h, Leaks 0 (e.calls (b.sort options)) x h 0 := by
  have sorts := meets_sorted (α := α) options sound.length_le
  have concludes := meets_conclude_of_stopped (α := α) options b stopped
  rw [Buffer.sort_eq_bind nonempty] at *
  obtain ⟨value, calls⟩ := sorts.calls_bind rfl concludes
  obtain ⟨kept, unwinds, still, calm⟩ := concludes.calls ((b.sorted options).run e).2
  obtain ⟨L, moves, ends⟩ := (sorts.calls e).moves
  have unfinished : ((b.sorted options).run e).1.held options.layout = 0 := by
    generalize ((b.sorted options).run e).1 = o at stopped
    cases o with
    | done fresh => exact absurd rfl (stopped fresh)
    | refused | unwound | aborted => rfl
  rw [unfinished, zero_add] at moves
  rw [calls] at panicked ⊢
  have first := panicked
  rw [Entry.panics_append, calm, List.append_nil] at first
  rw [first] at ends
  obtain ⟨⟨panic, unwound⟩, h, lost, rfl⟩ := ends.of_disposal
  refine ⟨panic, unwound, ?_, h, .of_moves ?_ lost nofun panicked⟩
  · rw [value]
    exact Prod.ext (unwinds panic unwound) kept
  · exact moves.append (still.within {h} (zero_add _).symm (add_comm _ _))

/-- The sort into a new buffer is done, so the array has what it gave. -/
theorem Buffer.Sound.sort_leaks_of_done {fresh : Buffer τ} (sound : b.Sound options.layout)
    (nonempty : b.isEmpty = false) (sorted : ((b.sorted options).run e).1 = .done fresh)
    (panicked : panics (e.calls (b.sort options)) = [.dispose x false]) :
    (∃ panic, ((b.sort options).run e).1 = (.unwound panic, fresh)) ∧
      CompleteSort b fresh (e.calls (b.sort options)) ∧
      b.LostFrom options.layout x (e.calls (b.sort options)) {fresh.held options.layout} := by
  have sorts := meets_sorted (α := α) options sound.length_le
  have concludes := meets_supersede (α := α) options b fresh (.arraySorted fresh.length)
  rw [Buffer.sort_eq_bind nonempty] at *
  obtain ⟨value, calls⟩ := sorts.calls_bind (f := b.conclude options) sorted concludes
  obtain ⟨superseded, supersedes⟩ := concludes.calls ((b.sorted options).run e).2
  have course := sorts.calls e
  rw [sorted] at course
  obtain ⟨length_eq, reserve_eq⟩ := course.same_shape
  obtain ⟨L, moves, ends⟩ := course.moves
  obtain ⟨calm, rfl⟩ := ends.of_done
  rw [calls] at panicked ⊢
  obtain ⟨⟨panic, unwound⟩, lost⟩ := (supersedes.replaces moves calm).leaks panicked
  refine ⟨⟨panic, ?_⟩, ⟨length_eq, reserve_eq, ?_⟩, lost⟩
  · rw [value]
    exact Prod.ext unwound superseded
  · intro σ view order _ follows
    exact course.stableSort (List.forall_mem_append.mp follows).1

end Sorting

/-! ## 6. Together -/

/-- **One disposal that panics loses one buffer and spoils nothing else**, whether the array is
dropped, grown or sorted.  No element is disposed of twice, and every other buffer goes on as if
nothing had happened.  After growing the array has the copies of its elements, in order; after
sorting it has the sorted ones if it was the old buffer that was lost, and else what it had. -/
theorem disposal_loses_one_buffer [Backend α] (options : ArrayOptions κ τ) (e : Env α κ τ)
    {b : Buffer τ} (sound : b.Sound options.layout) (x : τ) :
    (panics (e.calls (b.teardown options)) = [.dispose x false] →
      (∃ panic, ((b.teardown options).run e).1 = .error panic) ∧
        b.LostFrom options.layout x (e.calls (b.teardown options)) 0) ∧
    (∀ reserve, panics (e.calls (b.grow options reserve)) = [.dispose x false] →
      ∃ b' panic, ((b.grow options reserve).run e).1 = (.unwound panic, b') ∧
        b'.reserve = reserve ∧ b'.length = b.length ∧
        Entry.copyPairs (e.calls (b.grow options reserve)) = b.toList.zip b'.toList ∧
        b.LostFrom options.layout x (e.calls (b.grow options reserve)) {b'.held options.layout}) ∧
    (panics (e.calls (b.sort options)) = [.dispose x false] →
      ∃ b' panic, ((b.sort options).run e).1 = (.unwound panic, b') ∧
        (((b.sorted options).run e).1 = .unwound panic ∧ b' = b ∧
          (∃ h, Leaks 0 (e.calls (b.sort options)) x h 0) ∨
        ((b.sorted options).run e).1 = .done b' ∧ CompleteSort b b' (e.calls (b.sort options)) ∧
          b.LostFrom options.layout x (e.calls (b.sort options)) {b'.held options.layout})) := by
  refine ⟨?_, ?_, ?_⟩
  · intro panicked
    exact ((meets_teardown (α := α) options b).calls e).leaks panicked
  · intro reserve panicked
    have grows := (meets_grow (α := α) options reserve sound.length_le).calls e
    obtain ⟨⟨panic, unwound⟩, ⟨reserve_eq, length_eq, copies⟩, lost⟩ := grows.leaks panicked
    exact ⟨_, panic, Prod.ext unwound rfl, reserve_eq, length_eq, copies, lost⟩
  · intro panicked
    cases nonempty : b.isEmpty with
    | true =>
      rw [Buffer.calls_sort_of_isEmpty nonempty] at panicked
      cases panicked
    | false =>
      by_cases sorted : ∃ fresh, ((b.sorted options).run e).1 = .done fresh
      · obtain ⟨fresh, sorted⟩ := sorted
        obtain ⟨⟨panic, value⟩, whole, lost⟩ := sound.sort_leaks_of_done nonempty sorted panicked
        exact ⟨fresh, panic, value, .inr ⟨sorted, whole, lost⟩⟩
      · obtain ⟨panic, unwound, value, lost⟩ :=
          sound.sort_leaks_of_stopped nonempty (fun fresh done => sorted ⟨fresh, done⟩) panicked
        exact ⟨b, panic, value, .inl ⟨unwound, rfl, lost⟩⟩

/-- The first disposal of the old buffer panics. -/
theorem sort_loses_old_buffer :
    ∃ b' panic, ((Buffer.pair.sort (wordOptions (panickingAt 7))).run (scarce 3 0)).1 =
        (.unwound panic, b') ∧
      ((Buffer.pair.sorted (wordOptions (panickingAt 7))).run (scarce 3 0)).1 = .done b' ∧
      Buffer.pair.LostFrom ⟨4, 4⟩ 2
        ((scarce 3 0).calls (Buffer.pair.sort (wordOptions (panickingAt 7)))) {b'.held ⟨4, 4⟩} := by
  have sorted : ((Buffer.pair.sorted (wordOptions (panickingAt 7))).run (scarce 3 0)).1 =
      .done { block := 4096, reserve := 2, slots := #[1, 2] } := by
    cbv
    simp only [Buffer.merge_nil_right]
    cbv
  have panicked : panics ((scarce 3 0).calls
      (Buffer.pair.sort (wordOptions (panickingAt 7)))) = [.dispose 2 false] := by
    cbv
    simp only [Buffer.merge_nil_right]
    cbv
  obtain ⟨b', panic, value, ⟨stopped, -⟩ | ⟨done, -, lost⟩⟩ :=
    (disposal_loses_one_buffer _ _ Buffer.sound_pair 2).2.2 panicked
  · rw [sorted] at stopped
    cases stopped
  · exact ⟨b', panic, value, done, lost⟩

end ReservedArray
