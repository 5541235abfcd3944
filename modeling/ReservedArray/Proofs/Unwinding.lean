/-
# How operations end, and what they leave

An operation that is stopped half way has buffers to tear down, and how many depends on where it
is stopped.  This file says once what can come of it.  `Ends o qs L` puts three things together:
the end `o` of an operation, the calls `qs` in it that panicked, and the holdings `L` that are left
over.

* Done or refused: no call panicked, and nothing is left over.
* Unwound by a copy or a comparison: that is the one call that panicked, and nothing is left over.
* Unwound by a disposal: that is the one call that panicked, and the rest of the buffer that was
  being torn down is left over and lost.
* Aborted: two calls or more panicked, a disposal among them.  What is left over can be anything.

Tearing down one more buffer leads from one of these to another (`Leaves.moves`), and so does every
level of a sort (`level_moves`).  The theorem for the whole recursion is `Sorts.moves`.

For an operation on an array this leaves three possibilities (`Settles`).  Either the array is what
it was, however the operation ends; or it is replaced and the old one is gone; or it is replaced
and the old one was being torn down when a disposal panicked.
-/
import Mathlib.Tactic.Abel
import ReservedArray.Proofs.Course.Array
import ReservedArray.Proofs.Holdings

namespace ReservedArray

variable {α κ τ ε β γ : Type}

/-! ## 1. Panics -/

namespace Entry

/-- The hook did not come back. -/
def panicked : Entry τ → Bool
  | .copy _ none | .dispose _ false | .compare _ _ none => true
  | _ => false

/-- The calls in a trace that panicked. -/
def panics (t : List (Entry τ)) : List (Entry τ) := t.filter panicked

/-- A call to copy or to compare that panicked. -/
inductive Interrupts : Entry τ → Prop
  | copy (x : τ) : Interrupts (.copy x none)
  | compare (x y : τ) : Interrupts (.compare x y none)

@[simp] theorem panics_nil : panics ([] : List (Entry τ)) = [] := rfl

@[simp] theorem panics_append (t t' : List (Entry τ)) : panics (t ++ t') = panics t ++ panics t' :=
  List.filter_append t t'

@[simp] theorem panics_reports (events : List Event) :
    panics (events.map (Entry.report (τ := τ))) = [] := by
  simp [panics, panicked]

@[simp] theorem panics_disposals (xs : List τ) : panics (disposals xs) = [] := by
  simp [panics, panicked, disposals]

end Entry

open Entry (panics)

/-- An end, the calls that panicked on the way, and the holdings that are left over. -/
inductive Ends : Outcome ε β → List (Entry τ) → Multiset (Holding τ) → Prop
  | done (value : β) : Ends (.done value) [] 0
  | refused (e : ε) : Ends (.refused e) [] 0
  | interrupted (panic : Panic) {q : Entry τ} : q.Interrupts → Ends (.unwound panic) [q] 0
  | leaked (panic : Panic) (x : τ) (h : Holding τ) : h.lost = true →
      Ends (.unwound panic) [.dispose x false] {h}
  | aborted {qs : List (Entry τ)} (L : Multiset (Holding τ)) (x : τ) : 2 ≤ qs.length →
      .dispose x false ∈ qs → Ends .aborted qs L

theorem Ends.of_done {value : β} {qs : List (Entry τ)} {L : Multiset (Holding τ)}
    (h : Ends (.done value : Outcome ε β) qs L) : qs = [] ∧ L = 0 := by
  cases h
  exact ⟨rfl, rfl⟩

theorem Ends.of_refused {e : ε} {qs : List (Entry τ)} {L : Multiset (Holding τ)}
    (h : Ends (.refused e : Outcome ε β) qs L) : qs = [] ∧ L = 0 := by
  cases h
  exact ⟨rfl, rfl⟩

/-- How a panic ends does not depend on what the operation would have given. -/
theorem Ends.of_unwound {ε' : Type} {panic : Panic} {qs : List (Entry τ)}
    {L : Multiset (Holding τ)} (h : Ends (.unwound panic : Outcome ε β) qs L) :
    Ends (.unwound panic : Outcome ε' γ) qs L := by
  cases h with
  | interrupted _ interrupts => exact .interrupted panic interrupts
  | leaked _ x h lost => exact .leaked panic x h lost

theorem Ends.of_aborted {ε' : Type} {qs : List (Entry τ)} {L : Multiset (Holding τ)}
    (h : Ends (.aborted : Outcome ε β) qs L) : Ends (.aborted : Outcome ε' γ) qs L := by
  cases h with
  | aborted _ x two disposal => exact .aborted L x two disposal

/-- Ends of the same kind have the same panics behind them. -/
theorem Ends.of_sameStop {o : Outcome ε β} {o' : Outcome ε γ} {qs : List (Entry τ)}
    {L : Multiset (Holding τ)} (h : Ends o qs L) (same : SameStop o o') : Ends o' qs L := by
  cases same with
  | refused e => cases h; exact .refused e
  | unwound panic => exact h.of_unwound
  | aborted => exact h.of_aborted

/-! ## 2. One buffer -/

/-- Moves of some holdings, with the others that are there. -/
theorem Moves.within {G G' H H' : Multiset (Holding τ)} {t : List (Entry τ)} (h : Moves H t H')
    (K : Multiset (Holding τ)) (before : G = H + K) (after : G' = H' + K) : Moves G t G' := by
  rw [before, after]
  exact h.frame K

/-- What a buffer holds. -/
def Buffer.held (layout : Layout) (b : Buffer τ) : Holding τ :=
  { block := b.block, size := b.bytes layout, elements := b.toList }

/-- What is left of a buffer when a disposal panics before these elements. -/
def Buffer.remains (layout : Layout) (b : Buffer τ) (after : List τ) : Holding τ :=
  { block := b.block, size := b.bytes layout, elements := after, lost := true }

section Buffers

variable {layout : Layout} {b : Buffer τ} {t : List (Entry τ)}

/-- A block that is handed out is a new holding, whatever is reported of it. -/
theorem moves_obtained (block : Address) (size : Size) (events : List Event) :
    Moves (0 : Multiset (Holding τ)) (.allocate size (some block) :: events.map .report)
      {{ block, size, elements := [] }} :=
  .cons (.allocate block size 0) (.reports events _)

/-- A buffer that is taken is a new holding. -/
theorem Takes.moves_ok {reserve : Size} (h : Takes layout reserve (.ok b) t) :
    Moves 0 t {b.held layout} ∧ panics t = [] := by
  cases h with
  | granted events block =>
    exact ⟨moves_obtained block _ events, Entry.panics_reports events⟩

/-- When no buffer can be taken, nothing is kept; a block that is not aligned goes back. -/
theorem Takes.moves_error {reserve : Size} {e : AllocError}
    (h : Takes (τ := τ) layout reserve (.error e) t) : Moves 0 t 0 ∧ panics t = [] := by
  cases h with
  | sizeOverflow | zeroSize => exact ⟨.nil 0, rfl⟩
  | exhausted events =>
    exact ⟨.cons (.refused _ 0) (.reports events 0), Entry.panics_reports events⟩
  | misaligned events block =>
    refine ⟨(moves_obtained block _ events).append (.single (.release block _ 0)), ?_⟩
    rw [Entry.panics_append, ← List.singleton_append, Entry.panics_append, Entry.panics_reports]
    rfl

/-- A copy goes behind what the buffer holds. -/
theorem Buffer.moves_copy (layout : Layout) (b : Buffer τ) (x y : τ) :
    Move {b.held layout} (.copy x (some y)) {(b.filled [y]).held layout} := by
  have placed := Move.copy b.block (b.bytes layout) x y b.toList 0
  rwa [← Buffer.toList_filled] at placed

theorem Fills.moves {xs ys : List τ} {r : Except Panic Unit} (h : Fills xs ys r t) (b : Buffer τ) :
    Moves {b.held layout} t {(b.filled ys).held layout} ∧
      Ends (.ofCall r : Outcome ε Unit) (panics t) 0 := by
  induction h generalizing b with
  | done =>
    rw [b.filled_nil]
    exact ⟨.nil _, .done ()⟩
  | @copied x y xs ys r t _ ih =>
    obtain ⟨moves, ends⟩ := ih (b.filled [y])
    rw [Buffer.filled_filled] at moves
    exact ⟨.cons (b.moves_copy layout x y) moves, ends⟩
  | panicked x xs panic =>
    rw [b.filled_nil]
    exact ⟨.single (.copyPanicked x _), .interrupted panic (.copy x)⟩

/-- Elements are disposed of from the front. -/
theorem moves_disposals (block : Address) (size : Size) (xs ys : List τ) :
    Moves {{ block, size, elements := xs ++ ys }} (disposals xs)
      {{ block, size, elements := ys }} := by
  induction xs with
  | nil => exact .nil _
  | cons x xs ih => exact .cons (.dispose block size x (xs ++ ys) 0) ih

/-- A buffer that is torn down without a panic is gone. -/
theorem TearsDown.moves_ok (h : TearsDown layout b (.ok ()) t) :
    Moves {b.held layout} t 0 ∧ panics t = [] := by
  cases h with
  | complete =>
    have emptied := moves_disposals b.block (b.bytes layout) b.toList []
    rw [List.append_nil] at emptied
    refine ⟨emptied.append (.single (.release b.block _ 0)), ?_⟩
    rw [Entry.panics_append, Entry.panics_disposals]
    rfl

/-- After a panic the block and the elements behind are lost. -/
theorem TearsDown.moves_error {panic : Panic} (h : TearsDown layout b (.error panic) t) :
    ∃ before x after, b.toList = before ++ x :: after ∧ panics t = [.dispose x false] ∧
      Moves {b.held layout} t {b.remains layout after} := by
  cases h with
  | @panicked before after x _ elements =>
    refine ⟨before, x, after, elements, ?_, ?_⟩
    · rw [Entry.panics_append, Entry.panics_disposals]
      rfl
    · have reached := moves_disposals b.block (b.bytes layout) before (x :: after)
      rw [← elements] at reached
      exact reached.append (.single (.lose b.block _ x after 0))

/-- **Tearing down one more buffer**, whatever the end was before. -/
theorem Leaves.moves {o o' : Outcome ε β} {qs : List (Entry τ)} {L : Multiset (Holding τ)}
    (h : Leaves layout b o o' t) (ends : Ends o qs L) :
    ∃ L', Moves ({b.held layout} + L) t L' ∧ Ends o' (qs ++ panics t) L' := by
  cases h with
  | aborted =>
    refine ⟨{b.held layout} + L, .nil _, ?_⟩
    cases ends with
    | aborted _ x two disposal =>
      rw [Entry.panics_nil, List.append_nil]
      exact .aborted _ x two disposal
  | @torn o r t standing down =>
    cases r with
    | ok =>
      obtain ⟨moves, calm⟩ := down.moves_ok
      refine ⟨L, moves.within L rfl (zero_add L).symm, ?_⟩
      rw [Outcome.after_ok, calm, List.append_nil]
      exact ends
    | error panic =>
      obtain ⟨before, x, after, -, panicked, moves⟩ := down.moves_error
      refine ⟨_ + L, moves.frame L, ?_⟩
      rw [panicked]
      -- the first panic unwinds; one more, while a panic unwinds, aborts
      cases ends with
      | done | refused =>
        rw [add_zero]
        exact .leaked panic x _ rfl
      | interrupted | leaked => exact .aborted _ x (Nat.le_refl 2) (by simp)
      | aborted => exact absurd rfl standing

/-- **A buffer that is taken only to be torn down again**: whatever happens in between, it is gone
in the end or left over. -/
theorem Takes.moves_leaves {reserve : Size} {b' : Buffer τ} {o o' : Outcome ε β}
    {L : Multiset (Holding τ)} {t₁ t₂ t₃ : List (Entry τ)} (takes : Takes layout reserve (.ok b) t₁)
    (moves : Moves {b.held layout} t₂ ({b'.held layout} + L)) (ends : Ends o (panics t₂) L)
    (leaves : Leaves layout b' o o' t₃) :
    ∃ L', Moves 0 (t₁ ++ (t₂ ++ t₃)) L' ∧ Ends o' (panics (t₁ ++ (t₂ ++ t₃))) L' := by
  obtain ⟨taken, calm⟩ := takes.moves_ok
  obtain ⟨L', torn, ends'⟩ := leaves.moves ends
  refine ⟨L', taken.append (moves.append torn), ?_⟩
  rw [Entry.panics_append, Entry.panics_append, calm]
  exact ends'

end Buffers

/-! ## 3. A sort -/

section Sorting

variable {layout : Layout} {t : List (Entry τ)}

theorem Merges.moves {xs ys zs : List τ} {r : Except Panic Unit} (h : Merges xs ys zs r t)
    (b : Buffer τ) :
    Moves {b.held layout} t {(b.filled zs).held layout} ∧
      Ends (.ofCall r : Outcome ε Unit) (panics t) 0 := by
  induction h generalizing b with
  | rest _ fills => exact fills.moves b
  | @left x y z o xs ys zs r t _ _ ih =>
    obtain ⟨moves, ends⟩ := ih (b.filled [z])
    rw [Buffer.filled_filled] at moves
    exact ⟨.cons (.compare x y (some o) _) (.cons (b.moves_copy layout x z) moves), ends⟩
  | @right x y z xs ys zs r t _ ih =>
    obtain ⟨moves, ends⟩ := ih (b.filled [z])
    rw [Buffer.filled_filled] at moves
    exact ⟨.cons (.compare x y (some .gt) _) (.cons (b.moves_copy layout y z) moves), ends⟩
  | compareFailed x y xs ys panic =>
    rw [b.filled_nil]
    exact ⟨.single (.compare x y none _), .interrupted panic (.compare x y)⟩
  | @leftFailed x y xs ys panic o _ =>
    rw [b.filled_nil]
    exact ⟨.cons (.compare x y (some o) _) (.single (.copyPanicked x _)),
      .interrupted panic (.copy x)⟩
  | rightFailed x y xs ys panic =>
    rw [b.filled_nil]
    exact ⟨.cons (.compare x y (some .gt) _) (.single (.copyPanicked y _)),
      .interrupted panic (.copy y)⟩

theorem TakesHalves.moves {n : Nat} {left right : Buffer τ}
    (h : TakesHalves layout n left right t) :
    Moves 0 t ({left.held layout} + {right.held layout}) ∧ panics t = [] := by
  cases h with
  | both takesLeft takesRight =>
    obtain ⟨movesLeft, calmLeft⟩ := takesLeft.moves_ok
    obtain ⟨movesRight, calmRight⟩ := takesRight.moves_ok
    refine ⟨movesLeft.append (movesRight.within {left.held layout} (zero_add _).symm ?_), ?_⟩
    · exact add_comm _ _
    · rw [Entry.panics_append, calmLeft, calmRight]
      rfl

/-- **One level of a sort**: whatever happens between taking the two buffers and tearing them down,
they are gone in the end or left over. -/
theorem level_moves {n : Nat} {left right left' right' out out' : Buffer τ} {o o' : Outcome ε β}
    {L : Multiset (Holding τ)} {t₁ t₂ t₃ : List (Entry τ)}
    (takes : TakesHalves layout n left right t₁)
    (moves : Moves ({left.held layout} + {right.held layout} + {out.held layout}) t₂
      ({left'.held layout} + {right'.held layout} + {out'.held layout} + L))
    (ends : Ends o (panics t₂) L) (leaves : LeavesHalves layout left' right' o o' t₃) :
    ∃ L', Moves {out.held layout} (t₁ ++ (t₂ ++ t₃)) ({out'.held layout} + L') ∧
      Ends o' (panics (t₁ ++ (t₂ ++ t₃))) L' := by
  obtain ⟨taken, calm⟩ := takes.moves
  cases leaves with
  | @both o₁ _ u₁ u₂ leavesRight leavesLeft =>
    obtain ⟨L₁, tornRight, ends₁⟩ := leavesRight.moves ends
    obtain ⟨L₂, tornLeft, ends₂⟩ := leavesLeft.moves ends₁
    refine ⟨L₂, ?_, ?_⟩
    · refine (taken.within {out.held layout} (zero_add _).symm rfl).append (moves.append ?_)
      refine (tornRight.within ({left'.held layout} + {out'.held layout}) ?_ rfl).append
        (tornLeft.within {out'.held layout} ?_ (add_comm _ _))
      · abel
      · abel
    · rw [Entry.panics_append, Entry.panics_append, Entry.panics_append, calm, List.nil_append,
        ← List.append_assoc]
      exact ends₂

/-- **What a sort leaves**: the copies it has placed, and what its end says. -/
theorem Sorts.moves {xs ys : List τ} {o : Outcome AllocError Unit} (h : Sorts layout xs ys o t)
    (out : Buffer τ) :
    ∃ L, Moves {out.held layout} t ({(out.filled ys).held layout} + L) ∧ Ends o (panics t) L := by
  induction h generalizing out with
  | short _ fills =>
    obtain ⟨moves, ends⟩ := fills.moves out
    exact ⟨0, by rwa [add_zero], ends⟩
  | leftRefused _ takesLeft =>
    obtain ⟨moves, calm⟩ := takesLeft.moves_error
    refine ⟨0, ?_, ?_⟩
    · rw [out.filled_nil, add_zero]
      exact moves.within _ (zero_add _).symm (zero_add _).symm
    · rw [calm]
      exact .refused _
  | @rightRefused xs left e o t₁ t₂ t₃ _ takesLeft takesRight leaves =>
    -- only the left buffer is there to be torn down
    obtain ⟨refused, calm⟩ := takesRight.moves_error
    have still := refused.within {left.held layout} (zero_add _).symm (add_comm _ _)
    obtain ⟨L, moves, ends⟩ := takesLeft.moves_leaves still (by rw [calm]; exact .refused e) leaves
    refine ⟨L, ?_, ends⟩
    rw [out.filled_nil]
    exact moves.within _ (zero_add _).symm (add_comm _ _)
  | @leftStopped xs ls left right o o' t₁ t₂ t₃ _ takes _ _ leaves ihLeft =>
    obtain ⟨L, moves, ends⟩ := ihLeft left
    rw [out.filled_nil]
    refine level_moves takes ?_ ends leaves
    refine moves.within ({right.held layout} + {out.held layout}) ?_ ?_ <;> abel
  | @rightStopped xs ls rs left right o o' t₁ t₂ t₃ t₄ _ takes _ _ _ leaves ihLeft ihRight =>
    obtain ⟨L₁, movesLeft, endsLeft⟩ := ihLeft left
    obtain ⟨L, movesRight, endsRight⟩ := ihRight right
    -- the left half is done, so all that is left over is from the right one
    obtain ⟨calm, rfl⟩ := endsLeft.of_done
    have ends : Ends o (panics (t₂ ++ t₃)) L := by
      rw [Entry.panics_append, calm]
      exact endsRight
    rw [out.filled_nil, ← List.append_assoc t₂]
    refine level_moves takes ?_ ends leaves
    refine (movesLeft.within ({right.held layout} + {out.held layout}) ?_ rfl).append
      (movesRight.within ({(left.filled ls).held layout} + {out.held layout}) ?_ ?_) <;> abel
  | @merged xs ls rs ys left right r o t₁ t₂ t₃ t₄ t₅ _ takes _ _ merges leaves ihLeft ihRight =>
    obtain ⟨L₁, movesLeft, endsLeft⟩ := ihLeft left
    obtain ⟨L₂, movesRight, endsRight⟩ := ihRight right
    obtain ⟨movesOut, endsOut⟩ := merges.moves out
    obtain ⟨calmLeft, rfl⟩ := endsLeft.of_done
    obtain ⟨calmRight, rfl⟩ := endsRight.of_done
    have ends : Ends (.ofCall r : Outcome AllocError Unit) (panics (t₂ ++ (t₃ ++ t₄))) 0 := by
      rw [Entry.panics_append, Entry.panics_append, calmLeft, calmRight]
      exact endsOut
    rw [← List.append_assoc t₃, ← List.append_assoc t₂]
    refine level_moves takes ?_ ends leaves
    refine (movesLeft.within ({right.held layout} + {out.held layout}) ?_ rfl).append
      ((movesRight.within ({(left.filled ls).held layout} + {out.held layout}) ?_ rfl).append
      (movesOut.within ({(left.filled ls).held layout} + {(right.filled rs).held layout}) ?_ ?_))
      <;> abel

end Sorting

/-! ## 4. The operations on arrays -/

/-- The array that an operation gives, if it does. -/
def Outcome.held (layout : Layout) : Outcome ε (Buffer τ) → Multiset (Holding τ)
  | .done b => {b.held layout}
  | _ => 0

/-- An operation that is stopped gives no array, whatever is torn down after that. -/
theorem Leaves.held_eq_zero {layout : Layout} {b : Buffer τ} {o o' : Outcome ε (Buffer τ)}
    {t : List (Entry τ)} (h : Leaves layout b o o' t) (stopped : ∀ b', o ≠ .done b') :
    o'.held layout = 0 := by
  cases o' with
  | done b' => exact absurd (h.eq_of_standing nofun nofun) (stopped b')
  | refused | unwound | aborted => rfl

/-- One array takes the place of another: all of the other is gone or, after a disposal that
panics, the part of it up to there. -/
inductive Replaces (layout : Layout) (b b' : Buffer τ) :
    Outcome ArrayError Unit → List (Entry τ) → Prop
  | done {t : List (Entry τ)} : Moves {b.held layout} t {b'.held layout} → panics t = [] →
      Replaces layout b b' (.done ()) t
  | torn {t : List (Entry τ)} {before after : List τ} {x : τ} (panic : Panic) :
      b.toList = before ++ x :: after → panics t = [.dispose x false] →
      Moves {b.held layout} t ({b.remains layout after} + {b'.held layout}) →
      Replaces layout b b' (.unwound panic) t

/-- What an operation does to an array: nothing, whatever it leaves over, or it replaces it. -/
inductive Settles (layout : Layout) (b : Buffer τ) :
    Outcome ArrayError Unit × Buffer τ → List (Entry τ) → Prop
  | kept {o : Outcome ArrayError Unit} {t : List (Entry τ)} {L : Multiset (Holding τ)} :
      o ≠ .done () → Moves 0 t L → Ends o (panics t) L → Settles layout b (o, b) t
  | replaced {o : Outcome ArrayError Unit} {b' : Buffer τ} {t : List (Entry τ)} :
      Replaces layout b b' o t → Settles layout b (o, b') t

section Arrays

variable {layout : Layout} {b : Buffer τ} {t : List (Entry τ)}

theorem MakesArray.moves {reserve count : Size} {seed : Option τ}
    {o : Outcome ArrayError (Buffer τ)} (h : MakesArray layout reserve count seed o t) :
    ∃ L, Moves 0 t (o.held layout + L) ∧ Ends o (panics t) L := by
  cases h with
  | zeroReserve | countExceedsReserve | missingSeed => exact ⟨0, .nil 0, .refused _⟩
  | refused _ takes =>
    obtain ⟨moves, calm⟩ := takes.moves_error
    refine ⟨0, moves.append (.single (.report _ 0)), ?_⟩
    rw [Entry.panics_append, calm]
    exact .refused _
  | @made b ys t₁ t₂ _ takes fills =>
    obtain ⟨taken, calm⟩ := takes.moves_ok
    obtain ⟨moves, ends⟩ := fills.moves (ε := ArrayError) b
    refine ⟨0, taken.append moves, ?_⟩
    rw [Entry.panics_append, calm, List.nil_append, ends.of_done.1]
    exact .done _
  | @interrupted b ys panic o t₁ t₂ t₃ _ takes fills leaves =>
    obtain ⟨moves, ends⟩ := fills.moves (ε := ArrayError) b
    obtain ⟨L, moves, ends⟩ := takes.moves_leaves (by rwa [add_zero]) ends.of_unwound leaves
    refine ⟨L, ?_, ends⟩
    rwa [leaves.held_eq_zero nofun, zero_add]

theorem Appends.settles {x : τ} {v : Outcome ArrayError Unit × Buffer τ} (h : Appends x b v t) :
    Settles layout b v t := by
  cases h with
  | full => exact .kept nofun (.nil 0) (.refused _)
  | placed _ places =>
    cases places with
    | copied y => exact .replaced (.done (.single (b.moves_copy layout x y)) rfl)
    | panicked panic =>
      exact .kept nofun (.single (.copyPanicked x 0)) (.interrupted panic (.copy x))

/-- **The old buffer makes way** for a new one that is complete. -/
theorem Supersedes.replaces {event : Event} {fresh : Buffer τ} {o : Outcome ArrayError Unit}
    {t₁ t₂ : List (Entry τ)} (h : Supersedes layout b event o t₂)
    (made : Moves 0 t₁ {fresh.held layout}) (calm : panics t₁ = []) :
    Replaces layout b fresh o (t₁ ++ t₂) := by
  have added := made.within {b.held layout} (zero_add _).symm rfl
  cases h with
  | complete down =>
    obtain ⟨moves, calm'⟩ := down.moves_ok
    refine .done (added.append (.append (moves.within {fresh.held layout} (add_comm _ _)
      (zero_add _).symm) (.single (.report event _)))) ?_
    rw [Entry.panics_append, Entry.panics_append, calm, calm']
    rfl
  | @unwound panic _ down =>
    obtain ⟨before, x, after, elements, panicked, moves⟩ := down.moves_error
    refine .torn panic elements ?_ (added.append (moves.within {fresh.held layout} (add_comm _ _)
      rfl))
    rw [Entry.panics_append, calm, panicked]
    rfl

/-- A new buffer filled with copies replaces the old one. -/
theorem Supersedes.replaces_fills {event : Event} {reserve : Size} {fresh : Buffer τ}
    {xs ys : List τ} {o : Outcome ArrayError Unit} {t₁ t₂ t₃ : List (Entry τ)}
    (h : Supersedes layout b event o t₃) (takes : Takes layout reserve (.ok fresh) t₁)
    (fills : Fills xs ys (.ok ()) t₂) :
    Replaces layout b (fresh.filled ys) o (t₁ ++ (t₂ ++ t₃)) := by
  obtain ⟨taken, calm⟩ := takes.moves_ok
  obtain ⟨moves, ends⟩ := fills.moves (ε := ArrayError) fresh
  rw [← List.append_assoc]
  refine h.replaces (taken.append moves) ?_
  rw [Entry.panics_append, calm, ends.of_done.1]
  rfl

theorem Grows.settles {reserve : Size} {v : Outcome ArrayError Unit × Buffer τ}
    (h : Grows layout reserve b v t) : Settles layout b v t := by
  cases h with
  | rejected => exact .kept nofun (.nil 0) (.refused _)
  | refused _ takes =>
    obtain ⟨moves, calm⟩ := takes.moves_error
    refine .kept nofun (moves.append (.single (.report _ 0))) ?_
    rw [Entry.panics_append, calm]
    exact .refused _
  | @interrupted fresh ys panic o t₁ t₂ t₃ _ takes fills leaves =>
    obtain ⟨moves, ends⟩ := fills.moves fresh
    obtain ⟨L, moves, ends⟩ := takes.moves_leaves (by rwa [add_zero]) ends leaves
    refine .kept ?_ moves ends
    rintro rfl
    cases leaves.eq_of_standing nofun nofun
  | superseded _ takes fills supersedes => exact .replaced (supersedes.replaces_fills takes fills)

theorem SortsAnew.moves {o : Outcome AllocError (Buffer τ)} (h : SortsAnew layout b o t) :
    ∃ L, Moves 0 t (o.held layout + L) ∧ Ends o (panics t) L := by
  cases h with
  | refused takes =>
    obtain ⟨moves, calm⟩ := takes.moves_error
    refine ⟨0, moves, ?_⟩
    rw [calm]
    exact .refused _
  | @stopped out ys o o₁ _ t₁ t₂ t₃ takes sorts same leaves =>
    obtain ⟨L, moves, ends⟩ := sorts.moves out
    obtain ⟨L', moves, ends⟩ := takes.moves_leaves moves (ends.of_sameStop same) leaves
    have stopped : ∀ b', o₁ ≠ .done b' := by
      rintro b' rfl
      cases same
    refine ⟨L', ?_, ends⟩
    rwa [leaves.held_eq_zero stopped, zero_add]
  | @sorted out ys t₁ t₂ takes sorts =>
    obtain ⟨taken, calm⟩ := takes.moves_ok
    obtain ⟨L, moves, ends⟩ := sorts.moves out
    obtain ⟨calm', rfl⟩ := ends.of_done
    refine ⟨0, taken.append moves, ?_⟩
    rw [Entry.panics_append, calm, calm']
    exact .done _

theorem SortsArray.settles {v : Outcome ArrayError Unit × Buffer τ} (h : SortsArray layout b v t) :
    Settles layout b v t := by
  cases h with
  | empty => exact .kept nofun (.nil 0) (.refused _)
  | @refused source t _ sorts =>
    obtain ⟨L, moves, ends⟩ := sorts.moves
    obtain ⟨calm, rfl⟩ := ends.of_refused
    refine .kept nofun (moves.append (.single (.report _ 0))) ?_
    rw [Entry.panics_append, calm]
    exact .refused _
  | unwound _ sorts =>
    obtain ⟨L, moves, ends⟩ := sorts.moves
    rw [Outcome.held, zero_add] at moves
    · exact .kept nofun moves ends.of_unwound
    · nofun
  | aborted _ sorts =>
    obtain ⟨L, moves, ends⟩ := sorts.moves
    rw [Outcome.held, zero_add] at moves
    · exact .kept nofun moves ends.of_aborted
    · nofun
  | @superseded fresh o t₁ t₂ _ sorts supersedes =>
    obtain ⟨L, moves, ends⟩ := sorts.moves
    obtain ⟨calm, rfl⟩ := ends.of_done
    exact .replaced (supersedes.replaces moves calm)

/-- A search moves nothing. -/
theorem Probes.moves {key : τ} {r : Except Panic β} (h : Probes key r t) : Moves 0 t 0 := by
  induction h with
  | ended => exact .nil 0
  | @answered x o r t _ ih => exact .cons (.compare x key (some o) 0) ih
  | panicked x panic => exact .single (.compare x key none 0)

end Arrays

/-! ## 5. Every operation settles -/

section Settling

variable [Backend α] (options : ArrayOptions κ τ) {b : Buffer τ}

theorem settles_append (x : τ) (room : b.length ≤ b.reserve.toNat) :
    Meets options.ops (b.append options x : Run α κ τ _) (Settles options.layout b) :=
  (meets_append options x room).mono fun _ _ appends => appends.settles

theorem settles_grow (reserve : Size) (room : b.length ≤ b.reserve.toNat) :
    Meets options.ops (b.grow options reserve : Run α κ τ _) (Settles options.layout b) :=
  (meets_grow options reserve room).mono fun _ _ grows => grows.settles

theorem settles_sort (room : b.length ≤ b.reserve.toNat) :
    Meets options.ops (b.sort options : Run α κ τ _) (Settles options.layout b) :=
  (meets_sort options room).mono fun _ _ sorts => sorts.settles

end Settling

end ReservedArray
