/-
# Operations that leave nothing behind

An operation that does not come to its end should be as if it had not been called.  The hooks and
the allocator were called all the same, so what can be asked is that the calls cancel out
(`Undone`): every copy made on the way was disposed of, each once; every block obtained on the way
went back, each once and with its own size; nothing that was there before was touched; and every
counter in the allocator stands where it stood.

There are two ways of being stopped.

* The operation is refused.  The allocator may have refused any request, or answered any of them
  with a block that is not aligned.
* The operation is interrupted: a copy or a comparison panics, at any place.

No hook is asked to be sensible, and nothing at all is asked of the allocator.  Both cases rest on
`Settles` and `Ends`, which say what can be left over: here it is nothing.
-/
import Mathlib
import ReservedArray.Proofs.Gauge
import ReservedArray.Proofs.Sound
import ReservedArray.Proofs.Unwinding

namespace ReservedArray

variable {α κ τ ε β : Type}

open Entry (panics copied disposed obtained released)

/-! ## 1. Calls that cancel out -/

section Undoing

variable [Backend α]

/-- What the computation called cancels out. -/
structure Undone (e : Env α κ τ) (c : Run α κ τ β) : Prop where
  /-- Only what was obtained on the way was given up, and all of it. -/
  moves : Moves 0 (e.calls c) 0
  /-- Every copy was disposed of, each once. -/
  disposed : (disposed (e.calls c)).Perm (copied (e.calls c))
  /-- Every block went back, each once and with its own size. -/
  released : (released (e.calls c)).Perm (obtained (e.calls c))
  /-- The counters in the allocator are as before. -/
  counted : ∀ g : Gauge α, g.read (c.run e).2.allocator = g.read e.allocator

theorem Undone.of_moves {ops : ElementOps κ τ} {e : Env α κ τ} {c : Run α κ τ β}
    (steps : Env.Steps ops e (e.calls c) (c.run e).2) (moves : Moves 0 (e.calls c) 0) :
    Undone e c := by
  refine ⟨moves, ?_, ?_, ?_⟩
  · have balance := moves.contents_eq
    rw [contents_zero, zero_add, zero_add] at balance
    exact (Multiset.coe_eq_coe.mp balance).symm
  · have balance := moves.outstanding_eq
    rw [outstanding_zero, zero_add, zero_add] at balance
    exact (Multiset.coe_eq_coe.mp balance).symm
  · intro g
    rw [g.read_steps steps]
    exact moves.tally_eq (g.read e.allocator)

/-- The counters of a counting allocator are as before. -/
theorem Undone.counting {e : Env (Counting α) κ τ} {c : Run (Counting α) κ τ β} (h : Undone e c) :
    (c.run e).2.allocator.liveBlocks = e.allocator.liveBlocks ∧
      (c.run e).2.allocator.liveBytes = e.allocator.liveBytes :=
  Tally.ext_iff.mp (h.counted .counting)

/-- So are those of all counting allocators in a stack. -/
theorem Undone.counting_in_stack {s : Stack} {e : Env s.State κ τ} {c : Run s.State κ τ β}
    (h : Undone e c) :
    s.gauges.map (·.read (c.run e).2.allocator) = s.gauges.map (·.read e.allocator) :=
  List.map_congr_left fun g _ => h.counted g

/-- What the operation called cancels out, and the array is as before. -/
structure RolledBack (e : Env α κ τ) (b : Buffer τ)
    (c : Run α κ τ (Outcome ArrayError Unit × Buffer τ)) : Prop where
  kept : (c.run e).1.2 = b
  undone : Undone e c

end Undoing

/-! ## 2. Refusals -/

theorem Settles.of_refused {layout : Layout} {b : Buffer τ} {t : List (Entry τ)}
    {v : Outcome ArrayError Unit × Buffer τ} {error : ArrayError} (h : Settles layout b v t)
    (refused : v.1 = .refused error) : v.2 = b ∧ Moves 0 t 0 := by
  cases h with
  | kept _ moves ends =>
    subst refused
    rw [ends.of_refused.2] at moves
    exact ⟨rfl, moves⟩
  | replaced replaces => cases replaces <;> cases refused

section Refusals

variable [Backend α] {options : ArrayOptions κ τ} {e : Env α κ τ} {b : Buffer τ}

/-- What settles is rolled back when it is refused. -/
theorem RolledBack.of_refused {c : Run α κ τ (Outcome ArrayError Unit × Buffer τ)}
    {error : ArrayError} (meets : Meets options.ops c (Settles options.layout b))
    (refused : (c.run e).1.1 = .refused error) : RolledBack e b c := by
  obtain ⟨kept, moves⟩ := (meets.calls e).of_refused refused
  exact ⟨kept, .of_moves (meets.steps e) moves⟩

theorem Undone.init_of_refused {reserve count : Size} {seed : Option τ} {error : ArrayError}
    (refused : ((Buffer.init options reserve count seed).run e).1 = .refused error) :
    Undone e (Buffer.init options reserve count seed) := by
  have meets := meets_init (α := α) options reserve count seed
  obtain ⟨L, moves, ends⟩ := (meets.calls e).moves
  rw [refused] at moves ends
  rw [ends.of_refused.2] at moves
  exact .of_moves (meets.steps e) moves

end Refusals

/-- **A refused operation leaves nothing behind.**  Whatever was refused and wherever, the array is
as before and the calls cancel out. -/
theorem rolled_back_of_refused [Backend α] (options : ArrayOptions κ τ) (e : Env α κ τ) :
    (∀ (reserve count : Size) (seed : Option τ) (error : ArrayError),
      ((Buffer.init options reserve count seed).run e).1 = .refused error →
      Undone e (Buffer.init options reserve count seed)) ∧
    ∀ b : Buffer τ, b.Sound options.layout →
      (∀ (x : τ) (error : ArrayError), ((b.append options x).run e).1.1 = .refused error →
        RolledBack e b (b.append options x)) ∧
      (∀ (reserve : Size) (error : ArrayError),
        ((b.grow options reserve).run e).1.1 = .refused error →
        RolledBack e b (b.grow options reserve)) ∧
      ∀ error : ArrayError, ((b.sort options).run e).1.1 = .refused error →
        RolledBack e b (b.sort options) := by
  refine ⟨fun _ _ _ _ => Undone.init_of_refused, ?_⟩
  intro b sound
  refine ⟨?_, ?_, ?_⟩
  · intro x error
    exact RolledBack.of_refused (settles_append options x sound.length_le)
  · intro reserve error
    exact RolledBack.of_refused (settles_grow options reserve sound.length_le)
  · intro error
    exact RolledBack.of_refused (settles_sort options sound.length_le)

/-- The last of the three blocks cannot be had, and the first two are not held any more. -/
theorem sort_rolled_back_at_last_block :
    ((Buffer.pair.sort (wordOptions (.plain compare))).run (scarce 2 ())).1.1 =
        .refused (.sortAllocation (.exhausted 4)) ∧
      RolledBack (scarce 2 ()) Buffer.pair (Buffer.pair.sort (wordOptions (.plain compare))) ∧
      ((Buffer.pair.sort (wordOptions (.plain compare))).run (scarce 2 ())).2.allocator.liveBlocks =
        0 := by
  have refused : ((Buffer.pair.sort (wordOptions (.plain compare))).run (scarce 2 ())).1.1 =
      .refused (.sortAllocation (.exhausted 4)) := by cbv
  have back := ((rolled_back_of_refused _ _).2 _ Buffer.sound_pair).2.2 _ refused
  exact ⟨refused, back, back.undone.counting.1⟩

/-! ## 3. Panics of copies and comparisons -/

/-- A call to copy or to compare panics, and none to dispose does. -/
def Interrupted (t : List (Entry τ)) : Prop :=
  (∃ q ∈ t, q.Interrupts) ∧ ∀ x, .dispose x false ∉ t

theorem Entry.Interrupts.panicked {q : Entry τ} (h : q.Interrupts) : q.panicked := by
  cases h <;> rfl

/-- What is interrupted is unwound, and nothing is left over. -/
theorem Ends.of_interrupted {o : Outcome ε β} {t : List (Entry τ)} {L : Multiset (Holding τ)}
    (h : Ends o (panics t) L) (interrupted : Interrupted t) :
    (∃ panic, o = .unwound panic) ∧ L = 0 := by
  obtain ⟨⟨q, mem, interrupts⟩, calm⟩ := interrupted
  have among : q ∈ panics t := List.mem_filter.mpr ⟨mem, interrupts.panicked⟩
  have none (x : τ) : Entry.dispose x false ∉ panics t := fun disposal =>
    calm x (List.mem_filter.mp disposal).1
  generalize panics t = qs at *
  cases h with
  | done | refused => cases among
  | interrupted panic => exact ⟨⟨panic, rfl⟩, rfl⟩
  | leaked _ x => exact absurd (List.mem_singleton.mpr rfl) (none x)
  | aborted _ x _ disposal => exact absurd disposal (none x)

theorem Settles.of_interrupted {layout : Layout} {b : Buffer τ} {t : List (Entry τ)}
    {v : Outcome ArrayError Unit × Buffer τ} (h : Settles layout b v t)
    (interrupted : Interrupted t) : (∃ panic, v.1 = .unwound panic) ∧ v.2 = b ∧ Moves 0 t 0 := by
  cases h with
  | kept _ moves ends =>
    obtain ⟨unwound, rfl⟩ := ends.of_interrupted interrupted
    exact ⟨unwound, rfl, moves⟩
  | replaced replaces =>
    obtain ⟨⟨q, mem, interrupts⟩, calm⟩ := interrupted
    have among : q ∈ panics t := List.mem_filter.mpr ⟨mem, interrupts.panicked⟩
    cases replaces with
    | done _ none =>
      rw [none] at among
      cases among
    | torn _ _ panicked =>
      rw [panicked, List.mem_singleton] at among
      exact absurd (among ▸ mem) (calm _)

theorem Probes.of_interrupted {key : τ} {r : Except Panic β} {t : List (Entry τ)}
    (h : Probes key r t) (interrupted : Interrupted t) : ∃ panic, r = .error panic := by
  obtain ⟨⟨q, mem, interrupts⟩, -⟩ := interrupted
  induction h with
  | ended => cases mem
  | answered _ ih =>
    cases mem with
    | head => cases interrupts
    | tail _ mem => exact ih mem
  | panicked x panic => exact ⟨panic, rfl⟩

section Interruptions

variable [Backend α] {options : ArrayOptions κ τ} {e : Env α κ τ} {b : Buffer τ}

/-- What settles is unwound and rolled back when it is interrupted. -/
theorem RolledBack.of_interrupted {c : Run α κ τ (Outcome ArrayError Unit × Buffer τ)}
    (meets : Meets options.ops c (Settles options.layout b))
    (interrupted : Interrupted (e.calls c)) :
    (∃ panic, (c.run e).1.1 = .unwound panic) ∧ RolledBack e b c := by
  obtain ⟨unwound, kept, moves⟩ := (meets.calls e).of_interrupted interrupted
  exact ⟨unwound, kept, .of_moves (meets.steps e) moves⟩

theorem Undone.init_of_interrupted {reserve count : Size} {seed : Option τ}
    (interrupted : Interrupted (e.calls (Buffer.init options reserve count seed))) :
    (∃ panic, ((Buffer.init options reserve count seed).run e).1 = .unwound panic) ∧
      Undone e (Buffer.init options reserve count seed) := by
  have meets := meets_init (α := α) options reserve count seed
  obtain ⟨L, moves, ends⟩ := (meets.calls e).moves
  obtain ⟨⟨panic, unwound⟩, rfl⟩ := ends.of_interrupted interrupted
  rw [unwound] at moves
  exact ⟨⟨panic, unwound⟩, .of_moves (meets.steps e) moves⟩

theorem Undone.search_of_interrupted {key : τ} {c : Run α κ τ (Except Panic β)}
    (meets : Meets options.ops c (Probes key)) (interrupted : Interrupted (e.calls c)) :
    (∃ panic, (c.run e).1 = .error panic) ∧ Undone e c :=
  ⟨(meets.calls e).of_interrupted interrupted, .of_moves (meets.steps e) (meets.calls e).moves⟩

end Interruptions

/-- **A copy or a comparison that panics leaves nothing behind.**  The panic gets out, the array is
as before and the calls cancel out. -/
theorem rolled_back_of_interrupted [Backend α] (options : ArrayOptions κ τ) (e : Env α κ τ) :
    (∀ (reserve count : Size) (seed : Option τ),
      Interrupted (e.calls (Buffer.init options reserve count seed)) →
      (∃ panic, ((Buffer.init options reserve count seed).run e).1 = .unwound panic) ∧
        Undone e (Buffer.init options reserve count seed)) ∧
    ∀ b : Buffer τ, b.Sound options.layout →
      (∀ x : τ, Interrupted (e.calls (b.append options x)) →
        (∃ panic, ((b.append options x).run e).1.1 = .unwound panic) ∧
          RolledBack e b (b.append options x)) ∧
      (∀ reserve : Size, Interrupted (e.calls (b.grow options reserve)) →
        (∃ panic, ((b.grow options reserve).run e).1.1 = .unwound panic) ∧
          RolledBack e b (b.grow options reserve)) ∧
      (Interrupted (e.calls (b.sort options)) →
        (∃ panic, ((b.sort options).run e).1.1 = .unwound panic) ∧
          RolledBack e b (b.sort options)) ∧
      (∀ (other : Option (τ → τ → Ordering)) (key : τ),
        Interrupted (e.calls (b.linearIndex options.ops other key)) →
        (∃ panic, ((b.linearIndex options.ops other key).run e).1 = .error panic) ∧
          Undone e (b.linearIndex options.ops other key)) ∧
      ∀ key : τ, Interrupted (e.calls (b.binaryIndex options.ops key)) →
        (∃ panic, ((b.binaryIndex options.ops key).run e).1 = .error panic) ∧
          Undone e (b.binaryIndex options.ops key) := by
  refine ⟨fun _ _ _ => Undone.init_of_interrupted, ?_⟩
  intro b sound
  refine ⟨?_, ?_, ?_, ?_, ?_⟩
  · intro x
    exact RolledBack.of_interrupted (settles_append options x sound.length_le)
  · intro reserve
    exact RolledBack.of_interrupted (settles_grow options reserve sound.length_le)
  · exact RolledBack.of_interrupted (settles_sort options sound.length_le)
  · intro other key
    exact Undone.search_of_interrupted (meets_linearIndex options.ops other key b)
  · intro key
    exact Undone.search_of_interrupted (meets_binaryIndex options.ops key b)

/-- Hooks that count their calls, all together, and panic at one of them. -/
def panickingAt (k : Nat) : ElementOps Nat Nat where
  copy x n := (if n = k then .error (.hook "copy") else .ok x, n + 1)
  dispose _ n := (if n = k then .error (.hook "dispose") else .ok (), n + 1)
  compare x y n := (if n = k then .error (.hook "compare") else .ok (compare x y), n + 1)

/-- The halves are sorted, and then the comparison panics. -/
theorem sort_rolled_back_at_comparison :
    Interrupted ((scarce 3 0).calls (Buffer.pair.sort (wordOptions (panickingAt 2)))) ∧
      RolledBack (scarce 3 0) Buffer.pair (Buffer.pair.sort (wordOptions (panickingAt 2))) := by
  have calls : (scarce 3 0).calls (Buffer.pair.sort (wordOptions (panickingAt 2))) =
      [.allocate 8 (some 4096), .allocate 4 (some 4112), .allocate 4 (some 4128),
        .copy 2 (some 2), .copy 1 (some 1), .compare 2 1 none,
        .dispose 1 true, .release 4128 4, .dispose 2 true, .release 4112 4, .release 4096 8] := by
    cbv
  have interrupted :
      Interrupted ((scarce 3 0).calls (Buffer.pair.sort (wordOptions (panickingAt 2)))) := by
    rw [calls]
    exact ⟨⟨.compare 2 1 none, by simp, .compare 2 1⟩, by simp⟩
  exact ⟨interrupted,
    (((rolled_back_of_interrupted _ _).2 _ Buffer.sound_pair).2.2.1 interrupted).2⟩

end ReservedArray
