/-
# Counters in an allocator

A counting allocator can stand anywhere in an allocator, and there can be several.  A `Gauge` reads
one of them.  All that is asked of it is that it follows the calls: a block handed out adds one
block and its bytes, a block that goes back takes off one block and the bytes it goes back with,
and a refused request changes nothing.  So what a gauge reads after some calls is what it read
before and the trace of the calls, whatever the allocator is otherwise (`Gauge.read_steps`).

The counters subtract without going below zero, as a count of what is out should never have to.
`Moves.tally_eq` says that it never has to: as long as everything that is held is counted, a gauge
changes by just what is held more or less.
-/
import ReservedArray.Allocator.Stack
import ReservedArray.Proofs.Holdings

namespace ReservedArray

variable {α κ τ β : Type}

/-! ## 1. Tallies -/

/-- How many blocks are out, and how many bytes. -/
@[ext]
structure Tally where
  blocks : Nat
  bytes : Nat
deriving DecidableEq

namespace Tally

/-- A block of this size is handed out. -/
def obtain (n : Tally) (size : Size) : Tally := ⟨n.blocks + 1, n.bytes + size.toNat⟩

/-- A block goes back with this size. -/
def giveBack (n : Tally) (size : Size) : Tally := ⟨n.blocks - 1, n.bytes - size.toNat⟩

/-- The tally after a call. -/
def after (n : Tally) : Entry τ → Tally
  | .allocate size (some _) => n.obtain size
  | .release _ size => n.giveBack size
  | _ => n

/-- The tally after a trace. -/
def afterAll (n : Tally) (t : List (Entry τ)) : Tally := t.foldl after n

theorem afterAll_append (n : Tally) (t t' : List (Entry τ)) :
    n.afterAll (t ++ t') = (n.afterAll t).afterAll t' :=
  List.foldl_append

theorem afterAll_reports (n : Tally) (events : List Event) :
    n.afterAll (events.map (Entry.report (τ := τ))) = n := by
  induction events with
  | nil => rfl
  | cons event events ih => exact ih

/-- The tally with some holdings on top. -/
def plus (n : Tally) (H : Multiset (Holding τ)) : Tally :=
  ⟨n.blocks + Multiset.card H, n.bytes + (H.map fun h => h.size.toNat).sum⟩

@[simp] theorem plus_zero (n : Tally) : n.plus (0 : Multiset (Holding τ)) = n := rfl

theorem plus_cons (n : Tally) (h : Holding τ) (H : Multiset (Holding τ)) :
    n.plus (h ::ₘ H) = (n.plus H).obtain h.size := by
  ext <;> simp [plus, obtain] <;> omega

theorem giveBack_obtain (n : Tally) (size : Size) : (n.obtain size).giveBack size = n := by
  ext <;> simp [giveBack, obtain]

end Tally

/-- One call changes the tally of what is held as it changes what is held. -/
theorem Move.tally_eq {H H' : Multiset (Holding τ)} {q : Entry τ} (h : Move H q H') (n : Tally) :
    (n.plus H).after q = n.plus H' := by
  cases h with
  | allocate block size => exact (n.plus_cons { block, size, elements := [] } H).symm
  | release block size => rw [n.plus_cons]; exact Tally.giveBack_obtain _ size
  | copy | dispose | lose => simp only [Tally.plus_cons]; rfl
  | refused | copyPanicked | compare | report => rfl

/-- **What is held is what is counted**, on top of anything else. -/
theorem Moves.tally_eq {H H' : Multiset (Holding τ)} {t : List (Entry τ)} (h : Moves H t H')
    (n : Tally) : (n.plus H).afterAll t = n.plus H' := by
  induction h with
  | nil => rfl
  | cons move _ ih =>
    show ((n.plus _).after _).afterAll _ = _
    rw [move.tally_eq, ih]

/-! ## 2. Gauges -/

/-- A reading of the allocator that follows the calls. -/
structure Gauge (α : Type) [Backend α] where
  read : α → Tally
  refused {a : α} {size : Size} : (Backend.allocate a size).answer = none →
    read (Backend.allocate a size).state = read a
  granted {a : α} {size : Size} {block : Address} :
    (Backend.allocate a size).answer = some block →
    read (Backend.allocate a size).state = (read a).obtain size
  released (a : α) (block : Address) (size : Size) :
    read (Backend.release a block size) = (read a).giveBack size

namespace Gauge

variable [Backend α] (g : Gauge α)

/-- A gauge that follows each call follows all of them. -/
theorem read_step {ops : ElementOps κ τ} {e e' : Env α κ τ} {t : List (Entry τ)}
    (h : Env.Step ops e t e') : g.read e'.allocator = (g.read e.allocator).afterAll t := by
  cases h with
  | report | copy | dispose | compare => rfl
  | giveBack block size => exact g.released _ block size
  | obtain size =>
    rw [Env.allocator_obtain, Env.entriesOf]
    by_cases zero : size = 0
    · rw [if_pos zero, zero, request_zero]
      rfl
    rw [if_neg zero, state_request zero, ← List.singleton_append, Tally.afterAll_append,
      Tally.afterAll_reports]
    cases answer : (Backend.allocate e.allocator size).answer with
    | none => rw [request_of_none zero answer]; exact g.refused answer
    | some block => rw [request_of_some zero answer]; exact g.granted answer

/-- **A gauge reads what the trace says.** -/
theorem read_steps {ops : ElementOps κ τ} {e e' : Env α κ τ} {t : List (Entry τ)}
    (h : Env.Steps ops e t e') : g.read e'.allocator = (g.read e.allocator).afterAll t := by
  induction h with
  | refl => rfl
  | head step _ ih => rw [ih, g.read_step step, Tally.afterAll_append]

/-! ## 3. Where gauges come from

The counters of a counting allocator are a gauge, and a gauge of an allocator is a gauge of every
allocator around it: each wrapper passes the calls on, or answers none itself. -/

theorem answer_counting (c : Counting α) (size : Size) :
    (Backend.allocate c size).answer = (Backend.allocate c.inner size).answer := by
  simp only [Backend.allocate, Counting.allocate]
  split <;> rfl

/-- The gauge of a counting allocator. -/
def counting : Gauge (Counting α) where
  read c := ⟨c.liveBlocks, c.liveBytes⟩
  refused {c size} h := by
    rw [answer_counting] at h
    simp [Backend.allocate, Counting.allocate, h]
  granted {c size block} h := by
    rw [answer_counting] at h
    simp [Backend.allocate, Counting.allocate, h, Tally.obtain]
  released c block size := rfl

/-- A gauge below a counting allocator. -/
def underCounting : Gauge (Counting α) where
  read c := g.read c.inner
  refused {c size} h := by
    rw [answer_counting] at h
    simpa [Backend.allocate, Counting.allocate, h] using g.refused h
  granted {c size block} h := by
    rw [answer_counting] at h
    simpa [Backend.allocate, Counting.allocate, h] using g.granted h
  released c block size := g.released c.inner block size

/-- A gauge below a failing allocator, which may refuse without asking. -/
def underFailing : Gauge (Failing α) where
  read f := g.read f.inner
  refused {f size} h := by
    rcases f.allocate_cases size with ⟨-, inner⟩ | ⟨answer, inner⟩
    · rw [inner]
    · rw [inner, g.refused (answer.symm.trans h)]
  granted {f size block} h := by
    rcases f.allocate_cases size with ⟨answer, -⟩ | ⟨answer, inner⟩
    · cases answer.symm.trans h
    · rw [inner, g.granted (answer.symm.trans h)]
  released f block size := g.released f.inner block size

/-- A gauge below a shared allocator. -/
def underShared : Gauge (Shared α) where
  read s := g.read s.inner
  refused h := g.refused h
  granted h := g.granted h
  released s block size := g.released s.inner block size

end Gauge

/-- The gauges of all counting allocators in a stack, from the top. -/
def Stack.gauges : (s : Stack) → List (Gauge s.State)
  | heap | arena | plain | skewed => []
  | counting inner => Gauge.counting :: inner.gauges.map Gauge.underCounting
  | failing inner => inner.gauges.map Gauge.underFailing
  | shared inner => inner.gauges.map Gauge.underShared

end ReservedArray
