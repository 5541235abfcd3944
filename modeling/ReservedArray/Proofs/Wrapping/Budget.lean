/-
# Budgets are kept to the request

A failing allocator passes as many requests on as its budget allows and refuses the rest itself.
Tests of what follows a failure rest on this: the failure has to come at the request that it was
meant for.

What reaches the allocator inside is written down there (`Logged`), and the list changes nothing
else (`Failing.unlogged_enact`).  Of one call there is this to say: a request takes one from the
budget, whether it is answered with a block or not, and a resize is one request
(`Failing.budget_make`); a call is passed on, or it is a request and the budget is spent
(`Failing.forwards`, `Failing.turnsAway`).  From this follows what reaches the inside in a stretch
of calls under one budget (`Failing.log_converse`) and how many requests were refused in a run with
any number of budgets (`Failing.refused_enact`).
-/
import Mathlib
import ReservedArray.Proofs.Wrapping.Transparency

namespace ReservedArray

variable {α : Type}

/-! ## 1. Requests, written down -/

/-- The size that a call asks for.  A resize asks once. -/
def Call.request? : Call → Option Size
  | allocate size => some size
  | reallocate _ _ newSize | reallocateByCopy _ _ newSize => some newSize
  | release _ _ | query _ | control _ | alignment | write .. => none

/-- The sizes that are asked for in a dialogue. -/
def requested (calls : List Call) : List Size := calls.filterMap Call.request?

@[simp] theorem requested_nil : requested [] = [] := rfl

theorem requested_cons (call : Call) (calls : List Call) :
    requested (call :: calls) = call.request?.toList ++ requested calls := by
  simp only [requested, List.filterMap_cons]
  cases call.request? <;> rfl

/-- An allocator with a list of the sizes that it was asked for. -/
structure Logged (α : Type) where
  inner : α
  log : List Size := []

namespace Logged

variable [Allocator α]

instance : Backend (Logged α) where
  allocate l size :=
    (Backend.allocate l.inner size).mapState fun inner => { inner, log := l.log ++ [size] }
  release l block size := { l with inner := Backend.release l.inner block size }

instance : Allocator (Logged α) where
  reallocate l memory block oldSize newSize :=
    (Allocator.reallocate l.inner memory block oldSize newSize).mapState
      (Prod.map (fun inner => { inner, log := l.log ++ [newSize] }) id)
  query l key := Allocator.query l.inner key
  control l key := (Allocator.control l.inner key).mapState fun inner => { l with inner }
  alignment l := Allocator.alignment l.inner

/-- Every request is written down, whatever it is answered. -/
theorem log_make (l : Logged α) (memory : Memory) (call : Call) :
    (call.make l memory).state.1.log = l.log ++ call.request?.toList := by
  cases call with
  | allocate size => rfl
  | reallocate block oldSize newSize => rfl
  | reallocateByCopy block oldSize newSize =>
    simp only [Call.make, reallocateByCopy]
    split <;> rfl
  | release | query | control | alignment | write => exact (List.append_nil _).symm

end Logged

theorem Call.request?_emulated (call : Call) : call.emulated.request? = call.request? := by
  cases call <;> rfl

/-! ## 2. One call -/

/-- Of these, the ones that a budget allows. -/
def admitted {β : Type} : Option Nat → List β → List β
  | none, l => l
  | some n, l => l.take n

@[simp] theorem admitted_nil {β : Type} (budget : Option Nat) :
    admitted budget ([] : List β) = [] := by
  cases budget with
  | none => rfl
  | some n => exact List.take_nil

theorem admitted_sublist {β : Type} (budget : Option Nat) (l : List β) :
    (admitted budget l).Sublist l := by
  cases budget with
  | none => exact .refl l
  | some n => exact List.take_sublist n l

/-- What is allowed of the later ones is up to what the earlier ones leave. -/
theorem admitted_append {β : Type} (budget : Option Nat) (l l' : List β) :
    admitted budget (l ++ l') =
      admitted budget l ++ admitted (budget.map (· - l.length)) l' := by
  cases budget with
  | none => rfl
  | some n => exact List.take_append

/-- A budget that allows more than so many requests. -/
def Outlasts : Option Nat → Nat → Prop
  | none, _ => True
  | some n, k => k < n

theorem outlasts_iff {budget : Option Nat} {k : Nat} :
    Outlasts budget k ↔ budget.map (· - k) ≠ some 0 := by
  cases budget with
  | none => simp [Outlasts]
  | some n => simp only [Outlasts, Option.map_some, ne_eq, Option.some.injEq]; omega

namespace Failing

variable [Allocator α] {f : Failing α} {call : Call}

/-- The call is made to the allocator inside and answered there, and is not counted as refused. -/
def Forwards (f : Failing α) (memory : Memory) (call : Call) : Prop :=
  call.emulated.make f.inner memory = (call.make f memory).mapState (Prod.map inner id) ∧
    (call.make f memory).state.1.refused = f.refused

/-- The call gets no block and is counted, and that is all: memory and the allocator inside stay,
and nothing is reported. -/
def TurnsAway (f : Failing α) (memory : Memory) (call : Call) : Prop :=
  call.make f memory =
    { answer := .block none, state := ({ f with refused := f.refused + 1 }, memory) }

theorem emulates : Emulates (Failing α) := fun _ _ _ _ _ => rfl

theorem make_emulated (f : Failing α) (memory : Memory) (call : Call) :
    call.emulated.make f memory = call.make f memory := by
  cases call <;> rfl

theorem allocate_of_spent (spent : f.budget = some 0) (size : Size) :
    Backend.allocate f size = { answer := none, state := { f with refused := f.refused + 1 } } := by
  simp only [Backend.allocate, allocate, spent]

theorem allocate_of_left (left : f.budget ≠ some 0) (size : Size) :
    Backend.allocate f size = (Backend.allocate f.inner size).mapState fun inner =>
      { f with inner, budget := f.budget.map (· - 1) } := by
  obtain ⟨inner, budget, refused⟩ := f
  match budget, left with
  | none, _ | some (n + 1), _ => rfl
  | some 0, left => exact absurd rfl left

/-- What a copying resize leaves of the budget, and what it counts, is the request's. -/
theorem reallocateByCopy_state (f : Failing α) (memory : Memory) (block : Address)
    (oldSize newSize : Size) :
    (reallocateByCopy f memory block oldSize newSize).state.1.budget =
        (Backend.allocate f newSize).state.budget ∧
      (reallocateByCopy f memory block oldSize newSize).state.1.refused =
        (Backend.allocate f newSize).state.refused := by
  rw [reallocateByCopy]
  cases (Backend.allocate f newSize).answer <;> exact ⟨rfl, rfl⟩

/-- **A request takes one from the budget**, if there is one to take, and nothing else does. -/
theorem budget_make (f : Failing α) (memory : Memory) (call : Call) :
    (call.make f memory).state.1.budget = f.budget.map (· - call.request?.toList.length) := by
  have allocate (size : Size) :
      (Backend.allocate f size).state.budget = f.budget.map (· - 1) := by
    by_cases spent : f.budget = some 0
    · rw [allocate_of_spent spent, spent]
      rfl
    · rw [allocate_of_left spent]
      rfl
  cases call with
  | allocate size => exact allocate size
  | reallocate block oldSize newSize | reallocateByCopy block oldSize newSize =>
    exact (f.reallocateByCopy_state memory block oldSize newSize).1.trans (allocate newSize)
  | release | query | control | alignment | write => exact (congrFun Option.map_id _).symm

/-- **What is no request, or within the budget, is passed on.** -/
theorem forwards (memory : Memory) (left : call.request? = none ∨ f.budget ≠ some 0) :
    f.Forwards memory call := by
  have byCopy (block : Address) (oldSize newSize : Size) (left : f.budget ≠ some 0) :
      f.Forwards memory (.reallocateByCopy block oldSize newSize) := by
    have passed := allocate_of_left left newSize
    have same : Backend.allocate f.inner newSize =
        (Backend.allocate f newSize).mapState inner := by
      rw [passed]
      rfl
    have copied : reallocateByCopy f.inner memory block oldSize newSize = _ :=
      reallocateByCopy_view memory same fun _ => rfl
    constructor
    · simp only [Call.emulated, Call.make, copied]
      rfl
    · refine (f.reallocateByCopy_state memory block oldSize newSize).2.trans ?_
      rw [passed]
      rfl
  cases call with
  | allocate size =>
    have passed := allocate_of_left (left.resolve_left (Option.some_ne_none _)) size
    constructor
    · simp only [Call.emulated, Call.make, passed]
      rfl
    · simp only [Call.make, passed]
      rfl
  | reallocate block oldSize newSize | reallocateByCopy block oldSize newSize =>
    exact byCopy block oldSize newSize (left.resolve_left (Option.some_ne_none _))
  | release | query | control | alignment | write => exact ⟨rfl, rfl⟩

/-- **Once the budget is spent, a request is turned away.** -/
theorem turnsAway (memory : Memory) (asks : call.request? ≠ none) (spent : f.budget = some 0) :
    f.TurnsAway memory call := by
  have byCopy (block : Address) (oldSize newSize : Size) :
      f.TurnsAway memory (.reallocateByCopy block oldSize newSize) := by
    simp only [TurnsAway, Call.make, reallocateByCopy, allocate_of_spent spent]
  cases call with
  | allocate size => simp only [TurnsAway, Call.make, allocate_of_spent spent]
  | reallocate block oldSize newSize | reallocateByCopy block oldSize newSize =>
    exact byCopy block oldSize newSize
  | release | query | control | alignment | write => exact absurd rfl asks

/-! ## 3. Calls under one budget -/

/-- What is left of the budget after some calls. -/
theorem budget_converse (f : Failing α) (memory : Memory) (calls : List Call) :
    (converse f memory calls).state.1.budget = f.budget.map (· - (requested calls).length) := by
  induction calls generalizing f memory with
  | nil => exact (congrFun Option.map_id _).symm
  | cons call calls ih =>
    simp only [converse, ih, budget_make, Option.map_map, requested_cons, List.length_append,
      Function.comp_def, Nat.sub_sub]

/-- So the next call is passed on while the budget outlasts the requests before it, and always when
it is no request itself; and it is turned away otherwise. -/
theorem next_call (f : Failing α) (memory : Memory) (calls : List Call) (call : Call) :
    let s := (converse f memory calls).state
    (call.request? = none ∨ Outlasts f.budget (requested calls).length →
      s.1.Forwards s.2 call) ∧
    (call.request? ≠ none → ¬ Outlasts f.budget (requested calls).length →
      s.1.TurnsAway s.2 call) := by
  intro s
  rw [outlasts_iff, ← budget_converse f memory calls, not_not]
  exact ⟨forwards s.2, turnsAway s.2⟩

/-- A request reaches the inside, where it is written down, or it is counted. -/
theorem log_make (f : Failing (Logged α)) (memory : Memory) (call : Call) :
    (call.make f memory).state.1.inner.log =
        f.inner.log ++ admitted f.budget call.request?.toList ∧
      (call.make f memory).state.1.refused +
          (admitted f.budget call.request?.toList).length =
        f.refused + call.request?.toList.length := by
  by_cases left : call.request? = none ∨ f.budget ≠ some 0
  · obtain ⟨passed, refused⟩ := forwards memory left
    have all : admitted f.budget call.request?.toList = call.request?.toList := by
      cases budget : f.budget with
      | none => rfl
      | some n =>
        refine List.take_of_length_le ?_
        rcases left with none | left
        · simp [none]
        · have positive : n ≠ 0 := fun zero => left (zero ▸ budget)
          cases call.request? with
          | none => exact Nat.zero_le n
          | some size => exact Nat.one_le_iff_ne_zero.mpr positive
    have log := f.inner.log_make memory call.emulated
    rw [passed, call.request?_emulated] at log
    rw [all]
    exact ⟨log, congrArg (· + _) refused⟩
  · obtain ⟨asks, spent⟩ := not_or.mp left
    obtain ⟨size, asked⟩ := Option.ne_none_iff_exists'.mp asks
    have away := turnsAway memory asks (not_not.mp spent)
    rw [away, not_not.mp spent, asked]
    exact ⟨(List.append_nil _).symm, rfl⟩

/-- **Under one budget, so many requests reach the inside as it allows, the first ones**, and the
rest is counted. -/
theorem log_converse (f : Failing (Logged α)) (memory : Memory) (calls : List Call) :
    (converse f memory calls).state.1.inner.log =
        f.inner.log ++ admitted f.budget (requested calls) ∧
      (converse f memory calls).state.1.refused +
          (admitted f.budget (requested calls)).length =
        f.refused + (requested calls).length := by
  induction calls generalizing f memory with
  | nil =>
    rw [requested_nil, admitted_nil]
    exact ⟨(List.append_nil _).symm, rfl⟩
  | cons call calls ih =>
    obtain ⟨log, counted⟩ := f.log_make memory call
    obtain ⟨log', counted'⟩ := ih (call.make f memory).state.1 (call.make f memory).state.2
    rw [budget_make] at log' counted'
    rw [requested_cons, admitted_append]
    simp only [converse]
    constructor
    · rw [log', log, List.append_assoc]
    · simp only [List.length_append]
      omega

/-! ## 4. Runs -/

/-- What can be done to a failing allocator. -/
inductive Act where
  | setBudget (budget : Option Nat)
  | call (call : Call)

/-- The size that an act asks for. -/
def Act.request? : Act → Option Size
  | .setBudget _ => none
  | .call call => call.request?

/-- The acts are done in order; the answers are listed. -/
def enact (f : Failing α) (memory : Memory) :
    List Act → Reply (Failing α × Memory) (List Call.Answer)
  | [] => { answer := [], state := (f, memory) }
  | .setBudget budget :: acts => (f.setBudget budget).enact memory acts
  | .call call :: acts =>
    let first := call.make f memory
    let rest := first.state.1.enact first.state.2 acts
    { answer := first.answer :: rest.answer
      state := rest.state
      events := first.events ++ rest.events }

/-- A failing allocator around another one with a budget from the start. -/
def failAfter (inner : α) (n : Nat) : Failing α := ({ inner } : Failing α).setBudget (some n)

theorem enact_calls (f : Failing α) (memory : Memory) (calls : List Call) :
    f.enact memory (calls.map .call) = converse f memory calls := by
  induction calls generalizing f memory with
  | nil => rfl
  | cons call calls ih => simp only [List.map_cons, enact, converse, ih]

theorem state_enact_append (f : Failing α) (memory : Memory) (acts acts' : List Act) :
    (f.enact memory (acts ++ acts')).state =
      ((f.enact memory acts).state.1.enact (f.enact memory acts).state.2 acts').state := by
  induction acts generalizing f memory with
  | nil => rfl
  | cons act acts ih =>
    cases act with
    | setBudget budget => exact ih (f.setBudget budget) memory
    | call call => exact ih (call.make f memory).state.1 (call.make f memory).state.2

/-- The failing allocator around the one without a list. -/
def unlogged (f : Failing (Logged α)) : Failing α where
  inner := f.inner.inner
  budget := f.budget
  refused := f.refused

theorem passesOn_unlogged :
    PassesOn (α := Failing (Logged α)) unlogged fun _ => True where
  allocate {f} size _ := by
    refine ⟨?_, trivial⟩
    obtain ⟨inner, budget, refused⟩ := f
    match budget with
    | none | some 0 | some (n + 1) => rfl
  release _ _ := rfl
  keeps_release _ _ _ := trivial
  query _ _ := rfl
  control _ _ := ⟨rfl, trivial⟩
  alignment _ := rfl
  emulates := emulates

/-- **The list changes nothing but itself.** -/
theorem unlogged_enact (f : Failing (Logged α)) (memory : Memory) (acts : List Act) :
    f.unlogged.enact memory acts = (f.enact memory acts).mapState (Prod.map unlogged id) := by
  induction acts generalizing f memory with
  | nil => rfl
  | cons act acts ih =>
    cases act with
    | setBudget budget => exact ih (f.setBudget budget) memory
    | call call =>
      obtain ⟨same, -⟩ := passesOn_unlogged.mirrors call f memory trivial
      rw [make_emulated] at same
      simp only [enact, same, Reply.state_mapState, Prod.map_fst, Prod.map_snd, id_eq, ih]
      rfl

/-- Some requests of a run reached the inside, and so many were refused as there were others. -/
theorem refused_enact (f : Failing (Logged α)) (memory : Memory) (acts : List Act) :
    ∃ reached, reached.Sublist (acts.filterMap Act.request?) ∧
      (f.enact memory acts).state.1.inner.log = f.inner.log ++ reached ∧
      (f.enact memory acts).state.1.refused + reached.length =
        f.refused + (acts.filterMap Act.request?).length := by
  induction acts generalizing f memory with
  | nil => exact ⟨[], .slnil, (List.append_nil _).symm, rfl⟩
  | cons act acts ih =>
    cases act with
    | setBudget budget => exact ih (f.setBudget budget) memory
    | call call =>
      obtain ⟨log, counted⟩ := f.log_make memory call
      obtain ⟨reached, among, log', counted'⟩ :=
        ih (call.make f memory).state.1 (call.make f memory).state.2
      have all : (Act.call call :: acts).filterMap Act.request? =
          call.request?.toList ++ acts.filterMap Act.request? := by
        simp only [List.filterMap_cons, Act.request?]
        cases call.request? <;> rfl
      refine ⟨admitted f.budget call.request?.toList ++ reached, ?_, ?_, ?_⟩
      · rw [all]
        exact (admitted_sublist _ _).append among
      · simp only [enact, log', log, List.append_assoc]
      · simp only [enact, all, List.length_append]
        omega

end Failing

/-- **Failures come at the request that they are meant for.**  Let an allocator, which may refuse
requests of its own, be inside a failing one, and let the requests that reach it be written down.
In every run of calls and new budgets:

* The list changes nothing else.
* After a new budget, and until the next one, the first requests reach the inside, as many as there
  are in the budget, or all when there is none; a resize is one request.  The rest is counted.
* So the next call is made to the allocator inside and answered there, as long as the budget is not
  spent; a resize is made as a copying one.  And when it is spent, a request gets no block and
  changes nothing but the count.
* As many requests have been refused in the whole run as did not reach the inside.
* What is no request, such as a block that goes back, changes neither the budget nor the count.
* A budget from the start is a new budget that is set before the first call. -/
theorem injected_failures_accounted [Allocator α] (f : Failing (Logged α)) (memory : Memory) :
    (∀ acts : List Failing.Act,
      f.unlogged.enact memory acts =
        (f.enact memory acts).mapState (Prod.map Failing.unlogged id)) ∧
    (∀ (before : List Failing.Act) (budget : Option Nat) (calls : List Call),
      let s := (f.enact memory before).state
      let t := (f.enact memory (before ++ .setBudget budget :: calls.map .call)).state
      t.1.inner.log = s.1.inner.log ++ admitted budget (requested calls) ∧
      t.1.refused + (admitted budget (requested calls)).length =
        s.1.refused + (requested calls).length ∧
      t.1.budget = budget.map (· - (requested calls).length) ∧
      ∀ call : Call,
        (call.request? = none ∨ Outlasts budget (requested calls).length →
          t.1.Forwards t.2 call) ∧
        (call.request? ≠ none → ¬ Outlasts budget (requested calls).length →
          t.1.TurnsAway t.2 call)) ∧
    (∀ acts : List Failing.Act, ∃ reached, reached.Sublist (acts.filterMap Failing.Act.request?) ∧
      (f.enact memory acts).state.1.inner.log = f.inner.log ++ reached ∧
      (f.enact memory acts).state.1.refused + reached.length =
        f.refused + (acts.filterMap Failing.Act.request?).length) ∧
    (∀ (acts : List Failing.Act) (call : Call), call.request? = none →
      let s := (f.enact memory acts).state
      (call.make s.1 s.2).state.1.budget = s.1.budget ∧
        (call.make s.1 s.2).state.1.refused = s.1.refused) ∧
    ∀ (inner : Logged α) (n : Nat) (acts : List Failing.Act),
      (Failing.failAfter inner n).enact memory acts =
        ({ inner } : Failing (Logged α)).enact memory (.setBudget (some n) :: acts) := by
  refine ⟨f.unlogged_enact memory, ?_, f.refused_enact memory, ?_, fun _ _ _ => rfl⟩
  · intro before budget calls s t
    have stretch : t = (converse (s.1.setBudget budget) s.2 calls).state := by
      simp only [t, s, Failing.state_enact_append, Failing.enact, Failing.enact_calls]
    obtain ⟨log, counted⟩ := (s.1.setBudget budget).log_converse s.2 calls
    have left := (s.1.setBudget budget).budget_converse s.2 calls
    have next := (s.1.setBudget budget).next_call s.2 calls
    rw [← stretch] at log counted left
    simp only [← stretch] at next
    exact ⟨log, counted, left, next⟩
  · intro acts call quiet s
    have left := s.1.budget_make s.2 call
    obtain ⟨-, refused⟩ := Failing.forwards (f := s.1) s.2 (.inl quiet)
    rw [quiet] at left
    exact ⟨left.trans (congrFun Option.map_id _), refused⟩

/-- A small arena that is asked twice at first. -/
def twiceAsked : Failing (Logged Arena) := .failAfter { inner := ⟨4096, 100, 0, 16⟩ } 2

/-- Then it is to be asked twice more, of which it refuses the second time itself. -/
def twiceMore : List Call := [.release 4096 8, .allocate 40, .reallocate 4112 40 200]

/-- Three requests reach the arena, of which it refuses the last one.  Then a block can still go
back, and the next request does not reach it. -/
theorem injected_failures_accounted_for_arena :
    let run := twiceAsked.enact .zeroed
      ([.call (.allocate 8)] ++ .setBudget (some 2) :: twiceMore.map .call)
    let t := run.state
    run.answer = [.block (some 4096), .nothing, .block (some 4112), .block none] ∧
    t.1.inner.log = [8, 40, 200] ∧ t.1.refused = 0 ∧ t.1.budget = some 0 ∧
    t.1.Forwards t.2 (.release 4112 40) ∧
    ((Call.release 4112 40).make t.1 t.2).state.1.budget = some 0 ∧
    t.1.TurnsAway t.2 (.allocate 40) := by
  intro run t
  obtain ⟨-, stretch, -, quiet, -⟩ := injected_failures_accounted twiceAsked .zeroed
  obtain ⟨log, -, left, next⟩ := stretch [.call (.allocate 8)] (some 2) twiceMore
  refine ⟨by cbv, log, by cbv, left, (next (.release 4112 40)).1 (.inl rfl), ?_, ?_⟩
  · exact (quiet _ (.release 4112 40) rfl).1.trans left
  · exact (next (.allocate 40)).2 (Option.some_ne_none _) (Nat.lt_irrefl 2)

end ReservedArray
