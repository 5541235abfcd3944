/-
# Whether a sort has what it asks for

A sort asks for a list of sizes that is known in advance, so it is known in advance as well whether
it is served.

* Behind a budget of requests it is a matter of counting.  When what is behind the budget serves
  everything (`Generous`), the first requests are granted, as many as the budget has, and the others
  are refused (`Failing.rationed_steps`).
* An arena can be asked for the same list by itself (`Arena.allocateAll?`).  Nothing that a sort
  does besides makes a difference to an arena, so what comes of it is what comes of the sort
  (`Arena.allocateAll?_steps`).

`sort_demand_fixed` puts this together with what is known of the requests themselves.
-/
import Mathlib
import ReservedArray.Proofs.Arena.Placement
import ReservedArray.Proofs.Demand.Requests

namespace ReservedArray

variable {α κ τ : Type}

open Entry (panics requests)

/-! ## 1. Requests in single calls -/

section Steps

variable [Backend α] {ops : ElementOps κ τ} {e e' : Env α κ τ} {t : List (Entry τ)}

/-- A call changes nothing about the allocator, gives a block back, or is a request. -/
theorem Env.Step.allocator_cases (h : Env.Step ops e t e') :
    (requests t = [] ∧ e'.allocator = e.allocator) ∨
    (∃ block size, requests t = [] ∧
      e'.allocator = Backend.release e.allocator block size) ∨
    ∃ size, size ≠ 0 ∧ requests t = [(size, (Backend.allocate e.allocator size).answer)] ∧
      e'.allocator = (Backend.allocate e.allocator size).state := by
  cases h with
  | report | copy | dispose | compare => exact .inl ⟨rfl, rfl⟩
  | giveBack block size => exact .inr (.inl ⟨block, size, rfl, rfl⟩)
  | obtain size =>
    rw [Env.allocator_obtain, Env.entriesOf]
    by_cases zero : size = 0
    · rw [if_pos zero, zero, request_zero]
      exact .inl ⟨rfl, rfl⟩
    · rw [if_neg zero, state_request zero, Entry.requests_allocate, Entry.requests_reports]
      refine .inr (.inr ⟨size, zero, ?_, rfl⟩)
      cases answer : (Backend.allocate e.allocator size).answer with
      | none => rw [request_of_none zero answer]; rfl
      | some block => rw [request_of_some zero answer]; rfl

end Steps

/-! ## 2. Behind a budget -/

/-- An allocator that serves every request of one byte up to `limit` with an aligned block, from
whatever state it can be in. -/
structure Generous [Backend α] (align : Size) (limit : Nat) (good : α → Prop) : Prop where
  serves {a : α} {size : Size} : good a → size ≠ 0 → size.toNat ≤ limit →
    Granted align (size, (Backend.allocate a size).answer)
  allocate {a : α} {size : Size} : good a → size ≠ 0 → size.toNat ≤ limit →
    good (Backend.allocate a size).state
  release {a : α} (block : Address) (size : Size) : good a → good (Backend.release a block size)

/-- Of the requests, the first are granted and the others refused; so much is left of the budget,
and so many are counted as refused. -/
structure Rationed (align : Size) (budget refused : Nat) (rs : List Request)
    (budget' refused' : Nat) : Prop where
  left : budget' = budget - rs.length
  counted : refused' = refused + (rs.length - budget)
  granted : ∀ q ∈ rs.take budget, Granted align q
  refused : ∀ q ∈ rs.drop budget, q.2 = none

namespace Rationed

variable {align : Size} {budget refused budget' refused' budget'' refused'' : Nat}
  {rs rs' : List Request}

theorem nil : Rationed align budget refused [] budget refused :=
  ⟨(Nat.sub_zero budget).symm, by rw [List.length_nil, Nat.zero_sub, Nat.add_zero], by simp,
    by simp⟩

theorem append (h : Rationed align budget refused rs budget' refused')
    (h' : Rationed align budget' refused' rs' budget'' refused'') :
    Rationed align budget refused (rs ++ rs') budget'' refused'' := by
  obtain ⟨rfl, rfl, granted, none⟩ := h
  obtain ⟨rfl, rfl, granted', none'⟩ := h'
  refine ⟨?_, ?_, ?_, ?_⟩
  · rw [List.length_append]
    omega
  · rw [List.length_append]
    omega
  · rw [List.take_append]
    exact List.forall_mem_append.mpr ⟨granted, granted'⟩
  · rw [List.drop_append]
    exact List.forall_mem_append.mpr ⟨none, none'⟩

/-- The budget is enough for requests that are granted. -/
theorem length_le (h : Rationed align budget refused (rs ++ rs') budget' refused')
    (all : ∀ q ∈ rs, Granted align q) : rs.length ≤ budget := by
  by_contra less
  have first : rs[budget] ∈ (rs ++ rs').drop budget := by
    rw [List.drop_append_of_le_length (by omega), List.drop_eq_getElem_cons (by omega)]
    exact List.mem_append_left _ List.mem_cons_self
  obtain ⟨block, granted, -⟩ := all _ (List.getElem_mem _)
  rw [h.refused _ first] at granted
  cases granted

/-- When all of them are granted, so much is left. -/
theorem of_granted (h : Rationed align budget refused rs budget' refused')
    (all : ∀ q ∈ rs, Granted align q) :
    rs.length ≤ budget ∧ budget' = budget - rs.length ∧ refused' = refused := by
  have enough : rs.length ≤ budget := by
    rw [← List.append_nil rs] at h
    exact h.length_le all
  refine ⟨enough, h.left, ?_⟩
  rw [h.counted]
  omega

/-- When only the last one is not, the budget has ended just there. -/
theorem of_last_refused {last : Request}
    (h : Rationed align budget refused (rs ++ [last]) budget' refused')
    (all : ∀ q ∈ rs, Granted align q) (failed : ¬ Granted align last) :
    budget = rs.length ∧ budget' = 0 ∧ refused' = refused + 1 ∧ last.2 = none := by
  have enough := h.length_le all
  have spent : budget ≤ rs.length := by
    by_contra more
    refine failed (h.granted last ?_)
    rw [List.take_of_length_le (by rw [List.length_append, List.length_singleton]; omega)]
    exact List.mem_append_right _ (List.mem_singleton.mpr rfl)
  obtain rfl : budget = rs.length := Nat.le_antisymm spent enough
  refine ⟨rfl, ?_, ?_, ?_⟩
  · rw [h.left, List.length_append]
    omega
  · rw [h.counted, List.length_append, List.length_singleton]
    omega
  · refine h.refused last ?_
    rw [List.drop_left]
    exact List.mem_singleton.mpr rfl

end Rationed

namespace Failing

variable [Backend α] {align : Size} {limit : Nat} {good : α → Prop} {ops : ElementOps κ τ}
  {e e' : Env (Failing α) κ τ} {t : List (Entry τ)} {k : Nat}

/-- One call takes at most one request from the budget. -/
theorem rationed_step (h : Env.Step ops e t e') (generous : Generous align limit good)
    (start : good e.allocator.inner) (budget : e.allocator.budget = some k)
    (small : ∀ q ∈ requests t, q.1.toNat ≤ limit) :
    ∃ k', e'.allocator.budget = some k' ∧ good e'.allocator.inner ∧
      Rationed align k e.allocator.refused (requests t) k' e'.allocator.refused := by
  rcases h.allocator_cases with
    ⟨none, same⟩ | ⟨block, size, none, released⟩ | ⟨size, positive, one, state⟩
  · rw [none, same]
    exact ⟨k, budget, start, .nil⟩
  · rw [none, released]
    exact ⟨k, budget, generous.release block size start, .nil⟩
  · rw [one] at small ⊢
    rw [state]
    have small := List.forall_mem_singleton.mp small
    cases k with
    | zero =>
      simp only [Backend.allocate, Failing.allocate, budget]
      exact ⟨0, rfl, start, rfl, rfl, by simp, by simp⟩
    | succ k =>
      simp only [Backend.allocate, Failing.allocate, budget, Reply.answer_mapState,
        Reply.state_mapState]
      refine ⟨k, rfl, generous.allocate start positive small, rfl, ?_, ?_, by simp⟩
      · simp
      · simpa using generous.serves start positive small

/-- **Behind a budget, the first requests are granted and the others refused.** -/
theorem rationed_steps (h : Env.Steps ops e t e') (generous : Generous align limit good)
    (start : good e.allocator.inner) (budget : e.allocator.budget = some k)
    (small : ∀ q ∈ requests t, q.1.toNat ≤ limit) :
    ∃ k', e'.allocator.budget = some k' ∧
      Rationed align k e.allocator.refused (requests t) k' e'.allocator.refused := by
  induction h generalizing k with
  | refl => exact ⟨k, budget, .nil⟩
  | head step _ ih =>
    rw [Entry.requests_append] at small ⊢
    obtain ⟨first, rest⟩ := List.forall_mem_append.mp small
    obtain ⟨k', budget', good', rationed⟩ := rationed_step step generous start budget first
    obtain ⟨k'', budget'', rationed'⟩ := ih good' budget' rest
    exact ⟨k'', budget'', rationed.append rationed'⟩

end Failing

/-! ## 3. In an arena -/

namespace Arena

/-- The arena after it has served all of the sizes in order, if it can. -/
def allocateAll? (arena : Arena) : List Nat → Option Arena
  | [] => some arena
  | size :: rest =>
    let r := arena.allocate size.toUInt64
    if r.answer.isSome then r.state.allocateAll? rest else none

theorem allocateAll?_append (arena : Arena) (demand demand' : List Nat) :
    arena.allocateAll? (demand ++ demand') =
      (arena.allocateAll? demand).bind (·.allocateAll? demand') := by
  induction demand generalizing arena with
  | nil => rfl
  | cons size demand ih =>
    rw [List.cons_append, allocateAll?, allocateAll?]
    split
    · exact ih _
    · rfl

variable {ops : ElementOps κ τ} {e e' : Env Arena κ τ} {t : List (Entry τ)}

/-- **To an arena, a sequence of calls is its requests.** -/
theorem allocateAll?_steps (h : Env.Steps ops e t e') :
    e.allocator.allocateAll? (sizes (requests t)) =
      if (requests t).all (·.2.isSome) then some e'.allocator else none := by
  induction h with
  | refl => rfl
  | head step _ ih =>
    rw [Entry.requests_append, sizes_append, allocateAll?_append, List.all_append]
    rcases step.allocator_cases with
      ⟨none, same⟩ | ⟨_, _, none, same⟩ | ⟨size, positive, one, state⟩
    · rw [none, ← same]
      exact ih
    · rw [none]
      rw [same] at ih
      exact ih
    · have word : size.toNat.toUInt64 = size := UInt64.ofNat_toNat
      rw [state] at ih
      simp only [one, sizes, List.map_cons, List.map_nil, allocateAll?, List.all_cons,
        List.all_nil, Bool.and_true, word]
      show ((if (Backend.allocate (α := Arena) _ size).answer.isSome then some _
        else none).bind _) = _
      cases granted : (Backend.allocate (α := Arena) _ size).answer.isSome with
      | false => rfl
      | true => exact ih

/-- Every block that an arena hands out is at a multiple of its alignment. -/
theorem aligned_steps (h : Env.Steps ops e t e')
    (power : Size.isPowerOfTwo e.allocator.alignment = true) :
    ∀ q ∈ requests t, ∀ block, q.2 = some block → block % e.allocator.alignment.toNat = 0 := by
  induction h with
  | refl => nofun
  | @head e₁ e₂ e₃ t t' step _ ih =>
    -- no call changes the alignment
    have still : e₂.allocator.alignment = e₁.allocator.alignment ∧
        ∀ q ∈ requests t, ∀ block, q.2 = some block →
          block % e₁.allocator.alignment.toNat = 0 := by
      rcases step.allocator_cases with
        ⟨none, same⟩ | ⟨_, _, none, same⟩ | ⟨size, positive, one, state⟩
      · rw [none, same]
        exact ⟨rfl, nofun⟩
      · rw [none, same]
        exact ⟨rfl, nofun⟩
      · rw [one, state]
        have carves : Carves _ size (Backend.allocate _ size).answer
            (Backend.allocate _ size).state :=
          carves_allocate power size
        generalize (Backend.allocate e₁.allocator size).answer = answer at *
        generalize (Backend.allocate e₁.allocator size).state = arena at *
        cases carves with
        | refused => exact ⟨rfl, List.forall_mem_singleton.mpr nofun⟩
        | carved placed =>
          refine ⟨rfl, List.forall_mem_singleton.mpr ?_⟩
          rintro block ⟨⟩
          rw [placed]
          exact roundUp_mod _ _
    rw [Entry.requests_append]
    rw [still.1] at ih
    exact List.forall_mem_append.mpr ⟨still.2, ih power⟩

end Arena

/-! ## 4. Together -/

/-- A smaller power of two divides a larger one. -/
theorem Size.dvd_of_isPowerOfTwo {a c : Size} (power : Size.isPowerOfTwo a = true)
    (power' : Size.isPowerOfTwo c = true) (le : a ≤ c) : a.toNat ∣ c.toNat := by
  obtain ⟨i, exponent⟩ := Size.isPowerOfTwo_iff.mp power
  obtain ⟨j, exponent'⟩ := Size.isPowerOfTwo_iff.mp power'
  have le := UInt64.le_iff_toNat_le.mp le
  rw [exponent, exponent'] at le ⊢
  exact Nat.pow_dvd_pow 2 ((Nat.pow_le_pow_iff_right Nat.one_lt_two).mp le)

section Sorting

variable {options : ArrayOptions κ τ} {b : Buffer τ}

/-- Requests of a sort are no larger than the block of the array. -/
theorem Asks.small {stop : Option AllocError} {rs : List Request} (sound : b.Sound options.layout)
    (h : Asks options.layout.align (b.demand options.layout) stop rs) :
    ∀ q ∈ rs, q.1.toNat ≤ b.reserve.toNat * options.layout.size.toNat := fun _ mem =>
  Buffer.le_of_mem_demand sound (h.sizes_prefix.subset (List.mem_map_of_mem mem))

/-- What is not granted was refused or is not aligned. -/
theorem not_granted {align : Size} {size : Size} {answer : Option Address}
    (h : answer = none ∨ ∃ block, answer = some block ∧ block % align.toNat ≠ 0) :
    ¬ Granted align (size, answer) := by
  rintro ⟨block, there, aligned⟩
  rcases h with rfl | ⟨_, rfl, skewed⟩
  · cases there
  · cases there
    exact skewed aligned

/-- **Behind a budget**, a sort is done if the budget has a request for every block. -/
theorem Failing.sort_done_iff [Backend α] {e : Env (Failing α) κ τ}
    (sound : b.Sound options.layout) (nonempty : 1 ≤ b.length) {good : α → Prop} {k : Nat}
    (generous : Generous options.layout.align (b.reserve.toNat * options.layout.size.toNat) good)
    (start : good e.allocator.inner) (budget : e.allocator.budget = some k)
    (calm : panics (e.calls (b.sort options)) = []) :
    (((b.sort options).run e).1.1 = .done () ∧ 2 * b.length - 1 ≤ k ∧
      ((b.sort options).run e).2.allocator.budget = some (k - (2 * b.length - 1)) ∧
      ((b.sort options).run e).2.allocator.refused = e.allocator.refused) ∨
    (((b.sort options).run e).1.1 ≠ .done () ∧ k < 2 * b.length - 1 ∧
      ((b.sort options).run e).2.allocator.budget = some 0 ∧
      ((b.sort options).run e).2.allocator.refused = e.allocator.refused + 1) := by
  have meets := meets_sort (α := Failing α) options sound.length_le
  have length_eq := Buffer.length_demand options.layout nonempty
  rcases (meets.calls e).asks sound nonempty calm with ⟨done, asks⟩ | ⟨error, refused, asks⟩
  · obtain ⟨k', left, rationed⟩ :=
      Failing.rationed_steps (meets.steps e) generous start budget (asks.small sound)
    obtain ⟨same, granted⟩ := asks.of_none
    obtain ⟨enough, rfl, counted⟩ := rationed.of_granted granted
    rw [← length_eq, ← same, sizes, List.length_map]
    exact .inl ⟨done, enough, left, counted⟩
  · obtain ⟨k', left, rationed⟩ :=
      Failing.rationed_steps (meets.steps e) generous start budget (asks.small sound)
    have within := asks.sizes_prefix.length_le
    obtain ⟨before, size, answer, all, granted, why⟩ := asks.of_some
    have failed : ¬ Granted options.layout.align (size, answer) :=
      not_granted (why.imp And.left fun ⟨block, there, skewed, _⟩ => ⟨block, there, skewed⟩)
    rw [all] at rationed within
    obtain ⟨rfl, rfl, counted, -⟩ := rationed.of_last_refused granted failed
    rw [length_eq, sizes, List.length_map, List.length_append, List.length_singleton] at within
    refine .inr ⟨?_, within, left, counted⟩
    rw [refused]
    nofun

/-- **In an arena**, a sort is done if the arena serves the list by itself. -/
theorem Arena.sort_done_iff {e : Env Arena κ τ} (sound : b.Sound options.layout)
    (nonempty : 1 ≤ b.length) (power : Size.isPowerOfTwo e.allocator.alignment = true)
    (power' : Size.isPowerOfTwo options.layout.align = true)
    (le : options.layout.align ≤ e.allocator.alignment)
    (calm : panics (e.calls (b.sort options)) = []) :
    (((b.sort options).run e).1.1 = .done () ∧
      e.allocator.allocateAll? (b.demand options.layout) =
        some ((b.sort options).run e).2.allocator) ∨
    (((b.sort options).run e).1.1 ≠ .done () ∧
      e.allocator.allocateAll? (b.demand options.layout) = none) := by
  have meets := meets_sort (α := Arena) options sound.length_le
  have served := Arena.allocateAll?_steps (meets.steps e)
  rcases (meets.calls e).asks sound nonempty calm with ⟨done, asks⟩ | ⟨error, refused, asks⟩
  · obtain ⟨same, granted⟩ := asks.of_none
    rw [same, if_pos] at served
    · exact .inl ⟨done, served⟩
    · refine List.all_eq_true.mpr fun q mem => ?_
      obtain ⟨block, there, -⟩ := granted q mem
      rw [there]
      rfl
  · refine .inr ⟨by rw [refused]; nofun, ?_⟩
    obtain ⟨before, size, answer, all, -, none | ⟨block, rfl, skewed, -⟩⟩ := asks.of_some
    · rw [if_neg] at served
      · obtain ⟨rest, whole⟩ := asks.sizes_prefix
        rw [← whole, Arena.allocateAll?_append, served]
        rfl
      · rw [all, none.1]
        simp
    · -- a block of the arena is aligned for the elements
      have aligned := Arena.aligned_steps (meets.steps e) power (size, some block)
        (by rw [all]; simp) block rfl
      have divides := Size.dvd_of_isPowerOfTwo power' power le
      exact absurd (Nat.mod_eq_zero_of_dvd (divides.trans (Nat.dvd_of_mod_eq_zero aligned))) skewed

end Sorting

/-- **What a sort asks for is fixed in advance.**  The sizes are those of `Buffer.demand`, two for
each element but one for the last, whatever the elements are.  A sort in which nothing panics asks
for them in order: for all of them if it is done, and else up to the first that is refused or not
aligned, which is what its error says.  So behind a budget, with everything served there, it is a
matter of counting whether a sort is done; and in an arena, of whether the arena serves that
list. -/
theorem sort_demand_fixed (options : ArrayOptions κ τ) {b : Buffer τ}
    (sound : b.Sound options.layout) (nonempty : 1 ≤ b.length) :
    (b.demand options.layout).length = 2 * b.length - 1 ∧
    (∀ {α : Type} [Backend α] (e : Env α κ τ), panics (e.calls (b.sort options)) = [] →
      sizes (requests (e.calls (b.sort options))) <+: b.demand options.layout ∧
      (((b.sort options).run e).1.1 = .done () ∧
          sizes (requests (e.calls (b.sort options))) = b.demand options.layout ∧
          (∀ q ∈ requests (e.calls (b.sort options)), Granted options.layout.align q) ∨
        ∃ before size answer,
          requests (e.calls (b.sort options)) = before ++ [(size, answer)] ∧
          (∀ q ∈ before, Granted options.layout.align q) ∧
          (answer = none ∧
              ((b.sort options).run e).1.1 = .refused (.sortAllocation (.exhausted size)) ∨
            ∃ block, answer = some block ∧ block % options.layout.align.toNat ≠ 0 ∧
              ((b.sort options).run e).1.1 =
                .refused (.sortAllocation (.misaligned options.layout.align))))) ∧
    (∀ {α : Type} [Backend α] (e : Env (Failing α) κ τ) (good : α → Prop) (k : Nat),
      Generous options.layout.align (b.reserve.toNat * options.layout.size.toNat) good →
      good e.allocator.inner → e.allocator.budget = some k →
      panics (e.calls (b.sort options)) = [] →
      (((b.sort options).run e).1.1 = .done () ↔ 2 * b.length - 1 ≤ k) ∧
      (2 * b.length - 1 ≤ k →
        ((b.sort options).run e).2.allocator.budget = some (k - (2 * b.length - 1)) ∧
        ((b.sort options).run e).2.allocator.refused = e.allocator.refused) ∧
      (k < 2 * b.length - 1 →
        ((b.sort options).run e).2.allocator.budget = some 0 ∧
        ((b.sort options).run e).2.allocator.refused = e.allocator.refused + 1)) ∧
    ∀ e : Env Arena κ τ, Size.isPowerOfTwo e.allocator.alignment = true →
      Size.isPowerOfTwo options.layout.align = true →
      options.layout.align ≤ e.allocator.alignment →
      panics (e.calls (b.sort options)) = [] →
      (((b.sort options).run e).1.1 = .done () ↔
        (e.allocator.allocateAll? (b.demand options.layout)).isSome) ∧
      (((b.sort options).run e).1.1 = .done () →
        e.allocator.allocateAll? (b.demand options.layout) =
          some ((b.sort options).run e).2.allocator) := by
  refine ⟨Buffer.length_demand options.layout nonempty, ?_, ?_, ?_⟩
  · intro α _ e calm
    have course := (meets_sort (α := α) options sound.length_le).calls e
    rcases course.asks sound nonempty calm with ⟨done, asks⟩ | ⟨error, refused, asks⟩
    · exact ⟨asks.sizes_prefix, .inl ⟨done, asks.of_none⟩⟩
    · obtain ⟨before, size, answer, all, granted, why⟩ := asks.of_some
      refine ⟨asks.sizes_prefix, .inr ⟨before, size, answer, all, granted, ?_⟩⟩
      rcases why with ⟨none, rfl⟩ | ⟨block, there, skewed, rfl⟩
      · exact .inl ⟨none, refused⟩
      · exact .inr ⟨block, there, skewed, refused⟩
  · intro α _ e good k generous start budget calm
    rcases Failing.sort_done_iff sound nonempty generous start budget calm with
      ⟨done, enough, left, counted⟩ | ⟨stopped, short, left, counted⟩
    · exact ⟨⟨fun _ => enough, fun _ => done⟩, fun _ => ⟨left, counted⟩, by omega⟩
    · exact ⟨⟨fun done => absurd done stopped, by omega⟩, by omega, fun _ => ⟨left, counted⟩⟩
  · intro e power power' le calm
    rcases Arena.sort_done_iff sound nonempty power power' le calm with
      ⟨done, served⟩ | ⟨stopped, unserved⟩
    · rw [served]
      exact ⟨⟨fun _ => rfl, fun _ => done⟩, fun _ => rfl⟩
    · rw [unserved]
      exact ⟨⟨fun done => absurd done stopped, nofun⟩, fun done => absurd done stopped⟩

/-- The system's heap serves small blocks, all of them aligned. -/
theorem Heap.generous : Generous 4 8 fun heap : Heap =>
    heap.serves = Heap.system.serves ∧ heap.next % 16 = 0 := by
  have accepts {heap : Heap} {size : Size} (serves : heap.serves = Heap.system.serves)
      (positive : size ≠ 0) (small : size.toNat ≤ 8) : heap.accepts size = true := by
    have within (bound : Size) (le : 8 ≤ bound.toNat) : size ≤ bound :=
      UInt64.le_iff_toNat_le.mpr (small.trans le)
    have below : size < 0x100000000000000 :=
      UInt64.lt_iff_toNat_lt.mpr (small.trans_lt (by decide))
    simp [Heap.accepts, Heap.wellSized, serves, Heap.system, positive, below,
      within Heap.maxSize (by decide)]
  constructor
  · rintro heap size ⟨serves, aligned⟩ positive small
    refine ⟨heap.next, ?_, ?_⟩
    · simp only [Backend.allocate, Heap.allocate, if_pos (accepts serves positive small)]
    · have four : 4 ∣ 16 := by decide
      exact Nat.mod_eq_zero_of_dvd (four.trans (Nat.dvd_of_mod_eq_zero aligned))
  · rintro heap size ⟨serves, aligned⟩ positive small
    simp only [Backend.allocate, Heap.allocate, if_pos (accepts serves positive small)]
    exact ⟨serves, (Nat.add_mul_mod_self_right _ _ 16).trans aligned⟩
  · intro heap block size good
    exact good

/-- A heap behind a budget of two requests. -/
def twoRequests : Env (Failing Heap) Unit Nat :=
  { allocator := { inner := Heap.system, budget := some 2 }, context := () }

/-- An arena of a hundred bytes. -/
def hundredBytes : Env Arena Unit Nat :=
  { allocator := { base := 4096, size := 100, offset := 0, alignment := 16 }, context := () }

/-- For two numbers two requests are not enough, and a hundred bytes are. -/
theorem sort_demand_fixed_of_pair :
    Buffer.pair.demand ⟨4, 4⟩ = [8, 4, 4] ∧
      (((Buffer.pair.sort (wordOptions (.plain compare))).run twoRequests).1.1 ≠ .done () ∧
        ((Buffer.pair.sort (wordOptions (.plain compare))).run
          twoRequests).2.allocator.refused = 1) ∧
      ((Buffer.pair.sort (wordOptions (.plain compare))).run hundredBytes).1.1 = .done () ∧
      ((Buffer.pair.sort (wordOptions (.plain compare))).run hundredBytes).2.allocator.offset =
        36 := by
  obtain ⟨-, -, behind, inside⟩ :=
    sort_demand_fixed (wordOptions (κ := Unit) (.plain compare)) Buffer.sound_pair (by decide)
  have demand : Buffer.pair.demand ⟨4, 4⟩ = [8, 4, 4] := by
    simp [Buffer.demand, scratch, Buffer.pair, Buffer.length]
  have served : hundredBytes.allocator.allocateAll? [8, 4, 4] =
      some { base := 4096, size := 100, offset := 36, alignment := 16 } := by decide
  obtain ⟨enough, -, short⟩ := behind twoRequests _ 2 Heap.generous ⟨rfl, rfl⟩ rfl (by cbv)
  obtain ⟨fits, offset⟩ := inside hundredBytes (by decide) (by decide) (by decide) (by
    cbv
    simp only [Buffer.merge_nil_right]
    cbv)
  have done := fits.mpr (by rw [wordOptions, demand, served]; rfl)
  refine ⟨demand, ⟨fun done => absurd (enough.mp done) (by decide), (short (by decide)).2⟩, done,
    ?_⟩
  have reached := served.symm.trans (demand ▸ offset done)
  rw [← Option.some.inj reached]

end ReservedArray
