/-
# When an operation succeeds

The courses of an operation say how it can end, and what a call was answered stands in its trace.
This file goes one step further: it says from the arguments, the allocator and the hooks *which* end
it is.

What decides about a new buffer is whether the allocator offers a block for it: the size can be
computed, the request is granted, and the block is aligned (`Offers`).  The first call of an
operation finds the allocator and the hooks as they were (`Env.Steps.first`), so its answer in the
trace is the one that they give, and a buffer is taken when, and only when, a block is offered
(`Takes.offers`, `Takes.not_offers`).

The rest is done by hooks, which may panic.  `Outcome.Accounted` says that nothing else does: an
operation that is unwound has seen just one hook panic, and one that is aborted at least two.  A
push into a full buffer would be a panic too many, so there is none.
-/
import Mathlib
import ReservedArray.Proofs.Leak

namespace ReservedArray

variable {α κ τ ε β : Type}

open Entry (panics copyPairs)

/-! ## 1. The first call -/

namespace Env

variable [Backend α] {ops : ElementOps κ τ} {e e' : Env α κ τ} {t : List (Entry τ)}

/-- A call that writes nothing down changes nothing. -/
theorem Step.of_nil (h : Step ops e t e') (silent : t = []) :
    e'.allocator = e.allocator ∧ e'.context = e.context := by
  cases h with
  | report | copy | dispose | compare | giveBack => cases silent
  | obtain size =>
    rw [allocator_obtain, context_obtain]
    rw [entriesOf] at silent
    by_cases zero : size = 0
    · rw [zero, request_zero]
      exact ⟨rfl, rfl⟩
    · rw [if_neg zero] at silent
      cases silent

/-- **The first call in a trace** finds the allocator and the context as they were. -/
theorem Steps.first {q : Entry τ} (h : Steps ops e (q :: t) e') :
    ∃ e₁ t₁ e₂, e₁.allocator = e.allocator ∧ e₁.context = e.context ∧
      Step ops e₁ (q :: t₁) e₂ := by
  generalize written : q :: t = t' at h
  induction h with
  | refl => cases written
  | @head e e' e'' s s' step _ ih =>
    cases s with
    | nil =>
      obtain ⟨allocator, context⟩ := step.of_nil rfl
      obtain ⟨e₁, t₁, e₂, allocator', context', first⟩ := ih written
      exact ⟨e₁, t₁, e₂, allocator'.trans allocator, context'.trans context, first⟩
    | cons q' s =>
      obtain ⟨rfl, -⟩ := List.cons_eq_cons.mp written
      exact ⟨e, s, e', rfl, rfl, step⟩

/-- A request that comes first is answered as the allocator answers it. -/
theorem Steps.answer_eq {size : Size} {block : Option Address}
    (h : Steps ops e (.allocate size block :: t) e') :
    block = (request e.allocator size).answer.toOption := by
  obtain ⟨e₁, t₁, e₂, allocator, -, step⟩ := h.first
  generalize written : Entry.allocate size block :: t₁ = t' at step
  cases step with
  | report | copy | dispose | compare | giveBack => cases written
  | obtain size' =>
    rw [entriesOf] at written
    split at written
    · cases written
    · obtain ⟨same, -⟩ := List.cons_eq_cons.mp written
      cases same
      rw [allocator]

end Env

/-! ## 2. What an allocator offers -/

/-- The allocator hands out this block, aligned, for a buffer of so many elements. -/
structure Offers [Backend α] (layout : Layout) (a : α) (reserve : Size) (block : Address) :
    Prop where
  fits : reserve.toNat * layout.size.toNat < UInt64.size
  granted : (request a (reserve * layout.size)).answer = .ok block
  aligned : block % layout.align.toNat = 0

section Offering

variable [Backend α] {ops : ElementOps κ τ} {e e' : Env α κ τ} {t t' : List (Entry τ)}
  {layout : Layout} {reserve : Size}

/-- A buffer that is taken is one that was offered. -/
theorem Takes.offers {b : Buffer τ} (h : Takes layout reserve (.ok b) t)
    (steps : Env.Steps ops e (t ++ t') e') : Offers layout e.allocator reserve b.block := by
  cases h with
  | granted events block fits _ aligned =>
    have answer := steps.answer_eq
    cases granted : (request e.allocator (reserve * layout.size)).answer with
    | error => rw [granted] at answer; cases answer
    | ok =>
      rw [granted] at answer
      cases answer
      exact ⟨fits, granted, aligned⟩

/-- When none can be taken, none is offered. -/
theorem Takes.not_offers {source : AllocError} (h : Takes (τ := τ) layout reserve (.error source) t)
    (steps : Env.Steps ops e (t ++ t') e') (block : Address) :
    ¬Offers layout e.allocator reserve block := by
  rintro ⟨fits, granted, aligned⟩
  cases h with
  | sizeOverflow overflow => exact absurd fits (Nat.not_lt.mpr overflow)
  | zeroSize _ zero =>
    rw [zero, request_zero] at granted
    cases granted
  | exhausted events =>
    have answer := steps.answer_eq
    rw [granted] at answer
    cases answer
  | misaligned events block' _ misaligned =>
    have answer := steps.answer_eq
    rw [granted] at answer
    cases answer
    exact misaligned aligned

end Offering

/-! ## 3. Whose panics they are -/

/-- Every panic behind the end is one of a hook. -/
def Outcome.Accounted (t : List (Entry τ)) : Outcome ε β → Prop
  | done _ | refused _ => panics t = []
  | unwound _ => (panics t).length = 1
  | aborted => 2 ≤ (panics t).length

section Accounts

variable {o : Outcome ε β} {t : List (Entry τ)}

theorem Ends.accounted {L : Multiset (Holding τ)} (h : Ends o (panics t) L) : o.Accounted t := by
  generalize seen : panics t = qs at h
  cases h with
  | done | refused => exact seen
  | interrupted | leaked => exact congrArg List.length seen
  | aborted _ _ two =>
    rw [Outcome.Accounted, seen]
    exact two

/-- Without a panic an operation is done or refused. -/
theorem Outcome.Accounted.of_calm (h : o.Accounted t) (calm : panics t = []) :
    (∃ value, o = .done value) ∨ ∃ e, o = .refused e := by
  cases o with
  | done value => exact .inl ⟨value, rfl⟩
  | refused e => exact .inr ⟨e, rfl⟩
  | unwound panic =>
    rw [Outcome.Accounted, calm] at h
    cases h
  | aborted =>
    rw [Outcome.Accounted, calm] at h
    cases h

theorem Settles.accounted {layout : Layout} {b : Buffer τ}
    {v : Outcome ArrayError Unit × Buffer τ} (h : Settles layout b v t) : v.1.Accounted t := by
  cases h with
  | kept _ _ ends => exact ends.accounted
  | replaced replaces =>
    cases replaces with
    | done _ calm => exact calm
    | torn _ _ panicked => exact congrArg List.length panicked

end Accounts

/-! ## 4. Appending -/

/-- How an append to `b` ends, when the hooks find this context. -/
structure AppendsExactly (ops : ElementOps κ τ) (context : κ) (x : τ) (b : Buffer τ)
    (v : Outcome ArrayError Unit × Buffer τ) (t : List (Entry τ)) : Prop where
  full_iff : v.1 = .refused (.noReserve b.reserve) ↔ b.length = b.reserve.toNat
  done_iff : v.1 = .done () ↔ b.length < b.reserve.toNat ∧ ∃ y, (ops.copy x context).1 = .ok y
  /-- The copy comes behind the other elements, and nothing else is called or changed. -/
  of_done : v.1 = .done () → ∃ y, (ops.copy x context).1 = .ok y ∧ t = [.copy x (some y)] ∧
    v.2.toList = b.toList ++ [y] ∧ v.2.block = b.block ∧ v.2.reserve = b.reserve
  of_not_done : v.1 ≠ .done () → v.2 = b
  accounted : v.1.Accounted t

/-- A copy that comes first is made in the context as it was. -/
theorem Env.Steps.copy_eq [Backend α] {ops : ElementOps κ τ} {e e' : Env α κ τ} {x : τ}
    {result : Option τ} {t : List (Entry τ)} (h : Steps ops e (.copy x result :: t) e') :
    result = (ops.copy x e.context).1.toOption := by
  obtain ⟨e₁, t₁, e₂, -, context, step⟩ := h.first
  generalize written : Entry.copy x result :: t₁ = t' at step
  cases step with
  | report | dispose | compare | giveBack => cases written
  | copy =>
    cases written
    rw [context]
  | obtain size =>
    rw [Env.entriesOf] at written
    split at written <;> cases written

theorem Appends.exactly [Backend α] {ops : ElementOps κ τ} {e e' : Env α κ τ} {layout : Layout}
    {x : τ} {b : Buffer τ} {v : Outcome ArrayError Unit × Buffer τ} {t : List (Entry τ)}
    (h : Appends x b v t) (steps : Env.Steps ops e t e') (sound : b.Sound layout) :
    AppendsExactly ops e.context x b v t := by
  have settles : Settles layout b v t := h.settles
  have accounted := settles.accounted
  cases h with
  | full full =>
    exact ⟨iff_of_true rfl full, iff_of_false nofun fun free => absurd full (Nat.ne_of_lt free.1),
      nofun, fun _ => rfl, accounted⟩
  | placed free places =>
    have room : b.length < b.reserve.toNat := Nat.lt_of_le_of_ne sound.length_le free
    cases places with
    | copied y =>
      have copied : (ops.copy x e.context).1 = .ok y := by
        have answer := steps.copy_eq
        cases made : (ops.copy x e.context).1 with
        | error => rw [made] at answer; cases answer
        | ok => rw [made] at answer; cases answer; rfl
      exact ⟨iff_of_false nofun free, iff_of_true rfl ⟨room, y, copied⟩,
        fun _ => ⟨y, copied, rfl, b.toList_filled [y], rfl, rfl⟩, absurd rfl, accounted⟩
    | panicked panic =>
      refine ⟨iff_of_false nofun free, iff_of_false nofun ?_, nofun, fun _ => rfl, accounted⟩
      rintro ⟨-, y, copied⟩
      have answer := steps.copy_eq
      rw [copied] at answer
      cases answer

/-! ## 5. Growing -/

/-- What is left while a panic unwinds ends with a panic. -/
theorem Leaves.stopped {layout : Layout} {b : Buffer τ} {panic : Panic} {o : Outcome ε β}
    {t : List (Entry τ)} (h : Leaves layout b (.unwound panic) o t) :
    (∀ value, o ≠ .done value) ∧ ∀ error, o ≠ .refused error := by
  constructor
  · rintro value rfl
    cases h.eq_of_standing nofun nofun
  · rintro error rfl
    cases h.eq_of_standing nofun nofun

/-- What is neither done nor refused has seen a panic. -/
theorem Outcome.Accounted.panicked {o : Outcome ε β} {t : List (Entry τ)} (h : o.Accounted t)
    (stopped : (∀ value, o ≠ .done value) ∧ ∀ error, o ≠ .refused error) : panics t ≠ [] := by
  intro calm
  rcases h.of_calm calm with ⟨value, done⟩ | ⟨error, refused⟩
  · exact stopped.1 value done
  · exact stopped.2 error refused

/-- How growing `b` to `reserve` elements ends over the allocator `a`. -/
structure GrowsExactly [Backend α] (layout : Layout) (a : α) (reserve : Size) (b : Buffer τ)
    (v : Outcome ArrayError Unit × Buffer τ) (t : List (Entry τ)) : Prop where
  rejected_iff : v.1 = .refused (.shrinkRejected reserve b.reserve) ↔ reserve ≤ b.reserve
  unserved_iff : (∃ source, v.1 = .refused (.growAllocation source)) ↔
    b.reserve < reserve ∧ ∀ block, ¬Offers layout a reserve block
  done_iff : v.1 = .done () ↔
    b.reserve < reserve ∧ (∃ block, Offers layout a reserve block) ∧ panics t = []
  /-- The elements are copies of the old ones, in order, in the block that is offered. -/
  of_done : v.1 = .done () → v.2.reserve = reserve ∧ Offers layout a reserve v.2.block ∧
    v.2.length = b.length ∧ copyPairs t = b.toList.zip v.2.toList
  of_refused : ∀ error, v.1 = .refused error → v.2 = b
  accounted : v.1.Accounted t

theorem Grows.exactly [Backend α] {ops : ElementOps κ τ} {e e' : Env α κ τ} {layout : Layout}
    {reserve : Size} {b : Buffer τ} {v : Outcome ArrayError Unit × Buffer τ} {t : List (Entry τ)}
    (h : Grows layout reserve b v t) (steps : Env.Steps ops e t e') :
    GrowsExactly layout e.allocator reserve b v t := by
  have accounted := h.settles.accounted
  cases h with
  | rejected le =>
    have not_lt {P : Prop} : ¬(b.reserve < reserve ∧ P) := fun lt => UInt64.not_lt.mpr le lt.1
    exact ⟨iff_of_true rfl le, iff_of_false nofun not_lt, iff_of_false nofun not_lt, nofun,
      fun _ _ => rfl, accounted⟩
  | refused lt takes =>
    have none := takes.not_offers steps
    refine ⟨iff_of_false nofun (UInt64.not_le.mpr lt), iff_of_true ⟨_, rfl⟩ ⟨lt, none⟩,
      iff_of_false nofun ?_, nofun, fun _ _ => rfl, accounted⟩
    rintro ⟨-, ⟨block, offers⟩, -⟩
    exact none block offers
  | interrupted lt takes fills leaves =>
    have stopped := leaves.stopped
    have offers := takes.offers steps
    exact ⟨iff_of_false (stopped.2 _) (UInt64.not_le.mpr lt),
      iff_of_false (fun refused => refused.elim fun _ => stopped.2 _) fun none => none.2 _ offers,
      iff_of_false (stopped.1 _) fun calm => accounted.panicked stopped calm.2.2,
      fun done => absurd done (stopped.1 _), fun error refused => absurd refused (stopped.2 error),
      accounted⟩
  | @superseded fresh ys o t₁ t₂ t₃ lt takes fills supersedes =>
    have offers := takes.offers steps
    obtain ⟨reserve_eq, empty, -⟩ := takes.fresh
    have not_refused : ∀ error, o ≠ .refused error := by
      rintro error rfl
      cases supersedes
    have done_iff : o = .done () ↔ panics (t₁ ++ (t₂ ++ t₃)) = [] := by
      refine ⟨fun done => by rw [done] at accounted; exact accounted, fun calm => ?_⟩
      rcases accounted.of_calm calm with ⟨⟨⟩, done⟩ | ⟨error, refused⟩
      · exact done
      · exact absurd refused (not_refused error)
    refine ⟨iff_of_false (not_refused _) (UInt64.not_le.mpr lt),
      iff_of_false (fun refused => refused.elim fun _ => not_refused _) fun none => none.2 _ offers,
      done_iff.trans ⟨fun calm => ⟨lt, ⟨_, offers⟩, calm⟩, fun all => all.2.2⟩,
      fun _ => ⟨reserve_eq, offers, ?_, ?_⟩, fun error refused => absurd refused (not_refused error),
      accounted⟩
    · rw [← Buffer.length_toList, Buffer.toList_filled, empty, List.nil_append, fills.length_eq,
        Buffer.length_toList]
    · rw [Entry.copyPairs_append, Entry.copyPairs_append, takes.idle.copyPairs_eq,
        fills.copyPairs_eq, supersedes.idle.copyPairs_eq, Buffer.toList_filled, empty,
        List.nil_append, List.append_nil, List.nil_append]

/-! ## 6. Sorting -/

/-- How sorting `b` ends.  Whatever comes of it, the array is as long and as large as before. -/
structure SortsExactly (b : Buffer τ) (v : Outcome ArrayError Unit × Buffer τ)
    (t : List (Entry τ)) : Prop where
  empty_iff : v.1 = .refused .sortEmpty ↔ b.length = 0
  of_empty : b.length = 0 → v.2 = b ∧ t = []
  reserve_eq : v.2.reserve = b.reserve
  length_eq : v.2.length = b.length
  accounted : v.1.Accounted t

theorem SortsArray.exactly {layout : Layout} {b : Buffer τ}
    {v : Outcome ArrayError Unit × Buffer τ} {t : List (Entry τ)} (h : SortsArray layout b v t) :
    SortsExactly b v t := by
  have accounted := h.settles.accounted
  have length_ne (nonempty : b.toList ≠ []) : b.length ≠ 0 := fun empty =>
    nonempty (List.length_eq_zero_iff.mp (b.length_toList.trans empty))
  cases h with
  | empty empty =>
    have length_eq : b.length = 0 := by rw [← b.length_toList, empty, List.length_nil]
    exact ⟨iff_of_true rfl length_eq, fun _ => ⟨rfl, rfl⟩, rfl, rfl, accounted⟩
  | refused nonempty | unwound nonempty | aborted nonempty =>
    exact ⟨iff_of_false nofun (length_ne nonempty), fun empty => absurd empty (length_ne nonempty),
      rfl, rfl, accounted⟩
  | superseded nonempty sorts supersedes =>
    obtain ⟨length_eq, reserve_eq⟩ := sorts.same_shape
    refine ⟨iff_of_false ?_ (length_ne nonempty), fun empty => absurd empty (length_ne nonempty),
      reserve_eq, length_eq, accounted⟩
    rintro rfl
    cases supersedes

/-! ## 7. Making an array -/

/-- How making an array of `reserve` slots with `count` copies of the seed ends over the allocator
`a`. -/
structure MakesExactly [Backend α] (layout : Layout) (a : α) (reserve count : Size)
    (seed : Option τ) (o : Outcome ArrayError (Buffer τ)) (t : List (Entry τ)) : Prop where
  zero_iff : o = .refused .zeroReserve ↔ reserve = 0
  exceeds_iff : o = .refused (.countExceedsReserve count reserve) ↔ reserve ≠ 0 ∧ reserve < count
  unseeded_iff : o = .refused .missingSeed ↔
    reserve ≠ 0 ∧ count ≤ reserve ∧ count ≠ 0 ∧ seed = none
  unserved_iff : (∃ source, o = .refused (.initAllocation source)) ↔
    Acceptable reserve count seed ∧ ∀ block, ¬Offers layout a reserve block
  done_iff : (∃ b, o = .done b) ↔
    Acceptable reserve count seed ∧ (∃ block, Offers layout a reserve block) ∧ panics t = []
  /-- The elements are copies of the seed, one made after the other. -/
  of_done : ∀ b, o = .done b → b.reserve = reserve ∧ Offers layout a reserve b.block ∧
    b.length = count.toNat ∧ copyPairs t = (seeds count seed).zip b.toList
  accounted : o.Accounted t

/-- What is acceptable is seeded for every slot that is to be filled. -/
theorem Acceptable.length_seeds {reserve count : Size} {seed : Option τ}
    (h : Acceptable reserve count seed) : (seeds count seed).length = count.toNat := by
  cases seed with
  | some x => exact List.length_replicate
  | none =>
    have zero : count = 0 := by
      by_contra some
      cases h.seeded some
    rw [zero]
    rfl

section Acceptance

variable {reserve count : Size} {seed : Option τ}

theorem Acceptable.not_exceeds (h : Acceptable reserve count seed) :
    ¬(reserve ≠ 0 ∧ reserve < count) :=
  fun exceeds => UInt64.not_lt.mpr h.count_le exceeds.2

theorem Acceptable.not_unseeded (h : Acceptable reserve count seed) :
    ¬(reserve ≠ 0 ∧ count ≤ reserve ∧ count ≠ 0 ∧ seed = none) := by
  rintro ⟨-, -, some, rfl⟩
  cases h.seeded some

end Acceptance

theorem MakesArray.exactly [Backend α] {ops : ElementOps κ τ} {e e' : Env α κ τ} {layout : Layout}
    {reserve count : Size} {seed : Option τ} {o : Outcome ArrayError (Buffer τ)}
    {t : List (Entry τ)} (h : MakesArray layout reserve count seed o t)
    (steps : Env.Steps ops e t e') : MakesExactly layout e.allocator reserve count seed o t := by
  have accounted : o.Accounted t := by
    obtain ⟨L, -, ends⟩ := h.moves
    exact ends.accounted
  -- three refusals come before the allocator is asked, each after the ones before it
  cases h with
  | zeroReserve zero =>
    have unacceptable {P : Prop} : ¬(Acceptable reserve count seed ∧ P) :=
      fun h => h.1.reserve_ne zero
    exact ⟨iff_of_true rfl zero, iff_of_false nofun fun h => h.1 zero,
      iff_of_false nofun fun h => h.1 zero, iff_of_false nofun unacceptable,
      iff_of_false nofun unacceptable, nofun, accounted⟩
  | countExceedsReserve ne lt =>
    have unacceptable {P : Prop} : ¬(Acceptable reserve count seed ∧ P) :=
      fun h => h.1.not_exceeds ⟨ne, lt⟩
    exact ⟨iff_of_false nofun ne, iff_of_true rfl ⟨ne, lt⟩,
      iff_of_false nofun fun h => UInt64.not_lt.mpr h.2.1 lt, iff_of_false nofun unacceptable,
      iff_of_false nofun unacceptable, nofun, accounted⟩
  | missingSeed ne le some none =>
    have unacceptable {P : Prop} : ¬(Acceptable reserve count seed ∧ P) :=
      fun h => h.1.not_unseeded ⟨ne, le, some, none⟩
    exact ⟨iff_of_false nofun ne, iff_of_false nofun fun h => UInt64.not_lt.mpr le h.2,
      iff_of_true rfl ⟨ne, le, some, none⟩, iff_of_false nofun unacceptable,
      iff_of_false nofun unacceptable, nofun, accounted⟩
  | refused acceptable takes =>
    have none := takes.not_offers steps
    refine ⟨iff_of_false nofun acceptable.reserve_ne, iff_of_false nofun acceptable.not_exceeds,
      iff_of_false nofun acceptable.not_unseeded, iff_of_true ⟨_, rfl⟩ ⟨acceptable, none⟩,
      iff_of_false nofun ?_, nofun, accounted⟩
    rintro ⟨-, ⟨block, offers⟩, -⟩
    exact none block offers
  | @made b ys t₁ t₂ acceptable takes fills =>
    have offers := takes.offers steps
    obtain ⟨reserve_eq, empty, -⟩ := takes.fresh
    refine ⟨iff_of_false nofun acceptable.reserve_ne, iff_of_false nofun acceptable.not_exceeds,
      iff_of_false nofun acceptable.not_unseeded, iff_of_false nofun fun none => none.2 _ offers,
      iff_of_true ⟨_, rfl⟩ ⟨acceptable, ⟨_, offers⟩, accounted⟩, ?_, accounted⟩
    rintro _ ⟨⟩
    refine ⟨reserve_eq, offers, ?_, ?_⟩
    · rw [← Buffer.length_toList, Buffer.toList_filled, empty, List.nil_append, fills.length_eq,
        acceptable.length_seeds]
    · rw [Entry.copyPairs_append, takes.idle.copyPairs_eq, fills.copyPairs_eq, Buffer.toList_filled,
        empty, List.nil_append, List.nil_append]
  | interrupted acceptable takes fills leaves =>
    have stopped := leaves.stopped
    have offers := takes.offers steps
    exact ⟨iff_of_false (stopped.2 _) acceptable.reserve_ne,
      iff_of_false (stopped.2 _) acceptable.not_exceeds,
      iff_of_false (stopped.2 _) acceptable.not_unseeded,
      iff_of_false (fun refused => refused.elim fun _ => stopped.2 _) fun none => none.2 _ offers,
      iff_of_false (fun done => done.elim stopped.1) fun calm =>
        accounted.panicked stopped calm.2.2,
      fun b done => absurd done (stopped.1 b), accounted⟩

end ReservedArray
