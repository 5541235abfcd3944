/-
# Arrays from lists

An array for a list is made with a slot for each element, or with one slot if there are none, and
then the elements are appended one after the other.  Every append looks whether there is a slot
left, and there always is: the slots that were reserved last to the end of the list
(`meets_extend`), however long it is and whatever the hooks do.  What can go wrong before that is
only that no block is had; what can go wrong after it is only a panic (`FillsAnew`).

Plain numbers are copied as they are, and copying them never panics
(`ElementOps.CopiesExactly`).  So what comes of a list of numbers is decided by a single request:
`ofList_faithful`.
-/
import Mathlib
import ReservedArray.Element.Basic
import ReservedArray.Proofs.Bounded.Outcomes
import ReservedArray.Proofs.Demand.Requests
import ReservedArray.Proofs.Rollback

namespace ReservedArray

variable {α κ τ : Type}

open Entry (requests)

/-! ## 1. The course of filling an array -/

/-- The slots that are reserved for a list. -/
def slotsFor (xs : List τ) : Size := (max 1 xs.length).toUInt64

theorem toNat_slotsFor {xs : List τ} (counted : xs.length < UInt64.size) :
    (slotsFor xs).toNat = max 1 xs.length :=
  UInt64.toNat_ofNat_of_lt' (max_lt (by decide) counted)

/-- The courses of making an array from a list. -/
inductive FillsAnew (layout : Layout) (xs : List τ) :
    Outcome ArrayError (Buffer τ) → List (Entry τ) → Prop
  | refused {source : AllocError} {t : List (Entry τ)} :
      Takes (τ := τ) layout (slotsFor xs) (.error source) t →
      FillsAnew layout xs (.refused (.initAllocation source))
        (t ++ [.report (.initAllocationFailed (slotsFor xs) source)])
  | filled {b : Buffer τ} {ys : List τ} {t₁ t₂ : List (Entry τ)} :
      Takes layout (slotsFor xs) (.ok b) t₁ → Fills xs ys (.ok ()) t₂ →
      FillsAnew layout xs (.done (b.filled ys)) (t₁ ++ t₂)
  | interrupted {b : Buffer τ} {ys : List τ} {panic : Panic} {o : Outcome ArrayError (Buffer τ)}
      {t₁ t₂ t₃ : List (Entry τ)} : Takes layout (slotsFor xs) (.ok b) t₁ →
      Fills xs ys (.error panic) t₂ → Leaves layout (b.filled ys) (.unwound panic) o t₃ →
      FillsAnew layout xs o (t₁ ++ (t₂ ++ t₃))

/-- An array with no elements yet is refused for want of a block, or it is a new buffer. -/
theorem MakesArray.of_reserve {layout : Layout} {reserve : Size}
    {o : Outcome ArrayError (Buffer τ)} {t : List (Entry τ)}
    (h : MakesArray layout reserve 0 none o t) (some : reserve ≠ 0) :
    (∃ source t', Takes (τ := τ) layout reserve (.error source) t' ∧
      o = .refused (.initAllocation source) ∧
      t = t' ++ [.report (.initAllocationFailed reserve source)]) ∨
    ∃ b, Takes layout reserve (.ok b) t ∧ o = .done b := by
  cases h with
  | zeroReserve zero => exact absurd zero some
  | countExceedsReserve _ exceeds => exact absurd exceeds UInt64.not_lt_zero
  | missingSeed _ _ counted => exact absurd rfl counted
  | @refused source t _ takes => exact .inl ⟨source, t, takes, rfl, rfl⟩
  | @made b _ _ _ _ takes fills =>
    cases fills
    rw [List.append_nil, b.filled_nil]
    exact .inr ⟨b, takes, rfl⟩
  | interrupted _ _ fills => cases fills

section Courses

variable [Backend α] (options : ArrayOptions κ τ)

/-- **Slots that were reserved do not run out.**  With room for all of them, the elements are copied
one after the other until a copy panics, and no append is refused. -/
theorem meets_extend (xs : List τ) {b : Buffer τ} (room : b.length + xs.length ≤ b.reserve.toNat) :
    Meets options.ops (b.extend options xs : Run α κ τ _) fun v t =>
      ∃ ys r, v = (ys.length, .ofCall r, b.filled ys) ∧ Fills xs ys r t := by
  induction xs generalizing b with
  | nil => exact .pure ⟨[], .ok (), by rw [b.filled_nil]; rfl, .done⟩
  | cons x xs ih =>
    rw [List.length_cons] at room
    unfold Buffer.extend
    refine .bind (meets_append options x (by omega)) ?_
    intro v t appends
    cases appends with
    | full full => omega
    | placed _ places =>
      cases places with
      | panicked panic =>
        refine .pure ⟨[], .error panic, ?_, .panicked x xs panic⟩
        rw [b.filled_nil]
        rfl
      | copied y =>
        have room' : (b.filled [y]).length + xs.length ≤ (b.filled [y]).reserve.toNat := by
          rw [Buffer.length_filled, Buffer.reserve_filled, List.length_singleton]
          omega
        refine .map (ih room') ?_
        rintro _ t ⟨ys, r, rfl, fills⟩
        refine ⟨y :: ys, r, ?_, fills.copied⟩
        rw [Buffer.filled_filled]
        rfl

theorem meets_ofList {xs : List τ} (counted : xs.length < UInt64.size) :
    Meets options.ops (Buffer.ofList options xs : Run α κ τ _) (FillsAnew options.layout xs) := by
  have slots := toNat_slotsFor counted
  have some : slotsFor xs ≠ 0 := by
    intro zero
    rw [zero] at slots
    exact absurd slots (Nat.ne_of_lt (Nat.le_max_left 1 _))
  unfold Buffer.ofList Buffer.withReserve
  refine .bind (meets_init options (slotsFor xs) 0 none) ?_
  intro o t₁ makes
  rcases makes.of_reserve some with ⟨source, t, takes, rfl, rfl⟩ | ⟨b, takes, rfl⟩
  · refine .pure ?_
    rw [List.append_nil]
    exact .refused takes
  · obtain ⟨reserve_eq, -, empty⟩ := takes.fresh
    have room : b.length + xs.length ≤ b.reserve.toNat := by
      rw [empty, reserve_eq, slots, Nat.zero_add]
      exact Nat.le_max_right 1 _
    refine .bind (meets_extend options xs room) ?_
    rintro _ t₂ ⟨ys, panic | ⟨⟩, rfl, fills⟩
    · refine (meets_leave options _ _).mono ?_
      intro o t₃ leaves
      exact .interrupted takes fills leaves
    · refine .pure ?_
      rw [List.append_nil]
      exact .filled takes fills

end Courses

/-- **What is refused is refused for want of a block**, whatever the hooks do. -/
theorem FillsAnew.cause_of_refused {layout : Layout} {xs : List τ} {error : ArrayError}
    {t : List (Entry τ)} (h : FillsAnew layout xs (.refused error) t) :
    ∃ source, error = .initAllocation source := by
  generalize ended : (.refused error : Outcome ArrayError (Buffer τ)) = o at h
  cases h with
  | @refused source =>
    cases ended
    exact ⟨source, rfl⟩
  | filled => cases ended
  | interrupted _ _ leaves => exact absurd ended.symm (leaves.stopped.2 error)

/-! ## 2. Copies that are exact -/

/-- Every copy is made, and it is what its source is. -/
def ElementOps.CopiesExactly (ops : ElementOps κ τ) : Prop :=
  ∀ x context, (ops.copy x context).1 = .ok x

/-- Elements that are copied of themselves are copied exactly. -/
theorem Element.copiesExactly_naturalOps [Element τ] :
    (naturalOps : ElementOps Ledger τ).CopiesExactly := fun _ _ => rfl

/-- A copy that was made exactly; any other call. -/
def Entry.CopiedExactly : Entry τ → Prop
  | .copy x result => result = some x
  | _ => True

theorem Env.Steps.copiedExactly [Backend α] {ops : ElementOps κ τ} {e e' : Env α κ τ}
    {t : List (Entry τ)} (h : Env.Steps ops e t e') (exact : ops.CopiesExactly) :
    ∀ q ∈ t, q.CopiedExactly := by
  have copied (x : τ) (context : κ) :
      Entry.CopiedExactly (.copy x (ops.copy x context).1.toOption) :=
    congrArg Except.toOption (exact x context)
  exact h.forall_entries copied (fun _ _ => trivial) (fun _ _ _ => trivial) (fun _ _ => trivial)
    (fun _ _ => trivial) fun _ => trivial

theorem Fills.of_copiedExactly {xs ys : List τ} {r : Except Panic Unit} {t : List (Entry τ)}
    (h : Fills xs ys r t) (exact : ∀ q ∈ t, q.CopiedExactly) : r = .ok () ∧ ys = xs := by
  induction h with
  | done => exact ⟨rfl, rfl⟩
  | copied _ ih =>
    obtain ⟨copied, rest⟩ := List.forall_mem_cons.mp exact
    cases copied
    obtain ⟨rfl, rfl⟩ := ih rest
    exact ⟨rfl, rfl⟩
  | panicked => cases List.forall_mem_singleton.mp exact

/-- What comes of a list when a buffer is taken for it, or none is had. -/
def Outcome.ofTaken (xs : List τ) : Except AllocError (Buffer τ) → Outcome ArrayError (Buffer τ)
  | .error source => .refused (.initAllocation source)
  | .ok b => .done (b.filled xs)

/-- **Where copies are exact, only taking the buffer can fail.**  What is held in the end is the
array, if there is one. -/
theorem FillsAnew.of_copiedExactly {layout : Layout} {xs : List τ}
    {o : Outcome ArrayError (Buffer τ)} {t : List (Entry τ)} (h : FillsAnew layout xs o t)
    (exact : ∀ q ∈ t, q.CopiedExactly) :
    ∃ r t₁ t₂, Takes layout (slotsFor xs) r t₁ ∧ t = t₁ ++ t₂ ∧ requests t₂ = [] ∧
      o = .ofTaken xs r ∧ Moves 0 t (o.held layout) := by
  cases h with
  | @refused source t takes =>
    exact ⟨.error source, t, _, takes, rfl, rfl, rfl,
      takes.moves_error.1.append (.single (.report _ 0))⟩
  | @filled b ys t₁ t₂ takes fills =>
    obtain ⟨-, rfl⟩ := fills.of_copiedExactly (List.forall_mem_append.mp exact).2
    exact ⟨.ok b, t₁, t₂, takes, rfl, fills.requests_eq, rfl,
      takes.moves_ok.1.append (fills.moves (ε := ArrayError) b).1⟩
  | interrupted _ fills =>
    have copies := (List.forall_mem_append.mp (List.forall_mem_append.mp exact).2).1
    cases (fills.of_copiedExactly copies).1

/-! ## 3. What the one request is answered -/

section Answers

variable [Backend α] {ops : ElementOps κ τ} {e e' : Env α κ τ} {t t' : List (Entry τ)}
  {layout : Layout} {reserve : Size}

/-- What taking a buffer comes to when the allocator is asked for so many bytes. -/
inductive Answered (layout : Layout) (size : Size) :
    Option Address → Except AllocError (Buffer τ) → Prop
  | refused : Answered layout size none (.error (.exhausted size))
  | misaligned {block : Address} : block % layout.align.toNat ≠ 0 →
      Answered layout size (some block) (.error (.misaligned layout.align))
  | granted (b : Buffer τ) : b.block % layout.align.toNat = 0 → Answered layout size b.block (.ok b)

/-- **A buffer is taken by one request**, which the allocator answers as it stands. -/
theorem Takes.answered {r : Except AllocError (Buffer τ)} (h : Takes layout reserve r t)
    (steps : Env.Steps ops e (t ++ t') e') (positive : 0 < reserve.toNat * layout.size.toNat)
    (fits : reserve.toNat * layout.size.toNat < UInt64.size) :
    let size := reserve * layout.size
    let answer := (Backend.allocate e.allocator size).answer
    requests t = [(size, answer)] ∧ Answered layout size answer r := by
  intro size answer
  have some : size ≠ 0 := by
    intro zero
    rw [← Size.toNat_mul_of_lt fits, show reserve * layout.size = 0 from zero] at positive
    cases positive
  have given : (request e.allocator size).answer.toOption = answer := toOption_answer_request some
  cases h with
  | sizeOverflow overflow => omega
  | zeroSize _ zero => exact absurd zero some
  | exhausted events =>
    rw [← given, ← steps.answer_eq, Entry.requests_allocate, Entry.requests_reports]
    exact ⟨rfl, .refused⟩
  | misaligned events block _ skewed =>
    rw [← given, ← steps.answer_eq, Entry.requests_append, Entry.requests_allocate,
      Entry.requests_reports]
    exact ⟨rfl, .misaligned skewed⟩
  | granted events block _ _ aligned =>
    rw [← given, ← steps.answer_eq, Entry.requests_allocate, Entry.requests_reports]
    exact ⟨rfl, .granted ⟨block, reserve, #[]⟩ aligned⟩

end Answers

/-! ## 4. Exact ends -/

/-- How `c` makes an array from a list, by asking for so many bytes. -/
structure FillsExactly [Backend α] (layout : Layout) (xs : List τ) (size : Size) (e : Env α κ τ)
    (c : Run α κ τ (Outcome ArrayError (Buffer τ))) : Prop where
  /-- There is one request, and the allocator finds it as it stands. -/
  requests_eq : requests (e.calls c) = [(size, (Backend.allocate e.allocator size).answer)]
  /-- With an aligned block the array is made: it has the elements in order and the slots that were
  reserved for them, and it is all that is held. -/
  of_granted : ∀ block, (Backend.allocate e.allocator size).answer = some block →
    block % layout.align.toNat = 0 → ∃ b, (c.run e).1 = .done b ∧ b.block = block ∧
      b.toList = xs ∧ b.length = xs.length ∧ b.reserve.toNat = max 1 xs.length ∧
      Moves 0 (e.calls c) {b.held layout}
  /-- Without one it is refused, and nothing is left behind. -/
  of_not_granted : (∀ block, (Backend.allocate e.allocator size).answer = some block →
    block % layout.align.toNat ≠ 0) →
    (∃ source, (c.run e).1 = .refused (.initAllocation source)) ∧ Undone e c
  /-- It is refused for nothing else. -/
  cause_of_refused : ∀ error, (c.run e).1 = .refused error →
    ∃ source, error = .initAllocation source

/-- **An array from a list, of elements of any size.** -/
theorem fillsExactly_ofList [Backend α] (options : ArrayOptions κ τ)
    (exact : options.ops.CopiesExactly) (e : Env α κ τ) {xs : List τ}
    (sized : 0 < options.layout.size.toNat)
    (fits : max 1 xs.length * options.layout.size.toNat < UInt64.size) :
    FillsExactly options.layout xs (slotsFor xs * options.layout.size) e
      (Buffer.ofList options xs) := by
  have counted : xs.length < UInt64.size :=
    (le_max_right 1 _).trans_lt ((Nat.le_mul_of_pos_right _ sized).trans_lt fits)
  have slots := toNat_slotsFor counted
  have meets := meets_ofList (α := α) options counted
  have steps := meets.steps e
  obtain ⟨r, t₁, t₂, takes, trace, silent, ended, moves⟩ :=
    (meets.calls e).of_copiedExactly (steps.copiedExactly exact)
  have positive : 0 < (slotsFor xs).toNat * options.layout.size.toNat := by
    rw [slots]
    exact Nat.mul_pos (le_max_left 1 _) sized
  obtain ⟨asked, answered⟩ := takes.answered (trace ▸ steps) positive (slots ▸ fits)
  refine ⟨?_, ?_, ?_, fun error refused => ?_⟩
  · rw [trace, Entry.requests_append, silent, List.append_nil, asked]
  · intro block granted aligned
    rw [granted] at answered
    cases answered with
    | misaligned skewed => exact absurd aligned skewed
    | granted b =>
      obtain ⟨reserve_eq, empty, -⟩ := takes.fresh
      have elements : (b.filled xs).toList = xs := by
        rw [Buffer.toList_filled, empty, List.nil_append]
      refine ⟨b.filled xs, ended, rfl, elements, ?_, ?_, ?_⟩
      · rw [← Buffer.length_toList, elements]
      · rw [Buffer.reserve_filled, reserve_eq, slots]
      · rw [ended] at moves
        exact moves
  · intro none
    cases r with
    | ok b =>
      generalize (Backend.allocate e.allocator _).answer = answer at *
      cases answered with
      | granted _ aligned => exact absurd aligned (none b.block rfl)
    | error source =>
      rw [ended] at moves
      exact ⟨⟨source, ended⟩, .of_moves steps moves⟩
  · exact FillsAnew.cause_of_refused (refused ▸ meets.calls e)

/-- **An array of numbers is what it is made from.**  For every list of fewer than `2 ^ 62` numbers
of four bytes, and for none of them too, one block is asked for, of four bytes for each of them and
of four bytes if there are none.  If it is had and aligned, the array has the numbers in order, and
as many slots as it was asked for; otherwise it is refused for want of the block, and nothing stays
allocated.  It is never refused for anything else, so the slots never run out. -/
theorem ofList_faithful [Backend α] {ops : ElementOps κ UInt32} (exact : ops.CopiesExactly)
    (e : Env α κ UInt32) (xs : List UInt32) (few : xs.length < 2 ^ 62) :
    ∃ size : Size, size.toNat = 4 * max 1 xs.length ∧
      FillsExactly (Element.layout UInt32) xs size e
        (Buffer.ofList ⟨Element.layout UInt32, ops⟩ xs) := by
  let options : ArrayOptions κ UInt32 := ⟨Element.layout UInt32, ops⟩
  have four : options.layout.size.toNat = 4 := rfl
  have counted : xs.length < UInt64.size := few.trans (by decide)
  have fits : max 1 xs.length * 4 < UInt64.size := by
    have bound : max 1 xs.length < 2 ^ 62 := max_lt (by decide) few
    calc max 1 xs.length * 4 < 2 ^ 62 * 4 := by omega
      _ = UInt64.size := rfl
  refine ⟨_, ?_, fillsExactly_ofList options exact e (Nat.zero_lt_succ 3) fits⟩
  rw [UInt64.toNat_mul, toNat_slotsFor counted, four, Nat.mod_eq_of_lt fits, Nat.mul_comm]

/-- Three numbers take twelve bytes, none take four, and when no block is left nothing is done. -/
theorem ofList_faithful_of_three :
    let made (xs : List UInt32) : Run (Counting (Failing Heap)) Ledger UInt32 _ :=
      Buffer.ofList ⟨Element.layout UInt32, Element.naturalOps⟩ xs
    let counted (budget : Nat) : Env (Counting (Failing Heap)) Ledger UInt32 :=
      { allocator := { inner := { inner := Heap.system, budget := some budget } }, context := {} }
    (∃ b, ((made [3, 1, 2]).run (counted 1)).1 = .done b ∧ b.toList = [3, 1, 2] ∧
      b.reserve.toNat = 3 ∧ requests ((counted 1).calls (made [3, 1, 2])) = [(12, some 4096)]) ∧
    (∃ b, ((made []).run (counted 1)).1 = .done b ∧ b.toList = [] ∧ b.reserve.toNat = 1 ∧
      requests ((counted 1).calls (made [])) = [(4, some 4096)]) ∧
    (∃ source, ((made [3, 1, 2]).run (counted 0)).1 = .refused (.initAllocation source)) ∧
    ((made [3, 1, 2]).run (counted 0)).2.allocator.liveBlocks = 0 := by
  intro made counted
  have exact : (Element.naturalOps : ElementOps Ledger UInt32).CopiesExactly :=
    Element.copiesExactly_naturalOps
  refine ⟨?_, ?_, ?_⟩
  · obtain ⟨size, bytes, fills⟩ := ofList_faithful exact (counted 1) [3, 1, 2] (by decide)
    obtain rfl : size = 12 := UInt64.toNat_inj.mp bytes
    have served : (Backend.allocate (counted 1).allocator 12).answer = some 4096 := by decide
    obtain ⟨b, done, -, elements, -, reserve, -⟩ := fills.of_granted 4096 served (by decide)
    exact ⟨b, done, elements, reserve, served ▸ fills.requests_eq⟩
  · obtain ⟨size, bytes, fills⟩ := ofList_faithful exact (counted 1) [] (by decide)
    obtain rfl : size = 4 := UInt64.toNat_inj.mp bytes
    have served : (Backend.allocate (counted 1).allocator 4).answer = some 4096 := by decide
    obtain ⟨b, done, -, elements, -, reserve, -⟩ := fills.of_granted 4096 served (by decide)
    exact ⟨b, done, elements, reserve, served ▸ fills.requests_eq⟩
  · obtain ⟨size, bytes, fills⟩ := ofList_faithful exact (counted 0) [3, 1, 2] (by decide)
    obtain rfl : size = 12 := UInt64.toNat_inj.mp bytes
    have refused : (Backend.allocate (counted 0).allocator 12).answer = none := by decide
    obtain ⟨stopped, undone⟩ := fills.of_not_granted (by rw [refused]; nofun)
    exact ⟨stopped, undone.counting.1⟩

end ReservedArray
