/-
# The course of the operations on one buffer

An operation can take many courses, depending on how its calls are answered.  The relations of
this file list them, each with the calls it makes and what it comes to, and nothing else: neither
the allocator nor the context of the hooks is left.

* `Takes` — a block is taken for a new buffer (`Buffer.allocate`);
* `Fills` — copies go into free slots (`Buffer.fill`);
* `TearsDown` and `Leaves` — a buffer is torn down, of itself or while an operation ends
  (`Buffer.teardown`, `Buffer.leave`).

The `meets_` theorems say that the operations take no other course.  They ask for room: a buffer
with a free slot for every copy never runs over, which is why no relation has a case for it.
-/
import ReservedArray.Buffer.Basic
import ReservedArray.Proofs.Calls

namespace ReservedArray

variable {α κ τ ε β : Type}

/-! ## 1. Elements in free slots -/

namespace Buffer

/-- The buffer with these elements in its next free slots. -/
def filled (b : Buffer τ) (ys : List τ) : Buffer τ := { b with slots := b.slots ++ ys }

@[simp] theorem block_filled (b : Buffer τ) (ys : List τ) : (b.filled ys).block = b.block := rfl

@[simp] theorem reserve_filled (b : Buffer τ) (ys : List τ) :
    (b.filled ys).reserve = b.reserve := rfl

@[simp] theorem bytes_filled (layout : Layout) (b : Buffer τ) (ys : List τ) :
    (b.filled ys).bytes layout = b.bytes layout := rfl

@[simp] theorem toList_filled (b : Buffer τ) (ys : List τ) :
    (b.filled ys).toList = b.toList ++ ys := by
  simp [filled, toList]

@[simp] theorem length_filled (b : Buffer τ) (ys : List τ) :
    (b.filled ys).length = b.length + ys.length := by
  rw [← length_toList, toList_filled, List.length_append, length_toList]

/-- A buffer is its block, its reserve and the list of its elements. -/
theorem ext_toList {b b' : Buffer τ} (block : b.block = b'.block) (reserve : b.reserve = b'.reserve)
    (elements : b.toList = b'.toList) : b = b' := by
  cases b
  cases b'
  simp only [toList] at *
  simp [block, reserve, Array.ext' elements]

@[simp] theorem filled_nil (b : Buffer τ) : b.filled [] = b :=
  ext_toList rfl rfl (by simp)

@[simp] theorem filled_filled (b : Buffer τ) (xs ys : List τ) :
    (b.filled xs).filled ys = b.filled (xs ++ ys) :=
  ext_toList rfl rfl (by simp)

/-- With a free slot, an element can be pushed. -/
theorem push_eq {b : Buffer τ} (room : b.length < b.reserve.toNat) (y : τ) :
    b.push y = .ok (b.filled [y]) := by
  have free : b.slots.size < b.reserve.toNat := room
  rw [push, if_pos free]
  have elements : ({ b with slots := b.slots.push y } : Buffer τ).toList =
      (b.filled [y]).toList := by
    rw [toList_filled]
    exact Array.toList_push
  exact congrArg Except.ok (ext_toList rfl rfl elements)

end Buffer

/-! ## 2. Taking a block -/

/-- The courses of taking a block for `reserve` elements. -/
inductive Takes (layout : Layout) (reserve : Size) :
    Except AllocError (Buffer τ) → List (Entry τ) → Prop
  /-- There is no such size. -/
  | sizeOverflow : UInt64.size ≤ reserve.toNat * layout.size.toNat →
      Takes layout reserve (.error .sizeOverflow) []
  /-- No bytes were asked for. -/
  | zeroSize : reserve.toNat * layout.size.toNat < UInt64.size → reserve * layout.size = 0 →
      Takes layout reserve (.error .zeroSize) []
  | exhausted (events : List Event) : reserve.toNat * layout.size.toNat < UInt64.size →
      Takes layout reserve (.error (.exhausted (reserve * layout.size)))
        (.allocate (reserve * layout.size) none :: events.map .report)
  /-- The block is given back at once. -/
  | misaligned (events : List Event) (block : Address) :
      reserve.toNat * layout.size.toNat < UInt64.size → block % layout.align.toNat ≠ 0 →
      Takes layout reserve (.error (.misaligned layout.align))
        (.allocate (reserve * layout.size) (some block) :: events.map .report ++
          [.release block (reserve * layout.size)])
  | granted (events : List Event) (block : Address) :
      reserve.toNat * layout.size.toNat < UInt64.size → reserve * layout.size ≠ 0 →
      block % layout.align.toNat = 0 →
      Takes layout reserve (.ok { block, reserve, slots := #[] })
        (.allocate (reserve * layout.size) (some block) :: events.map .report)

/-- A buffer that was taken is new: it has the reserve asked for and no elements. -/
theorem Takes.fresh {layout : Layout} {reserve : Size} {b : Buffer τ} {t : List (Entry τ)}
    (h : Takes layout reserve (.ok b) t) : b.reserve = reserve ∧ b.toList = [] ∧ b.length = 0 := by
  cases h
  exact ⟨rfl, rfl, rfl⟩

/-- A product that fits is the product. -/
theorem Size.mul?_eq_some {a b c : Size} (h : Size.mul? a b = some c) :
    a.toNat * b.toNat < UInt64.size ∧ c = a * b := by
  unfold Size.mul? at h
  split at h
  · exact ⟨‹_›, (Option.some.inj h).symm⟩
  · cases h

section Courses

variable [Backend α] {ops : ElementOps κ τ}

theorem meets_allocate (layout : Layout) (reserve : Size) :
    Meets ops (Buffer.allocate layout reserve : Run α κ τ (Except AllocError (Buffer τ)))
      (Takes layout reserve) := by
  unfold Buffer.allocate
  cases product : Size.mul? reserve layout.size with
  | none => exact .pure (.sizeOverflow (Size.mul?_eq_none_iff.mp product))
  | some bytes =>
    obtain ⟨fits, rfl⟩ := Size.mul?_eq_some product
    refine .bind (meets_obtain _) ?_
    rintro _ _ (zero | ⟨events, -⟩ | ⟨events, block, positive⟩)
    · exact .pure (.zeroSize fits zero)
    · refine .pure ?_
      rw [List.append_nil]
      exact .exhausted events fits
    · by_cases aligned : block % layout.align.toNat = 0
      · simp only [if_pos aligned]
        refine .pure ?_
        rw [List.append_nil]
        exact .granted events block fits positive aligned
      · simp only [if_neg aligned]
        refine .map (meets_giveBack _ _) ?_
        rintro _ _ rfl
        exact .misaligned events block fits aligned

/-! ## 3. Filling slots -/

/-- The courses of copying the elements `xs`: the copies made are `ys`. -/
inductive Fills : List τ → List τ → Except Panic Unit → List (Entry τ) → Prop
  | done : Fills [] [] (.ok ()) []
  | copied {x y : τ} {xs ys : List τ} {r : Except Panic Unit} {t : List (Entry τ)} :
      Fills xs ys r t → Fills (x :: xs) (y :: ys) r (.copy x (some y) :: t)
  | panicked (x : τ) (xs : List τ) (panic : Panic) :
      Fills (x :: xs) [] (.error panic) [.copy x none]

/-- The courses of copying one element. -/
inductive Places (x : τ) (b : Buffer τ) : Except Panic Unit × Buffer τ → List (Entry τ) → Prop
  | copied (y : τ) : Places x b (.ok (), b.filled [y]) [.copy x (some y)]
  | panicked (panic : Panic) : Places x b (.error panic, b) [.copy x none]

theorem meets_place (x : τ) {b : Buffer τ} (room : b.length < b.reserve.toNat) :
    Meets ops (b.place ops x : Run α κ τ _) (Places x b) := by
  unfold Buffer.place
  refine .bind (meets_copy x) ?_
  rintro (panic | y) _ rfl
  · exact .pure (.panicked panic)
  · simp only [b.push_eq room]
    exact .pure (.copied y)

theorem meets_fill (xs : List τ) {b : Buffer τ} (room : b.length + xs.length ≤ b.reserve.toNat) :
    Meets ops (b.fill ops xs : Run α κ τ _) fun v t =>
      ∃ ys, v.2 = b.filled ys ∧ Fills xs ys v.1 t := by
  induction xs generalizing b with
  | nil => exact .pure ⟨[], b.filled_nil.symm, .done⟩
  | cons x xs ih =>
    rw [List.length_cons] at room
    refine .bind (meets_place x (by omega)) ?_
    rintro _ _ (y | panic)
    · refine (ih ?_).mono ?_
      · rw [Buffer.length_filled, Buffer.reserve_filled, List.length_singleton]
        omega
      · rintro v t ⟨ys, filled, fills⟩
        refine ⟨y :: ys, ?_, fills.copied⟩
        rw [filled, Buffer.filled_filled, List.singleton_append]
    · exact .pure ⟨[], b.filled_nil.symm, .panicked x xs panic⟩

/-! ## 4. Tearing down -/

/-- The calls that dispose of the elements, each coming back. -/
def disposals (xs : List τ) : List (Entry τ) := xs.map (.dispose · true)

/-- The courses of tearing a buffer down. -/
inductive TearsDown (layout : Layout) (b : Buffer τ) : Except Panic Unit → List (Entry τ) → Prop
  | complete :
      TearsDown layout b (.ok ()) (disposals b.toList ++ [.release b.block (b.bytes layout)])
  /-- The elements after the one whose disposal panics, and the block, are not touched. -/
  | panicked {before after : List τ} {x : τ} (panic : Panic) : b.toList = before ++ x :: after →
      TearsDown layout b (.error panic) (disposals before ++ [.dispose x false])

theorem meets_disposeAll (xs : List τ) :
    Meets ops (Buffer.disposeAll ops xs : Run α κ τ _) fun r t =>
      (r = .ok () ∧ t = disposals xs) ∨
      ∃ panic before x after, r = .error panic ∧ xs = before ++ x :: after ∧
        t = disposals before ++ [.dispose x false] := by
  induction xs with
  | nil => exact .pure (.inl ⟨rfl, rfl⟩)
  | cons x xs ih =>
    refine .bind (meets_dispose x) ?_
    rintro (panic | ⟨⟩) _ rfl
    · exact .pure (.inr ⟨panic, [], x, xs, rfl, rfl, rfl⟩)
    · refine ih.mono ?_
      rintro _ _ (⟨rfl, rfl⟩ | ⟨panic, before, y, after, rfl, rfl, rfl⟩)
      · exact .inl ⟨rfl, rfl⟩
      · exact .inr ⟨panic, x :: before, y, after, rfl, rfl, rfl⟩

theorem meets_teardown (options : ArrayOptions κ τ) (b : Buffer τ) :
    Meets options.ops (b.teardown options : Run α κ τ _) (TearsDown options.layout b) := by
  unfold Buffer.teardown
  refine .bind (meets_disposeAll b.toList) ?_
  rintro _ _ (⟨rfl, rfl⟩ | ⟨panic, before, x, after, rfl, elements, rfl⟩)
  · refine .bind (meets_giveBack _ _) ?_
    rintro _ _ rfl
    exact .pure .complete
  · refine .pure ?_
    rw [List.append_nil]
    exact .panicked panic elements

/-- The courses of tearing a buffer down while an operation ends with `outcome`. -/
inductive Leaves (layout : Layout) (b : Buffer τ) :
    Outcome ε β → Outcome ε β → List (Entry τ) → Prop
  /-- Nothing is done after an abort. -/
  | aborted : Leaves layout b .aborted .aborted []
  | torn {outcome : Outcome ε β} {r : Except Panic Unit} {t : List (Entry τ)} :
      outcome ≠ .aborted → TearsDown layout b r t → Leaves layout b outcome (outcome.after r) t

theorem meets_leave (options : ArrayOptions κ τ) (b : Buffer τ) (outcome : Outcome ε β) :
    Meets options.ops (b.leave options outcome : Run α κ τ _)
      (Leaves options.layout b outcome) := by
  have torn : outcome ≠ .aborted → Meets options.ops
      (do return outcome.after (← b.teardown options) : Run α κ τ _)
      (Leaves options.layout b outcome) := by
    intro standing
    refine .map (meets_teardown options b) ?_
    intro r t down
    exact .torn standing down
  cases outcome with
  | aborted => exact .pure .aborted
  | done value => exact torn nofun
  | refused error => exact torn nofun
  | unwound panic => exact torn nofun

end Courses

end ReservedArray
