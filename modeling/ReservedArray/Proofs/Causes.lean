/-
# Why a block cannot be had

Making, growing and sorting an array can be refused with an error of the allocator underneath.  Of
its errors only three ever come up, and each of them stands for something that happened
(`Causes`): the bytes of the first block cannot be counted in a word, and then the allocator is not
even called; or a request was refused; or it was answered with a block that is not aligned.

* No request is one of no bytes.  A product of a reserve and the size of an element is zero only if
  one of them is, and neither ever is: not in the first block, whose reserve is checked; and not in
  the blocks for the halves of a list, which is halved only if both halves have elements.
* The products that are too large are found out before anything is asked for, and later ones are not
  too large any more: a sort never fails for this (`explained_sort`).
* An allocator that keeps its promise (`Aligns`) never gives a block that is not aligned.  What it
  promises is checked against the elements by size alone, but both are powers of two, and of these
  the smaller one divides the other.
-/
import Mathlib
import ReservedArray.Proofs.Alignment
import ReservedArray.Proofs.Demand.Exact

namespace ReservedArray

variable {α κ τ ε β ι : Type} {T : ι → Type}

open Entry (requests)

/-! ## 1. Causes -/

/-- The error of the allocator that an operation on arrays is refused for, where it is for one. -/
def Outcome.cause? : Outcome ArrayError β → Option AllocError
  | .refused e => e.source
  | .done _ | .unwound _ | .aborted => none

/-- What stands behind an error, when the first block has so many bytes: they are too many, or one
of the requests did not go well. -/
inductive Causes (align : Size) (bytes : Nat) (rs : List Request) : AllocError → Prop
  | sizeOverflow : UInt64.size ≤ bytes → rs = [] → Causes align bytes rs .sizeOverflow
  | exhausted {size : Size} : (size, none) ∈ rs → Causes align bytes rs (.exhausted size)
  | misaligned {size : Size} {block : Address} : (size, some block) ∈ rs →
      block % align.toNat ≠ 0 → Causes align bytes rs (.misaligned align)

namespace Causes

variable {align : Size} {bytes : Nat} {rs : List Request} {source : AllocError}

/-- **No request is one of no bytes.** -/
theorem ne_zeroSize (h : Causes align bytes rs source) : source ≠ .zeroSize := by
  rintro rfl
  cases h

theorem overflow (h : Causes align bytes rs .sizeOverflow) : UInt64.size ≤ bytes := by
  cases h with
  | sizeOverflow large => exact large

/-- Where all blocks are aligned, this is not the cause. -/
theorem ne_misaligned (h : Causes align bytes rs source)
    (aligned : ∀ q ∈ rs, ∀ block, q.2 = some block → block % align.toNat = 0) (align' : Size) :
    source ≠ .misaligned align' := by
  rintro rfl
  cases h with
  | misaligned mem skewed => exact skewed (aligned _ mem _ rfl)

/-- Nothing but what did not go well is said of the requests that come after an error. -/
theorem of_asks {demand : List Nat} (h : Asks align demand (some source) rs) :
    Causes align bytes rs source := by
  obtain ⟨before, size, answer, rfl, -, ⟨rfl, rfl⟩ | ⟨block, rfl, skewed, rfl⟩⟩ := h.of_some
  · exact .exhausted (by simp)
  · have asked : (size, some block) ∈ before ++ [(size, some block)] := by simp
    exact .misaligned asked skewed

end Causes

section Causes

variable {layout : Layout} {b : Buffer τ} {t : List (Entry τ)} {source : AllocError}

/-- A block is not had for one of these reasons. -/
theorem Takes.causes {reserve : Size} (h : Takes (τ := τ) layout reserve (.error source) t)
    (positive : 0 < reserve.toNat * layout.size.toNat) :
    Causes layout.align (reserve.toNat * layout.size.toNat) (requests t) source := by
  by_cases fits : reserve.toNat * layout.size.toNat < UInt64.size
  · exact .of_asks (h.asks positive fits)
  · cases h with
    | sizeOverflow large => exact .sizeOverflow large rfl
    | zeroSize fits' | exhausted _ fits' | misaligned _ _ fits' => exact absurd fits' fits

/-- **What is too large is not asked for.** -/
theorem Takes.of_overflow {reserve : Size} {r : Except AllocError (Buffer τ)}
    (h : Takes layout reserve r t) (large : UInt64.size ≤ reserve.toNat * layout.size.toNat) :
    r = .error .sizeOverflow ∧ t = [] := by
  cases h with
  | sizeOverflow => exact ⟨rfl, rfl⟩
  | zeroSize fits | exhausted _ fits | misaligned _ _ fits | granted _ _ fits => omega

/-- What is unwound is not refused in the end. -/
theorem Leaves.cause?_eq_none {panic : Panic} {o : Outcome ArrayError β}
    (h : Leaves layout b (.unwound panic) o t) : o.cause? = none := by
  generalize Outcome.unwound panic = o₀, unwinding : Outcome.unwound panic = o₀ at h
  cases h with
  | aborted => rfl
  | torn _ _ =>
    subst unwinding
    rename_i r _
    cases r <;> rfl

/-- An array that is not made for want of a block. -/
theorem MakesArray.of_cause {reserve count : Size} {seed : Option τ}
    {o : Outcome ArrayError (Buffer τ)} (h : MakesArray layout reserve count seed o t)
    (cause : o.cause? = some source) :
    reserve ≠ 0 ∧ ∃ t', Takes (τ := τ) layout reserve (.error source) t' ∧
      t = t' ++ [.report (.initAllocationFailed reserve source)] := by
  cases h with
  | zeroReserve | countExceedsReserve | missingSeed | made => cases cause
  | refused acceptable takes =>
    cases cause
    exact ⟨acceptable.reserve_ne, _, takes, rfl⟩
  | interrupted _ _ _ leaves => cases leaves.cause?_eq_none.symm.trans cause

/-- **An array that is too large is not asked for.** -/
theorem MakesArray.of_overflow {reserve count : Size} {seed : Option τ}
    {o : Outcome ArrayError (Buffer τ)} (h : MakesArray layout reserve count seed o t)
    (acceptable : Acceptable reserve count seed)
    (large : UInt64.size ≤ reserve.toNat * layout.size.toNat) :
    o.cause? = some .sizeOverflow ∧
      t = [.report (.initAllocationFailed reserve .sizeOverflow)] := by
  cases h with
  | zeroReserve zero => exact absurd zero acceptable.reserve_ne
  | countExceedsReserve _ less => exact absurd acceptable.count_le (UInt64.not_le.mpr less)
  | missingSeed _ _ some none =>
    have seeded := acceptable.seeded some
    rw [none] at seeded
    cases seeded
  | refused _ takes =>
    obtain ⟨refused, rfl⟩ := takes.of_overflow large
    cases refused
    exact ⟨rfl, rfl⟩
  | made _ takes | interrupted _ takes => cases (takes.of_overflow large).1

/-- An array that does not grow for want of a block. -/
theorem Grows.of_cause {reserve : Size} {v : Outcome ArrayError Unit × Buffer τ}
    (h : Grows layout reserve b v t) (cause : v.1.cause? = some source) :
    b.reserve < reserve ∧ ∃ t', Takes (τ := τ) layout reserve (.error source) t' ∧
      t = t' ++ [.report (.growAllocationFailed b.reserve reserve source)] := by
  cases h with
  | rejected => cases cause
  | refused larger takes =>
    cases cause
    exact ⟨larger, _, takes, rfl⟩
  | interrupted _ _ _ leaves => cases leaves.cause?_eq_none.symm.trans cause
  | superseded _ _ _ supersedes => cases supersedes <;> cases cause

/-- **A block that is too large is not asked for.** -/
theorem Grows.of_overflow {reserve : Size} {v : Outcome ArrayError Unit × Buffer τ}
    (h : Grows layout reserve b v t) (larger : b.reserve < reserve)
    (large : UInt64.size ≤ reserve.toNat * layout.size.toNat) :
    v.1.cause? = some .sizeOverflow ∧
      t = [.report (.growAllocationFailed b.reserve reserve .sizeOverflow)] := by
  cases h with
  | rejected le => exact absurd larger (UInt64.not_lt.mpr le)
  | refused _ takes =>
    obtain ⟨refused, rfl⟩ := takes.of_overflow large
    cases refused
    exact ⟨rfl, rfl⟩
  | interrupted _ takes | superseded _ takes => cases (takes.of_overflow large).1

/-- An array that is not sorted for want of a block. -/
theorem SortsArray.of_cause {v : Outcome ArrayError Unit × Buffer τ}
    (h : SortsArray layout b v t) (cause : v.1.cause? = some source) :
    ∃ t', SortsAnew layout b (.refused source) t' ∧
      t = t' ++ [.report (.sortAllocationFailed b.length source)] := by
  cases h with
  | empty | unwound | aborted => cases cause
  | refused _ sorts =>
    cases cause
    exact ⟨_, sorts, rfl⟩
  | superseded _ _ supersedes => cases supersedes <;> cases cause

end Causes

/-! ## 2. Runs -/

/-- What is accepted has elements of some bytes, and is not to be aligned more strictly than the
allocator states. -/
theorem ArrayOptions.of_create [Allocator α] {allocator : α} {options : ArrayOptions κ τ}
    (accepted : ArrayOptions.create allocator options.layout options.ops = .ok options) :
    0 < options.layout.size.toNat ∧ options.layout.align ≤ Allocator.alignment allocator := by
  unfold ArrayOptions.create Layout.supportedUnder at accepted
  by_cases unsupported : options.layout.size = 0 ∨
      Allocator.alignment allocator < options.layout.align
  · rw [if_pos unsupported] at accepted
    cases accepted
  · rw [not_or] at unsupported
    refine ⟨Nat.pos_of_ne_zero fun zero => unsupported.1 (UInt64.toNat_inj.mp zero), ?_⟩
    exact UInt64.not_lt.mp unsupported.2

/-- Whatever an operation is refused for, it has a cause, which is not a request of no bytes; and
the sizes it gives to the allocator are exact. -/
structure Explained (align : Size) (bytes : Nat) (products : List Nat) (o : Outcome ArrayError β)
    (t : List (Entry τ)) : Prop where
  causes : ∀ source, o.cause? = some source → Causes align bytes (requests t) source
  exact : Exact products t
  ne_zeroSize : o.cause? ≠ some .zeroSize

/-- Too many bytes are the cause just when there are too many, and then nothing is called: all that
is done is to report it. -/
structure Overflows (bytes : Nat) (event : Event) (o : Outcome ArrayError β)
    (t : List (Entry τ)) (e e' : Env α κ τ) : Prop where
  iff : o.cause? = some .sizeOverflow ↔ UInt64.size ≤ bytes
  uncalled : UInt64.size ≤ bytes → t = [.report event] ∧ e'.allocator = e.allocator

/-- Every block that is handed out is aligned, so no error is due to one that is not. -/
structure Aligned (align : Size) (o : Outcome ArrayError β) (t : List (Entry τ)) : Prop where
  blocks : ∀ q ∈ requests t, ∀ block, q.2 = some block → block % align.toNat = 0
  ne_misaligned : ∀ align', o.cause? ≠ some (.misaligned align')

section Operations

variable {align : Size} {bytes : Nat} {products : List Nat} {o : Outcome ArrayError β}
  {t : List (Entry τ)}

theorem Explained.of_causes
    (causes : ∀ source, o.cause? = some source → Causes align bytes (requests t) source)
    (exact : Exact products t) : Explained align bytes products o t where
  causes := causes
  exact := exact
  ne_zeroSize cause := (causes _ cause).ne_zeroSize rfl

theorem Explained.aligned (h : Explained align bytes products o t)
    (blocks : ∀ q ∈ requests t, ∀ block, q.2 = some block → block % align.toNat = 0) :
    Aligned align o t where
  blocks := blocks
  ne_misaligned align' cause := (h.causes _ cause).ne_misaligned blocks align' rfl

end Operations

theorem Overflows.of_causes [Backend α] {ops : ElementOps κ τ} {e e' : Env α κ τ}
    {align : Size} {bytes : Nat} {rs : List Request} {event : Event} {o : Outcome ArrayError β}
    {t : List (Entry τ)} (steps : Env.Steps ops e t e')
    (causes : ∀ source, o.cause? = some source → Causes align bytes rs source)
    (large : UInt64.size ≤ bytes → o.cause? = some .sizeOverflow ∧ t = [.report event]) :
    Overflows bytes event o t e e' := by
  refine ⟨⟨fun cause => (causes _ cause).overflow, fun h => (large h).1⟩, fun h => ?_⟩
  obtain ⟨-, rfl⟩ := large h
  exact ⟨rfl, steps.allocator_eq rfl⟩

section Arrays

variable [Backend α] {options : ArrayOptions κ τ} {b : Buffer τ} (e : Env α κ τ)

/-- What is reported in the end is not a request. -/
theorem requests_append_report (t : List (Entry τ)) (event : Event) :
    requests (t ++ [.report event]) = requests t := by
  rw [Entry.requests_append]
  exact List.append_nil _

/-- **Making an array.** -/
theorem explained_init (sized : 0 < options.layout.size.toNat) (reserve count : Size)
    (seed : Option τ) :
    let c : Run α κ τ _ := Buffer.init options reserve count seed
    let bytes := reserve.toNat * options.layout.size.toNat
    Explained options.layout.align bytes [bytes] (c.run e).1 (e.calls c) ∧
      (Acceptable reserve count seed →
        Overflows bytes (.initAllocationFailed reserve .sizeOverflow) (c.run e).1 (e.calls c) e
          (c.run e).2) := by
  intro c bytes
  have meets := meets_init (α := α) options reserve count seed
  have course := meets.calls e
  have causes : ∀ source, (c.run e).1.cause? = some source →
      Causes options.layout.align bytes (requests (e.calls c)) source := by
    intro source cause
    obtain ⟨some, t, takes, same⟩ := course.of_cause cause
    rw [same, requests_append_report]
    exact takes.causes (bytes_pos some sized)
  exact ⟨.of_causes causes (course.exact sized), fun acceptable =>
    .of_causes (meets.steps e) causes (course.of_overflow acceptable)⟩

/-- **Growing an array.** -/
theorem explained_grow (sound : b.Sound options.layout) (reserve : Size) :
    let c : Run α κ τ _ := b.grow options reserve
    let bytes := reserve.toNat * options.layout.size.toNat
    Explained options.layout.align bytes
        [b.reserve.toNat * options.layout.size.toNat, bytes] (c.run e).1.1 (e.calls c) ∧
      (b.reserve < reserve →
        Overflows bytes (.growAllocationFailed b.reserve reserve .sizeOverflow) (c.run e).1.1
          (e.calls c) e (c.run e).2) := by
  intro c bytes
  have meets := meets_grow (α := α) options reserve sound.length_le
  have course := meets.calls e
  have causes : ∀ source, (c.run e).1.1.cause? = some source →
      Causes options.layout.align bytes (requests (e.calls c)) source := by
    intro source cause
    obtain ⟨larger, t, takes, same⟩ := course.of_cause cause
    have more : b.reserve.toNat ≤ reserve.toNat := (UInt64.lt_iff_toNat_lt.mp larger).le
    rw [same, requests_append_report]
    exact takes.causes (sound.positive.trans_le (Nat.mul_le_mul_right _ more))
  exact ⟨.of_causes causes (course.exact sound), fun larger =>
    .of_causes (meets.steps e) causes (course.of_overflow larger)⟩

/-- **Sorting an array.** -/
theorem explained_sort (sound : b.Sound options.layout) :
    let c : Run α κ τ _ := b.sort options
    Explained options.layout.align (b.reserve.toNat * options.layout.size.toNat)
        (b.demand options.layout) (c.run e).1.1 (e.calls c) ∧
      (c.run e).1.1.cause? ≠ some .sizeOverflow := by
  intro c
  have course := (meets_sort (α := α) options sound.length_le).calls e
  have causes : ∀ source, (c.run e).1.1.cause? = some source →
      Causes options.layout.align (b.reserve.toNat * options.layout.size.toNat)
        (requests (e.calls c)) source := by
    intro source cause
    obtain ⟨t, sorts, same⟩ := course.of_cause cause
    rw [same, requests_append_report]
    exact .of_asks (sorts.asks_of_refused sound)
  refine ⟨.of_causes causes (course.exact sound), fun cause => ?_⟩
  have large := (causes _ cause).overflow
  have fits := sound.fits
  omega

end Arrays

/-- **Which errors of an allocator can come up.**  In every run of arrays that are accepted, over
any allocator: whenever making, growing or sorting one is refused for want of a block, a request for
one was refused or answered with a block that is not aligned, or the bytes of the first block are
too many for a word, and then nothing was called; none of the requests is for no bytes.  Too many
bytes are the cause just when there are too many, in what is not refused beforehand, and never in a
sort.  Every size that the allocator is given, also when a buffer goes, is the product of natural
numbers that it should be, and not zero.  And over a heap or an arena, whatever counts, has a budget
or is shared above it, every block is aligned. -/
theorem allocation_causes (options : (k : ι) → ArrayOptions κ (T k)) (context : κ)
    (turns : List (Turn T)) :
    (∀ {α : Type} [Allocator α] (allocator : α),
      (∀ k, ArrayOptions.create allocator (options k).layout (options k).ops = .ok (options k)) →
      (∀ (k : ι) (reserve count : Size) (seed : Option (T k)) (e : Env α κ (T k)),
        let c : Run α κ (T k) _ := Buffer.init (options k) reserve count seed
        let bytes := reserve.toNat * (options k).layout.size.toNat
        Explained (options k).layout.align bytes [bytes] (c.run e).1 (e.calls c) ∧
        (Acceptable reserve count seed →
          Overflows bytes (.initAllocationFailed reserve .sizeOverflow) (c.run e).1 (e.calls c) e
            (c.run e).2)) ∧
      ∀ (k : ι) (b : Buffer (T k)),
        ⟨k, b⟩ ∈ (({ allocator, context } : Ensemble α κ T).run options turns).arrays →
        ∀ e : Env α κ (T k),
        let own := b.reserve.toNat * (options k).layout.size.toNat
        let sorting : Run α κ (T k) _ := b.sort (options k)
        (∀ reserve,
          let c : Run α κ (T k) _ := b.grow (options k) reserve
          let bytes := reserve.toNat * (options k).layout.size.toNat
          Explained (options k).layout.align bytes [own, bytes] (c.run e).1.1 (e.calls c) ∧
          (b.reserve < reserve →
            Overflows bytes (.growAllocationFailed b.reserve reserve .sizeOverflow) (c.run e).1.1
              (e.calls c) e (c.run e).2)) ∧
        (Explained (options k).layout.align own (b.demand (options k).layout) (sorting.run e).1.1
            (e.calls sorting) ∧
          (sorting.run e).1.1.cause? ≠ some .sizeOverflow) ∧
        Exact [own] (e.calls (b.teardown (options k))) ∧
        (b.bytes (options k).layout).toNat = own ∧ 0 < own ∧ own < UInt64.size) ∧
    ∀ (s : Stack) (allocator : s.State), s.Regular allocator →
      (∀ k, ArrayOptions.create allocator (options k).layout (options k).ops = .ok (options k)) →
      (∀ k, Size.isPowerOfTwo (options k).layout.align = true) →
      let σ := ({ allocator, context } : Ensemble s.State κ T).run options turns
      (∀ (k : ι) (reserve count : Size) (seed : Option (T k)) (e : Env s.State κ (T k)),
        e.allocator = σ.allocator →
        let c : Run s.State κ (T k) _ := Buffer.init (options k) reserve count seed
        Aligned (options k).layout.align (c.run e).1 (e.calls c)) ∧
      ∀ (k : ι) (b : Buffer (T k)), ⟨k, b⟩ ∈ σ.arrays →
        ∀ e : Env s.State κ (T k), e.allocator = σ.allocator →
        (∀ reserve,
          let c : Run s.State κ (T k) _ := b.grow (options k) reserve
          Aligned (options k).layout.align (c.run e).1.1 (e.calls c)) ∧
        let c : Run s.State κ (T k) _ := b.sort (options k)
        Aligned (options k).layout.align (c.run e).1.1 (e.calls c) := by
  constructor
  · intro α _ allocator accepted
    refine ⟨fun k reserve count seed e =>
      explained_init e (ArrayOptions.of_create (accepted k)).1 reserve count seed, ?_⟩
    intro k b there e own sorting
    have sound : b.Sound (options k).layout :=
      (Ensemble.settled_run options allocator context turns).sound _ there
    have down := (meets_teardown (options k) b).calls e
    exact ⟨explained_grow e sound, explained_sort e sound,
      down.exact ⟨sound.positive, sound.fits⟩, sound.toNat_bytes, sound.positive, sound.fits⟩
  · intro s allocator regular accepted powers σ
    obtain ⟨regular', same⟩ := s.aligns.run regular options context turns
    have blocks {k : ι} {e e' : Env s.State κ (T k)} {t : List (Entry (T k))}
        (there : e.allocator = σ.allocator) (steps : Env.Steps (options k).ops e t e') :
        ∀ q ∈ requests t, ∀ block, q.2 = some block →
          block % (options k).layout.align.toNat = 0 := by
      intro q mem block granted
      have regular : s.Regular e.allocator := there ▸ regular'
      have multiple := (s.aligns.steps steps regular).2.2 q mem block granted
      rw [there, same] at multiple
      have divides := Size.dvd_of_isPowerOfTwo (powers k) (s.aligns.power regular')
        (same ▸ (ArrayOptions.of_create (accepted k)).2)
      rw [same] at divides
      exact Nat.mod_eq_zero_of_dvd (divides.trans (Nat.dvd_of_mod_eq_zero multiple))
    refine ⟨fun k reserve count seed e there => ?_, fun k b mem e there => ⟨fun reserve => ?_, ?_⟩⟩
    · have sized := (ArrayOptions.of_create (accepted k)).1
      exact (explained_init e sized reserve count seed).1.aligned
        (blocks there ((meets_init (options k) reserve count seed).steps e))
    · have sound : b.Sound (options k).layout :=
        (Ensemble.settled_run options allocator context turns).sound _ mem
      exact (explained_grow e sound reserve).1.aligned
        (blocks there ((meets_grow (options k) reserve sound.length_le).steps e))
    · have sound : b.Sound (options k).layout :=
        (Ensemble.settled_run options allocator context turns).sound _ mem
      exact (explained_sort e sound).1.aligned
        (blocks there ((meets_sort (options k) sound.length_le).steps e))

/-- The array that is left of the small ensemble has three slots of four bytes.  It cannot grow to
`2 ^ 62` of them, for which the allocator is not called; and the block that is missing when it is
sorted is not one that is not aligned. -/
theorem allocation_causes_of_numbers :
    ∃ b : Buffer Nat, numbers.arrays = [⟨false, b⟩] ∧
      (∀ e : Env (Counting (Failing Heap)) Unit Nat,
        let c : Run (Counting (Failing Heap)) Unit Nat _ :=
          b.grow (numberOptions false) 0x4000000000000000
        (c.run e).1.1.cause? = some .sizeOverflow ∧
          e.calls c = [.report (.growAllocationFailed 3 0x4000000000000000 .sizeOverflow)]) ∧
      ∀ align, ((b.sort (numberOptions false)).run
        { allocator := numbers.allocator, context := () }).1.1.cause? ≠
          some (.misaligned align) := by
  have accepted (k : Bool) : ArrayOptions.create numbersAtFirst.allocator (numberOptions k).layout
      (numberOptions k).ops = .ok (numberOptions k) := by
    cases k <;> rfl
  have powers (k : Bool) : Size.isPowerOfTwo (numberOptions k).layout.align = true := by
    cases k <;> decide
  have left : numbers.arrays = [⟨false, { block := 4096, reserve := 3, slots := #[7, 6, 5] }⟩] := by
    cbv
  have there : ⟨false, { block := 4096, reserve := 3, slots := #[7, 6, 5] }⟩ ∈ numbers.arrays := by
    rw [left]
    exact List.mem_singleton.mpr rfl
  obtain ⟨explained, aligned⟩ := allocation_causes numberOptions () numberTurns
  refine ⟨_, left, fun e => ?_, ?_⟩
  · obtain ⟨growing, -⟩ := (explained numbersAtFirst.allocator accepted).2 false _ there e
    have overflows := (growing 0x4000000000000000).2 (by decide)
    have large : UInt64.size ≤ (0x4000000000000000 : Size).toNat *
        (numberOptions false).layout.size.toNat := by decide
    exact ⟨overflows.iff.mpr large, (overflows.uncalled large).1⟩
  · have regular : (Stack.counting (.failing .heap)).Regular numbersAtFirst.allocator := by
      show 4096 % 16 = 0
      decide
    obtain ⟨-, arrays⟩ := aligned (.counting (.failing .heap)) _ regular accepted powers
    have always := arrays false _ there { allocator := numbers.allocator, context := () } rfl
    exact always.2.ne_misaligned

end ReservedArray
