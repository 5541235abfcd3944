/-
# An array is a bounded list

An array is made once and then goes through operations, in any order and with anything happening to
the allocator and the hooks in between.  `Evolves` says that it came from one state to another in
this way, and with which calls.

What goes on through all of them is put together in `Buffer.Continues`.  The array stays sound; its
reserve never becomes smaller; and it always has a block of its own: of the blocks that were
obtained for it, what was not given back contains its block, with the size it has now.  Every
operation goes on in this way (`Operation.meets_continues`), and so does every run
(`Evolves.continues`).

Together with the exact ends of the operations this makes an array a list with a bound:
`array_refines_bounded_list`.
-/
import Mathlib
import ReservedArray.Proofs.Bounded.Outcomes
import ReservedArray.Proofs.Conservation.Blocks

namespace ReservedArray

variable {α κ τ : Type}

open Entry (panics obtained released)

/-! ## 1. Blocks of one's own -/

/-- With the blocks `H` before and those obtained by the calls, as many could be given back as were,
and the blocks `H'` are there still. -/
def Backs (H : Multiset (Address × Size)) (t : List (Entry τ)) (H' : Multiset (Address × Size)) :
    Prop :=
  H' + (released t : Multiset (Address × Size)) ≤ H + (obtained t : Multiset (Address × Size))

theorem Backs.nil (H : Multiset (Address × Size)) : Backs H ([] : List (Entry τ)) H := le_refl _

theorem Backs.trans {H H' H'' : Multiset (Address × Size)} {t t' : List (Entry τ)}
    (h : Backs H t H') (h' : Backs H' t' H'') : Backs H (t ++ t') H'' := by
  rw [Backs] at h h' ⊢
  rw [Entry.released_append, Entry.obtained_append, ← Multiset.coe_add, ← Multiset.coe_add]
  generalize (released t : Multiset (Address × Size)) = r at *
  generalize (released t' : Multiset (Address × Size)) = r' at *
  generalize (obtained t : Multiset (Address × Size)) = o at *
  generalize (obtained t' : Multiset (Address × Size)) = o' at *
  calc H'' + (r + r') = H'' + r' + r := by abel
    _ ≤ H' + o' + r := by gcongr
    _ = H' + r + o' := add_right_comm _ _ _
    _ ≤ H + o + o' := by gcongr
    _ = H + (o + o') := add_assoc _ _ _

/-- What is held has its blocks. -/
theorem Moves.backs {H H' K : Multiset (Holding τ)} {t : List (Entry τ)} (h : Moves H t H')
    (among : K ≤ H') : Backs (outstanding H) t (outstanding K) := by
  rw [Backs, h.outstanding_eq]
  gcongr
  exact Multiset.map_le_map among

/-- The block of a buffer, with its size. -/
def Buffer.backing (layout : Layout) (b : Buffer τ) : Address × Size := (b.block, b.bytes layout)

theorem Buffer.Sound.reserve_pos {layout : Layout} {b : Buffer τ} (h : b.Sound layout) :
    1 ≤ b.reserve.toNat :=
  Nat.pos_of_mul_pos_right h.positive

theorem Settles.backs {layout : Layout} {b : Buffer τ} {v : Outcome ArrayError Unit × Buffer τ}
    {t : List (Entry τ)} (h : Settles layout b v t) :
    Backs {b.backing layout} t {v.2.backing layout} := by
  cases h with
  | kept _ moves =>
    exact (moves.within {b.held layout} (zero_add _).symm rfl).backs (Multiset.le_add_left _ _)
  | replaced replaces =>
    cases replaces with
    | done moves => exact moves.backs (le_refl _)
    | torn _ _ _ moves => exact moves.backs (Multiset.le_add_left _ _)

/-- A new array has the block that was obtained for it. -/
theorem MakesArray.backs {layout : Layout} {reserve count : Size} {seed : Option τ} {b : Buffer τ}
    {t : List (Entry τ)} (h : MakesArray layout reserve count seed (.done b) t) :
    Backs 0 t {b.backing layout} := by
  obtain ⟨L, moves, -⟩ := h.moves
  exact moves.backs (Multiset.le_add_right {b.held layout} L)

/-- The array goes on from `b` to `b'` by these calls. -/
structure Buffer.Continues (layout : Layout) (b b' : Buffer τ) (t : List (Entry τ)) : Prop where
  sound : b'.Sound layout
  reserve_le : b.reserve ≤ b'.reserve
  backs : Backs {b.backing layout} t {b'.backing layout}

section Going

variable {layout : Layout} {b b' b'' : Buffer τ} {t t' : List (Entry τ)}

theorem Buffer.Continues.refl (h : b.Sound layout) : b.Continues layout b [] :=
  ⟨h, UInt64.le_refl _, .nil _⟩

theorem Buffer.Continues.trans (h : b.Continues layout b' t) (h' : b'.Continues layout b'' t') :
    b.Continues layout b'' (t ++ t') :=
  ⟨h'.sound, UInt64.le_trans h.reserve_le h'.reserve_le, h.backs.trans h'.backs⟩

end Going

/-! ## 2. One operation -/

theorem Appends.reserve_eq {x : τ} {b : Buffer τ} {v : Outcome ArrayError Unit × Buffer τ}
    {t : List (Entry τ)} (h : Appends x b v t) : v.2.reserve = b.reserve := by
  cases h with
  | full => rfl
  | placed _ places => cases places <;> rfl

theorem Grows.reserve_le {layout : Layout} {reserve : Size} {b : Buffer τ}
    {v : Outcome ArrayError Unit × Buffer τ} {t : List (Entry τ)} (h : Grows layout reserve b v t) :
    b.reserve ≤ v.2.reserve := by
  cases h with
  | rejected | refused | interrupted => exact UInt64.le_refl _
  | superseded lt takes =>
    rw [Buffer.reserve_filled, takes.fresh.1]
    exact UInt64.le_of_lt lt

section Operations

variable [Backend α] (options : ArrayOptions κ τ) {b : Buffer τ}

/-- **Every operation goes on**, unless it is the last. -/
theorem Operation.meets_continues (sound : b.Sound options.layout) (operation : Operation τ) :
    Meets options.ops (operation.run options b : Run α κ τ _) fun v t =>
      ∀ b', v = some b' → b.Continues options.layout b' t := by
  have probed {γ : Type} {key : τ} {r : Except Panic γ} {t : List (Entry τ)}
      (probes : Probes key r t) : b.Continues options.layout b t :=
    ⟨sound, UInt64.le_refl _,
      (probes.moves.within {b.held options.layout} (zero_add _).symm (zero_add _).symm).backs
        (le_refl _)⟩
  cases operation with
  | append x =>
    refine .map (meets_append options x sound.length_le) fun v t appends => ?_
    rintro _ ⟨⟩
    exact ⟨appends.sound sound, UInt64.le_of_eq appends.reserve_eq.symm, appends.settles.backs⟩
  | grow reserve =>
    refine .map (meets_grow options reserve sound.length_le) fun v t grows => ?_
    rintro _ ⟨⟩
    exact ⟨grows.sound sound, grows.reserve_le, grows.settles.backs⟩
  | sort =>
    refine .map (meets_sort options sound.length_le) fun v t sorts => ?_
    rintro _ ⟨⟩
    exact ⟨sorts.sound sound, UInt64.le_of_eq sorts.exactly.reserve_eq.symm, sorts.settles.backs⟩
  | linearSearch other key =>
    refine .map (meets_linearIndex options.ops other key b) fun _ _ probes => ?_
    rintro _ ⟨⟩
    exact probed probes
  | binarySearch key =>
    refine .map (meets_binaryIndex options.ops key b) fun _ _ probes => ?_
    rintro _ ⟨⟩
    exact probed probes
  | drop => exact .map (meets_teardown options b) fun _ _ _ => nofun

end Operations

/-! ## 3. Runs -/

/-- From `b` on, operations came to `b'` with these calls.  Each of them may find the allocator and
the context in any state.  In between, elements may be replaced or change places. -/
inductive Evolves (α : Type) [Backend α] (options : ArrayOptions κ τ) (b : Buffer τ) :
    List (Entry τ) → Buffer τ → Prop
  | start : Evolves α options b [] b
  | operate {b' b'' : Buffer τ} {t : List (Entry τ)} (e : Env α κ τ) (operation : Operation τ) :
      Evolves α options b t b' → ((operation.run options b').run e).1 = some b'' →
      Evolves α options b (t ++ e.calls (operation.run options b')) b''
  | rewrite {b' : Buffer τ} {t : List (Entry τ)} (slots : Array τ) : slots.size = b'.length →
      Evolves α options b t b' → Evolves α options b t { b' with slots }

/-- **Every run goes on.** -/
theorem Evolves.continues [Backend α] {options : ArrayOptions κ τ} {b b' : Buffer τ}
    {t : List (Entry τ)} (h : Evolves α options b t b') (sound : b.Sound options.layout) :
    b.Continues options.layout b' t := by
  induction h with
  | start => exact .refl sound
  | operate e operation _ result ih =>
    exact ih.trans ((operation.meets_continues options ih.sound).calls e _ result)
  | rewrite slots same _ ih =>
    exact ⟨⟨same.le.trans ih.sound.length_le, ih.sound.positive, ih.sound.fits, ih.sound.aligned⟩,
      ih.reserve_le, ih.backs⟩

/-- What is known of every array, when these calls were made for it. -/
structure Buffer.Bounded (layout : Layout) (b : Buffer τ) (t : List (Entry τ)) : Prop where
  reserve_pos : 1 ≤ b.reserve.toNat
  length_le : b.length ≤ b.reserve.toNat
  /-- The size of the block is the product, not what is left of it in a word. -/
  toNat_bytes : (b.bytes layout).toNat = b.reserve.toNat * layout.size.toNat
  aligned : b.block % layout.align.toNat = 0
  /-- The block was obtained with this size, and it was not given back. -/
  backs : Backs 0 t {b.backing layout}

/-- **An array is a list with a bound.**  Let an array be made of any reserve, count and seed.
It is made when and only when the arguments are acceptable, a block for the whole reserve is offered
and no copy of the seed panics; and then it has as many copies as asked for.  From there on, in
every state that operations can lead to, whatever the allocator and the hooks do:

* the reserve is at least one and bounds the length, and of the blocks obtained for the array one
  that was not given back is its own, of just so many bytes as its slots take up;
* an append is refused when and only when the reserve is used up, and otherwise puts the copy at the
  end and leaves everything else alone;
* growing is rejected when and only when the array would not get larger; otherwise it is done when
  and only when a block is offered and no hook panics, and then the new elements are copies of the
  old ones in order;
* a sort is rejected when and only when there is nothing to sort;
* the reserve never becomes smaller;
* a panic is always one of a hook. -/
theorem array_refines_bounded_list [Backend α] (options : ArrayOptions κ τ) (e₀ : Env α κ τ)
    (reserve count : Size) (seed : Option τ) :
    let made := ((Buffer.init options reserve count seed).run e₀).1
    let first := e₀.calls (Buffer.init options reserve count seed)
    MakesExactly options.layout e₀.allocator reserve count seed made first ∧
    ∀ b, made = .done b → ∀ t b', Evolves α options b t b' →
      b'.Bounded options.layout (first ++ t) ∧
      (∀ (e : Env α κ τ) (x : τ), AppendsExactly options.ops e.context x b'
        ((b'.append options x).run e).1 (e.calls (b'.append options x))) ∧
      (∀ (e : Env α κ τ) (larger : Size), GrowsExactly options.layout e.allocator larger b'
        ((b'.grow options larger).run e).1 (e.calls (b'.grow options larger))) ∧
      (∀ e : Env α κ τ, SortsExactly b' ((b'.sort options).run e).1 (e.calls (b'.sort options))) ∧
      ∀ t' b'', Evolves α options b' t' b'' → b'.reserve ≤ b''.reserve := by
  intro made first
  have makes := meets_init (α := α) options reserve count seed
  refine ⟨(makes.calls e₀).exactly (makes.steps e₀), ?_⟩
  intro b done t b' evolves
  have course : MakesArray options.layout reserve count seed (.done b) first := done ▸ makes.calls e₀
  have continues := evolves.continues course.sound
  have sound := continues.sound
  have room := sound.length_le
  refine ⟨⟨sound.reserve_pos, room, sound.toNat_bytes, sound.aligned,
    course.backs.trans continues.backs⟩, ?_, ?_, ?_, ?_⟩
  · intro e x
    have meets := meets_append (α := α) options x room
    exact (meets.calls e).exactly (meets.steps e) sound
  · intro e larger
    have meets := meets_grow (α := α) options larger room
    exact (meets.calls e).exactly (meets.steps e)
  · exact fun e => ((meets_sort options room).calls e).exactly
  · exact fun t' b'' later => (later.continues sound).reserve_le

/-- Two slots are filled and put in order.  Nothing more goes in, however often one tries; and the
array never gets smaller again. -/
theorem array_refines_bounded_list_of_two_slots :
    let options : ArrayOptions Unit Nat := wordOptions (.plain compare)
    ∃ b t b',
      ((Buffer.init options 2 1 (some 7)).run (scarce 4 ())).1 = Outcome.done b ∧
      Evolves (Counting (Failing Heap)) options b t b' ∧ b'.toList = [5, 7] ∧
      (∀ e : Env (Counting (Failing Heap)) Unit Nat,
        ((b'.append options 9).run e).1 = (.refused (.noReserve 2), b') ∧
        ((b'.grow options 2).run e).1 = (.refused (.shrinkRejected 2 2), b')) ∧
      ∀ t' b'', Evolves (Counting (Failing Heap)) options b' t' b'' → 2 ≤ b''.reserve := by
  intro options
  have made : ((Buffer.init (wordOptions (.plain compare)) 2 1 (some 7)).run (scarce 4 ())).1 =
      .done ⟨4096, 2, #[7]⟩ := by cbv
  have sorted : ((Operation.run (wordOptions (.plain compare)) ⟨4096, 2, #[7, 5]⟩ .sort).run
      ((Buffer.init (wordOptions (.plain compare)) 2 1 (some 7)).run (scarce 4 ())).2).1 =
      some ⟨4112, 2, #[5, 7]⟩ := by
    cbv
    simp only [Buffer.merge_nil_right]
    cbv
  have evolves : Evolves (Counting (Failing Heap)) options ⟨4096, 2, #[7]⟩ _ ⟨4112, 2, #[5, 7]⟩ :=
    .operate _ .sort (.operate (scarce 0 ()) (.append 5) .start rfl) sorted
  have refines :=
    (array_refines_bounded_list options (scarce 4 ()) 2 1 (some 7)).2 _ made _ _ evolves
  refine ⟨_, _, _, made, evolves, rfl, fun e => ⟨?_, ?_⟩, refines.2.2.2.2⟩
  · have appends := refines.2.1 e 9
    have full := appends.full_iff.mpr rfl
    exact Prod.ext full (appends.of_not_done (by simp [full]))
  · have grows := refines.2.2.1 e 2
    have rejected := grows.rejected_iff.mpr (by decide)
    exact Prod.ext rejected (grows.of_refused _ rejected)

end ReservedArray
