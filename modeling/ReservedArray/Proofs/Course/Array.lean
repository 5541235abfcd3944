/-
# The course of the operations on arrays

What the five operations on arrays call, and what they come to: making an array (`MakesArray`),
appending (`Appends`), growing (`Grows`), sorting (`SortsArray`) and searching (`Probes`).

Two of them replace the buffer of the array, and both do it the same way (`Supersedes`): when the
new buffer is complete the old one is torn down, and whatever comes of that, the array has the new
one.  In every other course the array is what it was.
-/
import ReservedArray.Buffer.Array
import ReservedArray.Proofs.Course.Sort

namespace ReservedArray

variable {α κ τ ε β γ : Type}

/-! ## 1. Making an array -/

/-- What an array is made with is acceptable. -/
structure Acceptable (reserve count : Size) (seed : Option τ) : Prop where
  reserve_ne : reserve ≠ 0
  count_le : count ≤ reserve
  seeded : count ≠ 0 → seed.isSome

/-- The elements that the first slots are filled from. -/
def seeds (count : Size) (seed : Option τ) : List τ := seed.elim [] (List.replicate count.toNat)

theorem length_seeds_le (count : Size) (seed : Option τ) :
    (seeds count seed).length ≤ count.toNat := by
  cases seed <;> simp [seeds]

/-- The courses of making an array. -/
inductive MakesArray (layout : Layout) (reserve count : Size) (seed : Option τ) :
    Outcome ArrayError (Buffer τ) → List (Entry τ) → Prop
  | zeroReserve : reserve = 0 → MakesArray layout reserve count seed (.refused .zeroReserve) []
  | countExceedsReserve : reserve ≠ 0 → reserve < count →
      MakesArray layout reserve count seed (.refused (.countExceedsReserve count reserve)) []
  | missingSeed : reserve ≠ 0 → count ≤ reserve → count ≠ 0 → seed = none →
      MakesArray layout reserve count seed (.refused .missingSeed) []
  | refused {source : AllocError} {t : List (Entry τ)} : Acceptable reserve count seed →
      Takes (τ := τ) layout reserve (.error source) t →
      MakesArray layout reserve count seed (.refused (.initAllocation source))
        (t ++ [.report (.initAllocationFailed reserve source)])
  | made {b : Buffer τ} {ys : List τ} {t₁ t₂ : List (Entry τ)} : Acceptable reserve count seed →
      Takes layout reserve (.ok b) t₁ → Fills (seeds count seed) ys (.ok ()) t₂ →
      MakesArray layout reserve count seed (.done (b.filled ys)) (t₁ ++ t₂)
  | interrupted {b : Buffer τ} {ys : List τ} {panic : Panic} {o : Outcome ArrayError (Buffer τ)}
      {t₁ t₂ t₃ : List (Entry τ)} : Acceptable reserve count seed →
      Takes layout reserve (.ok b) t₁ → Fills (seeds count seed) ys (.error panic) t₂ →
      Leaves layout (b.filled ys) (.unwound panic) o t₃ →
      MakesArray layout reserve count seed o (t₁ ++ (t₂ ++ t₃))

/-! ## 2. Appending -/

/-- The courses of appending one element. -/
inductive Appends (x : τ) (b : Buffer τ) :
    Outcome ArrayError Unit × Buffer τ → List (Entry τ) → Prop
  | full : b.length = b.reserve.toNat → Appends x b (.refused (.noReserve b.reserve), b) []
  | placed {v : Except Panic Unit × Buffer τ} {t : List (Entry τ)} :
      b.length ≠ b.reserve.toNat → Places x b v t → Appends x b (Buffer.ended v) t

/-! ## 3. Replacing the buffer -/

/-- The courses of tearing the old buffer down once the new one is complete. -/
inductive Supersedes (layout : Layout) (old : Buffer τ) (event : Event) :
    Outcome ArrayError Unit → List (Entry τ) → Prop
  | complete {t : List (Entry τ)} : TearsDown layout old (.ok ()) t →
      Supersedes layout old event (.done ()) (t ++ [.report event])
  | unwound {panic : Panic} {t : List (Entry τ)} : TearsDown layout old (.error panic) t →
      Supersedes layout old event (.unwound panic) t

/-- The courses of growing an array. -/
inductive Grows (layout : Layout) (reserve : Size) (b : Buffer τ) :
    Outcome ArrayError Unit × Buffer τ → List (Entry τ) → Prop
  | rejected : reserve ≤ b.reserve →
      Grows layout reserve b (.refused (.shrinkRejected reserve b.reserve), b) []
  | refused {source : AllocError} {t : List (Entry τ)} : b.reserve < reserve →
      Takes (τ := τ) layout reserve (.error source) t →
      Grows layout reserve b (.refused (.growAllocation source), b)
        (t ++ [.report (.growAllocationFailed b.reserve reserve source)])
  | interrupted {fresh : Buffer τ} {ys : List τ} {panic : Panic} {o : Outcome ArrayError Unit}
      {t₁ t₂ t₃ : List (Entry τ)} : b.reserve < reserve → Takes layout reserve (.ok fresh) t₁ →
      Fills b.toList ys (.error panic) t₂ → Leaves layout (fresh.filled ys) (.unwound panic) o t₃ →
      Grows layout reserve b (o, b) (t₁ ++ (t₂ ++ t₃))
  | superseded {fresh : Buffer τ} {ys : List τ} {o : Outcome ArrayError Unit}
      {t₁ t₂ t₃ : List (Entry τ)} : b.reserve < reserve → Takes layout reserve (.ok fresh) t₁ →
      Fills b.toList ys (.ok ()) t₂ →
      Supersedes layout b (.arrayGrown reserve (fresh.filled ys).length) o t₃ →
      Grows layout reserve b (o, fresh.filled ys) (t₁ ++ (t₂ ++ t₃))

/-- Two operations that are stopped in the same way, whatever they would have given. -/
inductive SameStop : Outcome ε β → Outcome ε γ → Prop
  | refused (e : ε) : SameStop (.refused e) (.refused e)
  | unwound (panic : Panic) : SameStop (.unwound panic) (.unwound panic)
  | aborted : SameStop .aborted .aborted

/-- The courses of sorting copies of the elements into a new buffer. -/
inductive SortsAnew (layout : Layout) (b : Buffer τ) :
    Outcome AllocError (Buffer τ) → List (Entry τ) → Prop
  | refused {source : AllocError} {t : List (Entry τ)} :
      Takes (τ := τ) layout b.reserve (.error source) t → SortsAnew layout b (.refused source) t
  | stopped {out : Buffer τ} {ys : List τ} {o : Outcome AllocError Unit}
      {o₁ o₂ : Outcome AllocError (Buffer τ)} {t₁ t₂ t₃ : List (Entry τ)} :
      Takes layout b.reserve (.ok out) t₁ → Sorts layout b.toList ys o t₂ → SameStop o o₁ →
      Leaves layout (out.filled ys) o₁ o₂ t₃ → SortsAnew layout b o₂ (t₁ ++ (t₂ ++ t₃))
  | sorted {out : Buffer τ} {ys : List τ} {t₁ t₂ : List (Entry τ)} :
      Takes layout b.reserve (.ok out) t₁ → Sorts layout b.toList ys (.done ()) t₂ →
      SortsAnew layout b (.done (out.filled ys)) (t₁ ++ t₂)

/-- The courses of sorting an array. -/
inductive SortsArray (layout : Layout) (b : Buffer τ) :
    Outcome ArrayError Unit × Buffer τ → List (Entry τ) → Prop
  | empty : b.toList = [] → SortsArray layout b (.refused .sortEmpty, b) []
  | refused {source : AllocError} {t : List (Entry τ)} : b.toList ≠ [] →
      SortsAnew layout b (.refused source) t →
      SortsArray layout b (.refused (.sortAllocation source), b)
        (t ++ [.report (.sortAllocationFailed b.length source)])
  | unwound {panic : Panic} {t : List (Entry τ)} : b.toList ≠ [] →
      SortsAnew layout b (.unwound panic) t → SortsArray layout b (.unwound panic, b) t
  | aborted {t : List (Entry τ)} : b.toList ≠ [] → SortsAnew layout b .aborted t →
      SortsArray layout b (.aborted, b) t
  | superseded {fresh : Buffer τ} {o : Outcome ArrayError Unit} {t₁ t₂ : List (Entry τ)} :
      b.toList ≠ [] → SortsAnew layout b (.done fresh) t₁ →
      Supersedes layout b (.arraySorted fresh.length) o t₂ →
      SortsArray layout b (o, fresh) (t₁ ++ t₂)

/-! ## 4. Searching -/

/-- The courses of a search: elements are compared with the key until it ends or a hook panics. -/
inductive Probes (key : τ) : Except Panic β → List (Entry τ) → Prop
  | ended (value : β) : Probes key (.ok value) []
  | answered {x : τ} {o : Ordering} {r : Except Panic β} {t : List (Entry τ)} : Probes key r t →
      Probes key r (.compare x key (some o) :: t)
  | panicked (x : τ) (panic : Panic) : Probes key (.error panic) [.compare x key none]

/-! ## 5. Every course is one of these -/

section Courses

variable [Backend α]

theorem meets_init (options : ArrayOptions κ τ) (reserve count : Size) (seed : Option τ) :
    Meets options.ops (Buffer.init options reserve count seed : Run α κ τ _)
      (MakesArray options.layout reserve count seed) := by
  unfold Buffer.init
  by_cases zero : reserve = 0
  · rw [if_pos zero]
    exact .pure (.zeroReserve zero)
  rw [if_neg zero]
  by_cases larger : reserve < count
  · rw [if_pos larger]
    exact .pure (.countExceedsReserve zero larger)
  rw [if_neg larger]
  have le : count ≤ reserve := UInt64.not_lt.mp larger
  by_cases unseeded : count ≠ 0 ∧ seed.isNone
  · rw [if_pos unseeded]
    exact .pure (.missingSeed zero le unseeded.1 (Option.isNone_iff_eq_none.mp unseeded.2))
  rw [if_neg unseeded]
  have acceptable : Acceptable reserve count seed :=
    ⟨zero, le, fun some => Option.isSome_iff_ne_none.mpr fun none =>
      unseeded ⟨some, Option.isNone_iff_eq_none.mpr none⟩⟩
  refine .bind (meets_allocate options.layout reserve) ?_
  rintro (source | b) t₁ takes
  · refine .map (meets_report _) ?_
    rintro _ _ rfl
    exact .refused acceptable takes
  · have room : b.length + (seeds count seed).length ≤ b.reserve.toNat := by
      have bound := length_seeds_le count seed
      have fits : count.toNat ≤ reserve.toNat := UInt64.le_iff_toNat_le.mp le
      rw [takes.fresh.2.2, takes.fresh.1]
      omega
    refine .bind (meets_fill _ room) ?_
    rintro ⟨panic | ⟨⟩, b'⟩ t₂ ⟨ys, rfl, fills⟩
    · refine (meets_leave options _ _).mono ?_
      intro o t₃ leaves
      exact .interrupted acceptable takes fills leaves
    · refine .pure ?_
      rw [List.append_nil]
      exact .made acceptable takes fills

theorem meets_append (options : ArrayOptions κ τ) (x : τ) {b : Buffer τ}
    (room : b.length ≤ b.reserve.toNat) :
    Meets options.ops (b.append options x : Run α κ τ _) (Appends x b) := by
  unfold Buffer.append
  by_cases full : b.length = b.reserve.toNat
  · rw [if_pos full]
    exact .pure (.full full)
  · rw [if_neg full]
    refine .map (meets_place x (by omega)) ?_
    intro v t places
    exact .placed full places

theorem meets_supersede (options : ArrayOptions κ τ) (old fresh : Buffer τ) (event : Event) :
    Meets options.ops (old.supersede options fresh event : Run α κ τ _) fun v t =>
      v.2 = fresh ∧ Supersedes options.layout old event v.1 t := by
  unfold Buffer.supersede
  refine .bind (meets_leave options old (.done ())) ?_
  rintro _ t (_ | ⟨-, down⟩)
  rename_i r
  cases r with
  | error panic =>
    refine .pure ⟨rfl, ?_⟩
    rw [List.append_nil]
    exact .unwound down
  | ok =>
    refine .map (meets_report event) ?_
    rintro _ _ rfl
    exact ⟨rfl, .complete down⟩

theorem meets_grow (options : ArrayOptions κ τ) (reserve : Size) {b : Buffer τ}
    (room : b.length ≤ b.reserve.toNat) :
    Meets options.ops (b.grow options reserve : Run α κ τ _)
      (Grows options.layout reserve b) := by
  unfold Buffer.grow
  by_cases le : reserve ≤ b.reserve
  · rw [if_pos le]
    exact .pure (.rejected le)
  rw [if_neg le]
  have lt : b.reserve < reserve := UInt64.not_le.mp le
  refine .bind (meets_allocate options.layout reserve) ?_
  rintro (source | fresh) t₁ takes
  · refine .map (meets_report _) ?_
    rintro _ _ rfl
    exact .refused lt takes
  · have freshRoom : fresh.length + b.toList.length ≤ fresh.reserve.toNat := by
      have larger : b.reserve.toNat < reserve.toNat := UInt64.lt_iff_toNat_lt.mp lt
      rw [takes.fresh.2.2, takes.fresh.1, Buffer.length_toList]
      omega
    refine .bind (meets_fill _ freshRoom) ?_
    rintro ⟨panic | ⟨⟩, fresh'⟩ t₂ ⟨ys, rfl, fills⟩
    · refine .map (meets_leave options _ _) ?_
      intro o t₃ leaves
      exact .interrupted lt takes fills leaves
    · refine (meets_supersede options b _ _).mono ?_
      rintro ⟨o, _⟩ t₃ ⟨rfl, supersedes⟩
      exact .superseded lt takes fills supersedes

theorem meets_sorted (options : ArrayOptions κ τ) {b : Buffer τ}
    (room : b.length ≤ b.reserve.toNat) :
    Meets options.ops (b.sorted options : Run α κ τ _) (SortsAnew options.layout b) := by
  unfold Buffer.sorted
  refine .bind (meets_allocate options.layout b.reserve) ?_
  rintro (source | out) t₁ takes
  · refine .pure ?_
    rw [List.append_nil]
    exact .refused takes
  have outRoom : out.length + b.toList.length ≤ out.reserve.toNat := by
    rw [takes.fresh.2.2, takes.fresh.1, Buffer.length_toList]
    omega
  refine .bind (meets_sortInto options b.toList outRoom) ?_
  rintro ⟨o, out'⟩ t₂ ⟨ys, rfl, sorts⟩
  cases o with
  | done =>
    refine .pure ?_
    rw [List.append_nil]
    exact .sorted takes sorts
  | refused source =>
    refine (meets_leave options _ _).mono ?_
    intro o t₃ leaves
    exact .stopped takes sorts (.refused source) leaves
  | unwound panic =>
    refine (meets_leave options _ _).mono ?_
    intro o t₃ leaves
    exact .stopped takes sorts (.unwound panic) leaves
  | aborted =>
    refine .pure ?_
    rw [← List.append_nil t₂, List.append_assoc]
    exact .stopped takes sorts .aborted .aborted

theorem meets_sort (options : ArrayOptions κ τ) {b : Buffer τ}
    (room : b.length ≤ b.reserve.toNat) :
    Meets options.ops (b.sort options : Run α κ τ _) (SortsArray options.layout b) := by
  unfold Buffer.sort
  by_cases empty : b.isEmpty
  · rw [if_pos empty]
    exact .pure (.empty (by simpa [Buffer.isEmpty, Buffer.toList] using empty))
  rw [if_neg empty]
  have nonempty : b.toList ≠ [] := by simpa [Buffer.isEmpty, Buffer.toList] using empty
  refine .bind (meets_sorted options room) ?_
  intro o t₁ sorts
  cases o with
  | done fresh =>
    refine (meets_supersede options b _ _).mono ?_
    rintro ⟨o, _⟩ t₂ ⟨rfl, supersedes⟩
    exact .superseded nonempty sorts supersedes
  | refused source =>
    refine .map (meets_report _) ?_
    rintro _ _ rfl
    exact .refused nonempty sorts
  | unwound panic =>
    refine .pure ?_
    rw [List.append_nil]
    exact .unwound nonempty sorts
  | aborted =>
    refine .pure ?_
    rw [List.append_nil]
    exact .aborted nonempty sorts

/-- One computation after another, where a panic in the first is the end. -/
theorem Meets.bind_except {ops : ElementOps κ τ} {c : ExceptT Panic (Run α κ τ) β}
    {f : β → ExceptT Panic (Run α κ τ) γ} {P : Except Panic β → List (Entry τ) → Prop}
    {R : Except Panic γ → List (Entry τ) → Prop} (hc : Meets ops c.run P)
    (hok : ∀ v t, P (.ok v) t → Meets ops (f v).run fun w t' => R w (t ++ t'))
    (herror : ∀ panic t, P (.error panic) t → R (.error panic) t) :
    Meets ops (c >>= f).run R := by
  rw [ExceptT.run_bind]
  refine .bind hc ?_
  rintro (panic | v) t post
  · refine .pure ?_
    rw [List.append_nil]
    exact herror panic t post
  · exact hok v t post

/-- A probe is one comparison; what follows it goes on with the answer. -/
theorem meets_probe (ops : ElementOps κ τ) (key x : τ)
    {next : Ordering → ExceptT Panic (Run α κ τ) β}
    (hnext : ∀ o, Meets ops (next o).run (Probes key)) :
    Meets ops (Buffer.probeHook ops key x >>= next).run (Probes key) := by
  refine .bind_except (P := fun r t => t = [.compare x key r.toOption]) (meets_compare x key) ?_ ?_
  · rintro o _ rfl
    exact (hnext o).mono fun _ _ probes => probes.answered
  · rintro panic _ rfl
    exact .panicked x panic

theorem meets_linear (ops : ElementOps κ τ) (key : τ) (xs : List τ) :
    Meets ops (Search.linear (Buffer.probeHook ops key) xs : ExceptT Panic (Run α κ τ) _).run
      (Probes key) := by
  unfold Search.linear
  generalize 0 = start
  induction xs generalizing start with
  | nil => exact .pure (.ended none)
  | cons x xs ih =>
    refine meets_probe ops key x fun o => ?_
    cases o with
    | eq => exact .pure (.ended (some start))
    | lt => exact ih (start + 1)
    | gt => exact ih (start + 1)

theorem meets_binary (ops : ElementOps κ τ) (key : τ) (xs : Array τ) :
    Meets ops (Search.binary (Buffer.probeHook ops key) xs : ExceptT Panic (Run α κ τ) _).run
      (Probes key) := by
  have within (low high : Nat) (bound : high ≤ xs.size) : Meets ops
      (Search.binaryWithin (Buffer.probeHook ops key) xs low high bound :
        ExceptT Panic (Run α κ τ) _).run (Probes key) := by
    induction low, high, bound using Search.binaryWithin.induct with
    | case1 low high bound window below above ihBelow ihAbove =>
      rw [Search.binaryWithin, dif_pos window]
      refine meets_probe ops key _ fun o => ?_
      cases o with
      | eq => exact .pure (.ended (some (Search.middle low high)))
      | gt => exact ihBelow
      | lt => exact ihAbove
    | case2 low high bound window =>
      rw [Search.binaryWithin, dif_neg window]
      exact .pure (.ended none)
  exact within 0 xs.size (Nat.le_refl _)

theorem meets_linearIndex (ops : ElementOps κ τ) (other : Option (τ → τ → Ordering)) (key : τ)
    (b : Buffer τ) :
    Meets ops (b.linearIndex ops other key : Run α κ τ _) (Probes key) := by
  cases other with
  | none => exact meets_linear ops key b.toList
  | some compare => exact .pure (.ended _)

theorem meets_binaryIndex (ops : ElementOps κ τ) (key : τ) (b : Buffer τ) :
    Meets ops (b.binaryIndex ops key : Run α κ τ _) (Probes key) :=
  meets_binary ops key b.slots

end Courses

end ReservedArray
