/-
# What a sort asks its allocator for

A sort takes a block for the result and, for every list that it halves, one for each half, before it
sorts the first of them.  So the sizes are known before the sort begins, from the reserve, the size
of an element and the number of elements: they are the list `Buffer.demand`.

The elements have no part in it, nor have the hooks or the allocator.  What the allocator's answers
decide is how far the sort gets: it asks for one size after the other, and stops at the first
request that is refused or answered with a block that is not aligned (`Asks`).  The error tells
which it was.

`Sorts.asks` says this of the recursion, and `SortsArray.asks` of sorting an array.
-/
import Mathlib
import ReservedArray.Proofs.StableSort

namespace ReservedArray

variable {α κ τ ε β : Type}

open Entry (panics)

/-! ## 1. Requests -/

/-- A size that was asked for, and the block, if there was one. -/
abbrev Request := Size × Option Address

namespace Entry

/-- The requests in a trace, in order. -/
def requests (t : List (Entry τ)) : List Request :=
  t.filterMap fun
    | .allocate size block => some (size, block)
    | _ => none

@[simp] theorem requests_append (t t' : List (Entry τ)) :
    requests (t ++ t') = requests t ++ requests t' :=
  List.filterMap_append

@[simp] theorem requests_allocate (size : Size) (block : Option Address) (t : List (Entry τ)) :
    requests (.allocate size block :: t) = (size, block) :: requests t := rfl

@[simp] theorem requests_release (block : Address) (size : Size) (t : List (Entry τ)) :
    requests (.release block size :: t) = requests t := rfl

@[simp] theorem requests_reports (events : List Event) :
    requests (events.map (Entry.report (τ := τ))) = [] := by
  simp [requests]

@[simp] theorem requests_disposals (xs : List τ) : requests (disposals xs) = [] := by
  simp [requests, disposals]

end Entry

open Entry (requests)

/-- The sizes of requests. -/
def sizes (rs : List Request) : List Nat := rs.map (·.1.toNat)

@[simp] theorem sizes_append (rs rs' : List Request) : sizes (rs ++ rs') = sizes rs ++ sizes rs' :=
  List.map_append

/-- The request is served, with a block that is aligned. -/
def Granted (align : Size) (q : Request) : Prop :=
  ∃ block, q.2 = some block ∧ block % align.toNat = 0

/-- The courses of asking for a list of sizes: all of them are served, or it ends with an error. -/
inductive Asks (align : Size) : List Nat → Option AllocError → List Request → Prop
  | all : Asks align [] none []
  | served (size : Size) {block : Address} {demand : List Nat} {stop : Option AllocError}
      {rs : List Request} : block % align.toNat = 0 → Asks align demand stop rs →
      Asks align (size.toNat :: demand) stop ((size, some block) :: rs)
  | refused (size : Size) (demand : List Nat) :
      Asks align (size.toNat :: demand) (some (.exhausted size)) [(size, none)]
  | misaligned (size : Size) {block : Address} (demand : List Nat) : block % align.toNat ≠ 0 →
      Asks align (size.toNat :: demand) (some (.misaligned align)) [(size, some block)]

namespace Asks

variable {align : Size} {demand demand' : List Nat} {stop : Option AllocError} {error : AllocError}
  {rs rs' : List Request}

/-- One list of sizes after another. -/
theorem append (h : Asks align demand none rs) (h' : Asks align demand' stop rs') :
    Asks align (demand ++ demand') stop (rs ++ rs') := by
  generalize ended : (none : Option AllocError) = stop' at h
  induction h with
  | all => exact h'
  | served size aligned _ ih => exact .served size aligned (ih ended)
  | refused | misaligned => cases ended

/-- What would have come after the error is not asked for. -/
theorem append_stopped (h : Asks align demand (some error) rs) (demand' : List Nat) :
    Asks align (demand ++ demand') (some error) rs := by
  generalize ended : some error = stop at h
  induction h with
  | all => cases ended
  | served size aligned _ ih => exact .served size aligned (ih ended)
  | refused size demand => exact .refused size (demand ++ demand')
  | misaligned size demand skewed => exact .misaligned size (demand ++ demand') skewed

/-- **What is asked for is the first part of the list.** -/
theorem sizes_prefix (h : Asks align demand stop rs) : sizes rs <+: demand := by
  induction h with
  | all => exact List.nil_prefix
  | served size _ _ ih => exact (List.prefix_cons_inj size.toNat).mpr ih
  | refused size demand | misaligned size demand => exact List.prefix_append [size.toNat] demand

/-- Without an error all of it is asked for, and served. -/
theorem of_none (h : Asks align demand none rs) :
    sizes rs = demand ∧ ∀ q ∈ rs, Granted align q := by
  generalize ended : (none : Option AllocError) = stop at h
  induction h with
  | all => exact ⟨rfl, nofun⟩
  | served size aligned _ ih =>
    obtain ⟨same, granted⟩ := ih ended
    exact ⟨congrArg (_ :: ·) same, List.forall_mem_cons.mpr ⟨⟨_, rfl, aligned⟩, granted⟩⟩
  | refused | misaligned => cases ended

/-- **With an error it ends at the request that was not served**, and the error says why. -/
theorem of_some (h : Asks align demand (some error) rs) :
    ∃ before size answer, rs = before ++ [(size, answer)] ∧ (∀ q ∈ before, Granted align q) ∧
      (answer = none ∧ error = .exhausted size ∨
        ∃ block, answer = some block ∧ block % align.toNat ≠ 0 ∧ error = .misaligned align) := by
  generalize ended : some error = stop at h
  induction h with
  | all => cases ended
  | @served size block _ _ _ aligned _ ih =>
    obtain ⟨before, last, answer, rfl, granted, why⟩ := ih ended
    exact ⟨(size, some block) :: before, last, answer, rfl,
      List.forall_mem_cons.mpr ⟨⟨block, rfl, aligned⟩, granted⟩, why⟩
  | refused size =>
    cases ended
    exact ⟨[], size, none, rfl, nofun, .inl ⟨rfl, rfl⟩⟩
  | @misaligned size block _ skewed =>
    cases ended
    exact ⟨[], size, some block, rfl, nofun, .inr ⟨block, rfl, skewed, rfl⟩⟩

end Asks

/-! ## 2. The demand of a sort -/

/-- The sizes of the buffers for the halves of a list of `n` elements, and for the halves of its
halves, in the order in which they are taken. -/
def scratch (size n : Nat) : List Nat :=
  if n ≤ 1 then []
  else n / 2 * size :: (n + 1) / 2 * size :: (scratch size (n / 2) ++ scratch size ((n + 1) / 2))
termination_by n

/-- The sizes that a sort of the array needs, in order. -/
def Buffer.demand (layout : Layout) (b : Buffer τ) : List Nat :=
  b.reserve.toNat * layout.size.toNat :: scratch layout.size.toNat b.length

theorem scratch_of_short {size n : Nat} (short : n ≤ 1) : scratch size n = [] := by
  rw [scratch, if_pos short]

/-- The halves as the sort takes them: the lower one rounded down, and the rest. -/
theorem scratch_of_long {size n : Nat} (long : 1 < n) :
    scratch size n = [n / 2 * size] ++ ([(n - n / 2) * size] ++
      (scratch size (n / 2) ++ scratch size (n - n / 2))) := by
  have upper : (n + 1) / 2 = n - n / 2 := by omega
  rw [scratch, if_neg (by omega), upper]
  rfl

theorem length_scratch (size n : Nat) : (scratch size n).length = 2 * (n - 1) := by
  induction n using scratch.induct with
  | case1 n short =>
    rw [scratch_of_short short, List.length_nil]
    omega
  | case2 n long ihLower ihUpper =>
    rw [scratch, if_neg long]
    simp only [List.length_cons, List.length_append, ihLower, ihUpper]
    omega

/-- A sort of `n` elements takes `2 * n - 1` blocks. -/
theorem Buffer.length_demand (layout : Layout) {b : Buffer τ} (nonempty : 1 ≤ b.length) :
    (b.demand layout).length = 2 * b.length - 1 := by
  rw [demand, List.length_cons, length_scratch]
  omega

/-- No half is larger than the whole. -/
theorem le_of_mem_scratch {size n x : Nat} (mem : x ∈ scratch size n) : x ≤ n * size := by
  induction n using scratch.induct with
  | case1 n short =>
    rw [scratch_of_short short] at mem
    cases mem
  | case2 n long ihLower ihUpper =>
    have lower : n / 2 * size ≤ n * size := Nat.mul_le_mul_right size (Nat.div_le_self n 2)
    have upper : (n + 1) / 2 * size ≤ n * size := Nat.mul_le_mul_right size (by omega)
    rw [scratch, if_neg long] at mem
    simp only [List.mem_cons, List.mem_append] at mem
    rcases mem with rfl | rfl | mem | mem
    · exact lower
    · exact upper
    · exact (ihLower mem).trans lower
    · exact (ihUpper mem).trans upper

theorem Buffer.le_of_mem_demand {layout : Layout} {b : Buffer τ} (sound : b.Sound layout) {x : Nat}
    (mem : x ∈ b.demand layout) : x ≤ b.reserve.toNat * layout.size.toNat := by
  rcases List.mem_cons.mp mem with rfl | mem
  · exact le_rfl
  · exact (le_of_mem_scratch mem).trans (Nat.mul_le_mul_right _ sound.length_le)

/-! ## 3. It is what is asked for -/

section Courses

variable {layout : Layout} {t : List (Entry τ)}

/-- The error of a block that is not had. -/
def Except.error? : Except ε β → Option ε
  | .ok _ => none
  | .error e => some e

/-- A block is asked for once, when its size can be computed. -/
theorem Takes.asks {reserve : Size} {r : Except AllocError (Buffer τ)}
    (h : Takes layout reserve r t) (positive : 0 < reserve.toNat * layout.size.toNat)
    (fits : reserve.toNat * layout.size.toNat < UInt64.size) :
    Asks layout.align [reserve.toNat * layout.size.toNat] (Except.error? r) (requests t) := by
  have product : (reserve * layout.size).toNat = reserve.toNat * layout.size.toNat :=
    Size.toNat_mul_of_lt fits
  rw [← product] at positive ⊢
  cases h with
  | sizeOverflow overflow => omega
  | zeroSize _ zero =>
    rw [zero] at positive
    cases positive
  | exhausted events =>
    rw [Entry.requests_allocate, Entry.requests_reports]
    exact .refused _ []
  | misaligned events block _ skewed =>
    rw [Entry.requests_append, Entry.requests_allocate, Entry.requests_reports]
    exact .misaligned _ [] skewed
  | granted events block _ _ aligned =>
    rw [Entry.requests_allocate, Entry.requests_reports]
    exact .served _ aligned .all

/-- So is a block for a part of a list, whose own size can be computed. -/
theorem Takes.asks_part {m n : Nat} {r : Except AllocError (Buffer τ)}
    (h : Takes layout m.toUInt64 r t) (some : 0 < m) (part : m ≤ n)
    (positive : 0 < layout.size.toNat) (fits : n * layout.size.toNat < UInt64.size) :
    Asks layout.align [m * layout.size.toNat] (Except.error? r) (requests t) := by
  obtain ⟨positive', fits'⟩ := part_fits some part positive fits
  have small : m ≤ m * layout.size.toNat := Nat.le_mul_of_pos_right m positive
  have within : m * layout.size.toNat ≤ n * layout.size.toNat := Nat.mul_le_mul_right _ part
  have same : m.toUInt64.toNat = m := UInt64.toNat_ofNat_of_lt' (by omega)
  have asks := h.asks positive' fits'
  rwa [same] at asks

theorem Fills.requests_eq {xs ys : List τ} {r : Except Panic Unit} (h : Fills xs ys r t) :
    requests t = [] := by
  induction h with
  | done | panicked => rfl
  | copied _ ih => exact ih

theorem Merges.requests_eq {xs ys zs : List τ} {r : Except Panic Unit}
    (h : Merges xs ys zs r t) : requests t = [] := by
  induction h with
  | rest _ fills => exact fills.requests_eq
  | left _ _ ih | right _ ih => exact ih
  | compareFailed | leftFailed | rightFailed => rfl

theorem TearsDown.requests_eq {b : Buffer τ} {r : Except Panic Unit}
    (h : TearsDown layout b r t) : requests t = [] := by
  cases h with
  | complete | panicked =>
    rw [Entry.requests_append, Entry.requests_disposals]
    rfl

theorem Leaves.requests_eq {b : Buffer τ} {o o' : Outcome ε β} (h : Leaves layout b o o' t) :
    requests t = [] := by
  cases h with
  | aborted => rfl
  | torn _ down => exact down.requests_eq

theorem LeavesHalves.requests_eq {left right : Buffer τ} {o o' : Outcome ε β}
    (h : LeavesHalves layout left right o o' t) : requests t = [] := by
  cases h with
  | both leavesRight leavesLeft =>
    rw [Entry.requests_append, leavesRight.requests_eq, leavesLeft.requests_eq]
    rfl

theorem Supersedes.requests_eq {b : Buffer τ} {event : Event} {o : Outcome ArrayError Unit}
    (h : Supersedes layout b event o t) : requests t = [] := by
  cases h with
  | complete down =>
    rw [Entry.requests_append, down.requests_eq]
    rfl
  | unwound down => exact down.requests_eq

theorem TakesHalves.asks {n : Nat} {left right : Buffer τ} (h : TakesHalves layout n left right t)
    (long : 1 < n) (positive : 0 < layout.size.toNat)
    (fits : n * layout.size.toNat < UInt64.size) :
    Asks layout.align ([n / 2 * layout.size.toNat] ++ [(n - n / 2) * layout.size.toNat]) none
      (requests t) := by
  cases h with
  | both takesLeft takesRight =>
    have lower : 0 < n / 2 := by omega
    have upper : 0 < n - n / 2 := by omega
    rw [Entry.requests_append]
    exact (takesLeft.asks_part lower (Nat.div_le_self n 2) positive fits).append
      (takesRight.asks_part upper (Nat.sub_le n _) positive fits)

/-- An operation that is stopped by an error is refused; otherwise it is done. -/
def stoppedBy : Option AllocError → Outcome AllocError Unit
  | none => .done ()
  | some e => .refused e

/-- What is done or refused in the end was so before it was torn down. -/
theorem Leaves.eq_stoppedBy {b : Buffer τ} {o : Outcome AllocError Unit} {stop : Option AllocError}
    (h : Leaves layout b o (stoppedBy stop) t) : o = stoppedBy stop := by
  refine h.eq_of_standing ?_ ?_ <;> cases stop <;> nofun

theorem LeavesHalves.eq_stoppedBy {left right : Buffer τ} {o : Outcome AllocError Unit}
    {stop : Option AllocError} (h : LeavesHalves layout left right o (stoppedBy stop) t) :
    o = stoppedBy stop := by
  refine h.eq_of_standing ?_ ?_ <;> cases stop <;> nofun

/-- The halves take up no more than the whole. -/
theorem halves_fit {xs : List τ} {size : Nat} (fits : xs.length * size < UInt64.size) :
    (xs.take (xs.length / 2)).length * size < UInt64.size ∧
      (xs.drop (xs.length / 2)).length * size < UInt64.size := by
  rw [List.length_take_of_le (Nat.div_le_self _ 2), List.length_drop]
  exact ⟨(Nat.mul_le_mul_right size (Nat.div_le_self _ 2)).trans_lt fits,
    (Nat.mul_le_mul_right size (Nat.sub_le _ _)).trans_lt fits⟩

/-- **A sort asks for its halves in order**, until it is done or refused. -/
theorem Sorts.asks {xs ys : List τ} {stop : Option AllocError}
    (h : Sorts layout xs ys (stoppedBy stop) t) (positive : 0 < layout.size.toNat)
    (fits : xs.length * layout.size.toNat < UInt64.size) :
    Asks layout.align (scratch layout.size.toNat xs.length) stop (requests t) := by
  have done : stoppedBy none = .done () := rfl
  generalize ended : stoppedBy stop = o at h
  induction h generalizing stop with
  | @short xs ys r t short fills =>
    rw [scratch_of_short short, fills.requests_eq]
    cases stop with
    | none => exact .all
    | some => cases r <;> cases ended
  | @leftRefused xs e t long takesLeft =>
    cases stop with
    | none => cases ended
    | some =>
      cases ended
      have lower : 0 < xs.length / 2 := by omega
      rw [scratch_of_long long]
      exact (takesLeft.asks_part lower (Nat.div_le_self _ 2) positive fits).append_stopped _
  | @rightRefused xs left e o t₁ t₂ t₃ long takesLeft takesRight leaves =>
    subst ended
    have refused := leaves.eq_stoppedBy
    cases stop with
    | none => cases refused
    | some =>
      cases refused
      have lower : 0 < xs.length / 2 := by omega
      have upper : 0 < xs.length - xs.length / 2 := by omega
      rw [scratch_of_long long, Entry.requests_append, Entry.requests_append, leaves.requests_eq,
        List.append_nil]
      exact (takesLeft.asks_part lower (Nat.div_le_self _ 2) positive fits).append
        ((takesRight.asks_part upper (Nat.sub_le _ _) positive fits).append_stopped _)
  | @leftStopped xs ls left right o o' t₁ t₂ t₃ long takes _ stopped leaves ihLeft =>
    subst ended
    obtain rfl := leaves.eq_stoppedBy
    cases stop with
    | none => exact absurd rfl stopped
    | some e =>
      have lower := ihLeft (halves_fit fits).1 rfl
      rw [List.length_take_of_le (Nat.div_le_self _ 2)] at lower
      rw [scratch_of_long long, ← List.append_assoc, Entry.requests_append, Entry.requests_append,
        leaves.requests_eq, List.append_nil]
      exact (takes.asks long positive fits).append (lower.append_stopped _)
  | @rightStopped xs ls rs left right o o' t₁ t₂ t₃ t₄ long takes _ _ stopped leaves ihLeft
      ihRight =>
    subst ended
    obtain rfl := leaves.eq_stoppedBy
    have lower := ihLeft (halves_fit fits).1 done
    have upper := ihRight (halves_fit fits).2 rfl
    rw [List.length_take_of_le (Nat.div_le_self _ 2)] at lower
    rw [List.length_drop] at upper
    rw [scratch_of_long long, ← List.append_assoc, Entry.requests_append, Entry.requests_append,
      Entry.requests_append, leaves.requests_eq, List.append_nil]
    exact (takes.asks long positive fits).append (lower.append upper)
  | @merged xs ls rs ys left right r o t₁ t₂ t₃ t₄ t₅ long takes _ _ merges leaves ihLeft
      ihRight =>
    subst ended
    have ended := leaves.eq_stoppedBy
    have lower := ihLeft (halves_fit fits).1 done
    have upper := ihRight (halves_fit fits).2 done
    rw [List.length_take_of_le (Nat.div_le_self _ 2)] at lower
    rw [List.length_drop] at upper
    rw [scratch_of_long long, ← List.append_assoc, Entry.requests_append, Entry.requests_append,
      Entry.requests_append, Entry.requests_append, merges.requests_eq, leaves.requests_eq,
      List.append_nil, List.append_nil]
    cases stop with
    | none => exact (takes.asks long positive fits).append (lower.append upper)
    | some => cases r <;> cases ended

section Arrays

variable {b : Buffer τ}

/-- The sizes of the elements can be computed. -/
theorem Buffer.Sound.elements_fit (sound : b.Sound layout) :
    0 < layout.size.toNat ∧ b.toList.length * layout.size.toNat < UInt64.size := by
  rw [Buffer.length_toList]
  exact ⟨Nat.pos_of_mul_pos_left sound.positive,
    (Nat.mul_le_mul_right _ sound.length_le).trans_lt sound.fits⟩

theorem SortsAnew.asks_of_done {fresh : Buffer τ} (h : SortsAnew layout b (.done fresh) t)
    (sound : b.Sound layout) : Asks layout.align (b.demand layout) none (requests t) := by
  obtain ⟨positive, fits⟩ := sound.elements_fit
  obtain ⟨out, ys, t₁, t₂, -, rfl, takes, sorts⟩ := h.of_done
  have sorts : Sorts layout b.toList ys (stoppedBy none) t₂ := sorts
  have halves := sorts.asks positive fits
  rw [Buffer.length_toList] at halves
  rw [Entry.requests_append]
  exact (takes.asks sound.positive sound.fits).append halves

theorem SortsAnew.asks_of_refused {error : AllocError} (h : SortsAnew layout b (.refused error) t)
    (sound : b.Sound layout) : Asks layout.align (b.demand layout) (some error) (requests t) := by
  obtain ⟨positive, fits⟩ := sound.elements_fit
  generalize ended : (.refused error : Outcome AllocError (Buffer τ)) = o at h
  cases h with
  | refused takes =>
    cases ended
    exact (takes.asks sound.positive sound.fits).append_stopped _
  | stopped takes sorts same leaves =>
    subst ended
    rw [leaves.eq_of_standing nofun nofun] at same
    cases same
    have sorts : Sorts layout b.toList _ (stoppedBy (some error)) _ := sorts
    have halves := sorts.asks positive fits
    rw [Buffer.length_toList] at halves
    rw [Entry.requests_append, Entry.requests_append, leaves.requests_eq, List.append_nil]
    exact (takes.asks sound.positive sound.fits).append halves
  | sorted => cases ended

/-- **Sorting an array asks for its demand in order.**  It is done when all of it is served, and
otherwise refused. -/
theorem SortsArray.asks {v : Outcome ArrayError Unit × Buffer τ} (h : SortsArray layout b v t)
    (sound : b.Sound layout) (nonempty : 1 ≤ b.length) (calm : panics t = []) :
    (v.1 = .done () ∧ Asks layout.align (b.demand layout) none (requests t)) ∨
    ∃ error, v.1 = .refused (.sortAllocation error) ∧
      Asks layout.align (b.demand layout) (some error) (requests t) := by
  rcases h.of_calm nonempty calm with ⟨fresh, rfl⟩ | ⟨source, t', rfl, rfl, sorts⟩
  · obtain ⟨t₁, t₂, rfl, sorts, supersedes⟩ := h.of_done
    refine .inl ⟨rfl, ?_⟩
    rw [Entry.requests_append, supersedes.requests_eq, List.append_nil]
    exact sorts.asks_of_done sound
  · refine .inr ⟨source, rfl, ?_⟩
    rw [Entry.requests_append]
    show Asks _ _ _ (_ ++ [])
    rw [List.append_nil]
    exact sorts.asks_of_refused sound

end Arrays

end Courses

end ReservedArray
