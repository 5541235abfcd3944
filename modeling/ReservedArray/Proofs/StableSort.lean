/-
# Sorting is stable

A list has many ascending arrangements when different elements may compare equal, and just one that
keeps those in the order they had: its stable sort (`StableSort`, `StableSort.unique`).

This file proves that sorting an array gives the stable sort of what it held.  What it asks of the
hooks is asked of the calls that are made (`Entry.Follows`): a comparison is answered by a total
preorder, and a copy is what its source is.  Both are about what can be seen of an element, its
`view`; elements may have more to them, such as a mark that tells one copy from another, and a copy
need not have the mark of its source.  Of the allocator it asks that every request be served with
an aligned block (`Entry.Served`).

The merge of two buffers is then the merge of their lists (`Merges.map_view`), and the halves come
in order, the lower one first.  That gives the stable sort by induction on the recursion
(`Sorts.stableSort`).  It is a separate matter that a sort gets that far: sizes that are smaller
than those of the array can be computed, so there is nothing it could be refused for
(`Sorts.not_refused`).
-/
import Mathlib
import ReservedArray.Proofs.Sound
import ReservedArray.Proofs.Unwinding

namespace ReservedArray

variable {α κ τ σ ε β : Type}

open Entry (panics)

/-! ## 1. Stable sorts -/

/-- `zs` is the stable sort of `xs`. -/
structure StableSort (order : σ → σ → Ordering) (xs zs : List σ) : Prop where
  perm : zs.Perm xs
  ascending : zs.Pairwise fun x y => order x y ≠ .gt
  /-- The elements that compare equal to any one element are in the order they had. -/
  stable : ∀ x, zs.filter (order x · == .eq) = xs.filter (order x · == .eq)

section Lists

variable {order : σ → σ → Ordering} {xs ys zs : List σ}

/-- Merging that takes the left element unless it is greater. -/
def mergeBy (order : σ → σ → Ordering) (xs ys : List σ) : List σ :=
  xs.merge ys fun x y => (order x y).isLE

theorem StableSort.of_short (short : xs.length ≤ 1) : StableSort order xs xs := by
  refine ⟨.refl xs, ?_, fun _ => rfl⟩
  match xs, short with
  | [], _ => exact .nil
  | [x], _ => exact List.pairwise_singleton _ x

variable [Std.TransCmp order]

theorem ne_gt_trans {x y z : σ} (hxy : order x y ≠ .gt) (hyz : order y z ≠ .gt) :
    order x z ≠ .gt :=
  Ordering.isLE_iff_ne_gt.mp (Std.TransCmp.isLE_trans (Ordering.isLE_iff_ne_gt.mpr hxy)
    (Ordering.isLE_iff_ne_gt.mpr hyz))

/-- What is greater than an element is in no class with it. -/
theorem filter_class_of_gt {x y : σ} (greater : ∀ z ∈ xs, order z y = .gt)
    (equal : order x y = .eq) : xs.filter (order x · == .eq) = [] := by
  refine List.filter_eq_nil_iff.mpr fun z mem equal' => ?_
  have same : order z y = .eq :=
    Std.TransCmp.eq_trans (Std.OrientedCmp.eq_symm (beq_iff_eq.mp equal')) equal
  rw [greater z mem] at same
  cases same

/-- **Merging keeps every class in order**, those of the left list first. -/
theorem filter_mergeBy (hxs : xs.Pairwise fun x y => order x y ≠ .gt) (ys : List σ) (x : σ) :
    (mergeBy order xs ys).filter (order x · == .eq) =
      xs.filter (order x · == .eq) ++ ys.filter (order x · == .eq) := by
  induction xs generalizing ys with
  | nil => simp [mergeBy]
  | cons a xs ih =>
    obtain ⟨head, tail⟩ := List.pairwise_cons.mp hxs
    induction ys with
    | nil => simp [mergeBy]
    | cons c ys ih' =>
      unfold mergeBy at *
      by_cases first : order a c = .gt
      · have step : (order a c).isLE = false := by rw [first]; rfl
        rw [List.cons_merge_cons_neg _ _ _ (by simp [step]), List.filter_cons, ih',
          List.filter_cons (x := c)]
        split
        · rename_i equal
          -- everything in the left list is greater than `c`, which therefore loses no one
          have greater : ∀ z ∈ a :: xs, order z c = .gt := by
            intro z mem
            rcases List.mem_cons.mp mem with rfl | mem
            · exact first
            · by_contra le
              exact ne_gt_trans (head z mem) le first
          rw [filter_class_of_gt greater (beq_iff_eq.mp equal), List.nil_append, List.nil_append]
        · rfl
      · rw [List.cons_merge_cons_pos _ _ _ (Ordering.isLE_iff_ne_gt.mpr first), List.filter_cons,
          ih tail, List.filter_cons (x := a)]
        split
        · rfl
        · rfl

/-- **Stable sorts are merged into the stable sort of both lists together.** -/
theorem StableSort.merge {xs' ys' : List σ} (hxs : StableSort order xs xs')
    (hys : StableSort order ys ys') : StableSort order (xs ++ ys) (mergeBy order xs' ys') where
  perm := (List.merge_perm_append _).trans (hxs.perm.append hys.perm)
  ascending := by
    have total (x y : σ) : (order x y).isLE || (order y x).isLE := by
      cases h : order x y with
      | lt | eq => rfl
      | gt => rw [Std.OrientedCmp.gt_iff_lt.mp h]; rfl
    have lower := hxs.ascending.imp fun h => Ordering.isLE_iff_ne_gt.mpr h
    have upper := hys.ascending.imp fun h => Ordering.isLE_iff_ne_gt.mpr h
    exact (List.pairwise_merge (fun _ _ _ => Std.TransCmp.isLE_trans) total xs' ys' lower
      upper).imp fun h => Ordering.isLE_iff_ne_gt.mp h
  stable x := by
    rw [filter_mergeBy hxs.ascending, hxs.stable, hys.stable, List.filter_append]

/-- An element is found in its own class. -/
theorem mem_of_classes (classes : ∀ x, xs.filter (order x · == .eq) = ys.filter (order x · == .eq))
    {x : σ} (mem : x ∈ xs) : x ∈ ys := by
  have among : x ∈ xs.filter (order x · == .eq) :=
    List.mem_filter.mpr ⟨mem, beq_iff_eq.mpr Std.ReflCmp.compare_self⟩
  rw [classes] at among
  exact (List.mem_filter.mp among).1

/-- The head of an ascending list is a least element. -/
theorem head_le {x y : σ} (ascending : (x :: xs).Pairwise fun x y => order x y ≠ .gt)
    (mem : y ∈ x :: xs) : (order x y).isLE := by
  rcases List.mem_cons.mp mem with same | mem
  · have self : order x x = .eq := Std.ReflCmp.compare_self
    rw [same, self]
    rfl
  · exact Ordering.isLE_iff_ne_gt.mpr ((List.pairwise_cons.mp ascending).1 y mem)

/-- Ascending lists with the same classes are the same. -/
theorem eq_of_classes (hxs : xs.Pairwise fun x y => order x y ≠ .gt)
    (hys : ys.Pairwise fun x y => order x y ≠ .gt)
    (classes : ∀ x, xs.filter (order x · == .eq) = ys.filter (order x · == .eq)) : xs = ys := by
  induction xs generalizing ys with
  | nil =>
    refine (List.eq_nil_iff_forall_not_mem.mpr fun y mem => ?_).symm
    exact List.not_mem_nil (mem_of_classes (fun x => (classes x).symm) mem)
  | cons x xs ih =>
    cases ys with
    | nil => exact absurd (mem_of_classes classes List.mem_cons_self) List.not_mem_nil
    | cons y ys =>
      -- both heads are least elements, so they are in one class, and first in it
      have le := head_le hxs (mem_of_classes (fun x => (classes x).symm) List.mem_cons_self)
      have ge := head_le hys (mem_of_classes classes List.mem_cons_self)
      have equal : order x y = .eq := Std.OrientedCmp.isLE_antisymm le ge
      have self : order x x = .eq := Std.ReflCmp.compare_self
      have firsts := classes x
      simp only [List.filter_cons, self, equal, BEq.rfl, if_true] at firsts
      obtain rfl : x = y := (List.cons.inj firsts).1
      refine congrArg (x :: ·) (ih hxs.tail hys.tail fun c => ?_)
      have rest := classes c
      rw [List.filter_cons, List.filter_cons] at rest
      split at rest
      · exact (List.cons.inj rest).2
      · exact rest

/-- **There is only one stable sort.** -/
theorem StableSort.unique {zs' : List σ} (h : StableSort order xs zs)
    (h' : StableSort order xs zs') : zs = zs' :=
  eq_of_classes h.ascending h'.ascending fun x => (h.stable x).trans (h'.stable x).symm

end Lists

/-! ## 2. Calls that are answered as they should be -/

namespace Entry

/-- A copy looks like its source, and a comparison is answered by the order. -/
def Follows (view : τ → σ) (order : σ → σ → Ordering) : Entry τ → Prop
  | .copy x (some y) => view y = view x
  | .copy _ none => False
  | .compare x y answer => answer = some (order (view x) (view y))
  | _ => True

/-- A request is served, with a block that is aligned. -/
def Served (align : Size) : Entry τ → Prop
  | .allocate _ (some block) => block % align.toNat = 0
  | .allocate _ none => False
  | _ => True

end Entry

/-- Hooks that follow an order do so in every call. -/
theorem Env.Steps.follows [Backend α] {ops : ElementOps κ τ} {view : τ → σ}
    {order : σ → σ → Ordering} {e e' : Env α κ τ} {t : List (Entry τ)} (h : Env.Steps ops e t e')
    (copies : ∀ x context, ∃ y, (ops.copy x context).1 = .ok y ∧ view y = view x)
    (compares : ∀ x y context, (ops.compare x y context).1 = .ok (order (view x) (view y))) :
    ∀ q ∈ t, q.Follows view order := by
  have copied (x : τ) (context : κ) :
      Entry.Follows view order (.copy x (ops.copy x context).1.toOption) := by
    obtain ⟨y, answer, same⟩ := copies x context
    rw [answer]
    exact same
  have compared (x y : τ) (context : κ) :
      Entry.Follows view order (.compare x y (ops.compare x y context).1.toOption) :=
    congrArg Except.toOption (compares x y context)
  exact h.forall_entries copied (fun _ _ => trivial) compared (fun _ _ => trivial)
    (fun _ _ => trivial) fun _ => trivial

/-! ## 3. What a sort comes to -/

section Sorting

variable {layout : Layout} {view : τ → σ} {order : σ → σ → Ordering} {t : List (Entry τ)}

theorem Fills.map_view {xs ys : List τ} {r : Except Panic Unit} (h : Fills xs ys r t)
    (follows : ∀ q ∈ t, q.Follows view order) : ys.map view = xs.map view := by
  induction h with
  | done => rfl
  | copied _ ih =>
    obtain ⟨same, rest⟩ := List.forall_mem_cons.mp follows
    rw [List.map_cons, List.map_cons, same, ih rest]
  | panicked => exact (List.forall_mem_singleton.mp follows).elim

/-- **Merging two buffers merges their lists.** -/
theorem Merges.map_view {xs ys zs : List τ} {r : Except Panic Unit} (h : Merges xs ys zs r t)
    (follows : ∀ q ∈ t, q.Follows view order) :
    zs.map view = mergeBy order (xs.map view) (ys.map view) := by
  induction h with
  | rest short fills =>
    rw [fills.map_view follows, List.map_append]
    rcases short with rfl | rfl <;> simp [mergeBy]
  | @left x y z o xs ys zs r t first _ ih =>
    obtain ⟨answer, copy, rest⟩ := by simpa [Entry.Follows] using follows
    have step : (order (view x) (view y)).isLE :=
      Ordering.isLE_iff_ne_gt.mpr fun gt => first (answer.trans gt)
    have merged := ih rest
    unfold mergeBy at merged ⊢
    rw [List.map_cons, List.map_cons, List.map_cons, List.cons_merge_cons_pos _ _ _ step, copy,
      merged, List.map_cons]
  | @right x y z xs ys zs r t _ ih =>
    obtain ⟨answer, copy, rest⟩ := by simpa [Entry.Follows] using follows
    have step : ¬ (order (view x) (view y)).isLE := by simp [← answer]
    have merged := ih rest
    unfold mergeBy at merged ⊢
    rw [List.map_cons, List.map_cons, List.map_cons, List.cons_merge_cons_neg _ _ _ step, copy,
      merged, List.map_cons]
  | compareFailed | leftFailed | rightFailed => simp [Entry.Follows] at follows

/-- **A sort that is done has placed the stable sort.** -/
theorem Sorts.stableSort [Std.TransCmp order] {xs ys : List τ}
    (h : Sorts layout xs ys (.done ()) t) (follows : ∀ q ∈ t, q.Follows view order) :
    StableSort order (xs.map view) (ys.map view) := by
  induction h using Sorts.done_induction_on with
  | short short fills =>
    rw [fills.map_view follows]
    exact .of_short (by rwa [List.length_map])
  | merged _ _ _ _ merges _ ihLeft ihRight =>
    obtain ⟨-, inLeft, inRight, inMerge, -⟩ := by simpa only [List.forall_mem_append] using follows
    rw [merges.map_view inMerge]
    have both := (ihLeft inLeft).merge (ihRight inRight)
    rwa [← List.map_append, List.take_append_drop] at both

end Sorting

/-! ## 4. That it gets that far -/

section Serving

variable {layout : Layout} {t : List (Entry τ)}

/-- A block whose size can be computed, and which is served, is had. -/
theorem Takes.not_refused {reserve : Size} {e : AllocError}
    (h : Takes (τ := τ) layout reserve (.error e) t) (served : ∀ q ∈ t, q.Served layout.align)
    (positive : 0 < reserve.toNat * layout.size.toNat)
    (fits : reserve.toNat * layout.size.toNat < UInt64.size) : False := by
  cases h with
  | sizeOverflow overflow => omega
  | zeroSize _ zero =>
    have product := congrArg UInt64.toNat zero
    rw [Size.toNat_mul_of_lt fits] at product
    exact positive.ne' product
  | exhausted => exact served _ List.mem_cons_self
  | misaligned _ _ _ skewed => exact skewed (served _ List.mem_cons_self)

/-- A part of a list takes up no more than can be computed for the list. -/
theorem part_fits {m n size : Nat} (some : 0 < m) (part : m ≤ n) (positive : 0 < size)
    (fits : n * size < UInt64.size) :
    0 < m.toUInt64.toNat * size ∧ m.toUInt64.toNat * size < UInt64.size := by
  have within : m * size ≤ n * size := Nat.mul_le_mul_right size part
  have small : m ≤ m * size := Nat.le_mul_of_pos_right m positive
  have bound : m < UInt64.size := by omega
  have same : m.toUInt64.toNat = m := UInt64.toNat_ofNat_of_lt' bound
  rw [same]
  exact ⟨Nat.mul_pos some positive, by omega⟩

/-- **A sort is not refused** when its requests are served. -/
theorem Sorts.not_refused {xs ys : List τ} {e : AllocError} (h : Sorts layout xs ys (.refused e) t)
    (served : ∀ q ∈ t, q.Served layout.align) (positive : 0 < layout.size.toNat)
    (fits : xs.length * layout.size.toNat < UInt64.size) : False := by
  generalize ended : (.refused e : Outcome AllocError Unit) = o at h
  induction h with
  | @short _ _ r _ _ _ => cases r <;> cases ended
  | @leftRefused xs e t long takesLeft =>
    have some : 0 < xs.length / 2 := by omega
    obtain ⟨some, small⟩ := part_fits some (Nat.div_le_self _ 2) positive fits
    exact takesLeft.not_refused served some small
  | @rightRefused xs left e o t₁ t₂ t₃ long _ takesRight =>
    have some : 0 < xs.length - xs.length / 2 := by omega
    obtain ⟨some, small⟩ := part_fits some (Nat.sub_le _ _) positive fits
    rw [List.forall_mem_append, List.forall_mem_append] at served
    exact takesRight.not_refused served.2.1 some small
  | leftStopped _ _ _ _ leaves ihLeft =>
    subst ended
    rw [List.forall_mem_append, List.forall_mem_append] at served
    refine ihLeft served.2.1 ?_ (leaves.eq_of_standing nofun nofun).symm
    exact Nat.lt_of_le_of_lt (Nat.mul_le_mul_right _ (List.length_take_le' _ _)) fits
  | rightStopped _ _ _ _ _ leaves _ ihRight =>
    subst ended
    rw [List.forall_mem_append, List.forall_mem_append, List.forall_mem_append] at served
    refine ihRight served.2.2.1 ?_ (leaves.eq_of_standing nofun nofun).symm
    refine Nat.lt_of_le_of_lt (Nat.mul_le_mul_right _ ?_) fits
    rw [List.length_drop]
    exact Nat.sub_le _ _
  | @merged _ _ _ _ _ _ r _ _ _ _ _ _ _ _ _ _ _ leaves =>
    subst ended
    have ended := leaves.eq_of_standing nofun nofun
    cases r <;> cases ended

theorem SortsAnew.not_refused {b : Buffer τ} {e : AllocError}
    (h : SortsAnew layout b (.refused e) t) (sound : b.Sound layout)
    (served : ∀ q ∈ t, q.Served layout.align) : False := by
  have positive : 0 < layout.size.toNat := Nat.pos_of_mul_pos_left sound.positive
  have fits : b.toList.length * layout.size.toNat < UInt64.size := by
    rw [Buffer.length_toList]
    exact Nat.lt_of_le_of_lt (Nat.mul_le_mul_right _ sound.length_le) sound.fits
  generalize ended : (.refused e : Outcome AllocError (Buffer τ)) = o at h
  cases h with
  | refused takes =>
    cases ended
    exact takes.not_refused served sound.positive sound.fits
  | stopped _ sorts same leaves =>
    subst ended
    rw [leaves.eq_of_standing nofun nofun] at same
    cases same
    rw [List.forall_mem_append, List.forall_mem_append] at served
    exact sorts.not_refused served.2.1 positive fits
  | sorted => cases ended

/-- Where nothing panics, a sort is done or refused. -/
theorem SortsArray.of_calm {b : Buffer τ} {v : Outcome ArrayError Unit × Buffer τ}
    (h : SortsArray layout b v t) (nonempty : 1 ≤ b.length) (calm : panics t = []) :
    (∃ fresh, v = (.done (), fresh)) ∨
    ∃ source t', v = (.refused (.sortAllocation source), b) ∧
      t = t' ++ [.report (.sortAllocationFailed b.length source)] ∧
      SortsAnew layout b (.refused source) t' := by
  cases h with
  | empty empty =>
    rw [← Buffer.length_toList, empty] at nonempty
    cases nonempty
  | refused _ sorts => exact .inr ⟨_, _, rfl, rfl, sorts⟩
  | unwound _ sorts =>
    obtain ⟨L, -, ends⟩ := sorts.moves
    rw [calm] at ends
    cases ends
  | aborted _ sorts =>
    obtain ⟨L, -, ends⟩ := sorts.moves
    rw [calm] at ends
    cases ends with
    | aborted _ _ two => cases two
  | @superseded fresh _ _ _ _ _ supersedes =>
    cases supersedes with
    | complete => exact .inl ⟨fresh, rfl⟩
    | unwound down =>
      obtain ⟨_, _, _, -, panicked, -⟩ := down.moves_error
      rw [Entry.panics_append, panicked] at calm
      cases (List.append_eq_nil_iff.mp calm).2

/-- Where nothing panics and all requests are served, it is done. -/
theorem SortsArray.done_of_served {b : Buffer τ} {v : Outcome ArrayError Unit × Buffer τ}
    (h : SortsArray layout b v t) (sound : b.Sound layout) (nonempty : 1 ≤ b.length)
    (calm : panics t = []) (served : ∀ q ∈ t, q.Served layout.align) :
    ∃ fresh, v = (.done (), fresh) := by
  rcases h.of_calm nonempty calm with done | ⟨_, _, -, rfl, sorts⟩
  · exact done
  · exact (sorts.not_refused sound (List.forall_mem_append.mp served).1).elim

end Serving

/-! ## 5. Sorting an array -/

/-- Where copies and comparisons come back and disposals do, nothing panics. -/
theorem calm_of_follows {view : τ → σ} {order : σ → σ → Ordering} {t : List (Entry τ)}
    (follows : ∀ q ∈ t, q.Follows view order) (disposals : ∀ x, .dispose x false ∉ t) :
    panics t = [] := by
  refine List.filter_eq_nil_iff.mpr fun q mem panicked => ?_
  cases q with
  | copy x result =>
    cases result with
    | none => exact follows _ mem
    | some => cases panicked
  | compare x y answer =>
    cases answer with
    | none => cases follows _ mem
    | some => cases panicked
  | dispose x completed =>
    cases completed with
    | false => exact disposals x mem
    | true => cases panicked
  | allocate | release | report => cases panicked

theorem SortsAnew.stableSort {layout : Layout} {view : τ → σ} {order : σ → σ → Ordering}
    [Std.TransCmp order] {b fresh : Buffer τ} {t : List (Entry τ)}
    (h : SortsAnew layout b (.done fresh) t) (follows : ∀ q ∈ t, q.Follows view order) :
    StableSort order (b.toList.map view) (fresh.toList.map view) := by
  obtain ⟨out, ys, t₁, t₂, rfl, rfl, takes, sorts⟩ := h.of_done
  rw [Buffer.toList_filled, takes.fresh.2.1, List.nil_append]
  exact sorts.stableSort (List.forall_mem_append.mp follows).2

/-- **Sorting is a stable sort.**  An array that is not empty is sorted whenever its comparisons
are answered by a total preorder, its copies look like their sources, its disposals come back and
its requests are served with aligned blocks.  It is as long and as large as before, and what it
holds is the stable sort of what it held. -/
theorem sort_gives_stable_sort [Backend α] (options : ArrayOptions κ τ) (e : Env α κ τ)
    {b : Buffer τ} (sound : b.Sound options.layout) (nonempty : 1 ≤ b.length) (view : τ → σ)
    (order : σ → σ → Ordering) [Std.TransCmp order]
    (follows : ∀ q ∈ e.calls (b.sort options), q.Follows view order)
    (served : ∀ q ∈ e.calls (b.sort options), q.Served options.layout.align)
    (disposals : ∀ x, .dispose x false ∉ e.calls (b.sort options)) :
    ∃ b', ((b.sort options).run e).1 = (.done (), b') ∧ b'.length = b.length ∧
      b'.reserve = b.reserve ∧ StableSort order (b.toList.map view) (b'.toList.map view) := by
  have calm := calm_of_follows follows disposals
  have sorts := (meets_sort (α := α) options sound.length_le).calls e
  generalize e.calls (b.sort options) = t at *
  generalize ((b.sort options).run e).1 = v at *
  cases sorts with
  | empty empty =>
    rw [← Buffer.length_toList, empty] at nonempty
    cases nonempty
  | refused _ sorts =>
    exact (sorts.not_refused sound (List.forall_mem_append.mp served).1).elim
  | unwound _ sorts =>
    obtain ⟨L, -, ends⟩ := sorts.moves
    rw [calm] at ends
    cases ends
  | aborted _ sorts =>
    obtain ⟨L, -, ends⟩ := sorts.moves
    rw [calm] at ends
    cases ends with
    | aborted _ _ two => cases two
  | @superseded fresh o t₁ t₂ _ sorts supersedes =>
    obtain ⟨length_eq, reserve_eq⟩ := sorts.same_shape
    have stable := sorts.stableSort (List.forall_mem_append.mp follows).1
    cases supersedes with
    | complete => exact ⟨fresh, rfl, length_eq, reserve_eq, stable⟩
    | unwound down =>
      obtain ⟨_, _, _, -, panicked, -⟩ := down.moves_error
      rw [Entry.panics_append, panicked] at calm
      cases (List.append_eq_nil_iff.mp calm).2

/-- Two numbers change places. -/
theorem sort_gives_stable_sort_of_pair :
    ∃ b', ((Buffer.pair.sort (wordOptions (.plain compare))).run (scarce 3 ())).1 = (.done (), b') ∧
      b'.length = 2 ∧ b'.reserve = 2 ∧
      StableSort compare ([2, 1].map id) (b'.toList.map (id : Nat → Nat)) := by
  have calls : (scarce 3 ()).calls (Buffer.pair.sort (wordOptions (.plain compare))) =
      [.allocate 8 (some 4096), .allocate 4 (some 4112), .allocate 4 (some 4128),
        .copy 2 (some 2), .copy 1 (some 1), .compare 2 1 (some .gt), .copy 1 (some 1),
        .copy 2 (some 2), .dispose 1 true, .release 4128 4, .dispose 2 true, .release 4112 4,
        .dispose 2 true, .dispose 1 true, .release 64 8, .report (.arraySorted 2)] := by
    cbv
    simp only [Buffer.merge_nil_right]
    cbv
  refine sort_gives_stable_sort _ _ Buffer.sound_pair (by decide) id compare ?_ ?_ ?_
  · exact ((meets_sort _ Buffer.sound_pair.length_le).steps _).follows (fun x _ => ⟨x, rfl, rfl⟩)
      fun _ _ _ => rfl
  · rw [calls]
    simp [Entry.Served, wordOptions]
  · rw [calls]
    simp

end ReservedArray
