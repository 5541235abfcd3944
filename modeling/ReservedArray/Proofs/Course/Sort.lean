/-
# The course of a sort

The courses of sorting a list into a buffer (`Sorts`) follow the recursion of `Buffer.sortInto`.
A list of one element is copied.  For a longer one two buffers are taken, the halves are sorted
into them and merged, and the buffers are torn down, the right one first; and at each of these
steps the sort can be stopped, by a refusal or a panic, and what is left of it is the tearing down.

`meets_sortInto` says that there are no other courses.  The only thing it asks for is room in the
buffer: it bounds the list by a size, and with that the sizes of the halves are computed without
wrapping, so that they have room in turn.
-/
import ReservedArray.Buffer.Sort
import ReservedArray.Proofs.Course.Buffer

namespace ReservedArray

variable {α κ τ ε β : Type}

/-! ## 1. Merging -/

/-- The courses of merging `xs` and `ys`: the copies made are `zs`. -/
inductive Merges : List τ → List τ → List τ → Except Panic Unit → List (Entry τ) → Prop
  /-- One list is used up. -/
  | rest {xs ys zs : List τ} {r : Except Panic Unit} {t : List (Entry τ)} :
      xs = [] ∨ ys = [] → Fills (xs ++ ys) zs r t → Merges xs ys zs r t
  | left {x y z : τ} {o : Ordering} {xs ys zs : List τ} {r : Except Panic Unit}
      {t : List (Entry τ)} : o ≠ .gt → Merges xs (y :: ys) zs r t →
      Merges (x :: xs) (y :: ys) (z :: zs) r (.compare x y (some o) :: .copy x (some z) :: t)
  | right {x y z : τ} {xs ys zs : List τ} {r : Except Panic Unit} {t : List (Entry τ)} :
      Merges (x :: xs) ys zs r t →
      Merges (x :: xs) (y :: ys) (z :: zs) r (.compare x y (some .gt) :: .copy y (some z) :: t)
  | compareFailed (x y : τ) (xs ys : List τ) (panic : Panic) :
      Merges (x :: xs) (y :: ys) [] (.error panic) [.compare x y none]
  | leftFailed (x y : τ) (xs ys : List τ) (panic : Panic) {o : Ordering} : o ≠ .gt →
      Merges (x :: xs) (y :: ys) [] (.error panic) [.compare x y (some o), .copy x none]
  | rightFailed (x y : τ) (xs ys : List τ) (panic : Panic) :
      Merges (x :: xs) (y :: ys) [] (.error panic) [.compare x y (some .gt), .copy y none]

/-! ## 2. Halving -/

/-- The courses of taking the two buffers for the halves of a list of `n` elements. -/
inductive TakesHalves (layout : Layout) (n : Nat) (left right : Buffer τ) :
    List (Entry τ) → Prop
  | both {t₁ t₂ : List (Entry τ)} : Takes layout (n / 2).toUInt64 (.ok left) t₁ →
      Takes layout (n - n / 2).toUInt64 (.ok right) t₂ → TakesHalves layout n left right (t₁ ++ t₂)

/-- The courses of tearing the two buffers down. -/
inductive LeavesHalves (layout : Layout) (left right : Buffer τ) (outcome : Outcome ε β) :
    Outcome ε β → List (Entry τ) → Prop
  | both {o o' : Outcome ε β} {t₁ t₂ : List (Entry τ)} : Leaves layout right outcome o t₁ →
      Leaves layout left o o' t₂ → LeavesHalves layout left right outcome o' (t₁ ++ t₂)

/-- The courses of sorting `xs` into a buffer: the copies placed there are `ys`. -/
inductive Sorts (layout : Layout) :
    List τ → List τ → Outcome AllocError Unit → List (Entry τ) → Prop
  | short {xs ys : List τ} {r : Except Panic Unit} {t : List (Entry τ)} : xs.length ≤ 1 →
      Fills xs ys r t → Sorts layout xs ys (.ofCall r) t
  | leftRefused {xs : List τ} {e : AllocError} {t : List (Entry τ)} : 1 < xs.length →
      Takes layout (xs.length / 2).toUInt64 (.error e) t → Sorts layout xs [] (.refused e) t
  | rightRefused {xs : List τ} {left : Buffer τ} {e : AllocError} {o : Outcome AllocError Unit}
      {t₁ t₂ t₃ : List (Entry τ)} : 1 < xs.length →
      Takes layout (xs.length / 2).toUInt64 (.ok left) t₁ →
      Takes layout (xs.length - xs.length / 2).toUInt64 (.error e) t₂ →
      Leaves layout left (.refused e) o t₃ → Sorts layout xs [] o (t₁ ++ (t₂ ++ t₃))
  | leftStopped {xs ls : List τ} {left right : Buffer τ} {o o' : Outcome AllocError Unit}
      {t₁ t₂ t₃ : List (Entry τ)} : 1 < xs.length → TakesHalves layout xs.length left right t₁ →
      Sorts layout (xs.take (xs.length / 2)) ls o t₂ → o ≠ .done () →
      LeavesHalves layout (left.filled ls) right o o' t₃ → Sorts layout xs [] o' (t₁ ++ (t₂ ++ t₃))
  | rightStopped {xs ls rs : List τ} {left right : Buffer τ} {o o' : Outcome AllocError Unit}
      {t₁ t₂ t₃ t₄ : List (Entry τ)} : 1 < xs.length → TakesHalves layout xs.length left right t₁ →
      Sorts layout (xs.take (xs.length / 2)) ls (.done ()) t₂ →
      Sorts layout (xs.drop (xs.length / 2)) rs o t₃ → o ≠ .done () →
      LeavesHalves layout (left.filled ls) (right.filled rs) o o' t₄ →
      Sorts layout xs [] o' (t₁ ++ (t₂ ++ (t₃ ++ t₄)))
  | merged {xs ls rs ys : List τ} {left right : Buffer τ} {r : Except Panic Unit}
      {o : Outcome AllocError Unit} {t₁ t₂ t₃ t₄ t₅ : List (Entry τ)} : 1 < xs.length →
      TakesHalves layout xs.length left right t₁ →
      Sorts layout (xs.take (xs.length / 2)) ls (.done ()) t₂ →
      Sorts layout (xs.drop (xs.length / 2)) rs (.done ()) t₃ → Merges ls rs ys r t₄ →
      LeavesHalves layout (left.filled ls) (right.filled rs) (.ofCall r) o t₅ →
      Sorts layout xs ys o (t₁ ++ (t₂ ++ (t₃ ++ (t₄ ++ t₅))))

/-! ## 3. A course that is done -/

/-- Copying that comes to its end has copied every element. -/
theorem Fills.length_eq {xs ys : List τ} {t : List (Entry τ)} (h : Fills xs ys (.ok ()) t) :
    ys.length = xs.length := by
  generalize ended : (.ok () : Except Panic Unit) = r at h
  induction h with
  | done => rfl
  | copied _ ih => rw [List.length_cons, List.length_cons, ih ended]
  | panicked => cases ended

theorem Merges.length_eq {xs ys zs : List τ} {t : List (Entry τ)}
    (h : Merges xs ys zs (.ok ()) t) : zs.length = xs.length + ys.length := by
  generalize ended : (.ok () : Except Panic Unit) = r at h
  induction h with
  | rest _ fills =>
    subst ended
    rw [fills.length_eq, List.length_append]
  | left _ _ ih =>
    have rest := ih ended
    simp only [List.length_cons] at rest ⊢
    omega
  | right _ ih =>
    have rest := ih ended
    simp only [List.length_cons] at rest ⊢
    omega
  | compareFailed | leftFailed | rightFailed => cases ended

/-- Tearing down changes no end but by a panic. -/
theorem Leaves.eq_of_standing {layout : Layout} {b : Buffer τ} {o o' : Outcome ε β}
    {t : List (Entry τ)} (h : Leaves layout b o o' t) (calm : ∀ panic, o' ≠ .unwound panic)
    (standing : o' ≠ .aborted) : o = o' := by
  cases h with
  | aborted => rfl
  | @torn _ r =>
    cases r with
    | ok => exact (Outcome.after_ok o).symm
    | error panic =>
      rcases Outcome.after_error panic o with unwound | aborted
      · exact absurd unwound (calm panic)
      · exact absurd aborted standing

theorem LeavesHalves.eq_of_standing {layout : Layout} {left right : Buffer τ} {o o' : Outcome ε β}
    {t : List (Entry τ)} (h : LeavesHalves layout left right o o' t)
    (calm : ∀ panic, o' ≠ .unwound panic) (standing : o' ≠ .aborted) : o = o' := by
  cases h with
  | both leavesRight leavesLeft =>
    obtain rfl := leavesLeft.eq_of_standing calm standing
    exact leavesRight.eq_of_standing calm standing

theorem ofCall_eq_done {ε : Type} {r : Except Panic Unit}
    (h : (Outcome.ofCall r : Outcome ε Unit) = .done ()) : r = .ok () := by
  cases r with
  | ok => rfl
  | error => cases h

/-- **Induction over the sorts that are done.**  Either there was nothing to sort, or both halves are
sorted and merged, and all buffers are gone; no other course ends like this. -/
@[elab_as_elim]
theorem Sorts.done_induction_on {layout : Layout}
    {motive : ∀ (xs ys : List τ) (t : List (Entry τ)), Sorts layout xs ys (.done ()) t → Prop}
    {xs ys : List τ} {t : List (Entry τ)} (h : Sorts layout xs ys (.done ()) t)
    (short : ∀ {xs ys : List τ} {t : List (Entry τ)} (short : xs.length ≤ 1)
      (fills : Fills xs ys (.ok ()) t), motive xs ys t (.short short fills))
    (merged : ∀ {xs ls rs ys : List τ} {left right : Buffer τ} {t₁ t₂ t₃ t₄ t₅ : List (Entry τ)}
      (long : 1 < xs.length) (takes : TakesHalves layout xs.length left right t₁)
      (sortsLeft : Sorts layout (xs.take (xs.length / 2)) ls (.done ()) t₂)
      (sortsRight : Sorts layout (xs.drop (xs.length / 2)) rs (.done ()) t₃)
      (merges : Merges ls rs ys (.ok ()) t₄)
      (leaves : LeavesHalves layout (left.filled ls) (right.filled rs)
        (.done () : Outcome AllocError Unit) (.done ()) t₅),
      motive _ ls t₂ sortsLeft → motive _ rs t₃ sortsRight →
      motive xs ys (t₁ ++ (t₂ ++ (t₃ ++ (t₄ ++ t₅))))
        (.merged long takes sortsLeft sortsRight merges leaves)) :
    motive xs ys t h := by
  have ends {xs ys : List τ} {o : Outcome AllocError Unit} {t : List (Entry τ)}
      (h : Sorts layout xs ys o t) (done : o = .done ()) : motive xs ys t (done ▸ h) := by
    induction h with
    | short few fills =>
      obtain rfl := ofCall_eq_done done
      exact short few fills
    | leftRefused => cases done
    | rightRefused _ _ _ leaves =>
      subst done
      cases leaves.eq_of_standing nofun nofun
    | leftStopped _ _ _ stopped leaves | rightStopped _ _ _ _ stopped leaves =>
      subst done
      exact absurd (leaves.eq_of_standing nofun nofun) stopped
    | merged long takes sortsLeft sortsRight merges leaves ihLeft ihRight =>
      subst done
      obtain rfl := ofCall_eq_done (leaves.eq_of_standing nofun nofun)
      exact merged long takes sortsLeft sortsRight merges leaves (ihLeft rfl) (ihRight rfl)
  exact ends h rfl

/-- **A sort that is done has placed a copy for every element.** -/
theorem Sorts.length_eq {layout : Layout} {xs ys : List τ} {t : List (Entry τ)}
    (h : Sorts layout xs ys (.done ()) t) : ys.length = xs.length := by
  induction h using Sorts.done_induction_on with
  | short _ fills => exact fills.length_eq
  | merged _ _ _ _ merges _ ihLeft ihRight =>
    rw [merges.length_eq, ihLeft, ihRight, ← List.length_append, List.take_append_drop]

/-! ## 4. Every course is one of these -/

/-- Nothing is done with a buffer once a sort is stopped. -/
theorem proceed_of_ne_done {outcome : Outcome ε Unit} (stopped : outcome ≠ .done ()) (b : Buffer τ)
    (next : Buffer τ → Run α κ τ (Outcome ε Unit × Buffer τ)) :
    b.proceed outcome next = pure (outcome, b) := by
  cases outcome with
  | done => exact absurd rfl stopped
  | refused | unwound | aborted => rfl

/-- With nothing to merge with, the rest is copied. -/
theorem Buffer.merge_nil_left (ops : ElementOps κ τ) (ys : List τ) (out : Buffer τ) :
    (out.merge ops [] ys : Run α κ τ _) = out.fill ops ys := by
  rw [Buffer.merge.eq_2, List.nil_append]
  rintro _ _ _ _ ⟨⟩

theorem Buffer.merge_nil_right (ops : ElementOps κ τ) (xs : List τ) (out : Buffer τ) :
    (out.merge ops xs [] : Run α κ τ _) = out.fill ops xs := by
  rw [Buffer.merge.eq_2, List.append_nil]
  rintro _ _ _ _ _ ⟨⟩

section Courses

variable [Backend α]

/-- A buffer with room for a list has room for what is left after one copy. -/
theorem room_filled_one {b : Buffer τ} {n : Nat} (y : τ)
    (room : b.length + (n + 1) ≤ b.reserve.toNat) :
    (b.filled [y]).length + n ≤ (b.filled [y]).reserve.toNat := by
  rw [Buffer.length_filled, Buffer.reserve_filled, List.length_singleton]
  omega

/-- One copy is placed, and what is then the buffer is gone on with. -/
theorem meets_place_then {ops : ElementOps κ τ} {x : τ} {b : Buffer τ}
    (room : b.length < b.reserve.toNat)
    {next : Buffer τ → Run α κ τ (Except Panic Unit × Buffer τ)}
    {R : Except Panic Unit × Buffer τ → List (Entry τ) → Prop}
    (placed : ∀ y, Meets ops (next (b.filled [y])) fun v t => R v (.copy x (some y) :: t))
    (panicked : ∀ panic, R (.error panic, b) [.copy x none]) :
    Meets ops (do
      match ← b.place ops x with
      | (.error panic, b) => return (.error panic, b)
      | (.ok (), b) => next b : Run α κ τ _) R := by
  refine .bind (meets_place x room) ?_
  rintro _ _ (y | panic)
  · exact placed y
  · exact .pure (panicked panic)

theorem meets_merge {ops : ElementOps κ τ} (xs ys : List τ) {b : Buffer τ}
    (room : b.length + (xs.length + ys.length) ≤ b.reserve.toNat) :
    Meets ops (b.merge ops xs ys : Run α κ τ _) fun v t =>
      ∃ zs, v.2 = b.filled zs ∧ Merges xs ys zs v.1 t := by
  induction xs, ys, b using Buffer.merge.induct with
  | case1 x xs y ys b ihRight ihLeft =>
    simp only [List.length_cons] at room ihRight ihLeft
    rw [Buffer.merge]
    refine .bind (meets_compare x y) ?_
    rintro (panic | o) _ rfl
    · exact .pure ⟨[], b.filled_nil.symm, .compareFailed x y xs ys panic⟩
    -- whichever element is placed, the rest is merged into what is then the buffer
    · have leftPlaced (first : o ≠ .gt) (z : τ) :
          Meets ops ((b.filled [z]).merge ops xs (y :: ys) : Run α κ τ _) fun v t =>
            ∃ zs, v.2 = b.filled zs ∧ Merges (x :: xs) (y :: ys) zs v.1
              (.compare x y (some o) :: .copy x (some z) :: t) := by
        refine (ihLeft _ (room_filled_one z (by omega))).mono ?_
        rintro v t ⟨zs, filled, merges⟩
        refine ⟨z :: zs, ?_, merges.left first⟩
        rw [filled, Buffer.filled_filled, List.singleton_append]
      have leftFailed (first : o ≠ .gt) (panic : Panic) :
          ∃ zs, b = b.filled zs ∧ Merges (x :: xs) (y :: ys) zs (.error panic)
            [.compare x y (some o), .copy x none] :=
        ⟨[], b.filled_nil.symm, .leftFailed x y xs ys panic first⟩
      cases o with
      | lt => exact meets_place_then (by omega) (leftPlaced nofun) (leftFailed nofun)
      | eq => exact meets_place_then (by omega) (leftPlaced nofun) (leftFailed nofun)
      | gt =>
        refine meets_place_then (by omega) (fun z => ?_) fun panic => ?_
        · refine (ihRight _ (room_filled_one z (by omega))).mono ?_
          rintro v t ⟨zs, filled, merges⟩
          refine ⟨z :: zs, ?_, merges.right⟩
          rw [filled, Buffer.filled_filled, List.singleton_append]
        · exact ⟨[], b.filled_nil.symm, .rightFailed x y xs ys panic⟩
  | case2 xs ys b short =>
    rw [Buffer.merge.eq_2 _ _ _ _ short]
    refine (meets_fill (xs ++ ys) (by rwa [List.length_append])).mono ?_
    rintro v t ⟨zs, filled, fills⟩
    refine ⟨zs, filled, .rest ?_ fills⟩
    cases xs with
    | nil => exact .inl rfl
    | cons x xs =>
      cases ys with
      | nil => exact .inr rfl
      | cons y ys => exact (short x xs y ys rfl rfl).elim

theorem meets_leaveHalves (options : ArrayOptions κ τ) (left right out : Buffer τ)
    (outcome : Outcome ε β) :
    Meets options.ops (do
      let outcome ← right.leave options outcome
      let outcome ← left.leave options outcome
      return (outcome, out) : Run α κ τ _) fun v t =>
      v.2 = out ∧ LeavesHalves options.layout left right outcome v.1 t := by
  refine .bind (meets_leave options right outcome) ?_
  intro o t₁ leavesRight
  refine .map (meets_leave options left o) ?_
  intro o' t₂ leavesLeft
  exact ⟨rfl, .both leavesRight leavesLeft⟩

/-- The sizes of the halves are what they should be. -/
theorem toNat_toUInt64_of_le {n : Nat} {size : Size} (h : n ≤ size.toNat) :
    n.toUInt64.toNat = n :=
  UInt64.toNat_ofNat_of_lt' (Nat.lt_of_le_of_lt h size.toNat_lt)

/-- **Every sort takes one of the courses**, and what it places in the buffer are its copies. -/
theorem meets_sortInto (options : ArrayOptions κ τ) (xs : List τ) {out : Buffer τ}
    (room : out.length + xs.length ≤ out.reserve.toNat) :
    Meets options.ops (out.sortInto options xs : Run α κ τ _) fun v t =>
      ∃ ys, v.2 = out.filled ys ∧ Sorts options.layout xs ys v.1 t := by
  induction xs, out using Buffer.sortInto.induct with
  | case1 xs out short =>
    rw [Buffer.sortInto, dif_pos short]
    refine .bind (meets_fill xs room) ?_
    rintro ⟨r, out'⟩ t ⟨ys, filled, fills⟩
    refine .pure ⟨ys, filled, ?_⟩
    rw [List.append_nil]
    exact .short short fills
  | case2 xs out long half ihLeft ihRight =>
    have two : 1 < xs.length := by omega
    rw [Buffer.sortInto, dif_neg long]
    have stopped : ∀ {v : Outcome AllocError Unit × Buffer τ} {t : List (Entry τ)}, v.2 = out →
        Sorts options.layout xs [] v.1 t →
        ∃ ys, v.2 = out.filled ys ∧ Sorts options.layout xs ys v.1 t :=
      fun h sorts => ⟨[], by rw [h, Buffer.filled_nil], sorts⟩
    refine .bind (meets_allocate options.layout _) ?_
    rintro (e | left) t₁ takesLeft
    · refine .pure (stopped rfl ?_)
      rw [List.append_nil]
      exact .leftRefused two takesLeft
    refine .bind (meets_allocate options.layout _) ?_
    rintro (e | right) t₂ takesRight
    · refine .map (meets_leave options left _) ?_
      intro o t₃ leaves
      exact stopped rfl (.rightRefused two takesLeft takesRight leaves)
    -- the two buffers have room for just their halves
    have halfFits : half ≤ out.reserve.toNat := by omega
    have restFits : xs.length - half ≤ out.reserve.toNat := by omega
    have leftRoom : left.length + (xs.take half).length ≤ left.reserve.toNat := by
      rw [takesLeft.fresh.2.2, takesLeft.fresh.1, toNat_toUInt64_of_le halfFits, List.length_take]
      omega
    have rightRoom : right.length + (xs.drop half).length ≤ right.reserve.toNat := by
      rw [takesRight.fresh.2.2, takesRight.fresh.1, toNat_toUInt64_of_le restFits,
        List.length_drop]
      omega
    have takes := TakesHalves.both takesLeft takesRight
    refine .bind (ihLeft left leftRoom) ?_
    rintro ⟨o, left'⟩ t₃ ⟨ls, rfl, sortsLeft⟩
    by_cases doneLeft : o = .done ()
    · subst doneLeft
      refine .bind (ihRight right rightRoom) ?_
      rintro ⟨o, right'⟩ t₄ ⟨rs, rfl, sortsRight⟩
      by_cases doneRight : o = .done ()
      · subst doneRight
        simp only [Buffer.toList_filled, takesLeft.fresh.2.1, takesRight.fresh.2.1,
          List.nil_append]
        have mergeRoom : out.length + (ls.length + rs.length) ≤ out.reserve.toNat := by
          rw [sortsLeft.length_eq, sortsRight.length_eq, ← List.length_append,
            List.take_append_drop]
          exact room
        refine .bind (P := fun v t => ∃ ys r, v.2 = out.filled ys ∧ v.1 = .ofCall r ∧
          Merges ls rs ys r t) (.bind (meets_merge ls rs mergeRoom) ?_) ?_
        · rintro ⟨r, out'⟩ t ⟨ys, filled, merges⟩
          refine .pure ⟨ys, r, filled, rfl, ?_⟩
          rwa [List.append_nil]
        · rintro ⟨_, _⟩ t₅ ⟨ys, r, rfl, rfl, merges⟩
          refine (meets_leaveHalves options _ _ _ _).mono ?_
          rintro v t₆ ⟨kept, leaves⟩
          have course := Sorts.merged two takes sortsLeft sortsRight merges leaves
          exact ⟨ys, kept, by simpa only [List.append_assoc] using course⟩
      · simp only [proceed_of_ne_done doneRight, pure_bind]
        refine (meets_leaveHalves options _ _ out o).mono ?_
        rintro v t₅ ⟨kept, leaves⟩
        refine stopped kept ?_
        have course := Sorts.rightStopped two takes sortsLeft sortsRight doneRight leaves
        simpa only [List.append_assoc] using course
    · simp only [proceed_of_ne_done doneLeft, pure_bind]
      refine (meets_leaveHalves options _ _ out o).mono ?_
      rintro v t₄ ⟨kept, leaves⟩
      refine stopped kept ?_
      have course := Sorts.leftStopped two takes sortsLeft doneLeft leaves
      simpa only [List.append_assoc] using course

end Courses

end ReservedArray
