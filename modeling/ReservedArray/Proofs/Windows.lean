/-
# The windows of a bisection

`Search.binary` counts in natural numbers, which have no end.  A machine keeps both ends of its
window in words, and the sum that gives the middle could wrap around.  This file follows a
bisection by its windows in words (`Window`), in arithmetic that wraps, and shows that it makes no
difference: in an array whose length is a word, nothing ever wraps.

Nothing is asked of the comparisons for that.  They may contradict each other, answer the same
question in different ways, or panic.

* Every look is at the middle of the window that the answers so far have left, and that window is
  not empty and does not reach beyond the array (`Bisects.looks`).
* Each answer halves the window at least, so there are at most as many looks as the length of the
  array has binary digits (`Bisects.length_le`).
* What is found was compared last, and was answered `Equal` (`Bisects.of_found`); only a panic keeps
  the search from coming back (`Bisects.of_error`).

That an equal element is found when there is one does ask something of the comparisons, and it is
known from `Search.isSome_binaryPure_iff` for those without effects.

The search of an array, `Buffer.binaryIndex`, is this search of its slots.
-/
import Mathlib
import ReservedArray.Proofs.SortedSearch

namespace ReservedArray

variable {α κ τ : Type}

/-! ## 1. How often a number can be halved -/

namespace Search

/-- How often a number can be halved, rounded down, until nothing is left. -/
def halvings (n : Nat) : Nat := if n = 0 then 0 else Nat.log 2 n + 1

theorem halvings_mono {n m : Nat} (le : n ≤ m) : halvings n ≤ halvings m := by
  unfold halvings
  by_cases zero : n = 0
  · simp [zero]
  · rw [if_neg zero, if_neg (by omega)]
    exact Nat.succ_le_succ (Nat.log_mono_right le)

theorem halvings_half {n : Nat} (positive : 0 < n) : halvings n = halvings (n / 2) + 1 := by
  unfold halvings
  rw [if_neg positive.ne']
  rcases Nat.lt_or_ge n 2 with small | large
  · obtain rfl : n = 1 := by omega
    rfl
  · rw [if_neg (by omega), Nat.log_of_one_lt_of_le Nat.one_lt_two large]

end Search

/-! ## 2. Windows in words -/

/-- The elements from `low` up to, and without, `high`. -/
structure Window where
  low : Size
  high : Size

namespace Window

/-- All elements of an array of some length. -/
def whole (length : Nat) : Window := ⟨0, length.toUInt64⟩

/-- The middle, in words that wrap around. -/
def middle (w : Window) : Size := w.low + (w.high - w.low) / 2

/-- How many elements are in it. -/
def width (w : Window) : Nat := w.high.toNat - w.low.toNat

theorem toNat_high_whole {length : Nat} (word : length < 2 ^ 64) :
    (whole length).high.toNat = length :=
  UInt64.toNat_ofNat_of_lt' word

theorem width_whole {length : Nat} (word : length < 2 ^ 64) : (whole length).width = length :=
  toNat_high_whole word

/-- The window that is left after an answer at the middle. -/
def next (w : Window) : Ordering → Window
  | .gt => { w with high := w.middle }
  | .lt => { w with low := w.middle + 1 }
  | .eq => w

/-- The window that is left after some calls. -/
def after (w : Window) : List (Entry τ) → Window
  | .compare _ _ (some answer) :: t => (w.next answer).after t
  | _ :: t => w.after t
  | [] => w

/-- There is an element in the window, and none beyond the array. -/
structure Inside (w : Window) (length : Nat) : Prop where
  nonempty : w.low < w.high
  high_le : w.high.toNat ≤ length

namespace Inside

variable {w : Window} {length : Nat} (inside : w.Inside length)

include inside

theorem low_lt_high : w.low.toNat < w.high.toNat := UInt64.lt_iff_toNat_lt.mp inside.nonempty

theorem width_pos : 0 < w.width := Nat.sub_pos_of_lt inside.low_lt_high

/-- The width does not go below zero, so half of it is right. -/
theorem toNat_half : ((w.high - w.low) / 2).toNat = (w.high.toNat - w.low.toNat) / 2 := by
  have le : w.low ≤ w.high := UInt64.le_iff_toNat_le.mpr inside.low_lt_high.le
  rw [UInt64.toNat_div, UInt64.toNat_sub_of_le _ _ le]
  rfl

/-- **The sum that gives the middle does not wrap.** -/
theorem toNat_middle : w.middle.toNat = Search.middle w.low.toNat w.high.toNat := by
  have lt := inside.low_lt_high
  have word := w.high.toNat_lt
  rw [middle, Search.middle, UInt64.toNat_add, inside.toNat_half, Nat.mod_eq_of_lt]
  omega

theorem add?_half : Size.add? w.low ((w.high - w.low) / 2) = some w.middle := by
  rw [Size.add?_eq_some_iff, inside.toNat_middle, inside.toNat_half]
  rfl

theorem middle_lt : w.middle.toNat < w.high.toNat := by
  rw [inside.toNat_middle]
  exact Search.middle_lt inside.low_lt_high

/-- Nor does the step behind the middle. -/
theorem toNat_behind : (w.middle + 1).toNat = w.middle.toNat + 1 := by
  have lt := inside.middle_lt
  have word := w.high.toNat_lt
  rw [UInt64.toNat_add, Nat.mod_eq_of_lt]
  · rfl
  · show w.middle.toNat + 1 < _
    omega

theorem add?_one : Size.add? w.middle 1 = some (w.middle + 1) := by
  rw [Size.add?_eq_some_iff, inside.toNat_behind]
  rfl

/-- **An answer that is not `Equal` halves the window**, at least. -/
theorem width_next {answer : Ordering} (unequal : answer ≠ .eq) :
    (w.next answer).width ≤ w.width / 2 := by
  have lt := inside.low_lt_high
  cases answer with
  | eq => exact absurd rfl unequal
  | gt =>
    show w.middle.toNat - w.low.toNat ≤ (w.high.toNat - w.low.toNat) / 2
    rw [inside.toNat_middle, Search.middle]
    omega
  | lt =>
    show w.high.toNat - (w.middle + 1).toNat ≤ (w.high.toNat - w.low.toNat) / 2
    rw [inside.toNat_behind, inside.toNat_middle, Search.middle]
    omega

end Inside

end Window

/-! ## 3. The course of a bisection -/

/-- The courses of a bisection from some window on. -/
inductive Bisects (key : τ) (items : Array τ) :
    Window → Except Panic (Option Nat) → List (Entry τ) → Prop
  | missed {w : Window} : ¬ w.low < w.high → Bisects key items w (.ok none) []
  | panicked {w : Window} {x : τ} (panic : Panic) : w.Inside items.size →
      items[w.middle.toNat]? = some x →
      Bisects key items w (.error panic) [.compare x key none]
  | found {w : Window} {x : τ} : w.Inside items.size → items[w.middle.toNat]? = some x →
      Bisects key items w (.ok (some w.middle.toNat)) [.compare x key (some .eq)]
  | narrowed {w : Window} {x : τ} {answer : Ordering} {r : Except Panic (Option Nat)}
      {t : List (Entry τ)} : w.Inside items.size → items[w.middle.toNat]? = some x →
      answer ≠ .eq → Bisects key items (w.next answer) r t →
      Bisects key items w r (.compare x key (some answer) :: t)

/-- **A bisection has one of these courses**: it is as if it counted in words. -/
theorem meets_bisects [Backend α] (ops : ElementOps κ τ) (key : τ) (items : Array τ)
    (words : items.size < 2 ^ 64) :
    Meets ops (Search.binary (Buffer.probeHook ops key) items : ExceptT Panic (Run α κ τ) _).run
      (Bisects key items (.whole items.size)) := by
  have within (low high : Nat) (bound : high ≤ items.size) (w : Window)
      (low_eq : w.low.toNat = low) (high_eq : w.high.toNat = high) : Meets ops
      (Search.binaryWithin (Buffer.probeHook ops key) items low high bound :
        ExceptT Panic (Run α κ τ) _).run (Bisects key items w) := by
    induction low, high, bound using Search.binaryWithin.induct generalizing w with
    | case1 low high bound window below above ihBelow ihAbove =>
      subst low_eq high_eq
      have inside : w.Inside items.size := ⟨UInt64.lt_iff_toNat_lt.mpr window, bound⟩
      have middle_eq := inside.toNat_middle
      have there : items[w.middle.toNat]? = some items[Search.middle w.low.toNat w.high.toNat] := by
        rw [middle_eq, Array.getElem?_eq_getElem]
      rw [Search.binaryWithin, dif_pos window]
      refine .bind_except (P := fun r t => t = [.compare _ key r.toOption])
        (meets_compare _ key) ?_ ?_
      · rintro answer _ rfl
        cases answer with
        | eq =>
          have found : Bisects key items w _ _ := .found inside there
          rw [middle_eq] at found
          exact .pure found
        | gt =>
          refine (ihBelow (w.next .gt) rfl middle_eq).mono ?_
          intro r t bisects
          exact .narrowed inside there (by decide) bisects
        | lt =>
          have behind_eq := inside.toNat_behind
          rw [middle_eq] at behind_eq
          refine (ihAbove (w.next .lt) behind_eq rfl).mono ?_
          intro r t bisects
          exact .narrowed inside there (by decide) bisects
      · rintro panic _ rfl
        exact .panicked panic inside there
    | case2 low high bound window =>
      subst low_eq high_eq
      rw [Search.binaryWithin, dif_neg window]
      exact .pure (.missed fun lt => window (UInt64.lt_iff_toNat_lt.mp lt))
  exact within 0 items.size (Nat.le_refl _) (.whole items.size) rfl (Window.toNat_high_whole words)

namespace Bisects

variable {key : τ} {items : Array τ} {w : Window} {r : Except Panic (Option Nat)}
  {t : List (Entry τ)}

/-- **Every look is at the middle of the window that is left.** -/
theorem looks (h : Bisects key items w r t) {before rest : List (Entry τ)} {q : Entry τ}
    (split : t = before ++ q :: rest) :
    (w.after before).Inside items.size ∧
      ∃ x answer, q = .compare x key answer ∧
        items[(w.after before).middle.toNat]? = some x := by
  induction h generalizing before with
  | missed => simp at split
  | panicked _ inside there | found inside there =>
    cases before with
    | nil =>
      obtain ⟨rfl, -⟩ := List.cons.inj split
      exact ⟨inside, _, _, rfl, there⟩
    | cons first before => simp at split
  | narrowed inside there _ _ ih =>
    cases before with
    | nil =>
      obtain ⟨rfl, -⟩ := List.cons.inj split
      exact ⟨inside, _, _, rfl, there⟩
    | cons first before =>
      obtain ⟨rfl, later⟩ := List.cons.inj split
      exact ih later

/-- **There are at most as many looks as the width has binary digits.** -/
theorem length_le (h : Bisects key items w r t) : t.length ≤ Search.halvings w.width := by
  induction h with
  | missed => exact Nat.zero_le _
  | panicked _ inside | found inside =>
    rw [Search.halvings_half inside.width_pos]
    exact Nat.le_add_left 1 _
  | narrowed inside _ unequal _ ih =>
    have halved := Search.halvings_mono (inside.width_next unequal)
    rw [List.length_cons, Search.halvings_half inside.width_pos]
    exact Nat.succ_le_succ (ih.trans halved)

/-- **What is found was looked at last**, and was answered `Equal`. -/
theorem of_found {i : Nat} (h : Bisects key items w (.ok (some i)) t) :
    ∃ before x, t = before ++ [.compare x key (some .eq)] ∧ items[i]? = some x ∧
      i = (w.after before).middle.toNat := by
  generalize ended : Except.ok (some i) = r at h
  induction h with
  | missed | panicked => cases ended
  | found inside there =>
    cases ended
    exact ⟨[], _, rfl, there, rfl⟩
  | narrowed _ _ _ _ ih =>
    obtain ⟨before, x, rfl, there, place⟩ := ih ended
    exact ⟨_ :: before, x, rfl, there, place⟩

/-- **Only a panic keeps a bisection from coming back.** -/
theorem of_error {panic : Panic} (h : Bisects key items w (.error panic) t) :
    ∃ x, .compare x key none ∈ t := by
  generalize ended : Except.error panic = r at h
  induction h with
  | missed | found => cases ended
  | panicked => exact ⟨_, List.mem_singleton_self _⟩
  | narrowed _ _ _ _ ih =>
    obtain ⟨x, mem⟩ := ih ended
    exact ⟨x, List.mem_cons_of_mem _ mem⟩

/-- All that a bisection calls is the comparison with the key. -/
theorem forall_compare (h : Bisects key items w r t) :
    ∀ q ∈ t, ∃ x answer, q = .compare x key answer := by
  intro q mem
  obtain ⟨before, rest, split⟩ := List.append_of_mem mem
  obtain ⟨-, x, answer, rfl, -⟩ := h.looks split
  exact ⟨x, answer, rfl⟩

end Bisects

/-! ## 4. All comparisons -/

/-- What is less first, then what is equal and then what is greater, is partitioned. -/
theorem partitioned_of_append {probe : τ → Ordering} {ls es gs : List τ}
    (less : ∀ x ∈ ls, probe x = .lt) (equal : ∀ x ∈ es, probe x = .eq)
    (greater : ∀ x ∈ gs, probe x = .gt) : Search.Partitioned probe (ls ++ (es ++ gs)) := by
  unfold Search.Partitioned
  simp only [List.pairwise_append, List.mem_append]
  refine ⟨?_, ⟨?_, ?_, ?_⟩, ?_⟩
  · exact List.pairwise_of_forall_mem_list fun x hx y _ => by simp [less x hx]
  · exact List.pairwise_of_forall_mem_list fun x hx y hy => by simp [equal x hx, equal y hy]
  · exact List.pairwise_of_forall_mem_list fun x _ y hy => by simp [greater y hy]
  · intro x hx y hy
    simp [equal x hx, greater y hy]
  · rintro x hx y -
    simp [less x hx]

section Bisection

variable [Backend α] {ops : ElementOps κ τ} {items : Array τ} {key : τ} {e : Env α κ τ}

/-- Bisection by an order finds an equal element of a partitioned array, if there is one. -/
theorem binary_finds {σ : Type} {view : τ → σ} {order : σ → σ → Ordering}
    (parted : Search.Partitioned (probeBy view order key) items.toList)
    (follows : ∀ q ∈ e.calls (Search.binary (Buffer.probeHook ops key) items).run,
      q.Follows view order) :
    ∃ found, ((Search.binary (Buffer.probeHook ops key) items).run e).1 = .ok found ∧
      (found.isSome ↔ ∃ x ∈ items, order (view x) (view key) = .eq) := by
  refine ⟨_, (meets_binary_answers key items).calls e follows, ?_⟩
  rw [Search.isSome_binaryPure_iff parted]
  simp [probeBy]

end Bisection

/-- **Bisection, whatever the comparisons.**  In an array whose length is a word, and with hooks
that do anything:

* there is at most one comparison for every binary digit of the length;
* every comparison is of the key with the element in the middle of the window that the answers so
  far have left, which lies in the array; and no step of the arithmetic that leads to this middle
  leaves the words;
* what is found lies in the array, and was the last to be compared and answered `Equal`; and
  the search comes back unless a comparison panics.

When the comparison with the key puts the lesser elements first, then the equal ones and then the
greater ones, an element is found if and only if there is an equal one; so also in an array that is
in ascending order, by the order that answers the comparisons. -/
theorem bisection_bounded [Backend α] (ops : ElementOps κ τ) (items : Array τ) (key : τ)
    (e : Env α κ τ) (words : items.size < 2 ^ 64) :
    let search : Run α κ τ (Except Panic (Option Nat)) :=
      (Search.binary (Buffer.probeHook ops key) items).run
    let r := (search.run e).1
    let t := e.calls search
    t.length ≤ (if items.size = 0 then 0 else Nat.log 2 items.size + 1) ∧
    (∀ before rest q, t = before ++ q :: rest →
      let w := (Window.whole items.size).after before
      (w.low < w.high ∧ w.high.toNat ≤ items.size) ∧
      (Size.add? w.low ((w.high - w.low) / 2) = some w.middle ∧
        Size.add? w.middle 1 = some (w.middle + 1)) ∧
      ∃ x answer, q = .compare x key answer ∧ items[w.middle.toNat]? = some x) ∧
    (∀ i, r = .ok (some i) → i < items.size ∧
      ∃ before x, t = before ++ [.compare x key (some .eq)] ∧ items[i]? = some x ∧
        i = ((Window.whole items.size).after before).middle.toNat) ∧
    ((∀ x, .compare x key none ∉ t) → ∃ found, r = .ok found) ∧
    (∀ (probe : τ → Ordering) (ls es gs : List τ), items.toList = ls ++ (es ++ gs) →
      (∀ x ∈ ls, probe x = .lt) → (∀ x ∈ es, probe x = .eq) → (∀ x ∈ gs, probe x = .gt) →
      (∀ x answer, .compare x key answer ∈ t → answer = some (probe x)) →
      ∃ found, r = .ok found ∧ (found.isSome ↔ ∃ x ∈ items, probe x = .eq)) ∧
    (∀ (σ : Type) (view : τ → σ) (order : σ → σ → Ordering) [Std.TransCmp order],
      (items.toList.map view).Pairwise (fun x y => order x y ≠ .gt) →
      (∀ x answer, .compare x key answer ∈ t → answer = some (order (view x) (view key))) →
      ∃ found, r = .ok found ∧
        (found.isSome ↔ ∃ x ∈ items, order (view x) (view key) = .eq)) := by
  intro search r t
  have course : Bisects key items (.whole items.size) r t :=
    (meets_bisects ops key items words).calls e
  -- answers to the comparisons with the key are all that is called
  have follows {σ : Type} {view : τ → σ} {order : σ → σ → Ordering}
      (answered : ∀ x answer, .compare x key answer ∈ t →
        answer = some (order (view x) (view key))) : ∀ q ∈ t, q.Follows view order := by
    intro q mem
    obtain ⟨x, answer, rfl⟩ := course.forall_compare q mem
    exact answered x answer mem
  refine ⟨?_, ?_, ?_, ?_, ?_, ?_⟩
  · have most := course.length_le
    rwa [Window.width_whole words] at most
  · intro before rest q split w
    obtain ⟨inside, look⟩ := course.looks split
    exact ⟨⟨inside.nonempty, inside.high_le⟩, ⟨inside.add?_half, inside.add?_one⟩, look⟩
  · intro i found
    rw [found] at course
    obtain ⟨before, x, split, there, place⟩ := course.of_found
    exact ⟨(Array.getElem?_eq_some_iff.mp there).1, before, x, split, there, place⟩
  · intro calm
    cases ended : r with
    | ok found => exact ⟨found, rfl⟩
    | error panic =>
      rw [ended] at course
      obtain ⟨x, mem⟩ := course.of_error
      exact absurd mem (calm x)
  · intro probe ls es gs split less equal greater answered
    have parted : Search.Partitioned (probeBy id (fun x _ => probe x) key) items.toList := by
      rw [split]
      exact partitioned_of_append less equal greater
    exact binary_finds parted (follows answered)
  · intro σ view order _ ascending answered
    exact binary_finds (partitioned_of_ascending ascending key) (follows answered)

/-- Bisection of five numbers, two of which have the tens of the key. -/
def Search.amongFive : Run (Counting (Failing Heap)) Unit Nat (Except Panic (Option Nat)) :=
  (Search.binary (Buffer.probeHook byTens 30) #[21, 22, 23, 35, 31]).run

/-- It looks at the middle one first, and then it finds the last one. -/
theorem bisection_bounded_among_five :
    let t := (scarce 0 ()).calls Search.amongFive
    5 < 2 ^ 64 ∧ t = [.compare 23 30 (some .lt), .compare 31 30 (some .eq)] ∧ t.length ≤ 3 ∧
      ((Window.whole 5).after [.compare 23 30 (some .lt)]).middle = 4 ∧
      (∃ found, (Search.amongFive.run (scarce 0 ())).1 = .ok found ∧
        (found.isSome ↔ ∃ x ∈ #[21, 22, 23, 35, 31], compare (x / 10) 3 = .eq)) := by
  have calls : (scarce 0 ()).calls Search.amongFive =
      [.compare 23 30 (some .lt), .compare 31 30 (some .eq)] := by
    cbv
  intro t
  obtain ⟨most, -, -, -, finds, -⟩ :=
    bisection_bounded byTens #[21, 22, 23, 35, 31] 30 (scarce 0 ()) (by decide)
  refine ⟨by decide, calls, most.trans (by decide), by decide, ?_⟩
  refine finds (fun x => compare (x / 10) 3) [21, 22, 23] [35, 31] [] rfl (by decide) (by decide)
    (by decide) ?_
  intro x answer mem
  have looked : Entry.compare x 30 answer ∈ t := mem
  rw [show t = _ from calls] at looked
  simp only [List.mem_cons, Entry.compare.injEq, List.not_mem_nil, or_false, true_and] at looked
  rcases looked with ⟨rfl, rfl⟩ | ⟨rfl, rfl⟩
  · rfl
  · rfl

end ReservedArray
