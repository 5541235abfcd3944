/-
# Sorting keeps every element

A sort makes copies of copies, and each time a comparison says which copy is made next.  If the
comparisons follow no order the result is in no order either.  This file proves that it still has
every element the array had, each once, whatever the comparisons say and whatever the copies do to
the elements (`sort_keeps_every_element`).

What an element of the result has to do with one of the array cannot be seen from the two, when a
copy may differ from its source.  It can be seen from the calls: a `Lineage` is a chain of copies,
each made from the one before.  A `Family` has a lineage for every element of the result.  It starts
from every element of the array, and it has every copy that was made in just one place.

* To begin with every element is its own lineage (`Family.itself`), and families of two lists are
  put side by side (`Family.append`).
* When each element is copied once more, in whatever order, every lineage gets longer by one
  (`Family.copy`).  This is what a merge does, which uses up either list once (`Merges.sources`).
* So how long the lineages are is a matter of how deep the halves of the list are nested
  (`Sorts.family`).
-/
import Mathlib
import ReservedArray.Proofs.Leak

namespace ReservedArray

variable {α κ τ β : Type}

open Entry (panics copyPairs)

/-! ## 1. Lineages -/

/-- `z` is what becomes of `x` by copies, each made from the one before. -/
inductive Descends : τ → List (τ × τ) → τ → Prop
  | itself (x : τ) : Descends x [] x
  | copied {x y : τ} {links : List (τ × τ)} (z : τ) : Descends x links y →
      Descends x (links ++ [(y, z)]) z

/-- An element and what becomes of it. -/
structure Lineage (τ : Type) where
  source : τ
  links : List (τ × τ)
  result : τ
  descends : Descends source links result

namespace Lineage

/-- An element that was not copied. -/
def itself (x : τ) : Lineage τ := ⟨x, [], x, .itself x⟩

/-- The last copy is copied. -/
def copied (l : Lineage τ) (z : τ) : Lineage τ :=
  ⟨l.source, l.links ++ [(l.result, z)], z, .copied z l.descends⟩

/-- Every lineage gets one more copy. -/
theorem exists_copied {family : List (Lineage τ)} {pairs : List (τ × τ)}
    (h : pairs.map Prod.fst = family.map (·.result)) :
    ∃ family' : List (Lineage τ), family'.map (·.result) = pairs.map Prod.snd ∧
      family'.map (·.source) = family.map (·.source) ∧
      (family'.flatMap (·.links)).Perm (family.flatMap (·.links) ++ pairs) ∧
      ∀ l' ∈ family', ∃ l ∈ family, ∃ p ∈ pairs, l'.links = l.links ++ [p] := by
  induction family generalizing pairs with
  | nil =>
    rw [List.map_nil, List.map_eq_nil_iff] at h
    subst h
    exact ⟨[], rfl, rfl, .nil, nofun⟩
  | cons l family ih =>
    cases pairs with
    | nil => cases h
    | cons p pairs =>
      obtain ⟨first, rest⟩ := List.cons.inj h
      obtain ⟨family', results, sources, links, longer⟩ := ih rest
      obtain ⟨x, z⟩ := p
      obtain rfl : x = l.result := first
      refine ⟨l.copied z :: family', ?_, ?_, ?_, ?_⟩
      · rw [List.map_cons, List.map_cons, results]
        rfl
      · rw [List.map_cons, List.map_cons, sources]
        rfl
      · rw [List.flatMap_cons, List.flatMap_cons]
        show (l.links ++ [(l.result, z)] ++ _).Perm _
        rw [List.append_assoc, List.append_assoc]
        refine .append_left l.links ?_
        exact (links.cons _).trans List.perm_middle.symm
      · intro l' mem
        rcases List.mem_cons.mp mem with rfl | mem
        · exact ⟨l, List.mem_cons_self, _, List.mem_cons_self, rfl⟩
        · obtain ⟨k, inFamily, q, inPairs, same⟩ := longer l' mem
          exact ⟨k, List.mem_cons_of_mem l inFamily, q, List.mem_cons_of_mem _ inPairs, same⟩

end Lineage

/-! ## 2. Families -/

/-- What is rearranged after it is mapped can be rearranged before. -/
theorem exists_perm_map {β γ : Type} {f : β → γ} {l : List γ} {m : List β}
    (h : l.Perm (m.map f)) : ∃ m' : List β, l = m'.map f ∧ m'.Perm m := by
  have rearranged : Relation.Comp (fun a b => a = List.map f b) List.Perm l m := by
    rw [List.eq_map_comp_perm]
    exact h
  exact rearranged

/-- A lineage for every element of `ys`, from every element of `xs`, that come to all the copies
`pairs` together; and each has between `low` and `high` of them. -/
structure Family (low high : Nat) (xs ys : List τ) (pairs : List (τ × τ))
    (family : List (Lineage τ)) : Prop where
  results : family.map (·.result) = ys
  sources : (family.map (·.source)).Perm xs
  /-- Every copy has its place in one lineage. -/
  links : (family.flatMap (·.links)).Perm pairs
  /-- The copies of a lineage were made one after the other. -/
  inOrder : ∀ l ∈ family, l.links.Sublist pairs
  low_le : ∀ l ∈ family, low ≤ l.links.length
  le_high : ∀ l ∈ family, l.links.length ≤ high

namespace Family

variable {low high low' high' : Nat} {xs ys xs' ys' : List τ} {pairs pairs' : List (τ × τ)}
  {family family' : List (Lineage τ)}

theorem itself (xs : List τ) : Family 0 0 xs xs [] (xs.map Lineage.itself) where
  results := by simp [Lineage.itself, Function.comp_def]
  sources := by simp [Lineage.itself, Function.comp_def]
  links := by simp [Lineage.itself, List.flatMap_map]
  inOrder := by simp [Lineage.itself]
  low_le := fun _ _ => Nat.zero_le _
  le_high := by simp [Lineage.itself]

theorem mono (h : Family low high xs ys pairs family) (below : low' ≤ low) (above : high ≤ high') :
    Family low' high' xs ys pairs family :=
  ⟨h.results, h.sources, h.links, h.inOrder, fun l mem => below.trans (h.low_le l mem),
    fun l mem => (h.le_high l mem).trans above⟩

/-- Two families side by side. -/
theorem append (h : Family low high xs ys pairs family)
    (h' : Family low high xs' ys' pairs' family') :
    Family low high (xs ++ xs') (ys ++ ys') (pairs ++ pairs') (family ++ family') where
  results := by rw [List.map_append, h.results, h'.results]
  sources := by
    rw [List.map_append]
    exact h.sources.append h'.sources
  links := by
    rw [List.flatMap_append]
    exact h.links.append h'.links
  inOrder l mem := by
    rcases List.mem_append.mp mem with mem | mem
    · exact (h.inOrder l mem).trans (List.sublist_append_left _ _)
    · exact (h'.inOrder l mem).trans (List.sublist_append_right _ _)
  low_le l mem := (List.mem_append.mp mem).elim (h.low_le l) (h'.low_le l)
  le_high l mem := (List.mem_append.mp mem).elim (h.le_high l) (h'.le_high l)

/-- **When every element is copied once, in whatever order**, every lineage is longer by one. -/
theorem copy (h : Family low high xs ys pairs family) (once : (pairs'.map Prod.fst).Perm ys) :
    ∃ family', Family (low + 1) (high + 1) xs (pairs'.map Prod.snd) (pairs ++ pairs') family' := by
  rw [← h.results] at once
  obtain ⟨ordered, same, perm⟩ := exists_perm_map once
  obtain ⟨longer, results, sources, links, copies⟩ := Lineage.exists_copied same
  have length_eq (l' : Lineage τ) (mem : l' ∈ longer) :
      ∃ l ∈ family, l'.links.length = l.links.length + 1 := by
    obtain ⟨l, inFamily, p, -, same⟩ := copies l' mem
    exact ⟨l, perm.mem_iff.mp inFamily, by rw [same, List.length_append, List.length_singleton]⟩
  refine ⟨longer, results, ?_, ?_, ?_, ?_, ?_⟩
  · rw [sources]
    exact (perm.map _).trans h.sources
  · exact links.trans (((perm.flatMap_right _).trans h.links).append_right _)
  · intro l' mem
    obtain ⟨l, inFamily, p, inPairs, same⟩ := copies l' mem
    rw [same]
    exact (h.inOrder l (perm.mem_iff.mp inFamily)).append (List.singleton_sublist.mpr inPairs)
  · intro l' mem
    obtain ⟨l, inFamily, length_eq⟩ := length_eq l' mem
    have bound := h.low_le l inFamily
    omega
  · intro l' mem
    obtain ⟨l, inFamily, length_eq⟩ := length_eq l' mem
    have bound := h.le_high l inFamily
    omega

end Family

/-! ## 3. The lineages of a sort -/

section Sorting

variable {layout : Layout} {t : List (Entry τ)}

theorem Fills.sources {xs ys : List τ} (h : Fills xs ys (.ok ()) t) :
    (copyPairs t).map Prod.fst = xs := by
  rw [h.copyPairs_eq, List.map_fst_zip h.length_eq.ge]

theorem Fills.results {xs ys : List τ} {r : Except Panic Unit} (h : Fills xs ys r t) :
    (copyPairs t).map Prod.snd = ys := by
  induction h with
  | done | panicked => rfl
  | copied _ ih => exact congrArg (_ :: ·) ih

/-- **A merge copies every element of both lists once**, whatever the comparisons say. -/
theorem Merges.sources {xs ys zs : List τ} (h : Merges xs ys zs (.ok ()) t) :
    ((copyPairs t).map Prod.fst).Perm (xs ++ ys) := by
  generalize ended : (.ok () : Except Panic Unit) = r at h
  induction h with
  | rest _ fills =>
    subst ended
    rw [fills.sources]
  | left _ _ ih => exact (ih ended).cons _
  | right _ ih => exact ((ih ended).cons _).trans List.perm_middle.symm
  | compareFailed | leftFailed | rightFailed => cases ended

theorem Merges.results {xs ys zs : List τ} {r : Except Panic Unit} (h : Merges xs ys zs r t) :
    (copyPairs t).map Prod.snd = zs := by
  induction h with
  | rest _ fills => exact fills.results
  | left _ _ ih | right _ ih => exact congrArg (_ :: ·) ih
  | compareFailed | leftFailed | rightFailed => rfl

/-- **A sort that is done has a lineage for every element**, of one copy for each time that the
list around it is halved, and one more. -/
theorem Sorts.family {xs ys : List τ} (h : Sorts layout xs ys (.done ()) t) :
    ∃ family, Family (Nat.log 2 xs.length + 1) (Nat.clog 2 xs.length + 1) xs ys (copyPairs t)
      family := by
  induction h using Sorts.done_induction_on with
  | @short xs ys t short fills =>
    obtain ⟨family, h⟩ := (Family.itself xs).copy (.of_eq fills.sources)
    rw [fills.results, List.nil_append] at h
    exact ⟨family, h.mono (by rw [Nat.log_of_lt (by omega)]) (by omega)⟩
  | @merged xs _ _ _ _ _ _ _ _ _ _ long takes _ _ merges leaves ihLeft ihRight =>
    obtain ⟨lower, hLower⟩ := ihLeft
    obtain ⟨upper, hUpper⟩ := ihRight
    rw [List.length_take_of_le (Nat.div_le_self _ 2)] at hLower
    rw [List.length_drop] at hUpper
    -- the halves are as deep as each other, or the upper one is deeper by one
    have shallow : Nat.log 2 (xs.length / 2) ≤ Nat.log 2 (xs.length - xs.length / 2) :=
      Nat.log_mono_right (by omega)
    have deep : Nat.clog 2 (xs.length / 2) ≤ Nat.clog 2 (xs.length - xs.length / 2) :=
      Nat.clog_mono_right 2 (by omega)
    have low : Nat.log 2 (xs.length / 2) = Nat.log 2 xs.length - 1 := Nat.log_div_base 2 _
    have high : Nat.clog 2 xs.length = Nat.clog 2 (xs.length - xs.length / 2) + 1 := by
      rw [Nat.clog_of_two_le Nat.one_lt_two long]
      congr 2
      omega
    have halved : 0 < Nat.log 2 xs.length := Nat.log_pos Nat.one_lt_two long
    obtain ⟨family, h⟩ := ((hLower.mono le_rfl (Nat.succ_le_succ deep)).append
      (hUpper.mono (Nat.succ_le_succ shallow) le_rfl)).copy merges.sources
    rw [List.take_append_drop, merges.results, List.append_assoc] at h
    refine ⟨family, ?_⟩
    rw [Entry.copyPairs_append, Entry.copyPairs_append, Entry.copyPairs_append,
      Entry.copyPairs_append, takes.idle.copyPairs_eq, leaves.idle.copyPairs_eq, List.append_nil,
      List.nil_append]
    exact h.mono (by omega) (by omega)

theorem SortsArray.family {b b' : Buffer τ} (h : SortsArray layout b (.done (), b') t) :
    ∃ family, Family (Nat.log 2 b.length + 1) (Nat.clog 2 b.length + 1) b.toList b'.toList
      (copyPairs t) family := by
  obtain ⟨t₁, t₂, rfl, sortsAnew, supersedes⟩ := h.of_done
  obtain ⟨out, ys, t₃, t₄, rfl, rfl, takes, sorts⟩ := sortsAnew.of_done
  rw [Buffer.toList_filled, takes.fresh.2.1, List.nil_append, Entry.copyPairs_append,
    Entry.copyPairs_append, takes.idle.copyPairs_eq, supersedes.idle.copyPairs_eq, List.append_nil,
    List.nil_append, ← Buffer.length_toList]
  exact sorts.family

end Sorting

/-! ## 4. Sorting an array -/

/-- Lists of the same elements are the same but for a permutation of the places. -/
theorem exists_perm_places {xs zs : List β} (h : zs.Perm xs) {n : Nat} (length_eq : xs.length = n) :
    ∃ origin : Equiv.Perm (Fin n), ∀ i : Fin n, zs[i]? = xs[(origin i : Nat)]? := by
  subst length_eq
  have mapped : zs.Perm (xs.zipIdx.map Prod.fst) := by rwa [List.zipIdx_map_fst]
  obtain ⟨placed, rfl, perm⟩ := exists_perm_map mapped
  have places : (placed.map Prod.snd).Perm (List.range xs.length) := by
    have all := perm.map Prod.snd
    rwa [List.zipIdx_map_snd, ← List.range_eq_range'] at all
  have length_eq : placed.length = xs.length := by rw [perm.length_eq, List.length_zipIdx]
  have there (i : Fin xs.length) : xs[placed[i].2]? = some placed[i].1 :=
    List.mem_zipIdx_iff_getElem?.mp (perm.mem_iff.mp (List.getElem_mem _))
  let origin (i : Fin xs.length) : Fin xs.length :=
    ⟨placed[i].2, (List.getElem?_eq_some_iff.mp (there i)).1⟩
  have injective : Function.Injective origin := by
    intro i j same
    have nodup : (placed.map Prod.snd).Nodup := places.nodup_iff.mpr List.nodup_range
    have hi : (i : Nat) < (placed.map Prod.snd).length := by simp [length_eq]
    have hj : (j : Nat) < (placed.map Prod.snd).length := by simp [length_eq]
    have equal : (placed.map Prod.snd)[(i : Nat)] = (placed.map Prod.snd)[(j : Nat)] := by
      simpa [origin] using same
    exact Fin.ext ((List.Nodup.getElem_inj_iff nodup).mp equal)
  refine ⟨Equiv.ofBijective origin (Finite.injective_iff_bijective.mp injective), fun i => ?_⟩
  show (placed.map Prod.fst)[(i : Nat)]? = xs[placed[i].2]?
  rw [there i]
  exact (List.getElem?_eq_getElem (by simp [length_eq])).trans (by simp)

/-- **Sorting keeps every element under any comparison.**  If nothing panics and all requests are
served with aligned blocks, an array that is not empty is sorted, whatever the comparisons say and
whatever the copies make of the elements.  There is a permutation of the slots such that what is in
a slot in the end descends from what was in the other by a chain of copies.  Every copy made is in
one of the chains and in one place, and the chains are as long as the list is deep. -/
theorem sort_keeps_every_element [Backend α] (options : ArrayOptions κ τ) (e : Env α κ τ)
    {b : Buffer τ} (sound : b.Sound options.layout) (nonempty : 1 ≤ b.length)
    (calm : panics (e.calls (b.sort options)) = [])
    (served : ∀ q ∈ e.calls (b.sort options), q.Served options.layout.align) :
    ∃ b', ((b.sort options).run e).1 = (.done (), b') ∧ b'.length = b.length ∧
      b'.reserve = b.reserve ∧
      ∃ (origin : Equiv.Perm (Fin b.length)) (chain : Fin b.length → List (τ × τ)),
        (List.ofFn chain).flatten.Perm (copyPairs (e.calls (b.sort options))) ∧
        ∀ i, (∃ x y, b.get? (origin i) = some x ∧ b'.get? i = some y ∧ Descends x (chain i) y) ∧
          (chain i).Sublist (copyPairs (e.calls (b.sort options))) ∧
          Nat.log 2 b.length + 1 ≤ (chain i).length ∧
          (chain i).length ≤ Nat.clog 2 b.length + 1 := by
  have course := (meets_sort (α := α) options sound.length_le).calls e
  obtain ⟨b', done⟩ := course.done_of_served sound nonempty calm served
  rw [done] at course
  obtain ⟨length_eq, reserve_eq⟩ := course.same_shape
  obtain ⟨family, h⟩ := course.family
  have size : family.length = b.length := by
    rw [← length_eq, ← Buffer.length_toList, ← h.results, List.length_map]
  obtain ⟨origin, places⟩ := exists_perm_places h.sources (Buffer.length_toList b)
  refine ⟨b', done, length_eq, reserve_eq, origin, fun i => family[i].links, ?_, ?_⟩
  · have chains : List.ofFn (fun i : Fin b.length => family[i].links) =
        family.map (·.links) := by
      refine List.ext_getElem (by simp [size]) fun i _ _ => ?_
      simp
    rw [chains, ← List.flatMap_def]
    exact h.links
  · intro i
    have mem : family[i] ∈ family := List.getElem_mem _
    refine ⟨⟨family[i].source, family[i].result, ?_, ?_, family[i].descends⟩, h.inOrder _ mem,
      h.low_le _ mem, h.le_high _ mem⟩
    · rw [Buffer.get?, ← Array.getElem?_toList]
      show b.toList[(origin i : Nat)]? = _
      rw [← places]
      exact (List.getElem?_eq_getElem (by simp [size])).trans (by simp)
    · rw [Buffer.get?, ← Array.getElem?_toList]
      show b'.toList[(i : Nat)]? = _
      rw [← h.results]
      exact (List.getElem?_eq_getElem (by simp [size])).trans (by simp)

/-- Hooks with no sense: every element is greater than every other, and copies are larger. -/
def contrary : ElementOps Unit Nat where
  copy x context := (.ok (x + 10), context)
  dispose _ context := (.ok (), context)
  compare _ _ context := (.ok .gt, context)

/-- The two numbers change places, and each is a copy of a copy. -/
theorem sort_keeps_every_element_of_pair :
    ∃ b', ((Buffer.pair.sort (wordOptions contrary)).run (scarce 3 ())).1 = (.done (), b') ∧
      b'.length = 2 ∧ b'.reserve = 2 ∧
      ∃ (origin : Equiv.Perm (Fin 2)) (chain : Fin 2 → List (Nat × Nat)),
        (List.ofFn chain).flatten.Perm [(2, 12), (1, 11), (11, 21), (12, 22)] ∧
        ∀ i, (∃ x y, Buffer.pair.get? (origin i) = some x ∧ b'.get? i = some y ∧
            Descends x (chain i) y) ∧
          (chain i).Sublist [(2, 12), (1, 11), (11, 21), (12, 22)] ∧
          2 ≤ (chain i).length ∧ (chain i).length ≤ 2 := by
  have calls : (scarce 3 ()).calls (Buffer.pair.sort (wordOptions contrary)) =
      [.allocate 8 (some 4096), .allocate 4 (some 4112), .allocate 4 (some 4128),
        .copy 2 (some 12), .copy 1 (some 11), .compare 12 11 (some .gt), .copy 11 (some 21),
        .copy 12 (some 22), .dispose 11 true, .release 4128 4, .dispose 12 true, .release 4112 4,
        .dispose 2 true, .dispose 1 true, .release 64 8, .report (.arraySorted 2)] := by
    cbv
    simp only [Buffer.merge_nil_right]
    cbv
  have kept := sort_keeps_every_element (wordOptions contrary) (scarce 3 ()) Buffer.sound_pair
    (by decide) (by rw [calls]; rfl) (by rw [calls]; simp [Entry.Served, wordOptions])
  rw [calls] at kept
  exact kept

end ReservedArray
