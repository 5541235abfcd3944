/-
# Elements are conserved

Every element of an array was made by a copy and goes to a disposal.  So whatever is done with
arrays, and however often the allocator refuses, there is never a disposal without a copy before
it, and between two turns there are just as many more copies than disposals as the arrays have
elements.

Tracked values write all of this into their ledger, along with what happens to the values outside
of arrays.  A `Household` is both: arrays of tracked values and the values beside them, which are
made, cloned, dropped and swapped with elements.  Its ledger counts as live just what there is, and
the count never falls below zero, not even in the middle of a deed.
-/
import ReservedArray.Ledger
import ReservedArray.Proofs.Conservation.Ensemble

namespace ReservedArray

variable {α κ τ ι : Type} {T : ι → Type}

open Entry (panics copied disposed)

/-! ## 1. Copies and disposals -/

namespace Entry

/-- A call to the copy hook. -/
def isCopy : Entry τ → Bool
  | .copy _ _ => true
  | _ => false

/-- A call to the dispose hook. -/
def isDispose : Entry τ → Bool
  | .dispose _ _ => true
  | _ => false

/-- How often the copy hook was called. -/
def copyCalls (t : List (Entry τ)) : Nat := t.countP isCopy

/-- How often the dispose hook was called. -/
def disposeCalls (t : List (Entry τ)) : Nat := t.countP isDispose

theorem length_disposed (t : List (Entry τ)) : (disposed t).length = disposeCalls t := by
  rw [disposed, List.length_filterMap_eq_countP, disposeCalls]
  refine List.countP_congr fun q _ => ?_
  cases q <;> simp [isDispose]

/-- Without a panic every call to the copy hook makes a copy. -/
theorem length_copied {t : List (Entry τ)} (calm : panics t = []) :
    (copied t).length = copyCalls t := by
  rw [copied, List.length_filterMap_eq_countP, copyCalls]
  refine List.countP_congr fun q mem => ?_
  have back := List.filter_eq_nil_iff.mp calm q mem
  cases q with
  | copy x result =>
    cases result with
    | none => exact absurd rfl back
    | some => simp [isCopy]
  | dispose | compare | allocate | release | report => simp [isCopy]

/-- A part of the calls is without a panic if all of them are. -/
theorem panics_of_prefix {p t : List (Entry τ)} (part : p <+: t) (calm : panics t = []) :
    panics p = [] := by
  obtain ⟨rest, rfl⟩ := part
  rw [panics_append, List.append_eq_nil_iff] at calm
  exact calm.1

end Entry

open Entry (copyCalls disposeCalls)

/-- How many elements there are, in copies and disposals. -/
theorem Moves.card_contents_eq {H H' : Multiset (Holding τ)} {t : List (Entry τ)}
    (h : Moves H t H') (calm : panics t = []) :
    Multiset.card (contents H) + copyCalls t =
      Multiset.card (contents H') + disposeCalls t := by
  have balance := congrArg Multiset.card h.contents_eq
  rwa [Multiset.card_add, Multiset.card_add, Multiset.coe_card, Multiset.coe_card,
    Entry.length_copied calm, Entry.length_disposed] at balance

/-- **No disposal is ahead of the copies**, at any time. -/
theorem Moves.disposeCalls_le {H H' : Multiset (Holding τ)} {t p : List (Entry τ)}
    (h : Moves H t H') (calm : panics t = []) (part : p <+: t) :
    disposeCalls p ≤ Multiset.card (contents H) + copyCalls p := by
  have calm' := Entry.panics_of_prefix part calm
  obtain ⟨rest, rfl⟩ := part
  obtain ⟨_, moves, -⟩ := h.split
  have balance := moves.card_contents_eq calm'
  omega

/-- How many elements the arrays have, all together. -/
def elementCount (arrays : List ((k : ι) × Buffer (T k))) : Nat :=
  (arrays.map fun a => a.2.length).sum

theorem card_contents_heldByAll (options : (k : ι) → ArrayOptions κ (T k))
    (arrays : List ((k : ι) × Buffer (T k))) :
    Multiset.card (contents (heldByAll options arrays)) = elementCount arrays := by
  induction arrays with
  | nil => rfl
  | cons a arrays ih =>
    have first : heldByAll options (a :: arrays) =
        heldBy options a ::ₘ heldByAll options arrays := rfl
    have elements : (heldBy options a).elements.length = a.2.length := by
      simp [heldBy, Holding.map, Buffer.held]
    rw [first, contents_cons, Multiset.card_add, Multiset.coe_card, elements, ih]
    rfl

/-! ## 2. What stands in the ledger -/

/-- The ledger after some calls to the hooks of tracked values. -/
def Ledger.afterCalls (l : Ledger) (t : List (Entry τ)) : Ledger :=
  { l with copies := l.copies + copyCalls t, drops := l.drops + disposeCalls t }

namespace Ledger

theorem created_afterCalls (l : Ledger) (t : List (Entry τ)) :
    (l.afterCalls t).created = l.created + copyCalls t :=
  (Nat.add_assoc _ _ _).symm

theorem afterCalls_append (l : Ledger) (t t' : List (Entry τ)) :
    l.afterCalls (t ++ t') = (l.afterCalls t).afterCalls t' := by
  simp only [afterCalls, copyCalls, disposeCalls, List.countP_append, Nat.add_assoc]

theorem afterCalls_ofKind (l : Ledger) (k : ι) (t : List (Entry τ)) :
    l.afterCalls (Entry.ofKind k t) = l.afterCalls t := by
  have copies : Entry.isCopy ∘ Entry.map (fun _ : τ => k) = Entry.isCopy := by
    funext q
    cases q <;> rfl
  have disposals : Entry.isDispose ∘ Entry.map (fun _ : τ => k) = Entry.isDispose := by
    funext q
    cases q <;> rfl
  simp only [afterCalls, copyCalls, disposeCalls, Entry.ofKind, List.countP_map, copies, disposals]

/-- Reports and requests are not written down. -/
theorem afterCalls_entriesOf (l : Ledger) (size : Size) (r : Reply α (Except AllocError Address)) :
    l.afterCalls (Env.entriesOf (τ := τ) size r) = l := by
  have none (q : Entry τ) (mem : q ∈ Env.entriesOf size r) :
      q.isCopy = false ∧ q.isDispose = false := by
    obtain ⟨_, rfl⟩ | ⟨_, rfl⟩ := Env.of_mem_entriesOf mem <;> exact ⟨rfl, rfl⟩
  have copies : copyCalls (Env.entriesOf (τ := τ) size r) = 0 :=
    List.countP_eq_zero.mpr fun q mem => by simp [(none q mem).1]
  have disposals : disposeCalls (Env.entriesOf (τ := τ) size r) = 0 :=
    List.countP_eq_zero.mpr fun q mem => by simp [(none q mem).2]
  rw [afterCalls, copies, disposals]
  rfl

end Ledger

namespace Tracked

variable [Backend α] {e e' : Env α Ledger Tracked} {t : List (Entry Tracked)}

/-- The ledger follows the calls. -/
theorem context_steps (h : Env.Steps ops e t e') : e'.context = e.context.afterCalls t := by
  induction h with
  | refl => rfl
  | head step _ ih =>
    rw [ih, Ledger.afterCalls_append]
    congr 1
    cases step with
    | report | copy | dispose | compare | giveBack => rfl
    | obtain size => exact (Ledger.afterCalls_entriesOf _ size _).symm

/-- Copying, dropping and ordering tracked values never panics. -/
theorem panics_steps (h : Env.Steps ops e t e') : panics t = [] := by
  have calm : ∀ q ∈ t, ¬q.panicked = true := by
    refine h.forall_entries ?_ ?_ ?_ ?_ ?_ ?_
    all_goals intros; exact Bool.false_ne_true
  exact List.filter_eq_nil_iff.mpr calm

end Tracked

/-! ## 3. Tracked values inside and outside of arrays -/

/-- Arrays of tracked values, and the values outside of them.  All of them share one ledger. -/
structure Household (α : Type) extends Ensemble α Ledger (fun _ : Unit => Tracked) where
  outside : List Tracked := []

namespace Household

/-- What is done in a household.  An array, an element and a value outside are named by their
places; where there is none, nothing happens. -/
inductive Act where
  | make (x : Tracked)
  /-- A value, wherever it is, is copied, and the copy stays outside. -/
  | clone (x : Tracked)
  | drop (j : Nat)
  | deed (deed : Deed fun _ : Unit => Tracked)
  /-- An element changes places with a value outside.  When the element is dropped after that, the
  value was assigned to its place. -/
  | swap (n i j : Nat)

/-- Arrays of tracked values, each copied and dropped as such values are. -/
def options (layout : Layout) : (k : Unit) → ArrayOptions Ledger Tracked :=
  fun _ => { layout, ops := Tracked.ops }

/-- The ledger has just what there is. -/
structure Accounted (layout : Layout) (h : Household α) : Prop where
  sound : AllSound (options layout) h.arrays
  created_eq : h.context.created =
    h.context.drops + elementCount h.arrays + h.outside.length

/-- What there is is live, and nothing was dropped that was not created. -/
theorem Accounted.live_eq {layout : Layout} {h : Household α} (accounted : Accounted layout h) :
    h.context.live = elementCount h.arrays + h.outside.length ∧
      h.context.drops ≤ h.context.created := by
  have account := accounted.created_eq
  unfold Ledger.live
  omega

/-- One more value outside, and one more in the ledger. -/
theorem Accounted.gain {layout : Layout} {h : Household α} (accounted : Accounted layout h)
    {context : Ledger} (created : context.created = h.context.created + 1)
    (drops : context.drops = h.context.drops) (x : Tracked) :
    Accounted layout { h with context, outside := h.outside ++ [x] } := by
  refine ⟨accounted.sound, ?_⟩
  show context.created = context.drops + elementCount h.arrays + (h.outside ++ [x]).length
  rw [created, drops, accounted.created_eq, List.length_append]
  rfl

variable [Backend α] (layout : Layout)

/-- One act. -/
def step (h : Household α) : Act → Household α
  | .make x => { h with context := h.context.make 1, outside := h.outside ++ [x] }
  | .clone x => { h with context := h.context.copy, outside := h.outside ++ [x] }
  | .drop j =>
    match h.outside[j]? with
    | none => h
    | some _ => { h with context := h.context.drop 1, outside := h.outside.eraseIdx j }
  | .deed deed => { h with toEnsemble := h.perform (options layout) deed }
  | .swap n i j =>
    match h.arrays[n]?.bind fun a => a.2.get? i, h.outside[j]? with
    | some old, some x =>
      { toEnsemble := h.replace n i fun _ => x, outside := h.outside.set j old }
    | _, _ => h

/-- The acts in order. -/
def run (h : Household α) (acts : List Act) : Household α := acts.foldl (step layout) h

end Household

section Households

variable [Backend α] {layout : Layout}

namespace Advance

variable {σ σ' : Ensemble α Ledger fun _ : Unit => Tracked} {t : List (Entry Unit)}

/-- The ledger follows the calls of a turn, and none of them panics. -/
theorem tracked (h : Advance (Household.options layout) σ t σ') :
    σ'.context = σ.context.afterCalls t ∧ panics t = [] := by
  cases h with
  | still => exact ⟨rfl, rfl⟩
  | called steps =>
    rw [Ledger.afterCalls_ofKind, Entry.panics_ofKind, Tracked.panics_steps steps]
    exact ⟨Tracked.context_steps steps, rfl⟩

/-- A turn makes as many more copies than disposals as there are more elements after it. -/
theorem elementCount_eq (h : Advance (Household.options layout) σ t σ') :
    elementCount σ.arrays + copyCalls t = elementCount σ'.arrays + disposeCalls t := by
  have balance := (h.moves h.tracked.2).card_contents_eq h.tracked.2
  rwa [card_contents_heldByAll, card_contents_heldByAll] at balance

end Advance

namespace Household.Accounted

variable {h : Household α}

/-- A turn keeps the accounts, as long as there are as many values outside after it. -/
theorem advance {σ : Ensemble α Ledger fun _ : Unit => Tracked} {t : List (Entry Unit)}
    {outside : List Tracked} (accounted : Accounted layout h)
    (advance : Advance (options layout) h.toEnsemble t σ)
    (as_many : outside.length = h.outside.length) :
    Accounted layout { toEnsemble := σ, outside } := by
  refine ⟨advance.sound, ?_⟩
  have elements := advance.elementCount_eq
  have before := accounted.created_eq
  show σ.context.created = σ.context.drops + elementCount σ.arrays + outside.length
  rw [advance.tracked.1, Ledger.created_afterCalls, as_many]
  show _ = h.context.drops + disposeCalls t + _ + _
  omega

/-- **Every act keeps the accounts.** -/
theorem step (accounted : Accounted layout h) (act : Act) :
    Accounted layout (h.step layout act) := by
  have sound := accounted.sound
  have created_eq := accounted.created_eq
  cases act with
  | make x => exact accounted.gain (h.context.created_make 1) rfl x
  | clone x => exact accounted.gain h.context.created_copy rfl x
  | drop j =>
    simp only [Household.step]
    cases there : h.outside[j]? with
    | none => exact ⟨sound, created_eq⟩
    | some x =>
      refine ⟨sound, ?_⟩
      obtain ⟨inside, -⟩ := List.getElem?_eq_some_iff.mp there
      have taken := List.length_eraseIdx_add_one inside
      show h.context.created =
        h.context.drops + 1 + elementCount h.arrays + (h.outside.eraseIdx j).length
      omega
  | deed deed => exact accounted.advance (Ensemble.advance_calls sound deed) rfl
  | swap n i j =>
    simp only [Household.step]
    split
    · exact accounted.advance (Ensemble.advance_replace sound n i _) List.length_set
    · exact accounted

theorem run (accounted : Accounted layout h) (acts : List Act) :
    Accounted layout (h.run layout acts) := by
  induction acts generalizing h with
  | nil => exact accounted
  | cons act acts ih => exact ih (accounted.step act)

/-- A deed leads from one ledger to the next by its calls. -/
theorem context_perform (accounted : Accounted layout h)
    (deed : Deed fun _ : Unit => Tracked) :
    (h.perform (options layout) deed).context =
      h.context.afterCalls (h.calls (options layout) deed) :=
  (Ensemble.advance_calls accounted.sound deed).tracked.1

/-- At no time during a deed more was dropped than created. -/
theorem drops_le (accounted : Accounted layout h) (deed : Deed fun _ : Unit => Tracked)
    {p : List (Entry Unit)} (part : p <+: h.calls (options layout) deed) :
    (h.context.afterCalls p).drops ≤ (h.context.afterCalls p).created := by
  have advance := Ensemble.advance_calls accounted.sound deed
  have calm := advance.tracked.2
  have behind := (advance.moves calm).disposeCalls_le calm part
  rw [card_contents_heldByAll] at behind
  have account := accounted.created_eq
  rw [Ledger.created_afterCalls]
  show h.context.drops + disposeCalls p ≤ _
  omega

end Household.Accounted

end Households

/-! ## 4. Conservation -/

/-- **Elements are conserved.**  Whatever is done with any number of arrays over any allocator: when
no hook has panicked, there are as many more copies than disposals as there are elements, at no time
there was a disposal without a copy before it, and without any arrays the two counts are equal.  And
the ledger of a household has as live just the elements and the values outside; what it has as
dropped is never more than what was created, neither between two acts nor after any of the calls
by which a deed changes it. -/
theorem elements_conserved [Backend α] (options : (k : ι) → ArrayOptions κ (T k)) (allocator : α)
    (context : κ) (layout : Layout) :
    (∀ turns : List (Turn T),
      let σ := ({ allocator, context } : Ensemble α κ T).run options turns
      panics σ.journal = [] →
        copyCalls σ.journal = disposeCalls σ.journal + elementCount σ.arrays ∧
        (∀ p, p <+: σ.journal → disposeCalls p ≤ copyCalls p) ∧
        (σ.arrays = [] → copyCalls σ.journal = disposeCalls σ.journal)) ∧
    ∀ acts : List Household.Act,
      let h := ({ allocator, context := {} } : Household α).run layout acts
      h.context.live = elementCount h.arrays + h.outside.length ∧
      h.context.drops ≤ h.context.created ∧
      ∀ deed,
        (h.perform (Household.options layout) deed).context =
          h.context.afterCalls (h.calls (Household.options layout) deed) ∧
        ∀ p, p <+: h.calls (Household.options layout) deed →
          (h.context.afterCalls p).drops ≤ (h.context.afterCalls p).created := by
  constructor
  · intro turns σ calm
    have moves := (Ensemble.settled_run options allocator context turns).moves calm
    have balance : copyCalls σ.journal = disposeCalls σ.journal + elementCount σ.arrays := by
      have balance := moves.card_contents_eq calm
      rw [card_contents_heldByAll, contents_zero, Multiset.card_zero, zero_add] at balance
      rw [balance, add_comm]
    refine ⟨balance, fun p part => ?_, fun none => ?_⟩
    · have behind := moves.disposeCalls_le calm part
      rwa [contents_zero, Multiset.card_zero, zero_add] at behind
    · rw [balance, none]
      rfl
  · intro acts h
    have accounted : Household.Accounted layout h :=
      .run ⟨fun _ mem => (List.not_mem_nil mem).elim, rfl⟩ acts
    refine ⟨accounted.live_eq.1, accounted.live_eq.2, fun deed => ?_⟩
    exact ⟨accounted.context_perform deed, fun p => accounted.drops_le deed⟩

/-- The small ensemble when its last array is dropped, too. -/
def numbersGone : Ensemble (Counting (Failing Heap)) Unit fun _ : Bool => Nat :=
  numbersAtFirst.run numberOptions (numberTurns ++ [.deed (.operate 0 fun _ => .drop)])

/-- An array of two elements.  To the second one a clone of the first value was assigned, and that
value is still there. -/
def household : Household Heap :=
  ({ allocator := Heap.system, context := {} } : Household Heap).run ⟨16, 8⟩
    [.make ⟨1, 0⟩, .clone ⟨1, 0⟩, .deed (.init () 2 2 (some ⟨1, 0⟩)), .swap 0 1 1, .drop 1]

/-- Of the two arrays one is left with its three elements, and the copies that the sort had made are
disposed of; without that one nothing is left.  The household has three values, and so it is while
its array grows. -/
theorem elements_conserved_of_numbers :
    (panics numbers.journal = [] ∧
      copyCalls numbers.journal = disposeCalls numbers.journal + 3 ∧
      disposeCalls (numbers.journal.take 16) ≤ copyCalls (numbers.journal.take 16)) ∧
    (numbersGone.arrays = [] ∧
      copyCalls numbersGone.journal = disposeCalls numbersGone.journal) ∧
    household.context.live = 2 + 1 ∧
    let during := (household.calls (Household.options ⟨16, 8⟩) (.operate 0 fun _ => .grow 4)).take 4
    (household.context.afterCalls during).drops ≤ (household.context.afterCalls during).created := by
  have calm : panics numbers.journal = [] := by cbv
  have left : elementCount numbers.arrays = 3 := by cbv
  obtain ⟨balance, behind, -⟩ :=
    (elements_conserved numberOptions _ () ⟨16, 8⟩).1 numberTurns calm
  have calm' : panics numbersGone.journal = [] := by cbv
  have none : numbersGone.arrays = [] := by cbv
  obtain ⟨-, -, even⟩ := (elements_conserved numberOptions _ () ⟨16, 8⟩).1 _ calm'
  have there : elementCount household.arrays + household.outside.length = 2 + 1 := by cbv
  obtain ⟨live, -, during⟩ := (elements_conserved numberOptions Heap.system () ⟨16, 8⟩).2 _
  exact ⟨⟨calm, left ▸ balance, behind _ (List.take_prefix 16 _)⟩, ⟨none, even none⟩,
    live.trans there, (during _).2 _ (List.take_prefix 4 _)⟩

end ReservedArray
