/-
# Many arrays over one allocator

An `Ensemble` is any number of arrays that share an allocator and the context of their hooks.  The
arrays are of any kinds: a kind is a type of elements with a layout and hooks of its own.  A run of
it is a list of `Turn`s.  In each of them an array is made, used or dropped (`Deed`), or an element
of one is replaced without any hook.  All calls are written down in one journal, in which an element
is known by its kind alone.

What an operation makes of one array, in any course in which nothing panics, is a matter of moves
from what it held to what it holds (`Renews`).  Placed among the others this is what a turn comes to
(`Advance`), and every turn is one (`Ensemble.advance_step`).  From there it is one induction over
the turns: as long as nothing has panicked, the calls in the journal lead from nothing to just what
the arrays hold (`Ensemble.Settled`, `Ensemble.settled_run`).
-/
import Mathlib
import ReservedArray.Proofs.Gauge
import ReservedArray.Proofs.Sound
import ReservedArray.Proofs.Unwinding

namespace ReservedArray

variable {α κ τ ε β ι : Type} {T : ι → Type}

open Entry (panics)

/-! ## 1. One array -/

/-- What a place holds where an array can be. -/
def heldIn (layout : Layout) : Option (Buffer τ) → Multiset (Holding τ)
  | none => 0
  | some b => {b.held layout}

/-- What becomes of the array at a place.  The one that is there afterwards is sound; and unless a
hook panics, the calls lead from what was held to what is held. -/
structure Renews (layout : Layout) (before after : Option (Buffer τ)) (t : List (Entry τ)) :
    Prop where
  sound : ∀ b, after = some b → b.Sound layout
  moves : panics t = [] → Moves (heldIn layout before) t (heldIn layout after)

section Renewals

variable {layout : Layout} {b : Buffer τ} {t : List (Entry τ)}

/-- What ends without a panic leaves nothing over. -/
theorem Ends.of_calm {o : Outcome ε β} {L : Multiset (Holding τ)} (h : Ends o [] L) : L = 0 := by
  cases h with
  | done | refused => rfl
  | aborted _ _ two => cases two

theorem Settles.renews {v : Outcome ArrayError Unit × Buffer τ} (h : Settles layout b v t)
    (sound : v.2.Sound layout) : Renews layout (some b) (some v.2) t := by
  refine ⟨fun _ same => Option.some.inj same ▸ sound, fun calm => ?_⟩
  cases h with
  | kept _ moves ends =>
    rw [calm] at ends
    obtain rfl := ends.of_calm
    exact moves.within _ (zero_add _).symm (zero_add _).symm
  | replaced replaces =>
    cases replaces with
    | done moves => exact moves
    | torn _ _ panicked =>
      rw [calm] at panicked
      cases panicked

/-- A search leaves the array as it is. -/
theorem Probes.renews {key : τ} {r : Except Panic β} (h : Probes key r t)
    (sound : b.Sound layout) : Renews layout (some b) (some b) t :=
  ⟨fun _ same => Option.some.inj same ▸ sound,
    fun _ => h.moves.within _ (zero_add _).symm (zero_add _).symm⟩

theorem TearsDown.renews {r : Except Panic Unit} (h : TearsDown layout b r t) :
    Renews layout (some b) none t := by
  refine ⟨nofun, fun calm => ?_⟩
  cases r with
  | ok => exact h.moves_ok.1
  | error panic =>
    obtain ⟨_, _, _, -, panicked, -⟩ := h.moves_error
    rw [calm] at panicked
    cases panicked

/-- What an operation gives, if it is done. -/
def Outcome.value? : Outcome ε β → Option β
  | .done value => some value
  | _ => none

theorem Outcome.value?_eq_some {o : Outcome ε β} {value : β} (h : o.value? = some value) :
    o = .done value := by
  cases o with
  | done => exact congrArg _ (Option.some.inj h)
  | refused | unwound | aborted => cases h

theorem MakesArray.renews {reserve count : Size} {seed : Option τ}
    {o : Outcome ArrayError (Buffer τ)} (h : MakesArray layout reserve count seed o t) :
    Renews layout none o.value? t := by
  constructor
  · intro b done
    rw [Outcome.value?_eq_some done] at h
    exact h.sound
  · intro calm
    obtain ⟨L, moves, ends⟩ := h.moves
    rw [calm] at ends
    obtain rfl := ends.of_calm
    rw [add_zero] at moves
    cases o with
    | done | refused | unwound | aborted => exact moves

end Renewals

/-- What can be done with an array that is there. -/
inductive Operation (τ : Type) where
  | append (x : τ)
  | grow (reserve : Size)
  | sort
  | linearSearch (other : Option (τ → τ → Ordering)) (key : τ)
  | binarySearch (key : τ)
  | drop

namespace Operation

/-- The array that is there after the operation, which a drop leaves none of. -/
def run [Backend α] (options : ArrayOptions κ τ) (b : Buffer τ) :
    Operation τ → Run α κ τ (Option (Buffer τ))
  | append x => do return some (← b.append options x).2
  | grow reserve => do return some (← b.grow options reserve).2
  | sort => do return some (← b.sort options).2
  | linearSearch other key => do
    let _ ← b.linearIndex options.ops other key
    return some b
  | binarySearch key => do
    let _ ← b.binaryIndex options.ops key
    return some b
  | drop => do
    let _ ← b.teardown options
    return none

theorem meets_run [Backend α] (options : ArrayOptions κ τ) {b : Buffer τ}
    (sound : b.Sound options.layout) (operation : Operation τ) :
    Meets options.ops (operation.run options b : Run α κ τ _)
      (Renews options.layout (some b)) := by
  cases operation with
  | append x =>
    exact .map (meets_append options x sound.length_le) fun _ _ appends =>
      appends.settles.renews (appends.sound sound)
  | grow reserve =>
    exact .map (meets_grow options reserve sound.length_le) fun _ _ grows =>
      grows.settles.renews (grows.sound sound)
  | sort =>
    exact .map (meets_sort options sound.length_le) fun _ _ sorts =>
      sorts.settles.renews (sorts.sound sound)
  | linearSearch other key =>
    exact .map (meets_linearIndex options.ops other key b) fun _ _ probes => probes.renews sound
  | binarySearch key =>
    exact .map (meets_binaryIndex options.ops key b) fun _ _ probes => probes.renews sound
  | drop => exact .map (meets_teardown options b) fun _ _ down => down.renews

end Operation

theorem meets_init_value? [Backend α] (options : ArrayOptions κ τ) (reserve count : Size)
    (seed : Option τ) :
    Meets options.ops
      (do return (← Buffer.init options reserve count seed).value? : Run α κ τ _)
      (Renews options.layout none) := by
  exact .map (meets_init options reserve count seed) fun _ _ makes => makes.renews

/-! ## 2. Many arrays -/

/-- Arrays of several kinds, the allocator and the context that they share, and all calls made for
them so far. -/
structure Ensemble (α κ : Type) (T : ι → Type) where
  allocator : α
  context : κ
  arrays : List ((k : ι) × Buffer (T k)) := []
  journal : List (Entry ι) := []

/-- What is done with hooks and allocator.  An array is named by its place; where there is none,
nothing happens, and where there is one, it decides which kind of operation it is. -/
inductive Deed (T : ι → Type) where
  | init (k : ι) (reserve count : Size) (seed : Option (T k))
  | withReserve (k : ι) (reserve : Size)
  | operate (n : Nat) (operation : (k : ι) → Operation (T k))

/-- What is done with an ensemble. -/
inductive Turn (T : ι → Type) where
  | deed (deed : Deed T)
  /-- An element is replaced, and no hook learns of it. -/
  | replace (n i : Nat) (x : (k : ι) → T k)

/-- The arrays with this one at a place, or with none there. -/
def putAt (arrays : List ((k : ι) × Buffer (T k))) (n : Nat) (k : ι) :
    Option (Buffer (T k)) → List ((k : ι) × Buffer (T k))
  | none => arrays.eraseIdx n
  | some b => arrays.set n ⟨k, b⟩

/-- A trace in which only the kind of the elements is left. -/
def Entry.ofKind (k : ι) (t : List (Entry τ)) : List (Entry ι) := t.map (Entry.map fun _ => k)

namespace Ensemble

variable [Backend α] (options : (k : ι) → ArrayOptions κ (T k)) (σ : Ensemble α κ T)

/-- A computation for arrays of one kind. -/
def compute (k : ι) (c : Run α κ (T k) β) : β × Ensemble α κ T :=
  let (value, e) := StateT.run c { allocator := σ.allocator, context := σ.context }
  (value,
    { σ with
      allocator := e.allocator
      context := e.context
      journal := σ.journal ++ Entry.ofKind k e.trace })

/-- The array that is made, if one is, comes behind the others. -/
def gain (k : ι) (c : Run α κ (T k) (Outcome ArrayError (Buffer (T k)))) : Ensemble α κ T :=
  let (made, σ') := σ.compute k do return (← c).value?
  { σ' with arrays := σ.arrays ++ made.toList.map (Sigma.mk k) }

/-- What is left of the array at a place takes its place. -/
def renew (n : Nat) (k : ι) (c : Run α κ (T k) (Option (Buffer (T k)))) : Ensemble α κ T :=
  let (left, σ') := σ.compute k c
  { σ' with arrays := putAt σ.arrays n k left }

/-- One deed. -/
def perform : Deed T → Ensemble α κ T
  | .init k reserve count seed => σ.gain k (Buffer.init (options k) reserve count seed)
  | .withReserve k reserve => σ.gain k (Buffer.withReserve (options k) reserve)
  | .operate n operation =>
    match σ.arrays[n]? with
    | none => σ
    | some ⟨k, b⟩ => σ.renew n k ((operation k).run (options k) b)

/-- One element is overwritten, if it is there. -/
def replace (n i : Nat) (x : (k : ι) → T k) : Ensemble α κ T :=
  match σ.arrays[n]? with
  | none => σ
  | some ⟨k, b⟩ => { σ with arrays := putAt σ.arrays n k (b.set i (x k)) }

/-- One turn. -/
def step (σ : Ensemble α κ T) : Turn T → Ensemble α κ T
  | .deed deed => σ.perform options deed
  | .replace n i x => σ.replace n i x

/-- The turns in order. -/
def run (turns : List (Turn T)) : Ensemble α κ T := turns.foldl (step options) σ

/-- The calls of a deed. -/
def calls (deed : Deed T) : List (Entry ι) :=
  (σ.perform options deed).journal.drop σ.journal.length

end Ensemble

/-! ## 3. What they hold -/

section Holding

variable (options : (k : ι) → ArrayOptions κ (T k))

/-- What one of the arrays holds. -/
def heldBy (a : (k : ι) × Buffer (T k)) : Holding ι :=
  (a.2.held (options a.1).layout).map fun _ => a.1

/-- What all of them hold. -/
def heldByAll (arrays : List ((k : ι) × Buffer (T k))) : Multiset (Holding ι) :=
  (arrays.map (heldBy options) : List (Holding ι))

/-- All of them are sound. -/
def AllSound (arrays : List ((k : ι) × Buffer (T k))) : Prop :=
  ∀ a ∈ arrays, a.2.Sound (options a.1).layout

variable {options} {arrays : List ((k : ι) × Buffer (T k))}

theorem map_heldIn (k : ι) (b? : Option (Buffer (T k))) :
    (heldIn (options k).layout b?).map (Holding.map fun _ => k) =
      heldByAll options (b?.toList.map (Sigma.mk k)) := by
  cases b? with
  | none => rfl
  | some b => exact Multiset.map_singleton _ _

theorem heldByAll_append (new : List ((k : ι) × Buffer (T k))) :
    heldByAll options (arrays ++ new) = heldByAll options new + heldByAll options arrays := by
  rw [heldByAll, List.map_append, ← Multiset.coe_add, add_comm]
  rfl

theorem heldByAll_of_perm {arrays' : List ((k : ι) × Buffer (T k))} (h : arrays.Perm arrays') :
    heldByAll options arrays = heldByAll options arrays' :=
  Multiset.coe_eq_coe.mpr (h.map _)

section Places

variable {n : Nat} {a : (k : ι) × Buffer (T k)}

/-- The array at a place, and the others. -/
theorem heldByAll_eraseIdx (there : arrays[n]? = some a) :
    heldByAll options arrays = heldByAll options [a] + heldByAll options (arrays.eraseIdx n) := by
  obtain ⟨h, rfl⟩ := List.getElem?_eq_some_iff.mp there
  exact (heldByAll_of_perm (List.getElem_cons_eraseIdx_perm h)).symm

/-- With another array at the place, or with none, the others are the same. -/
theorem heldByAll_putAt (there : arrays[n]? = some a) (k : ι) (b? : Option (Buffer (T k))) :
    heldByAll options (putAt arrays n k b?) =
      heldByAll options (b?.toList.map (Sigma.mk k)) +
        heldByAll options (arrays.eraseIdx n) := by
  cases b? with
  | none => exact (zero_add (heldByAll options (arrays.eraseIdx n))).symm
  | some b =>
    obtain ⟨h, -⟩ := List.getElem?_eq_some_iff.mp there
    exact heldByAll_of_perm (List.set_perm_cons_eraseIdx h ⟨k, b⟩)

end Places

theorem AllSound.append {new : List ((k : ι) × Buffer (T k))} (h : AllSound options arrays)
    (h' : AllSound options new) : AllSound options (arrays ++ new) :=
  fun a mem => (List.mem_append.mp mem).elim (h a) (h' a)

theorem AllSound.putAt (h : AllSound options arrays) (n : Nat) {k : ι}
    {b? : Option (Buffer (T k))} (sound : ∀ b, b? = some b → b.Sound (options k).layout) :
    AllSound options (putAt arrays n k b?) := by
  intro a mem
  cases b? with
  | none => exact h a (List.mem_of_mem_eraseIdx mem)
  | some b =>
    rcases List.mem_or_eq_of_mem_set mem with mem | rfl
    · exact h a mem
    · exact sound b rfl

/-- Which elements an array has does not matter, only how many. -/
theorem heldBy_set (k : ι) (b : Buffer (T k)) (i : Nat) (x : T k) :
    heldBy options ⟨k, b.set i x⟩ = heldBy options ⟨k, b⟩ := by
  have same : ((b.set i x).toList.map fun _ => k) = b.toList.map fun _ => k := by
    rw [List.map_const', List.map_const', Buffer.length_toList, Buffer.length_toList,
      Buffer.length_set]
  simp only [heldBy, Holding.map, Buffer.held, same]
  rfl

end Holding

/-! ## 4. Turns -/

/-- What a turn comes to. -/
inductive Advance [Backend α] (options : (k : ι) → ArrayOptions κ (T k)) (σ : Ensemble α κ T) :
    List (Entry ι) → Ensemble α κ T → Prop
  /-- No call is made, and as much is held as before. -/
  | still {arrays : List ((k : ι) × Buffer (T k))} :
      heldByAll options σ.arrays = heldByAll options arrays → AllSound options arrays →
      Advance options σ [] { σ with arrays }
  /-- Calls are made for arrays of one kind. -/
  | called {k : ι} {t : List (Entry (T k))} {e : Env α κ (T k)}
      {arrays : List ((k : ι) × Buffer (T k))} :
      Env.Steps (options k).ops { allocator := σ.allocator, context := σ.context } t e →
      (panics t = [] →
        Moves (heldByAll options σ.arrays) (Entry.ofKind k t) (heldByAll options arrays)) →
      AllSound options arrays →
      Advance options σ (Entry.ofKind k t)
        { allocator := e.allocator, context := e.context, arrays
          journal := σ.journal ++ Entry.ofKind k t }

@[simp] theorem Entry.panics_ofKind (k : ι) (t : List (Entry τ)) :
    panics (Entry.ofKind k t) = Entry.ofKind k (panics t) := by
  have same : Entry.panicked ∘ Entry.map (fun _ : τ => k) = Entry.panicked := by
    funext q
    cases q with
    | copy x result => cases result <;> rfl
    | dispose x completed => cases completed <;> rfl
    | compare x y answer => cases answer <;> rfl
    | allocate | release | report => rfl
  rw [panics, Entry.ofKind, List.filter_map, same]
  rfl

section Turns

variable [Backend α] {options : (k : ι) → ArrayOptions κ (T k)} {σ σ' : Ensemble α κ T}
  {t : List (Entry ι)}

namespace Advance

theorem journal_eq (h : Advance options σ t σ') : σ'.journal = σ.journal ++ t := by
  cases h with
  | still => exact (List.append_nil _).symm
  | called => rfl

theorem sound (h : Advance options σ t σ') : AllSound options σ'.arrays := by
  cases h with
  | still _ sound | called _ _ sound => exact sound

/-- **Unless a hook panics, a turn moves what is held.** -/
theorem moves (h : Advance options σ t σ') (calm : panics t = []) :
    Moves (heldByAll options σ.arrays) t (heldByAll options σ'.arrays) := by
  cases h with
  | still same =>
    rw [same]
    exact .nil _
  | called _ moves =>
    rw [Entry.panics_ofKind] at calm
    exact moves (List.map_eq_nil_iff.mp calm)

end Advance

namespace Ensemble

/-- A computation that renews one place, with the other arrays beside it. -/
theorem advance_compute {k : ι} {before : Option (Buffer (T k))}
    {c : Run α κ (T k) (Option (Buffer (T k)))}
    (meets : Meets (options k).ops c (Renews (options k).layout before))
    (others : List ((k : ι) × Buffer (T k))) {arrays : List ((k : ι) × Buffer (T k))}
    (held : heldByAll options σ.arrays =
      heldByAll options (before.toList.map (Sigma.mk k)) + heldByAll options others)
    (held' : heldByAll options arrays =
      heldByAll options ((σ.compute k c).1.toList.map (Sigma.mk k)) + heldByAll options others)
    (sound : (∀ b, (σ.compute k c).1 = some b → b.Sound (options k).layout) →
      AllSound options arrays) :
    ∃ t, Advance options σ t { (σ.compute k c).2 with arrays } := by
  obtain ⟨t, steps, renews⟩ := meets { allocator := σ.allocator, context := σ.context }
  obtain rfl : (StateT.run c { allocator := σ.allocator, context := σ.context }).2.trace = t :=
    steps.trace_eq
  refine ⟨_, .called steps (fun calm => ?_) (sound renews.sound)⟩
  rw [held, held', ← map_heldIn, ← map_heldIn]
  exact ((renews.moves calm).map fun _ => k).within _ rfl rfl

theorem advance_gain (sound : AllSound options σ.arrays) {k : ι}
    {c : Run α κ (T k) (Outcome ArrayError (Buffer (T k)))}
    (meets : Meets (options k).ops (do return (← c).value?) (Renews (options k).layout none)) :
    ∃ t, Advance options σ t (σ.gain k c) := by
  refine advance_compute meets σ.arrays (zero_add _).symm (heldByAll_append _) ?_
  intro made
  refine sound.append ?_
  intro a mem
  obtain ⟨b, there, rfl⟩ := List.mem_map.mp mem
  exact made b (Option.mem_toList.mp there)

theorem advance_renew (sound : AllSound options σ.arrays) {n : Nat} {k : ι} {b : Buffer (T k)}
    (there : σ.arrays[n]? = some ⟨k, b⟩) {c : Run α κ (T k) (Option (Buffer (T k)))}
    (meets : Meets (options k).ops c (Renews (options k).layout (some b))) :
    ∃ t, Advance options σ t (σ.renew n k c) := by
  exact advance_compute meets (σ.arrays.eraseIdx n) (heldByAll_eraseIdx there)
    (heldByAll_putAt there k _) (sound.putAt n)

/-- **Every deed is an advance.** -/
theorem advance_perform (sound : AllSound options σ.arrays) (deed : Deed T) :
    ∃ t, Advance options σ t (σ.perform options deed) := by
  cases deed with
  | init k reserve count seed => exact advance_gain sound (meets_init_value? _ _ _ _)
  | withReserve k reserve => exact advance_gain sound (meets_init_value? _ _ _ _)
  | operate n operation =>
    cases there : σ.arrays[n]? with
    | none =>
      simp only [perform, there]
      exact ⟨[], .still rfl sound⟩
    | some a =>
      obtain ⟨k, b⟩ := a
      simp only [perform, there]
      have soundHere := sound _ (List.mem_of_getElem? there)
      exact advance_renew sound there ((operation k).meets_run (options k) soundHere)

/-- What a deed calls is what it adds to the journal. -/
theorem advance_calls (sound : AllSound options σ.arrays) (deed : Deed T) :
    Advance options σ (σ.calls options deed) (σ.perform options deed) := by
  obtain ⟨t, advance⟩ := advance_perform sound deed
  rwa [calls, advance.journal_eq, List.drop_left]

/-- Replacing an element is one as well. -/
theorem advance_replace (sound : AllSound options σ.arrays) (n i : Nat) (x : (k : ι) → T k) :
    Advance options σ [] (σ.replace n i x) := by
  cases there : σ.arrays[n]? with
  | none =>
    simp only [replace, there]
    exact .still rfl sound
  | some a =>
    obtain ⟨k, b⟩ := a
    simp only [replace, there]
    have soundHere := (sound _ (List.mem_of_getElem? there)).set i (x k)
    refine .still ?_ (sound.putAt n fun _ same => Option.some.inj same ▸ soundHere)
    rw [heldByAll_eraseIdx there, heldByAll_putAt there]
    exact congrArg (· + _) (congrArg ({·}) (heldBy_set k b i (x k)).symm)

/-- **Every turn is an advance.** -/
theorem advance_step (sound : AllSound options σ.arrays) (turn : Turn T) :
    ∃ t, Advance options σ t (σ.step options turn) := by
  cases turn with
  | deed deed => exact advance_perform sound deed
  | replace n i x => exact ⟨[], advance_replace sound n i x⟩

/-! ## 5. Runs -/

/-- **From one turn to all of them**: what every advance keeps, every run keeps. -/
theorem run_induction {P : Ensemble α κ T → Prop}
    (sound : ∀ {σ}, P σ → AllSound options σ.arrays)
    (keeps : ∀ {σ σ' t}, Advance options σ t σ' → P σ → P σ') (first : P σ)
    (turns : List (Turn T)) : P (σ.run options turns) := by
  induction turns generalizing σ with
  | nil => exact first
  | cons turn turns ih =>
    obtain ⟨t, advance⟩ := advance_step (sound first) turn
    exact ih (keeps advance first)

/-- All arrays are sound; and unless a hook has panicked, they hold just what the calls so far have
led to. -/
structure Settled (options : (k : ι) → ArrayOptions κ (T k)) (σ : Ensemble α κ T) : Prop where
  sound : AllSound options σ.arrays
  moves : panics σ.journal = [] → Moves 0 σ.journal (heldByAll options σ.arrays)

theorem Settled.advance (h : Settled options σ) (advance : Advance options σ t σ') :
    Settled options σ' := by
  refine ⟨advance.sound, fun calm => ?_⟩
  rw [advance.journal_eq] at calm ⊢
  rw [Entry.panics_append, List.append_eq_nil_iff] at calm
  exact (h.moves calm.1).append (advance.moves calm.2)

/-- **Every run is settled**: without a panic, its calls lead from nothing to what its arrays
hold. -/
theorem settled_run (options : (k : ι) → ArrayOptions κ (T k)) (allocator : α) (context : κ)
    (turns : List (Turn T)) :
    Settled options (({ allocator, context } : Ensemble α κ T).run options turns) :=
  run_induction Settled.sound (fun advance settled => settled.advance advance)
    ⟨fun _ mem => (List.not_mem_nil mem).elim, fun _ => .nil 0⟩ turns

end Ensemble

end Turns

/-! ## A small ensemble

Two arrays of different kinds over a counted heap that serves six blocks.  The first array has three
elements and is sorted, which takes five blocks, so the last one cannot be had; the second array is
dropped. -/

/-- Numbers of eight bytes, or of four. -/
def numberOptions : (wide : Bool) → ArrayOptions Unit Nat := fun wide =>
  { layout := if wide then ⟨8, 8⟩ else ⟨4, 4⟩, ops := .plain compare }

/-- Arrays are made and filled, an element is replaced, and then they are sorted and dropped. -/
def numberTurns : List (Turn fun _ : Bool => Nat) :=
  [.deed (.init false 3 2 (some 7)), .deed (.operate 0 fun _ => .append 5),
    .deed (.withReserve true 1), .replace 0 1 fun _ => 6, .deed (.operate 1 fun _ => .append 9),
    .deed (.operate 0 fun _ => .sort), .deed (.operate 1 fun _ => .drop)]

/-- Before the first turn. -/
def numbersAtFirst : Ensemble (Counting (Failing Heap)) Unit fun _ : Bool => Nat :=
  { allocator := { inner := { inner := Heap.system, budget := some 6 } }, context := () }

/-- After the last one. -/
def numbers : Ensemble (Counting (Failing Heap)) Unit fun _ : Bool => Nat :=
  numbersAtFirst.run numberOptions numberTurns

end ReservedArray
