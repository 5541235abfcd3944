/-
# Scripts over any allocator

A script is a list of commands.  By each of them an array is made, used, read or dropped
(`Command`).  It is played over one allocator, with any number of arrays of any kinds (`Stage`), and
after every command there is a `Scene` to be seen: what the command answered, and all arrays as they
are then.

What is foretold of an operation is true of the command that carries it out, among all the other
arrays (`foreseen_act`).  So over an oracle that is told the verdicts of an allocator, a command
does what it does over that allocator (`foreseen_perform`), and by induction on the script so do all
of them (`foreseen_play`).  Where two allocators give the same verdicts, it is the same oracle that
is told them: what is seen over the one is seen over the other (`backends_interchangeable`).
-/
import ReservedArray.Allocator.Stack
import ReservedArray.Proofs.Conservation.Ensemble
import ReservedArray.Proofs.Interchange.Foretold

namespace ReservedArray

variable {α α' κ τ β γ ι : Type} {T : ι → Type}

open Entry (gists verdicts)

/-! ## 1. Scripts -/

/-- What a command answers. -/
inductive Response (τ : Type) where
  | ended (outcome : Outcome ArrayError Unit)
  | found (result : Except Panic (Option Nat))
  | dropped (result : Except Panic Unit)
  | element (x : Option τ)

/-- There is nothing after an abort. -/
def Response.aborts : Response τ → Bool
  | ended .aborted => true
  | _ => false

/-- An array is made, unless something is in the way. -/
def respondToInit [Backend α] (options : ArrayOptions κ τ) (reserve count : Size)
    (seed : Option τ) : Run α κ τ (Response τ × Option (Buffer τ)) := do
  let outcome ← Buffer.init options reserve count seed
  return (.ended (outcome.map fun _ => ()), outcome.value?)

namespace Operation

/-- What the operation answers, and the array that is there afterwards. -/
def respond [Backend α] (options : ArrayOptions κ τ) (b : Buffer τ) :
    Operation τ → Run α κ τ (Response τ × Option (Buffer τ))
  | append x => do
    let (outcome, b) ← b.append options x
    return (.ended outcome, some b)
  | grow reserve => do
    let (outcome, b) ← b.grow options reserve
    return (.ended outcome, some b)
  | sort => do
    let (outcome, b) ← b.sort options
    return (.ended outcome, some b)
  | linearSearch other key => do
    return (.found (← b.linearIndex options.ops other key), some b)
  | binarySearch key => do
    return (.found (← b.binaryIndex options.ops key), some b)
  | drop => do
    return (.dropped (← b.teardown options), none)

/-- The array that is there afterwards is the one that `run` gives. -/
theorem run_eq_respond [Backend α] (options : ArrayOptions κ τ) (b : Buffer τ)
    (operation : Operation τ) :
    (operation.run options b : Run α κ τ _) = do return (← operation.respond options b).2 := by
  cases operation with
  | append | grow | sort | linearSearch | binarySearch | drop => rfl

end Operation

/-- Arrays of several kinds, the allocator and the context that they share, and all calls made for
them so far. -/
structure Stage (α κ : Type) (T : ι → Type) where
  allocator : α
  context : κ
  arrays : List ((k : ι) × Buffer (T k)) := []
  journal : List ((k : ι) × Entry (T k)) := []

/-- What is done with arrays.  An array is named by its place, and its kind decides which kind of
operation it is. -/
inductive Command (T : ι → Type) where
  | init (k : ι) (reserve count : Size) (seed : Option (T k))
  | operate (n : Nat) (operation : (k : ι) → Operation (T k))
  | get (n i : Nat)

/-- The arrays, wherever they are. -/
def bareAll (arrays : List ((k : ι) × Buffer (T k))) : List ((k : ι) × Buffer (T k)) :=
  arrays.map fun a => ⟨a.1, a.2.bare⟩

/-- What there is to see after a command. -/
structure Scene (T : ι → Type) where
  /-- The answer, where there was an array to give it. -/
  response : Option ((k : ι) × Response (T k))
  arrays : List ((k : ι) × Buffer (T k))

namespace Stage

variable [Backend α] (options : (k : ι) → ArrayOptions κ (T k)) (σ : Stage α κ T)

/-- The environment of what is done for arrays of one kind. -/
def env (k : ι) : Env α κ (T k) := { allocator := σ.allocator, context := σ.context }

/-- Something is done for arrays of one kind, and what it leaves is put among the arrays. -/
def act (k : ι) (c : Run α κ (T k) (Response (T k) × Option (Buffer (T k))))
    (put : Option (Buffer (T k)) → List ((k : ι) × Buffer (T k))) :
    Option ((k : ι) × Response (T k)) × Stage α κ T :=
  let (result, e) := StateT.run c (σ.env k)
  (some ⟨k, result.1⟩,
    { allocator := e.allocator
      context := e.context
      arrays := put result.2
      journal := σ.journal ++ e.trace.map (Sigma.mk k) })

/-- One command. -/
def perform : Command T → Option ((k : ι) × Response (T k)) × Stage α κ T
  | .init k reserve count seed =>
    σ.act k (respondToInit (options k) reserve count seed) fun made =>
      σ.arrays ++ made.toList.map (Sigma.mk k)
  | .operate n operation =>
    match σ.arrays[n]? with
    | none => (none, σ)
    | some ⟨k, b⟩ => σ.act k ((operation k).respond (options k) b) (putAt σ.arrays n k)
  | .get n i =>
    match σ.arrays[n]? with
    | none => (none, σ)
    | some ⟨k, b⟩ => (some ⟨k, .element (b.get? i)⟩, σ)

/-- What there is to see after a command that was answered like this, and after what comes next.
Nothing comes after an abort. -/
def follow (response : Option ((k : ι) × Response (T k)))
    (next : Stage α κ T → List (Scene T) × Stage α κ T) : List (Scene T) × Stage α κ T :=
  let scene : Scene T := { response, arrays := bareAll σ.arrays }
  if response.any fun r => r.2.aborts then ([scene], σ)
  else
    let (scenes, σ) := next σ
    (scene :: scenes, σ)

/-- The commands in order, and what there is to see after each. -/
def play : List (Command T) → Stage α κ T → List (Scene T) × Stage α κ T
  | [], σ => ([], σ)
  | command :: script, σ =>
    let (response, σ) := σ.perform options command
    σ.follow response (play script)

end Stage

/-! ## 2. What is seen of the calls -/

section Calls

variable (options : (k : ι) → ArrayOptions κ (T k))

/-- What is seen of a journal. -/
def gistsOf (journal : List ((k : ι) × Entry (T k))) : List ((k : ι) × Gist (T k)) :=
  journal.filterMap fun q => (q.2.gist? (options q.1).layout.align).map (Sigma.mk q.1)

/-- The verdicts on the requests in a journal. -/
def verdictsOf (journal : List ((k : ι) × Entry (T k))) : List Verdict :=
  (gistsOf options journal).filterMap fun q => q.2.verdict?

@[simp] theorem gistsOf_append (l l' : List ((k : ι) × Entry (T k))) :
    gistsOf options (l ++ l') = gistsOf options l ++ gistsOf options l' :=
  List.filterMap_append

@[simp] theorem verdictsOf_append (l l' : List ((k : ι) × Entry (T k))) :
    verdictsOf options (l ++ l') = verdictsOf options l ++ verdictsOf options l' := by
  rw [verdictsOf, gistsOf_append, List.filterMap_append]
  rfl

theorem gistsOf_map_mk (k : ι) (t : List (Entry (T k))) :
    gistsOf options (t.map (Sigma.mk k)) =
      (gists (options k).layout.align t).map (Sigma.mk k) := by
  rw [gistsOf, gists, List.filterMap_map, List.map_filterMap]
  rfl

theorem verdictsOf_map_mk (k : ι) (t : List (Entry (T k))) :
    verdictsOf options (t.map (Sigma.mk k)) = verdicts (options k).layout.align t := by
  rw [verdictsOf, gistsOf_map_mk, List.filterMap_map]
  rfl

end Calls

/-! ## 3. The same arrays elsewhere -/

section Bare

variable (arrays : List ((k : ι) × Buffer (T k)))

theorem getElem?_bareAll (n : Nat) :
    (bareAll arrays)[n]? = arrays[n]?.map fun a => ⟨a.1, a.2.bare⟩ :=
  List.getElem?_map

theorem bareAll_append (new : List ((k : ι) × Buffer (T k))) :
    bareAll (arrays ++ new) = bareAll arrays ++ bareAll new :=
  List.map_append

theorem bareAll_putAt (n : Nat) (k : ι) (b? : Option (Buffer (T k))) :
    bareAll (putAt arrays n k b?) = putAt (bareAll arrays) n k (b?.map Buffer.bare) := by
  cases b? with
  | none => exact (List.eraseIdx_map _ arrays n).symm
  | some b => exact List.map_set

@[simp] theorem bareAll_bareAll : bareAll (bareAll arrays) = bareAll arrays := by
  rw [bareAll, bareAll, List.map_map]
  rfl

end Bare

/-! ## 4. What is foretold of operations -/

section Responses

variable [Backend α] (options : ArrayOptions κ τ)

theorem foretold_respondToInit (reserve count : Size) (seed : Option τ) :
    Foretold options.layout.align (Prod.map id (Option.map Buffer.bare))
      (respondToInit options reserve count seed : Run α κ τ _)
      (respondToInit options reserve count seed) := by
  refine .bind (foretold_init options reserve count seed) ?_
  rintro (b | error | panic | _)
  · exact .pure
  · exact .pure
  · exact .pure
  · exact .pure

/-- **Every operation goes by its verdicts.** -/
theorem foretold_respond (operation : Operation τ) (b : Buffer τ) :
    Foretold options.layout.align (Prod.map id (Option.map Buffer.bare))
      (operation.respond options b : Run α κ τ _) (operation.respond options b.bare) := by
  cases operation with
  | append x => exact .bind (foretold_append options x b) fun _ => .pure
  | grow reserve => exact .bind (foretold_grow options reserve b) fun _ => .pure
  | sort => exact .bind (foretold_sort options b) fun _ => .pure
  | linearSearch other key =>
    exact .bind (foretold_linearIndex options.ops other key b) fun _ => .pure
  | binarySearch key => exact .bind (foretold_binaryIndex options.ops key b) fun _ => .pure
  | drop => exact .bind (foretold_teardown options b) fun _ => .pure

end Responses

/-! ## 5. What is foreseen of commands -/

section Commands

variable (options : (k : ι) → ArrayOptions κ (T k))

/-- The stage of an oracle on which everything has gone as on this one, and which knows what will be
answered. -/
structure Stage.Shadows (future : List Verdict) (σ' : Stage Oracle κ T) (σ : Stage α κ T) :
    Prop where
  allocator : σ'.allocator = ⟨future⟩
  context : σ'.context = σ.context
  arrays : σ'.arrays = bareAll σ.arrays
  calls : gistsOf options σ'.journal = gistsOf options σ.journal

/-- From here it comes to `r`; and an oracle that is told the verdicts on the way makes of `r'` the
same. -/
def Foreseen (σ : Stage α κ T) (r : β × Stage α κ T)
    (r' : Stage Oracle κ T → β × Stage Oracle κ T) : Prop :=
  ∃ t, r.2.journal = σ.journal ++ t ∧
    ∀ (rest : List Verdict) (σ' : Stage Oracle κ T),
      σ'.Shadows options (verdictsOf options t ++ rest) σ →
      (r' σ').1 = r.1 ∧ (r' σ').2.Shadows options rest r.2

variable {options} {σ : Stage α κ T}

/-- Where nothing is done, nothing need be foreseen. -/
theorem foreseen_still (v : β) : Foreseen options σ (v, σ) fun σ' => (v, σ') :=
  ⟨[], (List.append_nil _).symm, fun _ _ shadows => ⟨rfl, shadows⟩⟩

/-- What is done with the same arrays elsewhere is all that matters. -/
theorem Foreseen.congr {r : β × Stage α κ T} {r' r'' : Stage Oracle κ T → β × Stage Oracle κ T}
    (h : Foreseen options σ r r')
    (same : ∀ σ' : Stage Oracle κ T, σ'.arrays = bareAll σ.arrays → r'' σ' = r' σ') :
    Foreseen options σ r r'' := by
  obtain ⟨t, journal, oracle⟩ := h
  refine ⟨t, journal, ?_⟩
  intro rest σ' shadows
  rw [same σ' shadows.arrays]
  exact oracle rest σ' shadows

/-- One passage after the other. -/
theorem Foreseen.bind {r : β × Stage α κ T} {r' : Stage Oracle κ T → β × Stage Oracle κ T}
    (h : Foreseen options σ r r') {s : γ × Stage α κ T}
    {f : β → Stage Oracle κ T → γ × Stage Oracle κ T} (next : Foreseen options r.2 s (f r.1)) :
    Foreseen options σ s fun σ' => f (r' σ').1 (r' σ').2 := by
  obtain ⟨t, journal, first⟩ := h
  obtain ⟨u, journal₁, second⟩ := next
  refine ⟨t ++ u, ?_, ?_⟩
  · rw [journal₁, journal, List.append_assoc]
  · intro rest σ' shadows
    rw [verdictsOf_append, List.append_assoc] at shadows
    obtain ⟨value, shadows⟩ := first _ σ' shadows
    show (f (r' σ').1 (r' σ').2).1 = s.1 ∧ (f (r' σ').1 (r' σ').2).2.Shadows options rest s.2
    rw [value]
    exact second rest _ shadows

/-- What is foretold of an operation is so among other arrays. -/
theorem foreseen_act {k : ι} {c : Run α κ (T k) (Response (T k) × Option (Buffer (T k)))}
    {c' : Run Oracle κ (T k) (Response (T k) × Option (Buffer (T k)))}
    (foretold : Foretold (options k).layout.align (Prod.map id (Option.map Buffer.bare)) c c')
    {put : Option (Buffer (T k)) → List ((k : ι) × Buffer (T k))}
    {put' : Stage Oracle κ T → Option (Buffer (T k)) → List ((k : ι) × Buffer (T k))}
    (puts : ∀ (σ' : Stage Oracle κ T) b?, σ'.arrays = bareAll σ.arrays →
      put' σ' (b?.map Buffer.bare) = bareAll (put b?)) :
    Foreseen options σ (σ.act k c put) fun σ' => σ'.act k c' (put' σ') := by
  obtain ⟨t, trace, oracle⟩ := foretold (σ.env k)
  have journal : (σ.act k c put).2.journal = σ.journal ++ t.map (Sigma.mk k) :=
    congrArg (fun t : List (Entry (T k)) => σ.journal ++ t.map (Sigma.mk k)) trace
  refine ⟨_, journal, ?_⟩
  intro rest σ' shadows
  have told : σ'.allocator = ⟨verdicts (options k).layout.align t ++ rest⟩ := by
    rw [← verdictsOf_map_mk]
    exact shadows.allocator
  obtain ⟨value, after⟩ := oracle rest (σ'.env k) ⟨told, shadows.context, rfl⟩
  refine ⟨?_, after.allocator, after.context, ?_, ?_⟩
  · exact congrArg (fun v => some (⟨k, v.1⟩ : (k : ι) × Response (T k))) value
  · exact (congrArg (fun v => put' σ' v.2) value).trans (puts σ' _ shadows.arrays)
  · show gistsOf options (σ'.journal ++ (StateT.run c' (σ'.env k)).2.trace.map (Sigma.mk k)) =
      gistsOf options (σ.journal ++ (StateT.run c (σ.env k)).2.trace.map (Sigma.mk k))
    rw [gistsOf_append, gistsOf_append, gistsOf_map_mk, gistsOf_map_mk, shadows.calls,
      after.calls]

/-- If what comes next is foreseen, so is all that there is to see. -/
theorem foreseen_follow (response : Option ((k : ι) × Response (T k)))
    {next : Stage α κ T → List (Scene T) × Stage α κ T}
    {next' : Stage Oracle κ T → List (Scene T) × Stage Oracle κ T}
    (h : Foreseen options σ (next σ) next') :
    Foreseen options σ (σ.follow response next) fun σ' => σ'.follow response next' := by
  have same (σ' : Stage Oracle κ T) (arrays : σ'.arrays = bareAll σ.arrays) :
      σ'.follow response next' =
        if response.any fun r => r.2.aborts then ([⟨response, bareAll σ.arrays⟩], σ')
        else (⟨response, bareAll σ.arrays⟩ :: (next' σ').1, (next' σ').2) := by
    rw [Stage.follow, arrays, bareAll_bareAll]
  by_cases aborts : response.any fun r => r.2.aborts
  · rw [Stage.follow, if_pos aborts]
    refine (foreseen_still _).congr fun σ' arrays => ?_
    rw [same σ' arrays, if_pos aborts]
  · rw [Stage.follow, if_neg aborts]
    refine (h.bind (f := fun scenes σ' => (⟨response, bareAll σ.arrays⟩ :: scenes, σ'))
      (foreseen_still _)).congr fun σ' arrays => ?_
    rw [same σ' arrays, if_neg aborts]

variable [Backend α]

/-- **A command goes by its verdicts.** -/
theorem foreseen_perform (σ : Stage α κ T) (command : Command T) :
    Foreseen options σ (σ.perform options command) fun σ' => σ'.perform options command := by
  cases command with
  | init k reserve count seed =>
    refine foreseen_act (foretold_respondToInit (options k) reserve count seed) ?_
    intro σ' made arrays
    rw [bareAll_append, arrays]
    cases made with
    | none | some => rfl
  | operate n operation =>
    cases there : σ.arrays[n]? with
    | none =>
      simp only [Stage.perform, there]
      refine (foreseen_still none).congr ?_
      intro σ' arrays
      simp only [arrays, getElem?_bareAll, there, Option.map_none]
    | some a =>
      obtain ⟨k, b⟩ := a
      have acts : Foreseen options σ
          (σ.act k ((operation k).respond (options k) b) (putAt σ.arrays n k))
          fun σ' => σ'.act k ((operation k).respond (options k) b.bare) (putAt σ'.arrays n k) := by
        refine foreseen_act (foretold_respond (options k) (operation k) b) ?_
        intro σ' b? arrays
        rw [bareAll_putAt, arrays]
      simp only [Stage.perform, there]
      refine acts.congr ?_
      intro σ' arrays
      simp only [arrays, getElem?_bareAll, there, Option.map_some]
  | get n i =>
    cases there : σ.arrays[n]? with
    | none =>
      simp only [Stage.perform, there]
      refine (foreseen_still none).congr ?_
      intro σ' arrays
      simp only [arrays, getElem?_bareAll, there, Option.map_none]
    | some a =>
      obtain ⟨k, b⟩ := a
      simp only [Stage.perform, there]
      refine (foreseen_still _).congr ?_
      intro σ' arrays
      simp only [arrays, getElem?_bareAll, there, Option.map_some]
      rfl

/-- **A script goes by its verdicts.** -/
theorem foreseen_play (σ : Stage α κ T) (script : List (Command T)) :
    Foreseen options σ (σ.play options script) fun σ' => σ'.play options script := by
  induction script generalizing σ with
  | nil => exact foreseen_still []
  | cons command script ih =>
    exact (foreseen_perform σ command).bind
      (f := fun response σ => σ.follow response (Stage.play options script))
      (foreseen_follow _ (ih _))

end Commands

/-! ## 6. Two allocators -/

/-- Every request that is made of both is answered alike. -/
def AnsweredAlike (v v' : List Verdict) : Prop :=
  ∀ (i : Nat) (x x' : Verdict), v[i]? = some x → v'[i]? = some x' → x = x'

namespace AnsweredAlike

variable {v v' : List Verdict}

theorem symm (h : AnsweredAlike v v') : AnsweredAlike v' v :=
  fun i x x' there there' => (h i x' x there' there).symm

/-- Where nothing is refused and nothing is misaligned, there is nothing to tell apart. -/
theorem of_aligned (h : ∀ x ∈ v, x = .aligned) (h' : ∀ x ∈ v', x = .aligned) :
    AnsweredAlike v v' := by
  intro i x x' there there'
  rw [h x (List.mem_of_getElem? there), h' x' (List.mem_of_getElem? there')]

/-- The verdicts on the fewer requests come first among the others. -/
theorem extends_of_length_le (h : AnsweredAlike v v') (fewer : v.length ≤ v'.length) :
    v <+: v' := by
  rw [List.prefix_iff_getElem?]
  intro i there
  have there' := List.getElem?_eq_getElem (there.trans_le fewer)
  rw [there', h i _ _ (List.getElem?_eq_getElem there) there']

end AnsweredAlike

/-- Whoever sees two performances sees no difference: neither in what there is after a command, nor
in the calls, nor in what the hooks have made of their context. -/
structure Alike (options : (k : ι) → ArrayOptions κ (T k)) (p : List (Scene T) × Stage α κ T)
    (p' : List (Scene T) × Stage α' κ T) : Prop where
  scenes : p.1 = p'.1
  calls : gistsOf options p.2.journal = gistsOf options p'.2.journal
  context : p.2.context = p'.2.context

theorem Alike.symm {options : (k : ι) → ArrayOptions κ (T k)}
    {p : List (Scene T) × Stage α κ T} {p' : List (Scene T) × Stage α' κ T}
    (h : Alike options p p') : Alike options p' p :=
  ⟨h.scenes.symm, h.calls.symm, h.context.symm⟩

section Interchange

variable [Backend α] [Backend α'] (options : (k : ι) → ArrayOptions κ (T k))

/-- What a script comes to over an allocator, where there are no arrays yet. -/
def playOver (allocator : α) (context : κ) (script : List (Command T)) :
    List (Scene T) × Stage α κ T :=
  ({ allocator, context } : Stage α κ T).play options script

/-- How the requests of the script are answered. -/
def answersOver (allocator : α) (context : κ) (script : List (Command T)) : List Verdict :=
  verdictsOf options (playOver options allocator context script).2.journal

variable {options} {a : α} {a' : α'} {context : κ} {script : List (Command T)}

/-- An oracle that is told all answers, and more, stands for the allocator. -/
theorem alike_oracle {rest future : List Verdict}
    (told : answersOver options a context script ++ rest = future) :
    Alike options (playOver options (⟨future⟩ : Oracle) context script)
      (playOver options a context script) := by
  have foreseen : Foreseen options { allocator := a, context }
      (playOver options a context script) fun σ' => σ'.play options script :=
    foreseen_play _ script
  obtain ⟨t, journal, oracle⟩ := foreseen
  have asked : answersOver options a context script = verdictsOf options t :=
    congrArg (verdictsOf options) journal
  rw [asked] at told
  obtain ⟨scenes, shadows⟩ := oracle rest { allocator := ⟨future⟩, context }
    ⟨congrArg Oracle.mk told.symm, rfl, rfl, rfl⟩
  exact ⟨scenes, shadows.calls, shadows.context⟩

/-- The oracle of the one that is asked more stands for both. -/
theorem alike_of_extends
    (longer : answersOver options a context script <+: answersOver options a' context script) :
    Alike options (playOver options a context script) (playOver options a' context script) := by
  obtain ⟨rest, told⟩ := longer
  have alike := alike_oracle told
  have alike' := alike_oracle (List.append_nil (answersOver options a' context script))
  exact ⟨alike.scenes.symm.trans alike'.scenes, alike.calls.symm.trans alike'.calls,
    alike.context.symm.trans alike'.context⟩

/-- **Backends are interchangeable.**  Whatever script is played, with any number of arrays: over
two allocators, of whatever kinds, that answer alike every request made of both, there is the same
to see.  Every command gives the same answer, and leaves arrays of the same length, reserve and
elements; the hooks are called with the same arguments in the same order, and blocks are asked for
and given back in the same sizes.  So it is over any two stacks, when they refuse nothing and
misalign nothing. -/
theorem backends_interchangeable (options : (k : ι) → ArrayOptions κ (T k)) (context : κ)
    (script : List (Command T)) :
    (∀ {α α' : Type} [Backend α] [Backend α'] (a : α) (a' : α'),
      AnsweredAlike (answersOver options a context script) (answersOver options a' context script) →
      Alike options (playOver options a context script) (playOver options a' context script)) ∧
    ∀ (s s' : Stack) (a : s.State) (a' : s'.State),
      (∀ verdict ∈ answersOver options a context script, verdict = .aligned) →
      (∀ verdict ∈ answersOver options a' context script, verdict = .aligned) →
      Alike options (playOver options a context script) (playOver options a' context script) := by
  have interchange {α α' : Type} [Backend α] [Backend α'] (a : α) (a' : α')
      (h : AnsweredAlike (answersOver options a context script)
        (answersOver options a' context script)) :
      Alike options (playOver options a context script) (playOver options a' context script) := by
    rcases Nat.le_total (answersOver options a context script).length
      (answersOver options a' context script).length with fewer | fewer
    · exact alike_of_extends (h.extends_of_length_le fewer)
    · exact (alike_of_extends (h.symm.extends_of_length_le fewer)).symm
  refine ⟨interchange, ?_⟩
  intro s s' a a' served served'
  exact interchange a a' (.of_aligned served served')

/-- Two arrays of different kinds are made, filled and searched, one is dropped, and the other is
sorted. -/
def interchangeScript : List (Command fun _ : Bool => Nat) :=
  [.init false 2 1 (some 7), .operate 0 fun _ => .append 5, .init true 1 0 none,
    .operate 1 fun _ => .append 9, .operate 1 fun _ => .grow 4,
    .operate 0 fun _ => .binarySearch 7, .get 0 1, .operate 1 fun _ => .drop,
    .operate 0 fun _ => .sort]

/-- A heap that serves five requests. -/
def fiveBlockHeap : Failing Heap := { inner := Heap.system, budget := some 5 }

/-- An arena over so many bytes, none of them used. -/
def arenaOver (size : Size) : Arena := { base := 1000, size, offset := 0, alignment := 16 }

/-- Of six requests a heap refuses the last one, for its budget is spent, and a small arena does so
because it is full; over both of them the sort fails.  A heap without a budget and a larger arena,
which is counted, serve them all. -/
theorem backends_interchangeable_for_numbers :
    Alike numberOptions (playOver numberOptions fiveBlockHeap () interchangeScript)
        (playOver numberOptions (arenaOver 100) () interchangeScript) ∧
      Alike numberOptions
        (playOver numberOptions (Heap.system : Stack.heap.State) () interchangeScript)
        (playOver numberOptions ({ inner := arenaOver 140 } : (Stack.counting .arena).State) ()
          interchangeScript) := by
  have refused : answersOver numberOptions fiveBlockHeap () interchangeScript =
      [.aligned, .aligned, .aligned, .aligned, .aligned, .refused] := by cbv
  have refused' : answersOver numberOptions (arenaOver 100) () interchangeScript =
      [.aligned, .aligned, .aligned, .aligned, .aligned, .refused] := by cbv
  have served : answersOver numberOptions (Heap.system : Stack.heap.State) () interchangeScript =
      .replicate 6 .aligned := by
    cbv
    simp only [Buffer.merge_nil_right]
    cbv
  have served' : answersOver numberOptions
      ({ inner := arenaOver 140 } : (Stack.counting .arena).State) () interchangeScript =
      .replicate 6 .aligned := by
    cbv
    simp only [Buffer.merge_nil_right]
    cbv
  obtain ⟨alike, among⟩ := backends_interchangeable numberOptions () interchangeScript
  refine ⟨alike fiveBlockHeap (arenaOver 100) ?_,
    among .heap (.counting .arena) Heap.system { inner := arenaOver 140 } ?_ ?_⟩
  · rw [refused, refused']
    intro i x x' there there'
    exact Option.some.inj (there.symm.trans there')
  · rw [served]
    exact fun _ mem => List.eq_of_mem_replicate mem
  · rw [served']
    exact fun _ mem => List.eq_of_mem_replicate mem

end Interchange

end ReservedArray
