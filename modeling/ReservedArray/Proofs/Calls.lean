/-
# Computations as sequences of calls

Whatever an array operation does to its environment, it does by single calls: to a hook, to the
allocator, or to report something.  This file makes that a relation.  `Env.Steps ops e t e'` says
that a sequence of single calls leads from `e` to `e'` and that `t` is what the journal has of it.

The operations are then described without their environment.  `Meets ops c post` says that
*wherever* `c` is run it makes such a sequence `t` and gives a value `v` with `post v t`; what a
call is answered stands in `t`, so `post` can say how the value follows from the answers.

* `Meets.bind` puts two computations together: their calls are appended.
* `Meets.calls` takes a specification to a run: the calls in question are `e.calls c`, the part of
  the journal that `c` adds.
* `Env.Steps.forall_entries` is the way back from the calls to the hooks: what holds of a call of
  each kind holds of all calls of a computation.
-/
import ReservedArray.Env

namespace ReservedArray

variable {α κ τ β γ : Type}

/-! ## 1. Single calls -/

namespace Env

section Steps

variable [Backend α] {ops : ElementOps κ τ}

/-- `Step ops e t e'`: one call leads from `e` to `e'` and writes `t`. -/
inductive Step (ops : ElementOps κ τ) : Env α κ τ → List (Entry τ) → Env α κ τ → Prop
  | report (e : Env α κ τ) (event : Event) :
      Step ops e [.report event] ((Env.report event).run e).2
  | copy (e : Env α κ τ) (x : τ) :
      Step ops e [.copy x (ops.copy x e.context).1.toOption] ((Env.copy ops x).run e).2
  | dispose (e : Env α κ τ) (x : τ) :
      Step ops e [.dispose x (ops.dispose x e.context).1.toBool] ((Env.dispose ops x).run e).2
  | compare (e : Env α κ τ) (x y : τ) :
      Step ops e [.compare x y (ops.compare x y e.context).1.toOption]
        ((Env.compare ops x y).run e).2
  | obtain (e : Env α κ τ) (size : Size) :
      Step ops e (entriesOf size (request e.allocator size)) ((Env.obtain size).run e).2
  | giveBack (e : Env α κ τ) (block : Address) (size : Size) :
      Step ops e [.release block size] ((Env.giveBack block size).run e).2

/-- `Steps ops e t e'`: calls lead from `e` to `e'` and write `t`. -/
inductive Steps (ops : ElementOps κ τ) : Env α κ τ → List (Entry τ) → Env α κ τ → Prop
  | refl (e : Env α κ τ) : Steps ops e [] e
  | head {e e' e'' : Env α κ τ} {t t' : List (Entry τ)} :
      Step ops e t e' → Steps ops e' t' e'' → Steps ops e (t ++ t') e''

theorem Steps.single {e e' : Env α κ τ} {t : List (Entry τ)} (h : Step ops e t e') :
    Steps ops e t e' := by
  have := Steps.head h (.refl e')
  rwa [List.append_nil] at this

theorem Steps.trans {e e' e'' : Env α κ τ} {t t' : List (Entry τ)} (h : Steps ops e t e')
    (h' : Steps ops e' t' e'') : Steps ops e (t ++ t') e'' := by
  induction h with
  | refl => exact h'
  | head step _ ih =>
    rw [List.append_assoc]
    exact .head step (ih h')

theorem Step.trace_eq {e e' : Env α κ τ} {t : List (Entry τ)} (h : Step ops e t e') :
    e'.trace = e.trace ++ t := by
  cases h <;> simp

/-- The journal only grows. -/
theorem Steps.trace_eq {e e' : Env α κ τ} {t : List (Entry τ)} (h : Steps ops e t e') :
    e'.trace = e.trace ++ t := by
  induction h with
  | refl => simp
  | head step _ ih => rw [ih, step.trace_eq, List.append_assoc]

end Steps

/-- A request writes down itself and what is reported of it. -/
theorem of_mem_entriesOf {size : Size} {r : Reply α (Except AllocError Address)} {q : Entry τ}
    (mem : q ∈ entriesOf size r) :
    (∃ block, q = .allocate size block) ∨ ∃ event, q = .report event := by
  unfold entriesOf at mem
  split at mem
  · cases mem
  · rcases List.mem_cons.mp mem with rfl | mem
    · exact .inl ⟨_, rfl⟩
    · obtain ⟨event, -, rfl⟩ := List.mem_map.mp mem
      exact .inr ⟨event, rfl⟩

section Entries

variable [Backend α] {ops : ElementOps κ τ} {P : Entry τ → Prop} {e e' : Env α κ τ}
  {t : List (Entry τ)}

theorem Step.forall_entries (h : Step ops e t e')
    (copy : ∀ x context, P (.copy x (ops.copy x context).1.toOption))
    (dispose : ∀ x context, P (.dispose x (ops.dispose x context).1.toBool))
    (compare : ∀ x y context, P (.compare x y (ops.compare x y context).1.toOption))
    (allocate : ∀ size block, P (.allocate size block))
    (release : ∀ block size, P (.release block size)) (report : ∀ event, P (.report event)) :
    ∀ q ∈ t, P q := by
  cases h with
  | report event => exact List.forall_mem_singleton.mpr (report event)
  | copy x => exact List.forall_mem_singleton.mpr (copy x e.context)
  | dispose x => exact List.forall_mem_singleton.mpr (dispose x e.context)
  | compare x y => exact List.forall_mem_singleton.mpr (compare x y e.context)
  | giveBack block size => exact List.forall_mem_singleton.mpr (release block size)
  | obtain size =>
    intro q mem
    rcases of_mem_entriesOf mem with ⟨block, rfl⟩ | ⟨event, rfl⟩
    · exact allocate size block
    · exact report event

/-- **What holds of a call of each kind holds of all calls.**  The hooks answer as they do, the
allocator may answer anything. -/
theorem Steps.forall_entries (h : Steps ops e t e')
    (copy : ∀ x context, P (.copy x (ops.copy x context).1.toOption))
    (dispose : ∀ x context, P (.dispose x (ops.dispose x context).1.toBool))
    (compare : ∀ x y context, P (.compare x y (ops.compare x y context).1.toOption))
    (allocate : ∀ size block, P (.allocate size block))
    (release : ∀ block size, P (.release block size)) (report : ∀ event, P (.report event)) :
    ∀ q ∈ t, P q := by
  induction h with
  | refl => exact List.forall_mem_nil P
  | head step _ ih =>
    exact List.forall_mem_append.mpr
      ⟨step.forall_entries copy dispose compare allocate release report, ih⟩

end Entries

/-- The calls that `c` makes in `e`. -/
def calls (e : Env α κ τ) (c : Run α κ τ β) : List (Entry τ) :=
  (c.run e).2.trace.drop e.trace.length

theorem Steps.calls_eq [Backend α] {ops : ElementOps κ τ} {c : Run α κ τ β} {e : Env α κ τ}
    {t : List (Entry τ)} (h : Steps ops e t (c.run e).2) : e.calls c = t := by
  rw [calls, h.trace_eq, List.drop_left]

end Env

/-! ## 2. Specifications -/

/-- Wherever it is run, `c` makes a sequence of calls and gives a value that fit `post`. -/
def Meets [Backend α] (ops : ElementOps κ τ) (c : Run α κ τ β)
    (post : β → List (Entry τ) → Prop) : Prop :=
  ∀ e : Env α κ τ, ∃ t, Env.Steps ops e t (c.run e).2 ∧ post (c.run e).1 t

namespace Meets

variable [Backend α] {ops : ElementOps κ τ} {c : Run α κ τ β} {f : β → Run α κ τ γ}
  {P Q : β → List (Entry τ) → Prop} {R : γ → List (Entry τ) → Prop}

theorem pure {v : β} (h : P v []) : Meets ops (Pure.pure v : Run α κ τ β) P :=
  fun e => ⟨[], .refl e, h⟩

/-- **One computation after the other.**  Their calls are appended. -/
theorem bind (hc : Meets ops c P)
    (hf : ∀ v t, P v t → Meets ops (f v) fun w t' => R w (t ++ t')) :
    Meets ops (c >>= f) R := by
  intro e
  obtain ⟨t, hsteps, hpost⟩ := hc e
  obtain ⟨t', hsteps', hpost'⟩ := hf _ _ hpost (c.run e).2
  exact ⟨t ++ t', hsteps.trans hsteps', hpost'⟩

theorem mono (hc : Meets ops c P) (h : ∀ v t, P v t → Q v t) : Meets ops c Q := by
  intro e
  obtain ⟨t, hsteps, hpost⟩ := hc e
  exact ⟨t, hsteps, h _ _ hpost⟩

/-- What is made of the value makes no calls. -/
theorem map {f : β → γ} (hc : Meets ops c P) (h : ∀ v t, P v t → R (f v) t) :
    Meets ops (do return f (← c)) R := by
  refine .bind hc fun v t post => .pure ?_
  rw [List.append_nil]
  exact h v t post

theorem steps (hc : Meets ops c P) (e : Env α κ τ) :
    Env.Steps ops e (e.calls c) (c.run e).2 := by
  obtain ⟨t, hsteps, -⟩ := hc e
  rwa [hsteps.calls_eq]

/-- **From a specification to a run.** -/
theorem calls (hc : Meets ops c P) (e : Env α κ τ) : P (c.run e).1 (e.calls c) := by
  obtain ⟨t, hsteps, hpost⟩ := hc e
  rwa [hsteps.calls_eq]

/-- The calls of one computation after the other, when it is known what the first one gives. -/
theorem calls_bind (hc : Meets ops c P) {e : Env α κ τ} {v : β} (value : (c.run e).1 = v)
    (hf : Meets ops (f v) R) :
    ((c >>= f).run e).1 = ((f v).run (c.run e).2).1 ∧
      e.calls (c >>= f) = e.calls c ++ (c.run e).2.calls (f v) := by
  subst value
  exact ⟨rfl, Env.Steps.calls_eq ((hc.steps e).trans (hf.steps (c.run e).2))⟩

end Meets

/-! ## 3. The single calls meet theirs -/

section Single

variable [Backend α] {ops : ElementOps κ τ}

theorem meets_report (event : Event) :
    Meets ops (Env.report event : Run α κ τ Unit) fun _ t => t = [.report event] :=
  fun e => ⟨_, .single (.report e event), rfl⟩

theorem meets_copy (x : τ) :
    Meets ops (Env.copy ops x : Run α κ τ _) fun r t => t = [.copy x r.toOption] :=
  fun e => ⟨_, .single (.copy e x), rfl⟩

theorem meets_dispose (x : τ) :
    Meets ops (Env.dispose ops x : Run α κ τ _) fun r t => t = [.dispose x r.toBool] :=
  fun e => ⟨_, .single (.dispose e x), rfl⟩

theorem meets_compare (x y : τ) :
    Meets ops (Env.compare ops x y : Run α κ τ _) fun r t => t = [.compare x y r.toOption] :=
  fun e => ⟨_, .single (.compare e x y), rfl⟩

theorem meets_giveBack (block : Address) (size : Size) :
    Meets ops (Env.giveBack block size : Run α κ τ Unit) fun _ t => t = [.release block size] :=
  fun e => ⟨_, .single (.giveBack e block size), rfl⟩

/-- What asking for a block comes to: a request of no bytes makes no call. -/
inductive Obtains (size : Size) : Except AllocError Address → List (Entry τ) → Prop
  | zeroSize : size = 0 → Obtains size (.error .zeroSize) []
  | exhausted (events : List Event) : size ≠ 0 →
      Obtains size (.error (.exhausted size)) (.allocate size none :: events.map .report)
  | granted (events : List Event) (block : Address) : size ≠ 0 →
      Obtains size (.ok block) (.allocate size (some block) :: events.map .report)

theorem meets_obtain (size : Size) :
    Meets ops (Env.obtain size : Run α κ τ _) (Obtains size) := by
  intro e
  refine ⟨_, .single (.obtain e size), ?_⟩
  show Obtains size (request e.allocator size).answer _
  by_cases zero : size = 0
  · rw [Env.entriesOf, if_pos zero, zero, request_zero]
    exact .zeroSize rfl
  · rw [Env.entriesOf, if_neg zero]
    cases h : (Backend.allocate e.allocator size).answer with
    | none => rw [request_of_none zero h]; exact .exhausted _ zero
    | some block => rw [request_of_some zero h]; exact .granted _ block zero

end Single

end ReservedArray
