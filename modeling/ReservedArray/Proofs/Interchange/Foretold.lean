/-
# What an array learns of its allocator

An array asks its allocator for blocks, and of the answer it takes no more than a `Verdict`: the
request is refused, or there is a block, aligned for the elements or not.  Where a block is decides
nothing.  This file makes that a theorem about every operation.

An `Oracle` is an allocator that knows its verdicts in advance and nothing else.
`Foretold align g c c'` says of a computation `c` over any allocator that the same computation over
an oracle, `c'`, which is told the verdicts that `c` is given, goes the same way: it has the same
value but for the addresses in it, which `g` takes away, it uses up just these verdicts, and it
makes the same calls with the same arguments and the same sizes (`Entry.gists`).

What is foretold of two computations is foretold of one after the other (`Foretold.bind`).  So it is
enough that it is true of single calls and that the operations never look at an address but to
compare it with the alignment, which is where the verdict comes from (`foretold_allocate`).
-/
import Mathlib
import ReservedArray.Buffer.Array

namespace ReservedArray

variable {α κ τ ε β β' γ γ' : Type}

/-! ## 1. What is seen of a call -/

/-- How a request is answered. -/
inductive Verdict where
  | refused
  | aligned
  | misaligned
deriving DecidableEq

/-- The verdict on an answer, for elements of this alignment. -/
def Verdict.on (align : Size) : Option Address → Verdict
  | none => refused
  | some block => if block % align.toNat = 0 then aligned else misaligned

/-- A call, without where the blocks are. -/
inductive Gist (τ : Type) where
  | copy (source : τ) (result : Option τ)
  | dispose (element : τ) (completed : Bool)
  | compare (left right : τ) (answer : Option Ordering)
  | allocate (size : Size) (verdict : Verdict)
  | release (size : Size)

/-- The verdict, if the call is a request. -/
def Gist.verdict? : Gist τ → Option Verdict
  | allocate _ verdict => some verdict
  | _ => none

namespace Entry

/-- What is seen of a call.  Reports are the allocator's own affair, and the array's. -/
def gist? (align : Size) : Entry τ → Option (Gist τ)
  | .copy x result => some (.copy x result)
  | .dispose x completed => some (.dispose x completed)
  | .compare x y answer => some (.compare x y answer)
  | .allocate size block => some (.allocate size (Verdict.on align block))
  | .release _ size => some (.release size)
  | .report _ => none

/-- What is seen of a trace. -/
def gists (align : Size) (t : List (Entry τ)) : List (Gist τ) := t.filterMap (gist? align)

/-- The verdicts on the requests in a trace. -/
def verdicts (align : Size) (t : List (Entry τ)) : List Verdict :=
  (gists align t).filterMap Gist.verdict?

@[simp] theorem gists_append (align : Size) (t t' : List (Entry τ)) :
    gists align (t ++ t') = gists align t ++ gists align t' :=
  List.filterMap_append

@[simp] theorem gists_reports (align : Size) (events : List Event) :
    gists align (events.map (Entry.report (τ := τ))) = [] := by
  simp [gists, gist?]

@[simp] theorem verdicts_append (align : Size) (t t' : List (Entry τ)) :
    verdicts align (t ++ t') = verdicts align t ++ verdicts align t' := by
  rw [verdicts, gists_append, List.filterMap_append]
  rfl

end Entry

open Entry (gists verdicts)

/-! ## 2. Oracles -/

/-- An allocator that knows how it will answer. -/
structure Oracle where
  verdicts : List Verdict

namespace Oracle

/-- The first address is aligned for everything, and the second for nothing that need be aligned. -/
def block? : Verdict → Option Address
  | .refused => none
  | .aligned => some 0
  | .misaligned => some 1

/-- A request is answered by the next verdict. -/
def allocate (oracle : Oracle) (_ : Size) : Reply Oracle (Option Address) :=
  match oracle.verdicts with
  | [] => { answer := none, state := oracle }
  | verdict :: rest => { answer := block? verdict, state := ⟨rest⟩ }

instance : Backend Oracle where
  allocate := allocate
  release oracle _ _ := oracle

/-- The block that an oracle has in place of a block. -/
def inPlaceOf (align : Size) (block : Address) : Address :=
  if block % align.toNat = 0 then 0 else 1

/-- It is aligned if the block is. -/
theorem inPlaceOf_mod (align : Size) (block : Address) :
    inPlaceOf align block % align.toNat = 0 ↔ block % align.toNat = 0 := by
  by_cases aligned : block % align.toNat = 0
  · simp [inPlaceOf, aligned]
  · -- with an alignment of one every block would be aligned
    have skewed : 1 % align.toNat ≠ 0 := by
      intro divides
      have one : align.toNat = 1 := Nat.dvd_one.mp (Nat.dvd_of_mod_eq_zero divides)
      exact aligned (by rw [one, Nat.mod_one])
    simp [inPlaceOf, aligned, skewed]

theorem block?_on (align : Size) (answer : Option Address) :
    block? (Verdict.on align answer) = answer.map (inPlaceOf align) := by
  cases answer with
  | none => rfl
  | some block =>
    by_cases aligned : block % align.toNat = 0
    · simp [Verdict.on, inPlaceOf, aligned, block?]
    · simp [Verdict.on, inPlaceOf, aligned, block?]

/-- **The oracle's blocks bear out its verdicts.** -/
theorem on_map_inPlaceOf (align : Size) (answer : Option Address) :
    Verdict.on align (answer.map (inPlaceOf align)) = Verdict.on align answer := by
  cases answer with
  | none => rfl
  | some block => simp only [Verdict.on, Option.map_some, inPlaceOf_mod]

end Oracle

/-! ## 3. What is foretold -/

/-- The environment of an oracle that has seen what this one has seen, and knows what will be
answered. -/
structure Env.Shadows (align : Size) (future : List Verdict) (e' : Env Oracle κ τ)
    (e : Env α κ τ) : Prop where
  allocator : e'.allocator = ⟨future⟩
  context : e'.context = e.context
  calls : gists align e'.trace = gists align e.trace

/-- An oracle that is told the verdicts of `c` makes of `c'` what becomes of `c`, but for what `g`
takes away. -/
def Foretold (align : Size) (g : β → γ) (c : Run α κ τ β) (c' : Run Oracle κ τ γ) : Prop :=
  ∀ e : Env α κ τ, ∃ t, (c.run e).2.trace = e.trace ++ t ∧
    ∀ (rest : List Verdict) (e' : Env Oracle κ τ), e'.Shadows align (verdicts align t ++ rest) e →
      (c'.run e').1 = g (c.run e).1 ∧ (c'.run e').2.Shadows align rest (c.run e).2

namespace Foretold

variable {align : Size}

theorem pure {v : β} {g : β → γ} :
    Foretold align g (Pure.pure v : Run α κ τ β) (Pure.pure (g v)) := by
  intro e
  refine ⟨[], (List.append_nil _).symm, ?_⟩
  intro rest e' shadows
  exact ⟨rfl, shadows⟩

/-- **One computation after the other.** -/
theorem bind {c : Run α κ τ β} {c' : Run Oracle κ τ γ} {g : β → γ} {f : β → Run α κ τ β'}
    {f' : γ → Run Oracle κ τ γ'} {h : β' → γ'} (hc : Foretold align g c c')
    (hf : ∀ v, Foretold align h (f v) (f' (g v))) : Foretold align h (c >>= f) (c' >>= f') := by
  intro e
  obtain ⟨t, trace, first⟩ := hc e
  obtain ⟨u, trace₁, second⟩ := hf (c.run e).1 (c.run e).2
  refine ⟨t ++ u, ?_, ?_⟩
  · rw [← List.append_assoc, ← trace]
    exact trace₁
  · intro rest e' shadows
    rw [Entry.verdicts_append, List.append_assoc] at shadows
    obtain ⟨value, shadows⟩ := first _ e' shadows
    have next : (c' >>= f').run e' = (f' (g (c.run e).1)).run (c'.run e').2 := by
      rw [← value]
      rfl
    rw [next]
    exact second rest _ shadows

theorem bind_except {c : ExceptT Panic (Run α κ τ) β} {c' : ExceptT Panic (Run Oracle κ τ) β}
    {f : β → ExceptT Panic (Run α κ τ) γ} {f' : β → ExceptT Panic (Run Oracle κ τ) γ}
    (hc : Foretold align id c.run c'.run) (hf : ∀ v, Foretold align id (f v).run (f' v).run) :
    Foretold align id (c >>= f).run (c' >>= f').run := by
  rw [ExceptT.run_bind, ExceptT.run_bind]
  refine .bind hc ?_
  rintro (panic | v)
  · exact .pure
  · exact hf v

end Foretold

/-! ## 4. Single calls -/

section Single

variable {align : Size} (ops : ElementOps κ τ)

/-- **A hook goes by its context**, and asks for no block. -/
theorem foretold_hook (hook : κ → β × κ) (entry : β → Entry τ)
    (unasked : ∀ v, verdicts align [entry v] = []) :
    Foretold align id
      (fun e => ((hook e.context).1,
        { e with
          context := (hook e.context).2
          journal := e.journal.push (entry (hook e.context).1) }) : Run α κ τ β)
      (fun e => ((hook e.context).1,
        { e with
          context := (hook e.context).2
          journal := e.journal.push (entry (hook e.context).1) })) := by
  intro e
  refine ⟨[entry (hook e.context).1], Array.toList_push, ?_⟩
  intro rest e' shadows
  refine ⟨congrArg (fun context => (hook context).1) shadows.context, ?_, ?_, ?_⟩
  · rw [unasked] at shadows
    exact shadows.allocator
  · exact congrArg (fun context => (hook context).2) shadows.context
  · show gists align (e'.journal.push _).toList = gists align (e.journal.push _).toList
    rw [Array.toList_push, Array.toList_push, Entry.gists_append, Entry.gists_append,
      shadows.context]
    exact congrArg (· ++ _) shadows.calls

theorem foretold_copy (x : τ) :
    Foretold align id (Env.copy ops x : Run α κ τ _) (Env.copy ops x) :=
  foretold_hook (ops.copy x) (fun answer => .copy x answer.toOption) fun _ => rfl

theorem foretold_dispose (x : τ) :
    Foretold align id (Env.dispose ops x : Run α κ τ _) (Env.dispose ops x) :=
  foretold_hook (ops.dispose x) (fun answer => .dispose x answer.toBool) fun _ => rfl

theorem foretold_compare (x y : τ) :
    Foretold align id (Env.compare ops x y : Run α κ τ _) (Env.compare ops x y) :=
  foretold_hook (ops.compare x y) (fun answer => .compare x y answer.toOption) fun _ => rfl

theorem foretold_report (event event' : Event) :
    Foretold align id (Env.report event : Run α κ τ _) (Env.report event') := by
  intro e
  refine ⟨_, Env.trace_report e event, ?_⟩
  intro rest e' shadows
  refine ⟨rfl, shadows.allocator, shadows.context, ?_⟩
  rw [Env.trace_report, Env.trace_report, Entry.gists_append, Entry.gists_append, shadows.calls]
  rfl

variable [Backend α]

/-- Blocks are given back, wherever they are. -/
theorem foretold_giveBack (block block' : Address) (size : Size) :
    Foretold align id (Env.giveBack block size : Run α κ τ _) (Env.giveBack block' size) := by
  intro e
  refine ⟨_, Env.trace_giveBack e size block, ?_⟩
  intro rest e' shadows
  refine ⟨rfl, shadows.allocator, shadows.context, ?_⟩
  rw [Env.trace_giveBack, Env.trace_giveBack, Entry.gists_append, Entry.gists_append,
    shadows.calls]
  rfl

theorem answer_request {allocator : α} {size : Size} (positive : size ≠ 0) :
    (request allocator size).answer =
      (Backend.allocate allocator size).answer.elim (.error (.exhausted size)) .ok := by
  cases answer : (Backend.allocate allocator size).answer with
  | none => exact request_of_none positive answer
  | some block => exact request_of_some positive answer

/-- A request is seen with its verdict. -/
theorem gists_entriesOf {allocator : α} {size : Size} (positive : size ≠ 0) :
    gists align (Env.entriesOf (τ := τ) size (request allocator size)) =
      [.allocate size (Verdict.on align (Backend.allocate allocator size).answer)] := by
  rw [Env.entriesOf, if_neg positive, toOption_answer_request positive]
  exact congrArg (_ :: ·) (Entry.gists_reports align _)

/-- **A request is answered as the verdict says.** -/
theorem foretold_obtain (size : Size) :
    Foretold align (Except.map (Oracle.inPlaceOf align)) (Env.obtain size : Run α κ τ _)
      (Env.obtain size) := by
  intro e
  refine ⟨_, Env.trace_obtain e size, ?_⟩
  intro rest e' shadows
  by_cases zero : size = 0
  · -- no allocator hears of it
    subst zero
    rw [request_zero] at shadows
    refine ⟨?_, ?_, shadows.context, ?_⟩
    · show (request e'.allocator 0).answer = (request e.allocator 0).answer.map _
      rw [request_zero, request_zero]
      rfl
    · rw [Env.allocator_obtain, request_zero]
      exact shadows.allocator
    · rw [Env.trace_obtain, Env.trace_obtain, Entry.gists_append, Entry.gists_append,
        shadows.calls]
      rfl
  · have next := shadows.allocator
    rw [verdicts, gists_entriesOf zero] at next
    refine ⟨?_, ?_, shadows.context, ?_⟩
    · show (request e'.allocator size).answer = (request e.allocator size).answer.map _
      rw [next, answer_request zero, answer_request zero]
      show (Oracle.block? (Verdict.on align _)).elim _ _ = _
      rw [Oracle.block?_on]
      cases (Backend.allocate e.allocator size).answer <;> rfl
    · rw [Env.allocator_obtain, state_request zero, next]
      rfl
    · rw [Env.trace_obtain, Env.trace_obtain, Entry.gists_append, Entry.gists_append,
        shadows.calls, gists_entriesOf zero, gists_entriesOf zero, next]
      show _ ++ [Gist.allocate size (Verdict.on align (Oracle.block? (Verdict.on align _)))] = _
      rw [Oracle.block?_on, Oracle.on_map_inPlaceOf]

end Single

/-! ## 5. Operations on one buffer -/

/-- The buffer, wherever it is. -/
def Buffer.bare (b : Buffer τ) : Buffer τ := { b with block := 0 }

/-- What was made, wherever it is. -/
def Outcome.map (h : β → γ) : Outcome ε β → Outcome ε γ
  | done value => done (h value)
  | refused error => refused error
  | unwound panic => unwound panic
  | aborted => aborted

@[simp] theorem Outcome.map_id (outcome : Outcome ε β) : outcome.map id = outcome := by
  cases outcome <;> rfl

section Operations

variable {align : Size} (ops : ElementOps κ τ)

theorem foretold_place (x : τ) (b : Buffer τ) :
    Foretold align (Prod.map id Buffer.bare) (b.place ops x : Run α κ τ _)
      (b.bare.place ops x) := by
  refine .bind (foretold_copy ops x) ?_
  rintro (panic | y)
  · exact .pure
  · have pushed : b.bare.push y = (b.push y).map Buffer.bare := by
      by_cases free : b.slots.size < b.reserve.toNat
      · have free' : b.bare.slots.size < b.bare.reserve.toNat := free
        rw [Buffer.push, Buffer.push, if_pos free, if_pos free']
        rfl
      · have free' : ¬ b.bare.slots.size < b.bare.reserve.toNat := free
        rw [Buffer.push, Buffer.push, if_neg free, if_neg free']
        rfl
    simp only [id, pushed]
    cases b.push y with
    | error panic => exact .pure
    | ok b => exact .pure

theorem foretold_fill (xs : List τ) (b : Buffer τ) :
    Foretold align (Prod.map id Buffer.bare) (b.fill ops xs : Run α κ τ _)
      (b.bare.fill ops xs) := by
  induction xs generalizing b with
  | nil => exact .pure
  | cons x xs ih =>
    refine .bind (foretold_place ops x b) ?_
    rintro ⟨panic | ⟨⟩, b⟩
    · exact .pure
    · exact ih b

theorem foretold_disposeAll (xs : List τ) :
    Foretold align id (Buffer.disposeAll ops xs : Run α κ τ _) (Buffer.disposeAll ops xs) := by
  induction xs with
  | nil => exact .pure
  | cons x xs ih =>
    refine .bind (foretold_dispose ops x) ?_
    rintro (panic | ⟨⟩)
    · exact .pure
    · exact ih

theorem foretold_merge (xs ys : List τ) (b : Buffer τ) :
    Foretold align (Prod.map id Buffer.bare) (b.merge ops xs ys : Run α κ τ _)
      (b.bare.merge ops xs ys) := by
  induction xs, ys, b using Buffer.merge.induct with
  | case1 x xs y ys b ihRight ihLeft =>
    rw [Buffer.merge, Buffer.merge]
    refine .bind (foretold_compare ops x y) ?_
    rintro (panic | o)
    · exact .pure
    · cases o with
      | lt | eq =>
        refine .bind (foretold_place ops x b) ?_
        rintro ⟨panic | ⟨⟩, b⟩
        · exact .pure
        · exact ihLeft b
      | gt =>
        refine .bind (foretold_place ops y b) ?_
        rintro ⟨panic | ⟨⟩, b⟩
        · exact .pure
        · exact ihRight b
  | case2 xs ys b short =>
    rw [Buffer.merge.eq_2 _ _ _ _ short, Buffer.merge.eq_2 _ _ _ _ short]
    exact foretold_fill ops (xs ++ ys) b

theorem foretold_proceed (outcome : Outcome ε Unit) (b : Buffer τ)
    {next : Buffer τ → Run α κ τ (Outcome ε Unit × Buffer τ)}
    {next' : Buffer τ → Run Oracle κ τ (Outcome ε Unit × Buffer τ)}
    (hnext : ∀ b, Foretold align (Prod.map id Buffer.bare) (next b) (next' b.bare)) :
    Foretold align (Prod.map id Buffer.bare) (b.proceed outcome next)
      (b.bare.proceed outcome next') := by
  cases outcome with
  | done => exact hnext b
  | refused | unwound | aborted => exact .pure

variable [Backend α]

/-- **A block is aligned for an array when its verdict says so.** -/
theorem foretold_allocate (layout : Layout) (reserve : Size) :
    Foretold layout.align (Except.map Buffer.bare) (Buffer.allocate layout reserve : Run α κ τ _)
      (Buffer.allocate layout reserve) := by
  unfold Buffer.allocate
  cases Size.mul? reserve layout.size with
  | none => exact .pure
  | some bytes =>
    refine .bind (foretold_obtain bytes) ?_
    rintro (error | block)
    · exact .pure
    · show Foretold layout.align (Except.map Buffer.bare)
        (if block % layout.align.toNat = 0 then _ else _)
        (if Oracle.inPlaceOf layout.align block % layout.align.toNat = 0 then _ else _)
      by_cases aligned : block % layout.align.toNat = 0
      · rw [if_pos aligned, if_pos ((Oracle.inPlaceOf_mod _ _).mpr aligned), Oracle.inPlaceOf,
          if_pos aligned]
        exact .pure
      · rw [if_neg aligned, if_neg (aligned ∘ (Oracle.inPlaceOf_mod _ _).mp)]
        exact .bind (foretold_giveBack _ _ _) fun _ => .pure

variable (options : ArrayOptions κ τ)

theorem foretold_teardown (b : Buffer τ) :
    Foretold align id (b.teardown options : Run α κ τ _) (b.bare.teardown options) := by
  refine .bind (foretold_disposeAll options.ops b.toList) ?_
  rintro (panic | ⟨⟩)
  · exact .pure
  · exact .bind (foretold_giveBack _ _ _) fun _ => .pure

theorem foretold_leave (h : β → γ) (b : Buffer τ) (outcome : Outcome ε β) :
    Foretold align (Outcome.map h) (b.leave options outcome : Run α κ τ _)
      (b.bare.leave options (outcome.map h)) := by
  cases outcome with
  | aborted => exact .pure
  | done | refused | unwound =>
    refine .bind (foretold_teardown options b) ?_
    rintro (panic | ⟨⟩)
    · exact .pure
    · exact .pure

theorem foretold_leave_id (b : Buffer τ) (outcome : Outcome ε β) :
    Foretold align id (b.leave options outcome : Run α κ τ _) (b.bare.leave options outcome) := by
  have leaves : Foretold align (Outcome.map id) (b.leave options outcome : Run α κ τ _) _ :=
    foretold_leave options id b outcome
  rw [Outcome.map_id] at leaves
  have same : (Outcome.map id : Outcome ε β → Outcome ε β) = id := funext Outcome.map_id
  rwa [same] at leaves

/-- **A sort goes by the verdicts**, all the way down. -/
theorem foretold_sortInto (xs : List τ) (out : Buffer τ) :
    Foretold options.layout.align (Prod.map id Buffer.bare) (out.sortInto options xs : Run α κ τ _)
      (out.bare.sortInto options xs) := by
  induction xs, out using Buffer.sortInto.induct with
  | case1 xs out short =>
    rw [Buffer.sortInto, dif_pos short, Buffer.sortInto, dif_pos short]
    exact .bind (foretold_fill options.ops xs out) fun _ => .pure
  | case2 xs out long half ihLeft ihRight =>
    rw [Buffer.sortInto, dif_neg long, Buffer.sortInto, dif_neg long]
    refine .bind (foretold_allocate options.layout _) ?_
    rintro (e | left)
    · exact .pure
    refine .bind (foretold_allocate options.layout _) ?_
    rintro (e | right)
    · exact .bind (foretold_leave_id options left _) fun _ => .pure
    refine .bind (ihLeft left) ?_
    rintro ⟨o, left⟩
    refine .bind (foretold_proceed o right ihRight) ?_
    rintro ⟨o, right⟩
    refine .bind (foretold_proceed o out fun out =>
      .bind (foretold_merge options.ops left.toList right.toList out) fun _ => .pure) ?_
    rintro ⟨o, out⟩
    refine .bind (foretold_leave_id options right o) fun o => ?_
    exact .bind (foretold_leave_id options left o) fun o => .pure

theorem foretold_sorted (b : Buffer τ) :
    Foretold options.layout.align (Outcome.map Buffer.bare) (b.sorted options : Run α κ τ _)
      (b.bare.sorted options) := by
  refine .bind (foretold_allocate options.layout b.reserve) ?_
  rintro (e | out)
  · exact .pure
  refine .bind (foretold_sortInto options b.toList out) ?_
  rintro ⟨o, out⟩
  cases o with
  | done => exact .pure
  | refused e => exact foretold_leave options Buffer.bare out (.refused e)
  | unwound panic => exact foretold_leave options Buffer.bare out (.unwound panic)
  | aborted => exact .pure

end Operations

/-! ## 6. Operations on arrays -/

section Arrays

variable {align : Size} (options : ArrayOptions κ τ)

theorem foretold_append (x : τ) (b : Buffer τ) :
    Foretold align (Prod.map id Buffer.bare) (b.append options x : Run α κ τ _)
      (b.bare.append options x) := by
  by_cases full : b.length = b.reserve.toNat
  · have full' : b.bare.length = b.bare.reserve.toNat := full
    rw [Buffer.append, Buffer.append, if_pos full, if_pos full']
    exact .pure
  · have full' : ¬ b.bare.length = b.bare.reserve.toNat := full
    rw [Buffer.append, Buffer.append, if_neg full, if_neg full']
    exact .bind (foretold_place options.ops x b) fun _ => .pure

variable [Backend α]

theorem foretold_init (reserve count : Size) (seed : Option τ) :
    Foretold options.layout.align (Outcome.map Buffer.bare)
      (Buffer.init options reserve count seed : Run α κ τ _)
      (Buffer.init options reserve count seed) := by
  unfold Buffer.init
  by_cases zero : reserve = 0
  · rw [if_pos zero, if_pos zero]
    exact .pure
  rw [if_neg zero, if_neg zero]
  by_cases larger : reserve < count
  · rw [if_pos larger, if_pos larger]
    exact .pure
  rw [if_neg larger, if_neg larger]
  by_cases unseeded : count ≠ 0 ∧ seed.isNone
  · rw [if_pos unseeded, if_pos unseeded]
    exact .pure
  rw [if_neg unseeded, if_neg unseeded]
  refine .bind (foretold_allocate options.layout reserve) ?_
  rintro (source | b)
  · exact .bind (foretold_report _ _) fun _ => .pure
  refine .bind (foretold_fill options.ops _ b) ?_
  rintro ⟨panic | ⟨⟩, b⟩
  · exact foretold_leave options Buffer.bare b (.unwound panic)
  · exact .pure

theorem foretold_supersede (old fresh : Buffer τ) (event : Event) :
    Foretold align (Prod.map id Buffer.bare) (old.supersede options fresh event : Run α κ τ _)
      (old.bare.supersede options fresh.bare event) := by
  refine .bind (foretold_leave_id options old (.done ())) ?_
  rintro (⟨⟩ | error | panic | _)
  · exact .bind (foretold_report _ _) fun _ => .pure
  · exact .pure
  · exact .pure
  · exact .pure

theorem foretold_grow (reserve : Size) (b : Buffer τ) :
    Foretold options.layout.align (Prod.map id Buffer.bare) (b.grow options reserve : Run α κ τ _)
      (b.bare.grow options reserve) := by
  by_cases le : reserve ≤ b.reserve
  · have le' : reserve ≤ b.bare.reserve := le
    rw [Buffer.grow, Buffer.grow, if_pos le, if_pos le']
    exact .pure
  · have le' : ¬ reserve ≤ b.bare.reserve := le
    rw [Buffer.grow, Buffer.grow, if_neg le, if_neg le']
    refine .bind (foretold_allocate options.layout reserve) ?_
    rintro (source | fresh)
    · exact .bind (foretold_report _ _) fun _ => .pure
    refine .bind (foretold_fill options.ops b.toList fresh) ?_
    rintro ⟨panic | ⟨⟩, fresh⟩
    · exact .bind (foretold_leave_id options fresh _) fun _ => .pure
    · exact foretold_supersede options b fresh _

theorem foretold_sort (b : Buffer τ) :
    Foretold options.layout.align (Prod.map id Buffer.bare) (b.sort options : Run α κ τ _)
      (b.bare.sort options) := by
  by_cases empty : b.isEmpty
  · have empty' : b.bare.isEmpty := empty
    rw [Buffer.sort, Buffer.sort, if_pos empty, if_pos empty']
    exact .pure
  · have empty' : ¬ b.bare.isEmpty := empty
    rw [Buffer.sort, Buffer.sort, if_neg empty, if_neg empty']
    refine .bind (foretold_sorted options b) ?_
    rintro (fresh | source | panic | _)
    · exact foretold_supersede options b fresh _
    · exact .bind (foretold_report _ _) fun _ => .pure
    · exact .pure
    · exact .pure

end Arrays

/-! ## 7. Searches -/

section Searches

variable {align : Size} (ops : ElementOps κ τ)

theorem foretold_linear (key : τ) (xs : List τ) :
    Foretold align id
      (Search.linear (Buffer.probeHook ops key) xs : ExceptT Panic (Run α κ τ) _).run
      (Search.linear (Buffer.probeHook ops key) xs : ExceptT Panic (Run Oracle κ τ) _).run := by
  unfold Search.linear
  generalize 0 = start
  induction xs generalizing start with
  | nil => exact .pure
  | cons x xs ih =>
    refine .bind_except (foretold_compare ops x key) ?_
    intro o
    cases o with
    | eq => exact .pure
    | lt | gt => exact ih (start + 1)

theorem foretold_binary (key : τ) (xs : Array τ) :
    Foretold align id
      (Search.binary (Buffer.probeHook ops key) xs : ExceptT Panic (Run α κ τ) _).run
      (Search.binary (Buffer.probeHook ops key) xs : ExceptT Panic (Run Oracle κ τ) _).run := by
  have within (low high : Nat) (bound : high ≤ xs.size) : Foretold align id
      (Search.binaryWithin (Buffer.probeHook ops key) xs low high bound :
        ExceptT Panic (Run α κ τ) _).run
      (Search.binaryWithin (Buffer.probeHook ops key) xs low high bound :
        ExceptT Panic (Run Oracle κ τ) _).run := by
    induction low, high, bound using Search.binaryWithin.induct with
    | case1 low high bound window below above ihBelow ihAbove =>
      rw [Search.binaryWithin.eq_def _ _ low, Search.binaryWithin.eq_def _ _ low, dif_pos window,
        dif_pos window]
      refine .bind_except (foretold_compare ops _ key) ?_
      intro o
      cases o with
      | eq => exact .pure
      | gt => exact ihBelow
      | lt => exact ihAbove
    | case2 low high bound window =>
      rw [Search.binaryWithin, dif_neg window, Search.binaryWithin, dif_neg window]
      exact .pure
  exact within 0 xs.size (Nat.le_refl _)

theorem foretold_linearIndex (other : Option (τ → τ → Ordering)) (key : τ) (b : Buffer τ) :
    Foretold align id (b.linearIndex ops other key : Run α κ τ _)
      (b.bare.linearIndex ops other key) := by
  cases other with
  | none => exact foretold_linear ops key b.toList
  | some compare => exact .pure

theorem foretold_binaryIndex (key : τ) (b : Buffer τ) :
    Foretold align id (b.binaryIndex ops key : Run α κ τ _) (b.bare.binaryIndex ops key) :=
  foretold_binary ops key b.slots

end Searches

end ReservedArray
