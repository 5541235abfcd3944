/-
# Working with arrays

The bench runs a script.  For a scope it makes options anew; when the scope ends, the arrays that
are left in their slots are torn down, the lowest slot first, and blocks held beside them are
given back.

What can be observed after a step is what the allocator shows, how often each hook was called so
far if hooks are in force, the calls of instrumented hooks in order, the ledger, and what was
reported.
-/
import ReservedArray.Registry
import ReservedArray.Workbench.Script

namespace ReservedArray.Workbench

/-! ## 1. The bench -/

/-- The environment, the arrays in their slots, and the blocks held beside them. -/
structure Bench (s : Stack) (τ : Type) where
  env : Env s.State Desk τ
  arrays : Registry (Buffer τ) := {}
  held : List (Address × Size) := []

/-- What can be counted at the desk. -/
def Desk.counts (d : Desk) : HookCounts where
  copies := d.copies.calls
  disposals := d.disposals.calls
  compares := d.compares.calls

/-- What stays the same in a session: the hooks, if there are any but the elements' own. -/
structure Setting where
  hooks : Option Hooks := none

/-- The hooks that are asked for; elements that only hooks can handle need all of them. -/
def Setting.of (τ : Type) [Element τ] (asked : Option Hooks) : Setting :=
  if Element.hooksOnly τ then { hooks := some (asked.getD {}).complete } else { hooks := asked }

namespace Bench

variable {s : Stack} {τ : Type} [Element τ]

/-- What can be observed now; the journal starts anew. -/
def observe (setting : Setting) (t : Bench s τ) : Observation τ × Bench s τ :=
  let desk := t.env.context
  let trace := t.env.trace
  ({ report := s.report t.env.allocator
     counts := setting.hooks.map fun _ => desk.counts
     log := trace.filter (setting.hooks.elim (fun _ => false) Hooks.logs)
     ledger := desk.ledger
     events := Entry.events trace },
    { t with env := { t.env with journal := #[] } })

/-- A computation in the environment of the bench. -/
def run {β : Type} (t : Bench s τ) (c : Run s.State Desk τ β) : β × Bench s τ :=
  let (value, env) := StateT.run c t.env
  (value, { t with env })

/-- The ledger is written to from outside the hooks. -/
def note (t : Bench s τ) (f : Ledger → Ledger) : Bench s τ :=
  { t with
    env :=
      { t.env with context := { t.env.context with ledger := f t.env.context.ledger } } }

/-- Elements that exist only during a step: they are made before it and dropped after it. -/
def withElements {β : Type} (n : Nat) (t : Bench s τ) (f : Bench s τ → β × Bench s τ) :
    β × Bench s τ :=
  let (value, t) := f (t.note (Element.noteMade τ n))
  (value, t.note (Element.noteDrops τ n))

/-! ## 2. Steps -/

/-- The result of an operation that gives nothing back. -/
def resultOf (done : Result τ) : Outcome ArrayError Unit → Result τ
  | .done () => done
  | .refused e => .refused e
  | .unwound panic => .panicked panic.message
  | .aborted => .aborted

/-- The result of tearing something down. -/
def resultOfCall (done : Result τ) : Except Panic Unit → Result τ
  | .ok () => done
  | .error panic => .panicked panic.message

/-- A new array goes into the slot; one that was there is torn down afterwards. -/
def put (options : ArrayOptions Desk τ) (slot : Nat) (t : Bench s τ) :
    Outcome ArrayError (Buffer τ) → Result τ × Bench s τ
  | .done b =>
    let previous := t.arrays.get? slot
    let t := { t with arrays := t.arrays.insert slot b }
    match previous with
    | none => (.nothing, t)
    | some old =>
      let (torn, t) := t.run (old.teardown options)
      (resultOfCall .nothing torn, t)
  | .refused e => (.refused e, t)
  | .unwound panic => (.panicked panic.message, t)
  | .aborted => (.aborted, t)

/-- An operation on an array, which may replace it. -/
def update (slot : Nat) (t : Bench s τ)
    (c : Run s.State Desk τ (Outcome ArrayError Unit × Buffer τ)) : Result τ × Bench s τ :=
  let ((outcome, b), t) := t.run c
  (resultOf .settled outcome, { t with arrays := t.arrays.insert slot b })

/-- A search for an index, and then again for the element. -/
def search (t : Bench s τ) (b : Buffer τ) (index : Run s.State Desk τ (Except Panic (Option Nat))) :
    Result τ × Bench s τ :=
  let (first, t) := t.run index
  match first with
  | .error panic => (.panicked panic.message, t)
  | .ok i =>
    let (second, t) := t.run index
    match second with
    | .error panic => (.panicked panic.message, t)
    | .ok j => (.found i (b.found j), t)

/-- Elements are appended one by one; each is made just before its turn. -/
def extend (options : ArrayOptions Desk τ) (slot : Nat) (xs : List τ) (b : Buffer τ)
    (t : Bench s τ) : Result τ × Bench s τ :=
  let ((count, outcome, b), t) := t.run (b.extend options xs)
  let tried := min (count + 1) xs.length
  let t := t.note fun l => Element.noteDrops τ tried (Element.noteMade τ tried l)
  let t := { t with arrays := t.arrays.insert slot b }
  match outcome with
  | .done () => (.extended count none, t)
  | .refused e => (.extended count (some e), t)
  | .unwound panic => (.panicked panic.message, t)
  | .aborted => (.aborted, t)

/-- How the operations show themselves, with the calls counted by their context. -/
def showOps (setting : Setting) (desk : Desk) : String :=
  match setting.hooks with
  | none => "DefaultOps"
  | some _ =>
    let context : Inspect := .tuple "Ctx" [.number desk.copies.calls, .number desk.disposals.calls]
    (Inspect.record "CustomOps" [("context", context)] true).line ++ " " ++ context.line

/-- A step about an array that is there. -/
def onArray (options : ArrayOptions Desk τ) (slot : Nat) (b : Buffer τ) (t : Bench s τ) :
    Action τ → Result τ × Bench s τ
  | .append x => t.withElements 1 (update slot · (b.append options x))
  | .extend xs => t.extend options slot xs b
  | .grow reserve => t.update slot (b.grow options reserve)
  | .sort => t.update slot (b.sort options)
  | .linearSearch key other =>
    t.withElements 1 (search · b (b.linearIndex options.ops (other.map Criterion.compare) key))
  | .binarySearch key => t.withElements 1 (search · b (b.binaryIndex options.ops key))
  | .get i => (.element (b.get? i), t)
  | .set i x =>
    t.withElements 1 fun t =>
      (.flag (i < b.length), { t with arrays := t.arrays.insert slot (b.set i x) })
  | .reverse => (.nothing, { t with arrays := t.arrays.insert slot b.reverse })
  | .elements => (.elements b.toList, t)
  | .info => (.info b.length b.isEmpty b.reserve options.layout.size, t)
  | .render stacked =>
    let shown := b.inspect Element.inspect
    (.text (if stacked then shown.block else shown.line), t)
  | .drop =>
    let (torn, t) := { t with arrays := t.arrays.erase slot }.run (b.teardown options)
    (resultOfCall .nothing torn, t)
  | _ => (.unsupported, t)

/-- One step. -/
def step (setting : Setting) (options : ArrayOptions Desk τ) (t : Bench s τ) (p : Step τ) :
    Result τ × Bench s τ :=
  match p.action with
  | .init reserve count seed =>
    t.withElements (if seed.isSome then 1 else 0) fun t =>
      let (outcome, t) := t.run (Buffer.init options reserve count seed)
      t.put options p.slot outcome
  | .withReserve reserve =>
    let (outcome, t) := t.run (Buffer.withReserve options reserve)
    t.put options p.slot outcome
  | .hold size =>
    let (answer, t) := t.run (Env.obtain size)
    match answer with
    | .ok block => (.nothing, { t with held := t.held ++ [(block, size)] })
    | .error e => (.refusedByAllocator e, t)
  | .query key =>
    match Allocator.query t.env.allocator key with
    | .ok n => (.number n, t)
    | .error e => (.refusedByAllocator e, t)
  | .control key =>
    match (Allocator.control (Shared.mk t.env.allocator) key).answer with
    | .ok n => (.number n, t)
    | .error e => (.refusedByAllocator e, t)
  | .budget budget =>
    match s.setBudget? budget t.env.allocator with
    | none => (.unsupported, t)
    | some allocator => (.nothing, { t with env := { t.env with allocator } })
  | .arm kind after =>
    (.nothing, { t with env := { t.env with context := t.env.context.arm kind after } })
  | .showOps => (.text (showOps setting t.env.context), t)
  | action =>
    match t.arrays.get? p.slot with
    | none => (.noArray, t)
    | some b => t.onArray options p.slot b action

/-- The steps in order, each with what is observed after it. -/
def steps (setting : Setting) (options : ArrayOptions Desk τ) (t : Bench s τ) :
    List (Step τ) → List (Answer τ) × Bench s τ
  | [] => ([], t)
  | p :: rest =>
    let (result, t) := t.step setting options p
    let (observed, t) := t.observe setting
    let (answers, last) := steps setting options t rest
    ({ result, observed, array := t.arrays.get? p.slot } :: answers, last)

/-! ## 3. Scopes and scripts -/

/-- The arrays are torn down in order; tells what the panics said. -/
def tearDownAll (options : ArrayOptions Desk τ) (t : Bench s τ) :
    List (Buffer τ) → List String × Bench s τ
  | [] => ([], t)
  | b :: rest =>
    let (torn, t) := t.run (b.teardown options)
    let (panics, t) := tearDownAll options t rest
    match torn with
    | .ok () => (panics, t)
    | .error panic => (panic.message :: panics, t)

/-- The blocks beside the arrays are given back. -/
def giveBackAll (t : Bench s τ) : List (Address × Size) → Bench s τ
  | [] => t
  | (block, size) :: rest => giveBackAll (t.run (Env.giveBack block size)).2 rest

/-- A scope is left. -/
def close (options : ArrayOptions Desk τ) (t : Bench s τ) : List String × Bench s τ :=
  let (panics, t) := tearDownAll options { t with arrays := {} } t.arrays.values
  (panics, giveBackAll { t with held := [] } t.held)

/-- The operations of arrays in the session. -/
def opsOf (setting : Setting) : ElementOps Desk τ := (setting.hooks.getD {}).ops

/-- An order to the allocator between scopes. -/
def order (t : Bench s τ) (r : Reply s.State (Except AllocError Size)) : Result τ × Bench s τ :=
  let (answer, t) := t.run (Env.absorb r)
  match answer with
  | .ok n => (.number n, t)
  | .error e => (.refusedByAllocator e, t)

/-- A reset of a bare arena between scopes. -/
def reset (t : Bench s τ) : Result τ × Bench s τ :=
  match s.reset? t.env.allocator with
  | none => (.unsupported, t)
  | some r => (.nothing, (t.run (Env.absorb r)).2)

/-- One item of a script. -/
def item (setting : Setting) (t : Bench s τ) : Item τ → ItemAnswer τ × Bench s τ
  | .control key =>
    let (result, t) := t.order (Allocator.control t.env.allocator key)
    let (observed, t) := t.observe setting
    (.ordered result observed, t)
  | .reset =>
    let (result, t) := t.reset
    let (observed, t) := t.observe setting
    (.ordered result observed, t)
  | .scope script =>
    match ArrayOptions.create t.env.allocator (Element.layout τ) (opsOf setting) with
    | .error e =>
      let (observed, t) := t.observe setting
      (.refused e observed, t)
    | .ok options =>
      let alignment := Allocator.alignment t.env.allocator
      let shown := (options.inspect t.env.allocator).line
      let (answers, t) := t.steps setting options script
      let (panics, t) := t.close options
      let (observed, t) := t.observe setting
      (.scope options.layout.size alignment shown answers panics observed, t)

/-- The items in order. -/
def items (setting : Setting) (t : Bench s τ) : List (Item τ) → List (ItemAnswer τ)
  | [] => []
  | i :: rest =>
    let (answer, t) := t.item setting i
    answer :: items setting t rest

end Bench

/-- The answers of a session with the stack of a recipe, or why there is no such stack. -/
def runArrays {τ : Type} [Element τ] (r : Recipe) (asked : Option Hooks) (script : List (Item τ)) :
    Except AllocError (List (ItemAnswer τ)) := do
  let allocator ← r.create
  let setting := Setting.of τ asked
  let env : Env r.stack.State Desk τ := { allocator, context := {} }
  return ({ env : Bench r.stack τ } : Bench r.stack τ).items setting script

end ReservedArray.Workbench
