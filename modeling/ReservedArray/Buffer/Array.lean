/-
# Arrays

The operations on an array.  An array never grows by itself: its slots are reserved when it is
made, `append` fills them, and only `grow` reserves more.

`grow` and `sort` build a second buffer and leave the first alone until the second is complete.
Only then does it take the array's place, and the first is torn down.  So an operation that is
refused, or unwound by a copy or a comparison, leaves the array as it was; and one that is
unwound by the teardown of the first buffer leaves the second in place.
-/
import ReservedArray.Buffer.Sort
import ReservedArray.Search
import ReservedArray.Status

namespace ReservedArray

/-! ## 1. Options -/

namespace ArrayOptions

variable {α κ τ : Type}

/-- The options of arrays over an allocator, if it can hold such elements. -/
def create [Allocator α] (allocator : α) (layout : Layout) (ops : ElementOps κ τ) :
    Except ArrayError (ArrayOptions κ τ) := do
  layout.supportedUnder (Allocator.alignment allocator)
  return { layout, ops }

/-- The allocator's alignment is shown beside the size of an element; the operations are not. -/
def inspect [Allocator α] (allocator : α) (options : ArrayOptions κ τ) : Inspect :=
  .record "ArrayOptions"
    [("element_size", .number options.layout.size.toNat),
      ("alignment", .number (Allocator.alignment allocator).toNat)] true

end ArrayOptions

namespace Buffer

variable {α κ τ : Type}

/-! ## 2. Making an array and filling it -/

/-- An array with `count` copies of the seed in its first slots. -/
def init [Backend α] (options : ArrayOptions κ τ) (reserve count : Size) (seed : Option τ) :
    Run α κ τ (Outcome ArrayError (Buffer τ)) := do
  if reserve = 0 then return .refused .zeroReserve
  else if reserve < count then return .refused (.countExceedsReserve count reserve)
  else if count ≠ 0 ∧ seed.isNone then return .refused .missingSeed
  else
    match ← allocate options.layout reserve with
    | .error source =>
      Env.report (.initAllocationFailed reserve source)
      return .refused (.initAllocation source)
    | .ok b =>
      match ← b.fill options.ops (seed.elim [] (List.replicate count.toNat)) with
      | (.ok (), b) => return .done b
      | (.error panic, b) => b.leave options (.unwound panic)

/-- An array with no elements yet. -/
def withReserve [Backend α] (options : ArrayOptions κ τ) (reserve : Size) :
    Run α κ τ (Outcome ArrayError (Buffer τ)) :=
  init options reserve 0 none

/-- A copy of the element goes into the first free slot, if there is one. -/
def append (options : ArrayOptions κ τ) (x : τ) (b : Buffer τ) :
    Run α κ τ (Outcome ArrayError Unit × Buffer τ) := do
  if b.length = b.reserve.toNat then return (.refused (.noReserve b.reserve), b)
  else return ended (← b.place options.ops x)

/-- Copies of the elements are appended until one is refused or panics; tells how many were. -/
def extend (options : ArrayOptions κ τ) :
    List τ → Buffer τ → Run α κ τ (Nat × Outcome ArrayError Unit × Buffer τ)
  | [], b => return (0, .done (), b)
  | x :: rest, b => do
    match ← b.append options x with
    | (.done (), b) =>
      let (count, outcome, b) ← extend options rest b
      return (count + 1, outcome, b)
    | (stopped, b) => return (0, stopped, b)

/-! ## 3. Replacing its buffer -/

/-- A complete buffer takes the place of an old one, which is torn down; then that is reported. -/
def supersede [Backend α] (options : ArrayOptions κ τ) (old fresh : Buffer τ) (event : Event) :
    Run α κ τ (Outcome ArrayError Unit × Buffer τ) := do
  match ← old.leave options (.done ()) with
  | .done () =>
    Env.report event
    return (.done (), fresh)
  | stopped => return (stopped, fresh)

/-- More slots are reserved; the elements are copied over. -/
def grow [Backend α] (options : ArrayOptions κ τ) (reserve : Size) (b : Buffer τ) :
    Run α κ τ (Outcome ArrayError Unit × Buffer τ) := do
  if reserve ≤ b.reserve then return (.refused (.shrinkRejected reserve b.reserve), b)
  else
    match ← allocate options.layout reserve with
    | .error source =>
      Env.report (.growAllocationFailed b.reserve reserve source)
      return (.refused (.growAllocation source), b)
    | .ok fresh =>
      match ← fresh.fill options.ops b.toList with
      | (.ok (), fresh) => b.supersede options fresh (.arrayGrown reserve fresh.length)
      | (.error panic, fresh) => return (← fresh.leave options (.unwound panic), b)

/-- The elements are put in ascending order; those that compare equal keep theirs. -/
def sort [Backend α] (options : ArrayOptions κ τ) (b : Buffer τ) :
    Run α κ τ (Outcome ArrayError Unit × Buffer τ) := do
  if b.isEmpty then return (.refused .sortEmpty, b)
  else
    match ← b.sorted options with
    | .done fresh => b.supersede options fresh (.arraySorted fresh.length)
    | .refused source =>
      Env.report (.sortAllocationFailed b.length source)
      return (.refused (.sortAllocation source), b)
    | .unwound panic => return (.unwound panic, b)
    | .aborted => return (.aborted, b)

/-! ## 4. Searching it -/

/-- A comparison by the hook, which stops the search when it panics. -/
def probeHook (ops : ElementOps κ τ) (key x : τ) : ExceptT Panic (Run α κ τ) Ordering :=
  ExceptT.mk (Env.compare ops x key)

/-- Where the first element equal to the key is, by the hook or by another comparison. -/
def linearIndex (ops : ElementOps κ τ) (other : Option (τ → τ → Ordering)) (key : τ)
    (b : Buffer τ) : Run α κ τ (Except Panic (Option Nat)) :=
  match other with
  | some compare => return .ok (Id.run (Search.linear (fun x => pure (compare x key)) b.toList))
  | none => (Search.linear (probeHook ops key) b.toList).run

/-- Where an element equal to the key is, in an array sorted by the same hook. -/
def binaryIndex (ops : ElementOps κ τ) (key : τ) (b : Buffer τ) :
    Run α κ τ (Except Panic (Option Nat)) :=
  (Search.binary (probeHook ops key) b.slots).run

/-- The element that a search finds. -/
def found (b : Buffer τ) (index : Option Nat) : Option τ := index.bind b.get?

/-! ## 5. From a list -/

/-- The elements are appended to an array made for just as many, or for one if there are none. -/
def ofList [Backend α] (options : ArrayOptions κ τ) (xs : List τ) :
    Run α κ τ (Outcome ArrayError (Buffer τ)) := do
  match ← withReserve options (max 1 xs.length).toUInt64 with
  | .done b =>
    let (_, outcome, b) ← b.extend options xs
    match outcome with
    | .done () => return .done b
    | .refused e => b.leave options (.refused e)
    | .unwound panic => b.leave options (.unwound panic)
    | .aborted => return .aborted
  | stopped => return stopped

end Buffer

end ReservedArray
