/-
# A roster of tracked values

Tracked values are made, copied, compared and dropped under numbers of the caller's choosing,
and the ledger is shown after every step.
-/
import ReservedArray.Element.Basic
import ReservedArray.Registry

namespace ReservedArray.Workbench

/-- A step with values of a roster. -/
inductive RosterStep where
  | make (id : Nat) (x : Tracked)
  | drop (id : Nat)
  | clone (id source : Nat)
  | compare (id other : Nat)
  | inspect (id : Nat)

/-- The result of a step. -/
inductive RosterResult where
  | nothing
  /-- Whether the value was there. -/
  | held (there : Bool)
  | ordering (o : Ordering)
  | text (shown : String)

/-- The values that are held and the ledger they belong to. -/
structure Roster where
  ledger : Ledger := {}
  held : Registry Tracked := {}

namespace Roster

/-- A new value takes the place of the one under the number, which is dropped. -/
def put (r : Roster) (id : Nat) (x : Tracked) : Roster :=
  { ledger := if (r.held.get? id).isSome then r.ledger.drop 1 else r.ledger
    held := r.held.insert id x }

/-- One step. -/
def step (r : Roster) : RosterStep → RosterResult × Roster
  | .make id x => (.nothing, { r with ledger := r.ledger.make 1 }.put id x)
  | .drop id =>
    match r.held.get? id with
    | none => (.held false, r)
    | some _ => (.held true, { ledger := r.ledger.drop 1, held := r.held.erase id })
  | .clone id source =>
    match r.held.get? source with
    | none => (.held false, r)
    | some x => (.held true, { r with ledger := r.ledger.copy }.put id x)
  | .compare id other =>
    match r.held.get? id, r.held.get? other with
    | some x, some y => (.ordering (x.order y), r)
    | _, _ => (.nothing, r)
  | .inspect id =>
    match r.held.get? id with
    | none => (.nothing, r)
    | some x => (.text x.inspect.line, r)

/-- Every value that is still held is dropped. -/
def close (r : Roster) : Roster :=
  { ledger := r.ledger.drop r.held.entries.length, held := {} }

/-- The results of the steps with the ledger after each, and the roster at the end. -/
def run (r : Roster) : List RosterStep → List (RosterResult × Ledger) × Roster
  | [] => ([], r.close)
  | step :: rest =>
    let (result, r) := r.step step
    let (results, last) := run r rest
    ((result, r.ledger) :: results, last)

end Roster

end ReservedArray.Workbench
