/-
# Working with an arena's blocks

An `Occupancy` is what the holder of blocks sees: the memory, the blocks issued since the last
reset, and those of them that are still held, each with the bytes that its holder should find in
it.  A `Session` is an allocator with an occupancy; a run of it is a list of `Use`s, each of them a
call to the allocator or a write, in any order and with any sizes.

What a use over an arena comes to is a `Course`, and there are six of them, whatever wrappers lie
above the arena (`Session.course_perform`).  So a property of the arena and of what was made of its
blocks holds in every run when it holds at first and all six courses keep it
(`Session.run_induction`).
-/
import ReservedArray.Proofs.Arena.Bottom

namespace ReservedArray

open Workbench (ResizeWay)

variable {s : Stack}

/-! ## 1. Blocks in memory -/

/-- A stretch of memory that was handed out. -/
structure Span where
  start : Address
  size : Size
deriving DecidableEq

/-- The first address behind it. -/
def Span.stop (b : Span) : Nat := b.start + b.size.toNat

/-- A block that is held, with the bytes that its holder should find in it. -/
structure Held extends Span where
  byte : Nat → UInt8

/-- The memory, the blocks issued since the last reset in the order of issue, and those of them
that are held. -/
structure Occupancy where
  memory : Memory
  issued : List Span := []
  held : List Held := []

namespace Occupancy

/-- A new block is issued.  Whatever stands in it is what its holder should find. -/
def gain (o : Occupancy) (start : Address) (size : Size) : Occupancy :=
  { o with
    issued := o.issued ++ [{ start, size }]
    held := o.held ++ [{ start, size, byte := fun i => o.memory.byte (start + i) }] }

/-- All bytes of a held block are written. -/
def write (o : Occupancy) (n : Nat) (h : Held) (byte : Nat → UInt8) : Occupancy :=
  { o with
    memory := o.memory.overwrite h.start h.size.toNat byte
    held := o.held.set n { h with byte } }

/-- A block is not held any more. -/
def drop (o : Occupancy) (n : Nat) : Occupancy := { o with held := o.held.eraseIdx n }

/-- A new block takes the place of a held one.  Its holder should find the old bytes in it, as many
as both blocks hold; behind them stands whatever the memory has. -/
def replace (o : Occupancy) (n : Nat) (h : Held) (memory : Memory) (start : Address)
    (size : Size) : Occupancy :=
  { memory
    issued := o.issued ++ [{ start, size }]
    held := o.held.eraseIdx n ++ [{
      start, size
      byte := fun i =>
        if i < min h.size.toNat size.toNat then h.byte i else memory.byte (start + i) }] }

/-- After a reset no block is out. -/
def forget (o : Occupancy) : Occupancy := { o with issued := [], held := [] }

end Occupancy

/-! ## 2. Sessions -/

/-- What is done with an allocator and its blocks.  A block is named by its place among the blocks
that are held; where there is none, nothing happens. -/
inductive Use where
  /-- A block by way of `request`. -/
  | request (size : Size)
  /-- A block from the allocator itself, which may be empty. -/
  | allocate (size : Size)
  /-- All bytes of a block are written. -/
  | write (n : Nat) (byte : Nat → UInt8)
  | release (n : Nat)
  | resize (way : ResizeWay) (n : Nat) (size : Size)
  /-- A question, which changes nothing. -/
  | query (key : ControlKey)
  /-- An order, or a question asked as an order. -/
  | control (key : ControlKey)
  /-- The arena's own reset. -/
  | reset
  | budget (budget : Option Nat)

/-- An allocator, and what was made of its blocks. -/
structure Session (s : Stack) extends Occupancy where
  allocator : s.State

namespace Session

/-- The answer to a request is taken over. -/
def settle (t : Session s) (allocator : s.State) (size : Size) : Option Address → Session s
  | none => { t with allocator }
  | some start => { t.gain start size with allocator }

/-- One use of a block that is held. -/
def onHeld (t : Session s) (n : Nat) (use : Held → Session s) : Session s :=
  match t.held[n]? with
  | none => t
  | some h => use h

/-- One use. -/
def perform (t : Session s) : Use → Session s
  | .request size =>
    let r := ReservedArray.request t.allocator size
    t.settle r.state size r.answer.toOption
  | .allocate size =>
    let r := Backend.allocate t.allocator size
    t.settle r.state size r.answer
  | .write n byte => t.onHeld n fun h => { t.write n h byte with allocator := t.allocator }
  | .release n =>
    t.onHeld n fun h =>
      { t.drop n with allocator := Backend.release t.allocator h.start h.size }
  | .resize way n size =>
    t.onHeld n fun h =>
      let r := resizeBy way t.allocator t.memory h.start h.size size
      match r.answer with
      | none => { t with allocator := r.state.1, memory := r.state.2 }
      | some fresh => { t.replace n h r.state.2 fresh size with allocator := r.state.1 }
  | .query _ => t
  | .control key =>
    let r := Allocator.control t.allocator key
    if key = .reset ∧ r.answer.toBool then { t.forget with allocator := r.state }
    else { t with allocator := r.state }
  | .reset =>
    match s.reset? t.allocator with
    | none => t
    | some r => { t.forget with allocator := r.state }
  | .budget budget =>
    match s.setBudget? budget t.allocator with
    | none => t
    | some allocator => { t with allocator }

/-- The uses in order. -/
def run (t : Session s) (uses : List Use) : Session s := uses.foldl perform t

end Session

/-! ## 3. The courses of a use -/

/-- What a use over an arena comes to, with nothing left of the wrappers. -/
inductive Course (arena : Arena) (o : Occupancy) : Arena → Occupancy → Prop
  | idle : Course arena o arena o
  | gained {size : Size} {start : Address} {arena' : Arena} :
      Carves arena size (some start) arena' → Course arena o arena' (o.gain start size)
  | written {n : Nat} {h : Held} (byte : Nat → UInt8) : o.held[n]? = some h →
      Course arena o arena (o.write n h byte)
  | released {n : Nat} {h : Held} : o.held[n]? = some h → Course arena o arena (o.drop n)
  | moved {n : Nat} {h : Held} {size : Size} {fresh : Address} {arena' : Arena} :
      o.held[n]? = some h → Carves arena size (some fresh) arena' →
      Course arena o arena' (o.replace n h
        (o.memory.copy h.start fresh (min h.size.toNat size.toNat)) fresh size)
  | forgotten : Course arena o arena.reset.state o.forget

section Courses

variable {arena : Arena} {t : Session s}

theorem Session.course_settle {arena' : Arena} {a : s.State} {size : Size}
    {answer : Option Address} (bottom : s.arena? a = some arena')
    (carves : Carves arena size answer arena') :
    ∃ arena', s.arena? (t.settle a size answer).allocator = some arena' ∧
      Course arena t.toOccupancy arena' (t.settle a size answer).toOccupancy := by
  cases answer with
  | none =>
    cases carves
    exact ⟨arena, bottom, .idle⟩
  | some start => exact ⟨arena', bottom, .gained carves⟩

/-- **Every use takes one of the courses.** -/
theorem Session.course_perform (bottom : s.arena? t.allocator = some arena)
    (power : Size.isPowerOfTwo arena.alignment = true) (use : Use) :
    ∃ arena', s.arena? (t.perform use).allocator = some arena' ∧
      Course arena t.toOccupancy arena' (t.perform use).toOccupancy := by
  have onHeld (n : Nat) {f : Held → Session s} (used : ∀ h, t.held[n]? = some h →
      ∃ arena', s.arena? (f h).allocator = some arena' ∧
        Course arena t.toOccupancy arena' (f h).toOccupancy) :
      ∃ arena', s.arena? (t.onHeld n f).allocator = some arena' ∧
        Course arena t.toOccupancy arena' (t.onHeld n f).toOccupancy := by
    unfold Session.onHeld
    cases there : t.held[n]? with
    | none => exact ⟨arena, bottom, .idle⟩
    | some h => exact used h there
  cases use with
  | request size =>
    obtain ⟨arena', bottom', carves⟩ := Stack.carves_request bottom power size
    exact course_settle bottom' carves
  | allocate size =>
    obtain ⟨arena', bottom', carves⟩ := Stack.carves_allocate bottom power size
    exact course_settle bottom' carves
  | write n byte => exact onHeld n fun h there => ⟨arena, bottom, .written byte there⟩
  | release n =>
    exact onHeld n fun h there =>
      ⟨arena, (Stack.arena?_release _ _ _).trans bottom, .released there⟩
  | resize way n size =>
    refine onHeld n fun h there => ?_
    obtain ⟨arena', bottom', resizes⟩ :=
      Stack.resizes_resizeBy bottom power way t.memory h.start h.size size
    generalize resizeBy way t.allocator t.memory h.start h.size size = r at *
    obtain ⟨answer, ⟨a, memory⟩, events⟩ := r
    cases resizes with
    | refused => exact ⟨arena, bottom', .idle⟩
    | moved carves => exact ⟨arena', bottom', .moved there carves⟩
  | query key => exact ⟨arena, bottom, .idle⟩
  | control key =>
    have after := Stack.arena?_control bottom key
    simp only [perform]
    split
    · rename_i ordered
      rw [if_pos ordered] at after
      exact ⟨_, after, .forgotten⟩
    · rename_i other
      rw [if_neg other] at after
      exact ⟨_, after, .idle⟩
  | reset =>
    simp only [perform]
    cases done : s.reset? t.allocator with
    | none => exact ⟨arena, bottom, .idle⟩
    | some r => exact ⟨_, Stack.arena?_reset? bottom done, .forgotten⟩
  | budget budget =>
    simp only [perform]
    cases done : s.setBudget? budget t.allocator with
    | none => exact ⟨arena, bottom, .idle⟩
    | some a => exact ⟨arena, (Stack.arena?_setBudget? done).trans bottom, .idle⟩

/-- **From one use to all of them**: what every course keeps, every run keeps. -/
theorem Session.run_induction {P : Arena → Occupancy → Prop}
    (power : ∀ {arena o}, P arena o → Size.isPowerOfTwo arena.alignment = true)
    (keeps : ∀ {arena arena' o o'}, Course arena o arena' o' → P arena o → P arena' o')
    (bottom : s.arena? t.allocator = some arena) (first : P arena t.toOccupancy)
    (uses : List Use) :
    ∃ arena', s.arena? (t.run uses).allocator = some arena' ∧
      P arena' (t.run uses).toOccupancy := by
  induction uses generalizing t arena with
  | nil => exact ⟨arena, bottom, first⟩
  | cons use uses ih =>
    obtain ⟨arena', bottom', course⟩ := course_perform bottom (power first) use
    exact ih bottom' (keeps course first)

end Courses

end ReservedArray
