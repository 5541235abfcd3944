/-
# Bytes in an arena are isolated

All blocks of an arena lie in one stretch of memory, and their holders write to it in any order.
Still each finds in his block what he last wrote there, or, after a resize, what he had in the
block before, as far as the new one reaches.  What he should find is written down beside each held
block (`Held.byte`), and only what is done with this one block changes it; that it does stand in
memory is `Held.FoundIn`.

It rests on how the blocks lie (`Arena.Laid`).  Two held blocks have no byte in common, so a write
to one is outside the other (`Occupancy.Isolated.apart`), and a new block lies behind all others,
so the copy of a resize neither meets its source nor another block (`Occupancy.Isolated.moved`).
-/
import ReservedArray.Proofs.Arena.Layout

namespace ReservedArray

open Workbench (ResizeWay)

/-! ## 1. What stands in a block -/

/-- What the holder of the block should find in it stands there. -/
def Held.FoundIn (h : Held) (memory : Memory) : Prop :=
  ∀ i < h.size.toNat, memory.byte (h.start + i) = h.byte i

/-- The bytes that the holder of the block should find in it. -/
def Held.bytes (h : Held) : List UInt8 := (List.range h.size.toNat).map h.byte

namespace Held.FoundIn

variable {h : Held} {memory : Memory}

theorem read_eq (found : h.FoundIn memory) : memory.read h.start h.size.toNat = h.bytes :=
  List.map_congr_left fun i inside => found i (List.mem_range.mp inside)

/-- What is written before or behind a block is not written to it. -/
theorem overwrite (found : h.FoundIn memory) {start length : Nat} {value : Nat → UInt8}
    (apart : h.stop ≤ start ∨ start + length ≤ h.start) :
    h.FoundIn (memory.overwrite start length value) := by
  intro i inside
  rw [Memory.byte_overwrite_outside, found i inside]
  unfold Span.stop at apart
  omega

theorem written (h : Held) (memory : Memory) (byte : Nat → UInt8) :
    { h with byte }.FoundIn (memory.overwrite h.start h.size.toNat byte) :=
  fun _ inside => Memory.byte_overwrite_inside inside

end Held.FoundIn

/-! ## 2. What every use keeps -/

/-- The held blocks are some of those issued, in the same order, and what should be found in each
of them is there. -/
structure Occupancy.Isolated (arena : Arena) (o : Occupancy) : Prop where
  laid : arena.Laid o.issued
  among : (o.held.map Held.toSpan).Sublist o.issued
  found : ∀ h ∈ o.held, h.FoundIn o.memory

namespace Occupancy.Isolated

variable {arena arena' : Arena} {o : Occupancy}

/-- **Two held blocks have no byte in common**: one of them ends before the other starts. -/
theorem apart (isolated : o.Isolated arena) {m n : Nat} {h k : Held} (first : o.held[m]? = some h)
    (second : o.held[n]? = some k) (distinct : m ≠ n) : h.stop ≤ k.start ∨ k.stop ≤ h.start := by
  have ordered := List.pairwise_map.mp (isolated.laid.ordered.sublist isolated.among)
  obtain ⟨hm, rfl⟩ := List.getElem?_eq_some_iff.mp first
  obtain ⟨hn, rfl⟩ := List.getElem?_eq_some_iff.mp second
  rw [List.pairwise_iff_getElem] at ordered
  rcases Nat.lt_or_gt_of_ne distinct with lt | gt
  · exact .inl (ordered m n hm hn lt)
  · exact .inr (ordered n m hn hm gt)

theorem gained {size : Size} {start : Address} (isolated : o.Isolated arena)
    (carves : Carves arena size (some start) arena') : (o.gain start size).Isolated arena' where
  laid := isolated.laid.carved carves
  among := by
    simp only [gain, List.map_append, List.map_cons, List.map_nil]
    exact isolated.among.append (.refl _)
  found := by
    simp only [gain, List.forall_mem_append, List.forall_mem_singleton]
    exact ⟨isolated.found, fun i _ => rfl⟩

/-- Writing to one block writes to no other. -/
theorem written {n : Nat} {h : Held} (isolated : o.Isolated arena) (there : o.held[n]? = some h)
    (byte : Nat → UInt8) : (o.write n h byte).Isolated arena where
  laid := isolated.laid
  among := by
    have same : (o.held.set n { h with byte }).map Held.toSpan = o.held.map Held.toSpan := by
      obtain ⟨hn, rfl⟩ := List.getElem?_eq_some_iff.mp there
      rw [List.map_set, ← List.getElem_map Held.toSpan (h := by simpa), List.set_getElem_self]
    simp only [write, same]
    exact isolated.among
  found := by
    intro k mem
    obtain ⟨m, place⟩ := List.mem_iff_getElem?.mp mem
    by_cases same : n = m
    · subst same
      rw [write, List.getElem?_set_self (List.getElem?_eq_some_iff.mp there).1] at place
      obtain rfl := Option.some.inj place
      exact .written h o.memory byte
    · rw [write, List.getElem?_set_ne same] at place
      have apart := isolated.apart place there (Ne.symm same)
      exact (isolated.found k (List.mem_of_getElem? place)).overwrite apart

/-- A block that is no longer held is no longer looked at. -/
theorem dropped (isolated : o.Isolated arena) (n : Nat) : (o.drop n).Isolated arena where
  laid := isolated.laid
  among := ((List.eraseIdx_sublist o.held n).map Held.toSpan).trans isolated.among
  found h mem := isolated.found h ((List.eraseIdx_sublist o.held n).mem mem)

/-- **A resize copies to where no block is.** -/
theorem moved {n : Nat} {h : Held} {size : Size} {fresh : Address} (isolated : o.Isolated arena)
    (there : o.held[n]? = some h) (carves : Carves arena size (some fresh) arena') :
    (o.replace n h (o.memory.copy h.start fresh (min h.size.toNat size.toNat)) fresh
      size).Isolated arena' where
  laid := isolated.laid.carved carves
  among := by
    simp only [replace, List.map_append, List.map_cons, List.map_nil]
    exact (isolated.dropped n).among.append (.refl _)
  found := by
    have behind := isolated.laid.stop_le_carved carves
    have old := isolated.found h (List.mem_of_getElem? there)
    simp only [replace, List.forall_mem_append, List.forall_mem_singleton]
    constructor
    · intro k mem
      have held := (List.eraseIdx_sublist o.held n).mem mem
      refine (isolated.found k held).overwrite (.inl ?_)
      exact behind k.toSpan (isolated.among.mem (List.mem_map_of_mem held))
    · intro i _
      by_cases both : i < min h.size.toNat size.toNat
      · simp only [if_pos both, Memory.copy, Memory.byte_overwrite_inside both]
        exact old i (by omega)
      · simp only [if_neg both]

theorem forgotten (isolated : o.Isolated arena) : o.forget.Isolated arena.reset.state :=
  ⟨isolated.laid.reset, .slnil, by simp [forget]⟩

end Occupancy.Isolated

theorem Course.isolated {arena arena' : Arena} {o o' : Occupancy} (h : Course arena o arena' o')
    (isolated : o.Isolated arena) : o'.Isolated arena' := by
  cases h with
  | idle => exact isolated
  | gained carves => exact isolated.gained carves
  | written byte there => exact isolated.written there byte
  | released => exact isolated.dropped _
  | moved there carves => exact isolated.moved there carves
  | forgotten => exact isolated.forgotten

/-! ## 3. Runs -/

namespace Session

variable {s : Stack}

/-- Every run over a new arena keeps its blocks apart and what is in them in place. -/
theorem isolated_run {t : Session s} {base size : Size} {config : ArenaConfig} {arena : Arena}
    (created : Arena.create base size config = .ok arena)
    (bottom : s.arena? t.allocator = some arena) (unused : t.issued = [] ∧ t.held = [])
    (uses : List Use) :
    ∃ a, s.arena? (t.run uses).allocator = some a ∧ (t.run uses).toOccupancy.Isolated a := by
  refine run_induction (fun isolated => isolated.laid.power) Course.isolated bottom ⟨?_, ?_, ?_⟩
    uses
  · rw [unused.1]
    exact (Arena.laid_of_create created).2
  · rw [unused.2]
    exact List.nil_sublist _
  · rw [unused.2]
    simp

/-- What a holder reads in the block that is held at this place. -/
def read (t : Session s) (n : Nat) : Option (List UInt8) :=
  t.held[n]?.map fun h => t.memory.read h.start h.size.toNat

/-- The use is a request for a block, new or resized, and there is none. -/
def Refuses (t : Session s) : Use → Prop
  | .request size => (request t.allocator size).answer.toOption = none
  | .allocate size => (Backend.allocate t.allocator size).answer = none
  | .resize way n size => ∃ h, t.held[n]? = some h ∧
      (resizeBy way t.allocator t.memory h.start h.size size).answer = none
  | _ => False

/-- What is refused changes neither a byte nor what is held. -/
theorem perform_of_refuses {t : Session s} {arena : Arena}
    (bottom : s.arena? t.allocator = some arena)
    (power : Size.isPowerOfTwo arena.alignment = true) {use : Use} (refuses : t.Refuses use) :
    (t.perform use).toOccupancy = t.toOccupancy := by
  cases use with
  | request size =>
    simp only [Refuses] at refuses
    simp only [perform, refuses, settle]
  | allocate size =>
    simp only [Refuses] at refuses
    simp only [perform, refuses, settle]
  | resize way n size =>
    obtain ⟨h, there, refused⟩ := refuses
    obtain ⟨arena', -, resizes⟩ :=
      Stack.resizes_resizeBy bottom power way t.memory h.start h.size size
    simp only [perform, onHeld, there]
    generalize resizeBy way t.allocator t.memory h.start h.size size = r at *
    obtain ⟨answer, ⟨a, memory⟩, events⟩ := r
    obtain rfl : answer = none := refused
    cases resizes with
    | refused => rfl
  | write | release | query | control | reset | budget => exact refuses.elim

end Session

/-- **Bytes in an arena are isolated.**  Whatever is done with an arena that was accepted, bare or
under any wrappers: a block that is still held has in it what its holder should find there; a
request or resize that is refused changes no byte of the memory and nothing of what is held; and
a resize that is not refused copies to behind the block it copies from. -/
theorem arena_bytes_isolated (s : Stack) (a : s.State) (base size : Size) (config : ArenaConfig)
    (arena : Arena) (created : Arena.create base size config = .ok arena)
    (bottom : s.arena? a = some arena) (memory : Memory) (uses : List Use) :
    let t := ({ memory, allocator := a } : Session s).run uses
    (∀ n, t.read n = t.held[n]?.map Held.bytes) ∧
    (∀ use, t.Refuses use → (t.perform use).toOccupancy = t.toOccupancy) ∧
    ∀ (way : ResizeWay) (n : Nat) (h : Held) (newSize : Size) (fresh : Address),
      t.held[n]? = some h →
      (resizeBy way t.allocator t.memory h.start h.size newSize).answer = some fresh →
      h.stop ≤ fresh := by
  intro t
  obtain ⟨arena', bottom', isolated⟩ := Session.isolated_run
    (t := { memory, allocator := a }) created bottom ⟨rfl, rfl⟩ uses
  refine ⟨?_, fun use => Session.perform_of_refuses bottom' isolated.laid.power, ?_⟩
  · intro n
    simp only [Session.read]
    cases there : t.held[n]? with
    | none => rfl
    | some h => exact congrArg some (isolated.found h (List.mem_of_getElem? there)).read_eq
  · intro way n h newSize fresh there answer
    obtain ⟨_, -, resizes⟩ :=
      Stack.resizes_resizeBy bottom' isolated.laid.power way t.memory h.start h.size newSize
    generalize resizeBy way t.allocator t.memory h.start h.size newSize = r at answer resizes
    obtain ⟨_, ⟨a', memory'⟩, events⟩ := r
    obtain rfl := answer
    cases resizes with
    | moved carves =>
      have issued := isolated.among.mem (List.mem_map_of_mem (List.mem_of_getElem? there))
      exact isolated.laid.stop_le_carved carves h.toSpan issued

/-- An arena under two wrappers, of which one serves only four requests. -/
def wrappedArena : (Stack.counting (.failing .arena)).State :=
  { inner := { inner := ⟨4110, 100, 0, 16⟩, budget := some 4 } }

/-- Two blocks in it are written to; the first one grows, and the second one is written to once
more. -/
def grownSession : Session (.counting (.failing .arena)) :=
  ({ memory := .zeroed, allocator := wrappedArena } : Session _).run
    [.allocate 3, .request 20, .write 0 fun i => (i + 1).toUInt8, .write 1 fun _ => 9,
      .resize .direct 0 5, .write 0 fun _ => 7]

/-- The block that grew has kept its bytes.  It cannot grow beyond the arena, which changes nothing,
and when it grows once more, it is copied to behind itself. -/
theorem arena_bytes_isolated_of_grown :
    Arena.create 4110 100 { alignment := 16 } = .ok ⟨4110, 100, 0, 16⟩ ∧
      grownSession.read 1 = some [1, 2, 3, 0, 0] ∧
      (grownSession.perform (.resize .direct 1 200)).toOccupancy = grownSession.toOccupancy ∧
      ∃ h, grownSession.held[1]? = some h ∧ h.start = 4160 ∧ h.size = 5 ∧ h.stop ≤ 4176 := by
  have there : ∃ h, grownSession.held[1]? = some h ∧ h.start = 4160 ∧ h.size = 5 :=
    ⟨_, rfl, by cbv, by cbv⟩
  obtain ⟨h, there, start, size⟩ := there
  have refused : grownSession.Refuses (.resize .direct 1 200) :=
    ⟨h, there, by rw [start, size]; cbv⟩
  have granted : (resizeBy .direct grownSession.allocator grownSession.memory h.start h.size
      8).answer = some 4176 := by
    rw [start, size]
    cbv
  obtain ⟨read, unchanged, behind⟩ :=
    arena_bytes_isolated _ wrappedArena 4110 100 { alignment := 16 } _ rfl rfl .zeroed _
  refine ⟨rfl, (read 1).trans (by cbv), unchanged _ refused, h, there, start, size, ?_⟩
  exact behind .direct 1 h 8 4176 there granted

end ReservedArray
