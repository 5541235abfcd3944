/-
# Elements that are seen through a map

An array knows nothing about its elements but what its hooks make of them.  So when the elements of
one array have more to them than those of another, and the hooks take no notice of it, the two
arrays go through the same calls: this is `Seen`, for two computations over the same allocator.  It
is true of single calls, it is kept by `Seen.bind`, and from there it goes through the operations
one by one, as far as growing and sorting.

What it is for is to give elements marks (`Marked`).  Copies can be equal to their originals, and
then no trace tells which of them a hook was called with.  With a mark in every original, and none
in any copy, it does; and since no hook sees the marks, what is true of the marked array is true of
the array without them (`Seen.calls_eq`).
-/
import Mathlib
import ReservedArray.Buffer.Array
import ReservedArray.Proofs.Course.Buffer
import ReservedArray.Proofs.Holdings
import ReservedArray.Proofs.Interchange.Foretold

namespace ReservedArray

variable {α κ τ σ ε β β' γ γ' : Type}

/-! ## 1. What is seen -/

/-- The hooks make of elements what `seen` makes of that which is seen of them. -/
structure ElementOps.Shows (f : σ → τ) (ops : ElementOps κ σ) (seen : ElementOps κ τ) : Prop where
  copy : ∀ x c, seen.copy (f x) c = ((ops.copy x c).1.map f, (ops.copy x c).2)
  dispose : ∀ x, seen.dispose (f x) = ops.dispose x
  compare : ∀ x y, seen.compare (f x) (f y) = ops.compare x y

/-- Options of arrays, one of which sees of the elements what the hooks of the other do to them. -/
structure ArrayOptions.Shows (f : σ → τ) (options : ArrayOptions κ σ)
    (view : ArrayOptions κ τ) : Prop where
  layout : view.layout = options.layout
  ops : options.ops.Shows f view.ops

/-- What is seen of a buffer. -/
def Buffer.seen (f : σ → τ) (b : Buffer σ) : Buffer τ := { b with slots := b.slots.map f }

@[simp] theorem Buffer.toList_seen (f : σ → τ) (b : Buffer σ) :
    (b.seen f).toList = b.toList.map f := by
  simp [seen, toList]

@[simp] theorem Buffer.length_seen (f : σ → τ) (b : Buffer σ) : (b.seen f).length = b.length := by
  simp [seen, length]

attribute [ext] Env

/-- What is seen of an environment, with the calls that were made in it. -/
def Env.seen (f : σ → τ) (e : Env α κ σ) : Env α κ τ :=
  { allocator := e.allocator, context := e.context, journal := e.journal.map (Entry.map f) }

theorem Env.trace_seen (f : σ → τ) (e : Env α κ σ) :
    (e.seen f).trace = e.trace.map (Entry.map f) := by
  simp [seen, trace]

/-- Wherever they are run, `c'` does to what is seen of the environment just what `c` does to it. -/
def Seen (f : σ → τ) (g : β → γ) (c : Run α κ σ β) (c' : Run α κ τ γ) : Prop :=
  ∀ e : Env α κ σ, c'.run (e.seen f) = (g (c.run e).1, (c.run e).2.seen f)

namespace Seen

variable {f : σ → τ} {g : β → γ} {c : Run α κ σ β} {c' : Run α κ τ γ}

theorem pure {v : β} : Seen f g (Pure.pure v : Run α κ σ β) (Pure.pure (g v)) :=
  fun _ => rfl

/-- **One computation after the other.** -/
theorem bind {k : β → Run α κ σ β'} {k' : γ → Run α κ τ γ'} {h : β' → γ'} (hc : Seen f g c c')
    (hk : ∀ v, Seen f h (k v) (k' (g v))) : Seen f h (c >>= k) (c' >>= k') := by
  intro e
  have first := hc e
  have second := hk (c.run e).1 (c.run e).2
  show (k' (c'.run (e.seen f)).1).run (c'.run (e.seen f)).2 = _
  rw [first]
  exact second

/-- It is enough to compare the values, the parts of the environments and the calls. -/
theorem of_calls {t : Env α κ σ → List (Entry σ)} {t' : Env α κ τ → List (Entry τ)}
    (value : ∀ e : Env α κ σ, (c'.run (e.seen f)).1 = g (c.run e).1)
    (allocator : ∀ e : Env α κ σ, (c'.run (e.seen f)).2.allocator = (c.run e).2.allocator)
    (context : ∀ e : Env α κ σ, (c'.run (e.seen f)).2.context = (c.run e).2.context)
    (trace : ∀ e, (c.run e).2.trace = e.trace ++ t e)
    (trace' : ∀ e, (c'.run e).2.trace = e.trace ++ t' e)
    (calls : ∀ e : Env α κ σ, t' (e.seen f) = (t e).map (Entry.map f)) : Seen f g c c' := by
  intro e
  refine Prod.ext (value e) (Env.ext (allocator e) (context e) (Array.ext' ?_))
  calc
    _ = (e.seen f).trace ++ t' (e.seen f) := trace' _
    _ = (c.run e).2.trace.map (Entry.map f) := by
      rw [calls, trace, Env.trace_seen, List.map_append]
    _ = _ := (Env.trace_seen f _).symm

/-- The value is what is seen of the value. -/
theorem value_eq (h : Seen f g c c') (e : Env α κ σ) : (c'.run (e.seen f)).1 = g (c.run e).1 := by
  rw [h e]

/-- **The calls are what is seen of the calls.** -/
theorem calls_eq (h : Seen f g c c') (e : Env α κ σ) :
    (e.seen f).calls c' = (e.calls c).map (Entry.map f) := by
  rw [Env.calls, Env.calls, h e, Env.trace_seen, Env.trace_seen, List.length_map, List.map_drop]

end Seen

/-! ## 2. Single calls -/

section Single

variable {f : σ → τ} {ops : ElementOps κ σ} {seen : ElementOps κ τ}

theorem seen_copy (shows : ops.Shows f seen) (x : σ) :
    Seen f (Except.map f) (Env.copy ops x : Run α κ σ _) (Env.copy seen (f x)) := by
  have answer (e : Env α κ σ) : seen.copy (f x) (e.seen f).context =
      ((ops.copy x e.context).1.map f, (ops.copy x e.context).2) := shows.copy x e.context
  refine .of_calls ?_ (fun _ => rfl) ?_ (Env.trace_copy ops x) (Env.trace_copy seen (f x)) ?_
  · intro e
    exact congrArg Prod.fst (answer e)
  · intro e
    exact congrArg Prod.snd (answer e)
  · intro e
    rw [answer]
    cases (ops.copy x e.context).1 <;> rfl

theorem seen_dispose (shows : ops.Shows f seen) (x : σ) :
    Seen f id (Env.dispose ops x : Run α κ σ _) (Env.dispose seen (f x)) := by
  have answer (e : Env α κ σ) : seen.dispose (f x) (e.seen f).context =
      ops.dispose x e.context := congrFun (shows.dispose x) e.context
  refine .of_calls ?_ (fun _ => rfl) ?_ (Env.trace_dispose ops x) (Env.trace_dispose seen (f x)) ?_
  · intro e
    exact congrArg Prod.fst (answer e)
  · intro e
    exact congrArg Prod.snd (answer e)
  · intro e
    rw [answer]
    rfl

theorem seen_compare (shows : ops.Shows f seen) (x y : σ) :
    Seen f id (Env.compare ops x y : Run α κ σ _) (Env.compare seen (f x) (f y)) := by
  have answer (e : Env α κ σ) : seen.compare (f x) (f y) (e.seen f).context =
      ops.compare x y e.context := congrFun (shows.compare x y) e.context
  refine .of_calls ?_ (fun _ => rfl) ?_ (Env.trace_compare ops x y)
    (Env.trace_compare seen (f x) (f y)) ?_
  · intro e
    exact congrArg Prod.fst (answer e)
  · intro e
    exact congrArg Prod.snd (answer e)
  · intro e
    rw [answer]
    rfl

theorem seen_report (event : Event) :
    Seen f id (Env.report event : Run α κ σ _) (Env.report event) :=
  .of_calls (fun _ => rfl) (fun _ => rfl) (fun _ => rfl) (Env.trace_report · event)
    (Env.trace_report · event) fun _ => rfl

theorem map_entriesOf (f : σ → τ) (size : Size) (r : Reply α (Except AllocError Address)) :
    (Env.entriesOf size r).map (Entry.map f) = Env.entriesOf size r := by
  unfold Env.entriesOf
  split
  · rfl
  · simp [Entry.map]

variable [Backend α]

theorem seen_giveBack (block : Address) (size : Size) :
    Seen f id (Env.giveBack block size : Run α κ σ _) (Env.giveBack block size) :=
  .of_calls (fun _ => rfl) (fun _ => rfl) (fun _ => rfl) (Env.trace_giveBack · size block)
    (Env.trace_giveBack · size block) fun _ => rfl

theorem seen_obtain (size : Size) :
    Seen f id (Env.obtain size : Run α κ σ _) (Env.obtain size) :=
  .of_calls (fun _ => rfl) (fun _ => rfl) (fun _ => rfl) (Env.trace_obtain · size)
    (Env.trace_obtain · size) fun e => (map_entriesOf f size (request e.allocator size)).symm

end Single

/-! ## 3. Operations on one buffer -/

section Operations

variable {f : σ → τ} {ops : ElementOps κ σ} {seen : ElementOps κ τ}

theorem seen_place (shows : ops.Shows f seen) (x : σ) (b : Buffer σ) :
    Seen f (Prod.map id (Buffer.seen f)) (b.place ops x : Run α κ σ _)
      ((b.seen f).place seen (f x)) := by
  refine .bind (seen_copy shows x) ?_
  rintro (panic | y)
  · exact .pure
  · have pushed : (b.seen f).push (f y) = (b.push y).map (Buffer.seen f) := by
      unfold Buffer.push
      by_cases free : b.slots.size < b.reserve.toNat
      · rw [if_pos free, if_pos (by simpa [Buffer.seen] using free)]
        simp [Buffer.seen, Except.map]
      · rw [if_neg free, if_neg (by simpa [Buffer.seen] using free)]
        rfl
    simp only [Except.map, pushed]
    cases b.push y with
    | error panic => exact .pure
    | ok b => exact .pure

theorem seen_fill (shows : ops.Shows f seen) (xs : List σ) (b : Buffer σ) :
    Seen f (Prod.map id (Buffer.seen f)) (b.fill ops xs : Run α κ σ _)
      ((b.seen f).fill seen (xs.map f)) := by
  induction xs generalizing b with
  | nil => exact .pure
  | cons x xs ih =>
    refine .bind (seen_place shows x b) ?_
    rintro ⟨panic | ⟨⟩, b⟩
    · exact .pure
    · exact ih b

theorem seen_disposeAll (shows : ops.Shows f seen) (xs : List σ) :
    Seen f id (Buffer.disposeAll ops xs : Run α κ σ _) (Buffer.disposeAll seen (xs.map f)) := by
  induction xs with
  | nil => exact .pure
  | cons x xs ih =>
    refine .bind (seen_dispose shows x) ?_
    rintro (panic | ⟨⟩)
    · exact .pure
    · exact ih

theorem seen_merge (shows : ops.Shows f seen) (xs ys : List σ) (b : Buffer σ) :
    Seen f (Prod.map id (Buffer.seen f)) (b.merge ops xs ys : Run α κ σ _)
      ((b.seen f).merge seen (xs.map f) (ys.map f)) := by
  induction xs, ys, b using Buffer.merge.induct with
  | case1 x xs y ys b ihRight ihLeft =>
    rw [List.map_cons, List.map_cons, Buffer.merge, Buffer.merge]
    refine .bind (seen_compare shows x y) ?_
    rintro (panic | o)
    · exact .pure
    · cases o with
      | lt | eq =>
        refine .bind (seen_place shows x b) ?_
        rintro ⟨panic | ⟨⟩, b⟩
        · exact .pure
        · exact ihLeft b
      | gt =>
        refine .bind (seen_place shows y b) ?_
        rintro ⟨panic | ⟨⟩, b⟩
        · exact .pure
        · exact ihRight b
  | case2 xs ys b short =>
    have filled : Seen f _ (b.fill ops (xs ++ ys) : Run α κ σ _) _ := seen_fill shows (xs ++ ys) b
    rw [List.map_append] at filled
    cases xs with
    | nil => simpa [Buffer.merge] using filled
    | cons x xs =>
      cases ys with
      | nil => simpa [Buffer.merge] using filled
      | cons y ys => exact (short x xs y ys rfl rfl).elim

theorem seen_proceed (outcome : Outcome ε Unit) (b : Buffer σ)
    {next : Buffer σ → Run α κ σ (Outcome ε Unit × Buffer σ)}
    {next' : Buffer τ → Run α κ τ (Outcome ε Unit × Buffer τ)}
    (hnext : ∀ b, Seen f (Prod.map id (Buffer.seen f)) (next b) (next' (b.seen f))) :
    Seen f (Prod.map id (Buffer.seen f)) (b.proceed outcome next)
      ((b.seen f).proceed outcome next') := by
  cases outcome with
  | done => exact hnext b
  | refused | unwound | aborted => exact .pure

variable [Backend α]

theorem seen_allocate (layout : Layout) (reserve : Size) :
    Seen f (Except.map (Buffer.seen f)) (Buffer.allocate layout reserve : Run α κ σ _)
      (Buffer.allocate layout reserve) := by
  unfold Buffer.allocate
  cases Size.mul? reserve layout.size with
  | none => exact .pure
  | some bytes =>
    refine .bind (seen_obtain bytes) ?_
    rintro (error | block)
    · exact .pure
    · by_cases aligned : block % layout.align.toNat = 0
      · have fresh : ({ block, reserve, slots := #[] } : Buffer τ) =
            Buffer.seen f { block, reserve, slots := #[] } := by
          simp [Buffer.seen]
        simp only [id, if_pos aligned, fresh]
        exact .pure
      · simp only [id, if_neg aligned]
        exact .bind (seen_giveBack _ _) fun _ => .pure

variable {options : ArrayOptions κ σ} {view : ArrayOptions κ τ}

theorem seen_teardown (shows : options.Shows f view) (b : Buffer σ) :
    Seen f id (b.teardown options : Run α κ σ _) ((b.seen f).teardown view) := by
  unfold Buffer.teardown
  rw [Buffer.toList_seen]
  refine .bind (seen_disposeAll shows.ops b.toList) ?_
  rintro (panic | ⟨⟩)
  · exact .pure
  · have bytes : (b.seen f).bytes view.layout = b.bytes options.layout := by
      rw [shows.layout]
      rfl
    simp only [id, bytes]
    exact .bind (seen_giveBack _ _) fun _ => .pure

theorem seen_leave (shows : options.Shows f view) (g : β → γ) (b : Buffer σ)
    (outcome : Outcome ε β) :
    Seen f (Outcome.map g) (b.leave options outcome : Run α κ σ _)
      ((b.seen f).leave view (outcome.map g)) := by
  cases outcome with
  | aborted => exact .pure
  | done | refused | unwound =>
    refine .bind (seen_teardown shows b) ?_
    rintro (panic | ⟨⟩)
    · exact .pure
    · exact .pure

theorem seen_leave_id (shows : options.Shows f view) (b : Buffer σ) (outcome : Outcome ε β) :
    Seen f id (b.leave options outcome : Run α κ σ _) ((b.seen f).leave view outcome) := by
  have leaves : Seen f (Outcome.map id) (b.leave options outcome : Run α κ σ _) _ :=
    seen_leave shows id b outcome
  have same : (Outcome.map id : Outcome ε β → Outcome ε β) = id := funext Outcome.map_id
  rwa [same] at leaves

/-- **A sort takes no notice of what is not seen**, all the way down. -/
theorem seen_sortInto (shows : options.Shows f view) (xs : List σ) (out : Buffer σ) :
    Seen f (Prod.map id (Buffer.seen f)) (out.sortInto options xs : Run α κ σ _)
      ((out.seen f).sortInto view (xs.map f)) := by
  induction xs, out using Buffer.sortInto.induct with
  | case1 xs out short =>
    have short' : (xs.map f).length ≤ 1 := by rwa [List.length_map]
    rw [Buffer.sortInto, dif_pos short, Buffer.sortInto, dif_pos short']
    exact .bind (seen_fill shows.ops xs out) fun _ => .pure
  | case2 xs out long half ihLeft ihRight =>
    have long' : ¬ (xs.map f).length ≤ 1 := by rwa [List.length_map]
    rw [Buffer.sortInto, dif_neg long, Buffer.sortInto, dif_neg long']
    simp only [List.length_map, ← List.map_take, ← List.map_drop, shows.layout]
    refine .bind (seen_allocate options.layout _) ?_
    rintro (e | left)
    · exact .pure
    refine .bind (seen_allocate options.layout _) ?_
    rintro (e | right)
    · exact .bind (seen_leave_id shows left _) fun _ => .pure
    refine .bind (ihLeft left) ?_
    rintro ⟨o, left⟩
    refine .bind (seen_proceed o right ihRight) ?_
    rintro ⟨o, right⟩
    refine .bind (seen_proceed o out fun out => ?_) ?_
    · have merged : Seen f _ (out.merge options.ops left.toList right.toList : Run α κ σ _) _ :=
        seen_merge shows.ops left.toList right.toList out
      rw [← Buffer.toList_seen, ← Buffer.toList_seen] at merged
      exact .bind merged fun _ => .pure
    rintro ⟨o, out⟩
    refine .bind (seen_leave_id shows right o) fun o => ?_
    exact .bind (seen_leave_id shows left o) fun o => .pure

theorem seen_sorted (shows : options.Shows f view) (b : Buffer σ) :
    Seen f (Outcome.map (Buffer.seen f)) (b.sorted options : Run α κ σ _)
      ((b.seen f).sorted view) := by
  unfold Buffer.sorted
  rw [Buffer.toList_seen, shows.layout]
  refine .bind (seen_allocate options.layout b.reserve) ?_
  rintro (e | out)
  · exact .pure
  refine .bind (seen_sortInto shows b.toList out) ?_
  rintro ⟨o, out⟩
  cases o with
  | done => exact .pure
  | refused e => exact seen_leave shows (Buffer.seen f) out (.refused e)
  | unwound panic => exact seen_leave shows (Buffer.seen f) out (.unwound panic)
  | aborted => exact .pure

/-! ## 4. Operations that replace the buffer -/

theorem seen_supersede (shows : options.Shows f view) (old fresh : Buffer σ) {event event' : Event}
    (same : event' = event) :
    Seen f (Prod.map id (Buffer.seen f)) (old.supersede options fresh event : Run α κ σ _)
      ((old.seen f).supersede view (fresh.seen f) event') := by
  subst same
  refine .bind (seen_leave_id shows old (.done ())) ?_
  rintro (⟨⟩ | error | panic | _)
  · exact .bind (seen_report _) fun _ => .pure
  · exact .pure
  · exact .pure
  · exact .pure

/-- **Growing takes no notice of what is not seen.** -/
theorem seen_grow (shows : options.Shows f view) (reserve : Size) (b : Buffer σ) :
    Seen f (Prod.map id (Buffer.seen f)) (b.grow options reserve : Run α κ σ _)
      ((b.seen f).grow view reserve) := by
  unfold Buffer.grow
  by_cases le : reserve ≤ b.reserve
  · have le' : reserve ≤ (b.seen f).reserve := le
    rw [if_pos le, if_pos le']
    exact .pure
  · have le' : ¬ reserve ≤ (b.seen f).reserve := le
    rw [if_neg le, if_neg le', Buffer.toList_seen, shows.layout]
    refine .bind (seen_allocate options.layout reserve) ?_
    rintro (source | fresh)
    · exact .bind (seen_report _) fun _ => .pure
    refine .bind (seen_fill shows.ops b.toList fresh) ?_
    rintro ⟨panic | ⟨⟩, fresh⟩
    · exact .bind (seen_leave_id shows fresh _) fun _ => .pure
    · exact seen_supersede shows b fresh (congrArg _ (Buffer.length_seen f fresh))

/-- **Sorting takes no notice of what is not seen.** -/
theorem seen_sort (shows : options.Shows f view) (b : Buffer σ) :
    Seen f (Prod.map id (Buffer.seen f)) (b.sort options : Run α κ σ _)
      ((b.seen f).sort view) := by
  have empty_iff : (b.seen f).isEmpty = b.isEmpty := by
    simp [Buffer.isEmpty, Buffer.seen, Array.isEmpty]
  unfold Buffer.sort
  rw [empty_iff]
  by_cases empty : b.isEmpty
  · rw [if_pos empty, if_pos empty]
    exact .pure
  · rw [if_neg empty, if_neg empty, Buffer.length_seen]
    refine .bind (seen_sorted shows b) ?_
    rintro (fresh | source | panic | _)
    · exact seen_supersede shows b fresh (congrArg _ (Buffer.length_seen f fresh))
    · exact .bind (seen_report _) fun _ => .pure
    · exact .pure
    · exact .pure

end Operations

/-! ## 5. Marks -/

/-- An element with a mark, which tells from which slot it is, if it is an original. -/
structure Marked (τ : Type) where
  element : τ
  origin : Option Nat

/-- An element that is not an original. -/
def Marked.plain (x : τ) : Marked τ := { element := x, origin := none }

/-- The hooks see no marks.  A copy is not an original, whatever it is a copy of. -/
def ElementOps.marked (ops : ElementOps κ τ) : ElementOps κ (Marked τ) where
  copy x context :=
    ((ops.copy x.element context).1.map Marked.plain, (ops.copy x.element context).2)
  dispose x := ops.dispose x.element
  compare x y := ops.compare x.element y.element

theorem ElementOps.shows_marked (ops : ElementOps κ τ) : ops.marked.Shows Marked.element ops where
  copy x c := by
    have back (r : Except Panic τ) : (r.map Marked.plain).map Marked.element = r := by
      cases r <;> rfl
    exact Prod.ext (back _).symm rfl
  dispose _ := rfl
  compare _ _ := rfl

def ArrayOptions.marked (options : ArrayOptions κ τ) : ArrayOptions κ (Marked τ) :=
  { layout := options.layout, ops := options.ops.marked }

theorem ArrayOptions.shows_marked (options : ArrayOptions κ τ) :
    options.marked.Shows Marked.element options :=
  ⟨rfl, options.ops.shows_marked⟩

/-- Every element is marked as the original in its slot. -/
def Buffer.marked (b : Buffer τ) : Buffer (Marked τ) :=
  { b with slots := b.slots.mapIdx fun i x => { element := x, origin := some i } }

@[simp] theorem Buffer.length_marked (b : Buffer τ) : b.marked.length = b.length := by
  simp [marked, length]

@[simp] theorem Buffer.seen_marked (b : Buffer τ) : b.marked.seen Marked.element = b := by
  refine ext_toList rfl rfl (List.ext_getElem (by simp) ?_)
  intro i _ _
  simp [marked, seen, toList]

/-- **The marks are the slots, in order**, so no two originals have the same mark. -/
theorem Buffer.origins_marked (b : Buffer τ) :
    b.marked.toList.map Marked.origin = (List.range b.length).map some := by
  refine List.ext_getElem (by simp) ?_
  intro i _ _
  simp [marked, toList]

/-- The same environment, for marked elements.  No call so far was with an original. -/
def Env.marked (e : Env α κ τ) : Env α κ (Marked τ) := e.seen Marked.plain

@[simp] theorem Env.seen_marked (e : Env α κ τ) : e.marked.seen Marked.element = e := by
  have back : Entry.map Marked.element ∘ Entry.map (Marked.plain (τ := τ)) = id := by
    funext q
    cases q with
    | copy x result => cases result <;> rfl
    | dispose | compare | allocate | release | report => rfl
  refine Env.ext rfl rfl ?_
  simp [marked, seen, back]

end ReservedArray
