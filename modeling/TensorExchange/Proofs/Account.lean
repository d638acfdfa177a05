import Mathlib.Data.Multiset.Count
import Mathlib.Data.Multiset.Filter
import Mathlib.Order.Bounds.Basic
import TensorExchange.Memory.Account
import TensorExchange.Proofs.Ownership.Journal
import TensorExchange.Proofs.Refusal
import TensorExchange.Proofs.Release

/-!
Accounts: the counters of a backend and the memory that it has out.

A backend counts what it hands out and what it takes back.  It knows nothing of views,
capsules and tensors, which share one piece of memory among many things, nor of storages
whose memory is another storage.  So there are two ways to say how much memory is out:

    what the counters say    the journal of the heap, folded event by event
    what is there            the allocations behind the storages in the heap, and those
                             that clients have in their hands

Main statement (`Session.accounted_run`): after every command, with any number of
allocators on an account, both say the same: how many allocations are live and how large
they are together.  The peak is the most that was live at any moment on the way, and not
only between two commands, since a copy takes memory and may give it back again within
one command.  So the statement is about courses: a `Course` lists the worlds that
elementary moves went through, the states between commands are among them, and the peak is
the greatest number of live bytes on any course that leads there.

The first half needs no new invariant: the books of `Proofs/Ownership` say of each
allocation how often it was handed out and taken back, and a multiset is known by its
counts.  For the second, a move records one event at most (`Proofs/Ownership/Journal`), so
what is out changes only by that event, and the peak with it (`World.Tallied.move`).

Requests that are refused cost nothing because they leave the session as it was, and
buffers without bytes because their storage has no owner.
-/

namespace TensorExchange

/-! ## What is live -/

/-- The memory that an owner gives back to a backend. -/
def Owner.allocation? : Owner → Option Allocation
  | backend a => some a
  | adopted _ | imported _ | nobody => none

/-- Memory of a backend that a client has in its hands. -/
def Thing.allocation? : Thing → Option Allocation
  | allocation a => some a
  | buffer _ | capsule _ | tensor _ => none

theorem Keeper.stakes_allocation (keeper : Keeper) (a : Allocation) :
    keeper.stakes (.allocation a) = 0 := by
  cases keeper with
  | exported b => simp [stakes, Buffer.stakes, Resource.stake_apply]
  | runtime n deletes => cases deletes <;> simp [stakes, Resource.stake_apply]
  | nobody => rfl

theorem Contents.stakes_allocation (c : Contents) (a : Allocation) :
    c.stakes (.allocation a) = 0 := by
  unfold stakes
  split
  · simp [Buffer.stakes, Resource.stake_apply]
  · exact Keeper.stakes_allocation ..
  · rfl
  · rfl

theorem Owner.stakes_allocation (owner : Owner) (a : Allocation) :
    owner.stakes (.allocation a) = if owner.allocation? = some a then 1 else 0 := by
  cases owner with
  | backend a' => simp [stakes, allocation?, Resource.stake_apply, eq_comm]
  | adopted block => simp [stakes, allocation?, Resource.stake_apply]
  | imported t => exact t.keeper.stakes_allocation a
  | nobody => rfl

theorem Thing.stakes_allocation (x : Thing) (a : Allocation) :
    x.stakes (.allocation a) = if x.allocation? = some a then 1 else 0 := by
  cases x with
  | buffer b => simp [stakes, allocation?, Buffer.stakes, Resource.stake_apply]
  | capsule c => exact c.contents.stakes_allocation a
  | tensor t => exact t.keeper.stakes_allocation a
  | allocation a' => simp [stakes, allocation?, Resource.stake_apply, eq_comm]

/-- The memory of backends behind the storages, once for each storage. -/
def Heap.backing (h : Heap) : Multiset Allocation :=
  h.holdings.cells.filterMap fun c => c.bind fun x => x.owner.allocation?

/-- The memory of backends that clients have in their hands. -/
def World.direct (w : World) : Multiset Allocation := w.things.filterMap Thing.allocation?

/-- All memory that backends have out. -/
def World.memory (w : World) : Multiset Allocation := w.heap.backing + w.direct

theorem Heap.count_backing (h : Heap) (a : Allocation) :
    h.backing.count a = h.holdings.owned (.allocation a) := by
  simp only [backing, Multiset.coe_count, Table.owned_apply, Table.total]
  induction h.holdings.cells with
  | nil => rfl
  | cons c rest ih =>
    rw [List.filterMap_cons, List.map_cons, List.sum_cons, ← ih]
    cases c with
    | none => simp
    | some x =>
      rw [Option.elim_some, x.owner.stakes_allocation, Option.bind_some]
      cases hx : x.owner.allocation? with
      | none => simp
      | some a' => simp [List.count_cons, Nat.add_comm]

theorem World.count_direct (w : World) (a : Allocation) :
    w.direct.count a = World.held w.things (.allocation a) := by
  unfold direct
  induction w.things using Multiset.induction with
  | empty => rfl
  | cons x rest ih =>
    rw [held_cons, Pi.add_apply, x.stakes_allocation, ← ih]
    cases hx : x.allocation? with
    | none => simp [Multiset.filterMap_cons_none _ _ hx]
    | some a' =>
      rw [Multiset.filterMap_cons_some _ _ _ hx, Multiset.count_cons]
      simp [eq_comm]

theorem World.Balanced.count_memory {w : World} (b : w.Balanced) (a : Allocation) :
    w.heap.journal.count (.allocated a) = w.heap.journal.count (.freed a) + w.memory.count a := by
  rw [b.memory.returned a, memory, Multiset.count_add, w.heap.count_backing, w.count_direct,
    Heap.stakes, Pi.add_apply, Nat.add_comm (w.heap.holdings.owned _)]

/-- The memory that an event hands out, if any. -/
def Event.handedOut : Event → Multiset Allocation
  | allocated a => {a}
  | freed _ | lent .. | deleted _ => 0

/-- The memory that an event takes back, if any. -/
def Event.takenBack : Event → Multiset Allocation
  | freed a => {a}
  | allocated _ | lent .. | deleted _ => 0

theorem Event.count_allocated_cons (e : Event) (journal : List Event) (a : Allocation) :
    (e :: journal).count (.allocated a) =
      journal.count (.allocated a) + e.handedOut.count a := by
  cases e <;> simp [handedOut, List.count_cons, Multiset.count_singleton, @eq_comm _ a]

theorem Event.count_freed_cons (e : Event) (journal : List Event) (a : Allocation) :
    (e :: journal).count (.freed a) = journal.count (.freed a) + e.takenBack.count a := by
  cases e <;> simp [takenBack, List.count_cons, Multiset.count_singleton, @eq_comm _ a]

theorem World.Balanced.memory_of_cons {w w' : World} {e : Event} (b : w.Balanced)
    (b' : w'.Balanced) (hj : w'.heap.journal = e :: w.heap.journal) :
    w'.memory + e.takenBack = w.memory + e.handedOut := by
  refine Multiset.ext.mpr fun a => ?_
  have hbefore := b.count_memory a
  have hafter := b'.count_memory a
  rw [hj, e.count_allocated_cons, e.count_freed_cons] at hafter
  simp only [Multiset.count_add]
  omega

theorem World.Balanced.memory_of_same {w w' : World} (b : w.Balanced) (b' : w'.Balanced)
    (hj : w'.heap.journal = w.heap.journal) : w'.memory = w.memory := by
  refine Multiset.ext.mpr fun a => ?_
  have hbefore := b.count_memory a
  have hafter := b'.count_memory a
  rw [hj] at hafter
  omega

/-! ## Counters -/

theorem Heap.stats_congr {h h' : Heap} (same : h'.journal = h.journal) (account : Nat) :
    h'.stats account = h.stats account := by
  rw [stats, same]
  rfl

theorem Heap.stats_of_cons {h h' : Heap} {e : Event} (hj : h'.journal = e :: h.journal)
    (account : Nat) : h'.stats account = (h.stats account).next account e := by
  rw [stats, hj]
  rfl

/-- The part of some memory that is on an account. -/
def onAccount (account : Nat) (memory : Multiset Allocation) : Multiset Allocation :=
  memory.filter (·.backend.account = account)

/-- How many bytes some memory has. -/
def bytesOf (memory : Multiset Allocation) : Nat := (memory.map Allocation.size).sum

@[simp] theorem onAccount_add (account : Nat) (m m' : Multiset Allocation) :
    onAccount account (m + m') = onAccount account m + onAccount account m' :=
  Multiset.filter_add ..

@[simp] theorem bytesOf_add (m m' : Multiset Allocation) :
    bytesOf (m + m') = bytesOf m + bytesOf m' := by
  simp [bytesOf]

/-- What an event does to the counters.  They go down by what is taken back after they went up by
what is handed out, but no event does both. -/
structure Stats.Steps (account : Nat) (e : Event) (s s' : Stats) : Prop where
  allocations : s'.allocations = s.allocations + (onAccount account e.handedOut).card
  deallocations : s'.deallocations = s.deallocations + (onAccount account e.takenBack).card
  liveBytes : s'.liveBytes = s.liveBytes + bytesOf (onAccount account e.handedOut) -
    bytesOf (onAccount account e.takenBack)
  peakBytes : s.liveBytes ≤ s.peakBytes → s'.peakBytes = max s.peakBytes s'.liveBytes

theorem Stats.steps_next (account : Nat) (s : Stats) (e : Event) :
    Steps account e s (s.next account e) := by
  cases e with
  | allocated a =>
    by_cases h : a.backend.account = account <;>
      constructor <;> simp [next, h, Event.handedOut, Event.takenBack, onAccount, bytesOf,
        Multiset.filter_singleton]
  | freed a =>
    by_cases h : a.backend.account = account <;>
      constructor <;> simp [next, h, Event.handedOut, Event.takenBack, onAccount, bytesOf,
        Multiset.filter_singleton]
    omega
  | lent n deletes =>
    constructor <;> simp [next, Event.handedOut, Event.takenBack, onAccount, bytesOf]
  | deleted n => constructor <;> simp [next, Event.handedOut, Event.takenBack, onAccount, bytesOf]

namespace World

/-- The memory on an account that is out. -/
def live (w : World) (account : Nat) : Multiset Allocation := onAccount account w.memory

/-- The counters of an account say what is out. -/
structure Tallied (account : Nat) (w : World) : Prop where
  count : (w.heap.stats account).allocations =
    (w.heap.stats account).deallocations + (w.live account).card
  bytes : (w.heap.stats account).liveBytes = bytesOf (w.live account)
  peak : (w.heap.stats account).liveBytes ≤ (w.heap.stats account).peakBytes

/-- After a move the counters still say what is out, and the peak is the larger of what it was and
what is out now. -/
theorem Tallied.move {account : Nat} {w w' : World} (k : w.Tallied account) (b : w.Balanced)
    (m : Move w w') : w'.Tallied account ∧ (w'.heap.stats account).peakBytes =
      max (w.heap.stats account).peakBytes (bytesOf (w'.live account)) := by
  rcases m.noted with hj | ⟨e, hj⟩
  case inl =>
    have hlive : w'.live account = w.live account :=
      congrArg _ (b.memory_of_same (m.balanced b) hj)
    have hstats := Heap.stats_congr hj account
    have hbytes := k.bytes
    have hpeak := k.peak
    exact ⟨⟨by rw [hstats, hlive]; exact k.count, by rw [hstats, hlive]; exact k.bytes,
      by rw [hstats]; exact k.peak⟩, by rw [hstats, hlive]; omega⟩
  case inr =>
    have hstats := Heap.stats_of_cons hj account
    have hsteps := Stats.steps_next account (w.heap.stats account) e
    rw [← hstats] at hsteps
    have hlive := congrArg (onAccount account) (b.memory_of_cons (m.balanced b) hj)
    simp only [onAccount_add] at hlive
    have hcard := congrArg Multiset.card hlive
    have hsize := congrArg bytesOf hlive
    simp only [Multiset.card_add, bytesOf_add] at hcard hsize
    have hcount := k.count
    have hbytes := k.bytes
    have hpeak := hsteps.peakBytes k.peak
    have hbytes' : (w'.heap.stats account).liveBytes = bytesOf (w'.live account) := by
      rw [hsteps.liveBytes, hbytes, live, live]
      omega
    refine ⟨⟨?_, hbytes', ?_⟩, ?_⟩
    · rw [hsteps.allocations, hsteps.deallocations, hcount, live, live]
      omega
    · omega
    · rw [hpeak, hbytes']

end World

/-! ## Courses -/

/-- A world that moves lead to from the empty one, with those passed before, the latest first. -/
inductive Course : List World → World → Prop
  | start (m) : Course [] ⟨.empty m, 0, 0⟩
  | move {earlier : List World} {w w' : World} (course : Course earlier w) (m : Move w w') :
    Course (w :: earlier) w'

namespace Course

variable {earlier : List World} {w w' : World}

theorem moves (course : Course earlier w) (m : Moves w w') :
    ∃ passed, Course passed w' ∧ w :: earlier ⊆ w' :: passed := by
  induction m with
  | refl => exact ⟨earlier, course, List.Subset.refl _⟩
  | @tail w₁ w₂ _ last ih =>
    obtain ⟨passed, hcourse, hsub⟩ := ih
    exact ⟨w₁ :: passed, hcourse.move last, List.subset_cons_of_subset _ hsub⟩

theorem balanced (course : Course earlier w) : w.Balanced := by
  induction course with
  | start m => exact Heap.balanced_empty m
  | move _ m ih => exact m.balanced ih

/-- The bytes on an account that were out at the moments of a course. -/
def bytes (account : Nat) (earlier : List World) (w : World) : Set Nat :=
  {n | ∃ x ∈ w :: earlier, n = bytesOf (x.live account)}

/-- On a course the counters say at every moment what is out, and the peak is the most that was
out. -/
theorem tallied (course : Course earlier w) (account : Nat) :
    w.Tallied account ∧
      IsGreatest (bytes account earlier w) (w.heap.stats account).peakBytes := by
  induction course with
  | start =>
    refine ⟨⟨rfl, rfl, Nat.le_refl 0⟩, ⟨_, List.mem_cons_self .., rfl⟩, ?_⟩
    rintro _ ⟨x, hx, rfl⟩
    obtain rfl := List.mem_singleton.mp hx
    exact Nat.le_refl 0
  | @move earlier w w' course m ih =>
    obtain ⟨htallied, ⟨x, hx, hpeak⟩, hbound⟩ := ih
    obtain ⟨htallied', hpeak'⟩ := htallied.move course.balanced m
    refine ⟨htallied', ?_, ?_⟩
    · rcases Nat.le_total (bytesOf (w'.live account)) (w.heap.stats account).peakBytes with
        hle | hle
      · exact ⟨x, List.mem_cons_of_mem _ hx, by rw [hpeak', Nat.max_eq_left hle, hpeak]⟩
      · exact ⟨w', List.mem_cons_self .., by rw [hpeak', Nat.max_eq_right hle]⟩
    · rintro _ ⟨y, hy, rfl⟩
      rcases List.mem_cons.mp hy with rfl | hy
      · rw [hpeak']
        exact Nat.le_max_right ..
      · rw [hpeak']
        exact (hbound ⟨y, hy, rfl⟩).trans (Nat.le_max_left ..)

end Course

/-- The worlds after any number of commands of a run lie on one course. -/
theorem Session.course_run (cs : List Command) : ∀ {s : Session} {earlier : List World},
    Course earlier s.world → ∃ passed, Course passed (s.run cs).1.world ∧
      s.world :: earlier ⊆ (s.run cs).1.world :: passed ∧
        ∀ before, before <+: cs → (s.run before).1.world ∈ (s.run cs).1.world :: passed := by
  induction cs with
  | nil =>
    intro s earlier course
    refine ⟨earlier, course, List.Subset.refl _, fun before hbefore => ?_⟩
    obtain rfl := List.prefix_nil.mp hbefore
    exact List.mem_cons_self ..
  | cons c rest ih =>
    intro s earlier course
    obtain ⟨between, hstep, hsub⟩ := course.moves (s.moves_of_step c)
    obtain ⟨passed, hrun, hsub', hbefores⟩ := ih hstep
    refine ⟨passed, hrun, List.Subset.trans hsub hsub', fun before hbefore => ?_⟩
    rcases List.prefix_cons_iff.mp hbefore with rfl | ⟨before', rfl, hbefore'⟩
    · exact hsub' (hsub (List.mem_cons_self ..))
    · exact hbefores before' hbefore'

/-! ## Storages with bytes -/

/-- Memory that a backend gets back has bytes. -/
def Owner.Filled (owner : Owner) : Prop := ∀ a, owner = .backend a → a.size ≠ 0

theorem Owner.filled_nobody : Owner.Filled .nobody := fun _ heq => by cases heq

theorem Owner.filled_adopted (block : Nat) : Owner.Filled (.adopted block) :=
  fun _ heq => by cases heq

theorem Owner.filled_imported (t : ManagedTensor) : Owner.Filled (.imported t) :=
  fun _ heq => by cases heq

theorem Move.grown_filled {w w' : World} (m : Move w w') :
    w.heap.Grown Owner.Filled w'.heap := by
  cases m with
  | adopt h things n type bytes small =>
    exact .ofBytes h Owner.filled_nobody (Owner.filled_adopted _) ..
  | allocate ok =>
    exact .allocateBuffer Owner.filled_nobody
      (fun a _ ha a' heq => Owner.backend.inj heq ▸ ha) ok
  | view mem ok => exact .retain ..
  | reshape mem ok => exact .retain ..
  | write position data mem ok => exact .write ..
  | drop h things n b => exact .drop ..
  | wrap h things n b o => exact .refl h
  | consume ok =>
    obtain ⟨_, _, ⟨_, _, rfl, _⟩ | ⟨d, _, _, rfl, _⟩⟩ := Capsule.consumeAs_eq_ok ok
    · exact .refl _
    · exact .adopt _ (Owner.filled_imported _) d
  | takeTensor ok => exact .refl _
  | dropCapsule h things n c => exact .dropCapsule ..
  | importTensor ok => exact .refl _
  | delete h things n t => exact .delete ..
  | lend h things n f => exact .addForeign ..
  | skip h things n => exact .refl h
  | obtain ok => exact .allocate ok
  | giveBack h things n a => exact .free ..

theorem Course.filled {earlier : List World} {w : World} (course : Course earlier w) :
    ∀ id x, w.heap.holdings.get? id = some x → x.owner.Filled := by
  induction course with
  | start => simp [Heap.empty, Table.empty, Table.get?]
  | move _ m ih =>
    intro id x found
    rcases m.grown_filled.holdings.kept id x found with ⟨y, hy, howner⟩ | ⟨_, hnew⟩
    · exact howner ▸ ih id y hy
    · exact hnew

/-! ## Requests that cost nothing -/

/-- Whether a command asks a backend for memory. -/
def Command.Asks : Command → Prop
  | .memory (.allocate ..) | .memory (.obtain ..) | .buffers (.copy ..) => True
  | _ => False

theorem Command.Asks.handsOver?_eq_none {c : Command} (asks : c.Asks) : c.handsOver? = none := by
  unfold Asks at asks
  split at asks
  next => rfl
  next => rfl
  next => rfl
  next => exact absurd asks id

theorem Heap.journal_releaseId_nobody {h : Heap} {id : Nat} {x : Holding}
    (found : h.holdings.get? id = some x) (hnobody : x.owner = .nobody) :
    (h.releaseId id).journal = h.journal := by
  unfold releaseId
  split
  next => rfl
  next y found' =>
    obtain rfl := Option.some.inj (found.symm.trans found')
    simp only [hnobody]
    split <;> rfl

/-- A buffer without bytes is made of no memory and gives none back. -/
theorem Allocator.journal_of_empty {a : Allocator} {h h' : Heap} {type : ElementType}
    {shape : List UInt64} {device : Device} {b : Buffer}
    (ok : a.allocate h type shape device = .ok (h', b)) (hempty : b.storage.size = 0) :
    h'.journal = h.journal ∧ (h'.drop b).journal = h.journal := by
  obtain ⟨layout, n, _, ⟨_, s, hadd, rfl⟩ | ⟨h₁, allocation, s, hn, _, hadd, rfl⟩⟩ :=
    allocate_eq_ok ok
  · obtain ⟨rfl, rfl⟩ := Prod.mk.inj hadd
    refine ⟨rfl, ?_⟩
    have hnew : (h.addEmptyStorage (a.alignmentFor type) device).1.holdings.get?
        h.holdings.next = some ⟨.nobody, 1⟩ := Table.get?_add_next ..
    exact Heap.journal_releaseId_nobody hnew rfl
  · obtain ⟨rfl, rfl⟩ := Prod.mk.inj hadd
    exact absurd hempty hn

theorem Buffer.journal_copyTo_of_empty {h h' : Heap} {b copy : Buffer} {device : Device}
    {a : Allocator} (exact : b.layout.Exact) (ok : b.copyTo h device a = .ok (h', copy))
    (hempty : copy.storage.size = 0) : h'.journal = h.journal := by
  rcases copyTo_cases exact h device a with ⟨f, hcopy, _⟩ | ⟨h₁, copy', w, data, halloc, _, hcopy⟩
  · rw [hcopy] at ok
    cases ok
  · obtain ⟨rfl, rfl⟩ := Prod.mk.inj (Except.ok.inj (hcopy.symm.trans ok))
    exact (Heap.journal_write ..).trans (Allocator.journal_of_empty halloc hempty).1

/-! ## Accounts of a session -/

/-- A session that begins with allocators, any number of which may be on one account. -/
def Session.startWith (m : Machine) (env : Config.Environment) (allocators : Slots Allocator) :
    Session :=
  { start m env with allocators }

/-- What the counters of an account say about a session that commands led to. -/
structure Session.Accounted (account : Nat) (start : Session) (cs : List Command) (s : Session) :
    Prop where
  returned : (s.heap.stats account).deallocations ≤ (s.heap.stats account).allocations
  /-- The allocations not yet returned are the memory behind the storages, once for each of them,
  and the raw memory in the hands of clients. -/
  allocations : (s.heap.stats account).liveAllocations =
    (onAccount account s.heap.backing).card + (onAccount account s.world.direct).card
  bytes : (s.heap.stats account).liveBytes =
    bytesOf (onAccount account s.heap.backing) + bytesOf (onAccount account s.world.direct)
  /-- A storage is there only as long as it is reached, and has bytes if it has memory of a
  backend. -/
  reached : ∀ id x, s.heap.holdings.get? id = some x →
    s.heap.Reaches s.things (.storage id) ∧ x.owner.Filled
  /-- Elementary operations led here, through the states between two commands. -/
  course : ∃ passed, Course passed s.world ∧
    ∀ before, before <+: cs → (start.run before).1.world ∈ s.world :: passed
  /-- The peak is the most that was out at any moment on the way. -/
  peak : ∀ passed, Course passed s.world →
    IsGreatest (Course.bytes account passed s.world) (s.heap.stats account).peakBytes
  /-- A request for memory that is refused changes nothing. -/
  refused : ∀ c r, c.Asks → (s.step c).2 = .error r → (s.step c).1 = s
  /-- A buffer without bytes changes no counter, neither when it is made nor when it goes. -/
  empty : ∀ (a : Allocator) type shape device h b,
    a.allocate s.heap type shape device = .ok (h, b) → b.storage.size = 0 →
      h.stats account = s.heap.stats account ∧ (h.drop b).stats account = s.heap.stats account
  emptyCopy : ∀ b device a h copy, .buffer b ∈ s.things →
    b.copyTo s.heap device a = .ok (h, copy) → copy.storage.size = 0 →
      h.stats account = s.heap.stats account

/-- After any commands, with any number of allocators on an account, the counters of the account
say exactly what is live and what was the most that ever was. -/
theorem Session.accounted_run (m : Machine) (env : Config.Environment)
    (allocators : Slots Allocator) (cs : List Command) (account : Nat) :
    Accounted account (startWith m env allocators) cs ((startWith m env allocators).run cs).1 := by
  obtain ⟨passed, course, _, befores⟩ := course_run cs (s := startWith m env allocators) (.start m)
  have sound := (moves_of_run (startWith m env allocators) cs).sound (World.sound_empty m 0)
  generalize ((startWith m env allocators).run cs).1 = s at *
  have tallied := (course.tallied account).1
  have hlive : s.world.live account =
      onAccount account s.heap.backing + onAccount account s.world.direct := onAccount_add ..
  have hcount : (s.heap.stats account).allocations = (s.heap.stats account).deallocations +
      ((onAccount account s.heap.backing).card + (onAccount account s.world.direct).card) := by
    rw [← Multiset.card_add, ← hlive]
    exact tallied.count
  constructor
  case returned => exact Nat.le_of_add_right_le (Nat.le_of_eq hcount.symm)
  case allocations => rw [Stats.liveAllocations, hcount, Nat.add_sub_cancel_left]
  case bytes =>
    rw [← bytesOf_add, ← hlive]
    exact tallied.bytes
  case reached =>
    intro id x found
    have hpos := course.balanced.storages.held id x found
    have hstakes := course.balanced.storages.holders_of_get? found
    exact ⟨course.balanced.reaches_iff.mpr (by omega), course.filled id x found⟩
  case course => exact ⟨passed, course, befores⟩
  case peak => exact fun passed course => (course.tallied account).2
  case refused => exact fun c r asks => step_of_refused sound asks.handsOver?_eq_none
  case empty =>
    intro a type shape device h b ok hempty
    obtain ⟨hmade, hgone⟩ := Allocator.journal_of_empty ok hempty
    exact ⟨Heap.stats_congr hmade account, Heap.stats_congr hgone account⟩
  case emptyCopy =>
    intro b device a h copy mem ok hempty
    have hb : Buffer.Sound s.heap b := sound.things _ mem
    exact Heap.stats_congr (Buffer.journal_copyTo_of_empty hb.exact ok hempty) account

/-- Six bytes are out until the last view of them goes, however often they were handed on. -/
example :
    (Session.after Session.sharing).heap.stats 0 = ⟨1, 0, 6, 6⟩ ∧
      (Session.after (Session.sharing ++ [.buffers (.drop "part")])).heap.stats 0 =
        ⟨1, 1, 0, 6⟩ := by
  decide +kernel

end TensorExchange
