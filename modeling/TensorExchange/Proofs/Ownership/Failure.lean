import TensorExchange.Proofs.Ownership.Chains
import TensorExchange.Session.Run

/-!
Failures: what is left where an operation or a command fails.

The result of an operation that fails has the state that it left: a heap, a capsule, a
registry.  A command puts that state into the session, so nothing is unchanged only
because it failed.  Most operations make all their checks before they change anything;
for them the state that is left is the one they found, and the session around it is
unchanged as soon as putting a thing back into its place changes nothing.

Two operations on buffers change the heap before their last check.  Adopting an array
adopts the whole vector first, and a copy has its memory before it is filled.  Where
such a check fails the new buffer is let go, so these failures are chains of moves; that
they never happen in a session is proved where the checks are understood.
-/

namespace TensorExchange

/-! ## Operations on buffers -/

namespace Buffer

variable {h : Heap} {b : Buffer}

theorem leaves_view {shape : List UInt64} {strides : List Int64} {byteOffset : UInt64} :
    Leaves h (b.view h shape strides byteOffset) :=
  .bind leaves_leaving fun _ _ => .ok

theorem leaves_reshape {shape : List UInt64} : Leaves h (b.reshape h shape) :=
  .bind leaves_leaving fun _ _ => .ok

theorem leaves_writeBytes {position : Nat} {data : List UInt8} :
    Leaves h (b.writeBytes h position data) :=
  .bind leaves_leaving fun _ _ => .ok

theorem leaves_writeElements {type : ElementType} {position : Nat} {data : List UInt8} :
    Leaves h (b.writeElements h type position data) :=
  .bind leaves_leaving fun _ _ => .ok

theorem leaves_fill {data : Array UInt8} : Leaves h (b.fill h data) := by
  refine .bind leaves_leaving fun w _ => ?_
  split
  case isTrue => exact .ok
  case isFalse => exact Leaves.error

end Buffer

section Moves

variable {h : Heap} {things : Multiset Thing} {n : Nat} {b : Buffer}

/-- Parts that do not fit together leave nothing behind but the adoption of their vector. -/
theorem fails_ofArray {a : ArrayParts} (small : a.data.size ≤ maxSize) :
    Fails (fun h' => Moves ⟨h, things, n⟩ ⟨h', things, n⟩) (Buffer.ofArray h a) := by
  refine .bind (Fails.mapError Buffer.leaves_view fun f same => ?_) fun _ _ => .ok
  exact .head (.adopt h things n a.type a.data small) (.single (same ▸ .drop ..))

/-- A copy that cannot be filled gives its memory back. -/
theorem fails_copyTo {device : Device} {a : Allocator} :
    Fails (fun h' => Moves ⟨h, things, n⟩ ⟨h', things, n⟩) (b.copyTo h device a) := by
  refine .bind (fails_leaving .refl) fun _ _ => .bind (fails_leaving .refl) fun _ _ =>
    .bind (fails_leaving .refl) fun data _ => ?_
  refine .bind (fun f failed => ?_) fun ⟨h₁, copy⟩ halloc => ?_
  · rw [Allocator.leaves_allocate f failed]
  · refine .bind (Fails.mapError Buffer.leaves_fill fun f same => ?_) fun _ _ => .ok
    exact .head (.allocate halloc) (.single (same ▸ .drop ..))

/-- A buffer that does not fit what is declared is let go. -/
theorem Capsule.fails_wrapAs {shape : List UInt64} {type : ElementType} {device : Device} :
    Leaves (h.drop b) (Capsule.wrapAs h b shape type device) := by
  refine .guard rfl fun _ => .guard rfl fun _ => ?_
  split
  case isTrue => exact .ok
  case isFalse => exact .bind (Buffer.leaves_reshape.mapError fun _ => rfl) fun _ _ => .ok

end Moves

namespace Session

variable {s : Session} {name : String}

/-! ## Things under names -/

theorem need_eq_ok {α : Type} {slots : Slots α} {a : α} :
    need slots name = .ok a ↔ slots.get? name = some a := by
  unfold need
  split <;> simp_all

theorem get?_of_need {α : Type} {slots : Slots α} {a : α}
    (h : leaving s (need slots name) = .ok a) : slots.get? name = some a :=
  need_eq_ok.mp (leaving_eq_ok.mp h)

theorem need_eq_error {α : Type} {slots : Slots α} {r : Refusal}
    (h : need slots name = .error r) : r = .missing name := by
  unfold need at h
  split at h
  · cases h
  · exact (Except.error.inj h).symm

/-- A command that begins with a name fails if the name holds nothing, or in what it does with the
thing. -/
theorem need_bind_eq_error {α β : Type} {slots : Slots α}
    {k : α → Except (Failure Refusal Session) β} {f : Failure Refusal Session}
    (h : leaving s (need slots name) >>= k = .error f) :
    f = ⟨.missing name, s⟩ ∨ ∃ a, slots.get? name = some a ∧ k a = .error f := by
  rcases bind_eq_error.mp h with h | ⟨a, ha, h⟩
  · obtain ⟨r, hr, rfl⟩ := mapError_eq_error.mp h
    exact .inl (congrArg (Failure.mk · s) (need_eq_error hr))
  · exact .inr ⟨a, get?_of_need ha, h⟩

theorem leaves_onHeap {α : Type} {x : Except (Failure Error Heap) α} (part : Leaves s.heap x) :
    Leaves s (x.mapError s.onHeap) :=
  part.mapError fun _ => rfl

theorem updateCapsule_self {c : Capsule} (found : s.capsules.get? name = some c) :
    s.updateCapsule name c = s := by
  rw [updateCapsule, Slots.update_eq_self found]

theorem updateRegistry_self {r : Registry} (found : s.registries.get? name = some r) :
    s.updateRegistry name r = s := by
  rw [updateRegistry, Slots.update_eq_self found]

/-! ## Commands that leave the session -/

theorem leaves_obtainMemory {out : String} {size alignment : Nat} {device : Device} :
    Leaves s (s.obtainMemory name out size alignment device) :=
  .bind leaves_leaving fun _ _ => .bind (leaves_onHeap Heap.leaves_allocate) fun _ _ => .ok

theorem leaves_giveBackMemory : Leaves s (s.giveBackMemory name) :=
  .bind leaves_leaving fun _ _ => .ok

theorem leaves_allocateBuffer {name : Option String} {out : String} {type : ElementType}
    {shape : List UInt64} {device : Device} :
    Leaves s (s.allocateBuffer name out type shape device) :=
  .bind leaves_leaving fun _ _ => .bind (leaves_onHeap Allocator.leaves_allocate) fun _ _ => .ok

theorem leaves_viewBuffer {out : String} {shape : List UInt64} {strides : List Int64}
    {byteOffset : UInt64} : Leaves s (s.viewBuffer name out shape strides byteOffset) :=
  .bind leaves_leaving fun _ _ => .bind (leaves_onHeap Buffer.leaves_view) fun _ _ => .ok

theorem leaves_reshapeBuffer {out : String} {shape : List UInt64} :
    Leaves s (s.reshapeBuffer name out shape) :=
  .bind leaves_leaving fun _ _ => .bind (leaves_onHeap Buffer.leaves_reshape) fun _ _ => .ok

theorem leaves_adoptBytes {out : String} {type : ElementType} {data : Array UInt8} :
    Leaves s (s.adoptBytes out type data) :=
  .bind leaves_leaving fun _ _ => .ok

theorem leaves_writeBuffer {position : Nat} {data : List UInt8} :
    Leaves s (s.writeBuffer name position data) :=
  .bind leaves_leaving fun _ _ => .bind (leaves_onHeap Buffer.leaves_writeBytes) fun _ _ => .ok

theorem leaves_writeTyped {type : ElementType} {position : Nat} {data : List UInt8} :
    Leaves s (s.writeTyped name type position data) :=
  .bind leaves_leaving fun _ _ => .bind leaves_leaving fun _ _ =>
    .bind (leaves_onHeap Buffer.leaves_writeElements) fun _ _ => .ok

theorem leaves_dropBuffer : Leaves s (s.dropBuffer name) :=
  .bind leaves_leaving fun _ _ => .ok

theorem leaves_wrapBuffer {out : String} {o : ExportOptions} :
    Leaves s (s.wrapBuffer name out o) :=
  .bind leaves_leaving fun _ _ => .ok

/-- A consumer that is turned away changes neither the heap nor the capsule. -/
theorem leaves_consumeCapsule {out : String} {a : Accept} :
    Leaves s (s.consumeCapsule name out a) := by
  refine .bind leaves_leaving fun c found => ?_
  refine .bind (Capsule.leaves_consumeAs.mapError fun e => ?_) fun _ _ => .ok
  exact updateCapsule_self (get?_of_need found)

theorem leaves_raceCapsule {out : String} {n : Nat} : Leaves s (s.raceCapsule name out n) :=
  .bind leaves_leaving fun _ _ => .ok

theorem leaves_takeCapsuleTensor {out : String} : Leaves s (s.takeCapsuleTensor name out) := by
  refine .bind leaves_leaving fun c found => ?_
  refine .bind (Capsule.leaves_takeTensor.mapError fun e => ?_) fun _ _ => .ok
  exact updateCapsule_self (get?_of_need found)

theorem leaves_dropCapsule : Leaves s (s.dropCapsule name) :=
  .bind leaves_leaving fun _ _ => .ok

/-- A tensor that is refused stays under its name, and its deleter does not run. -/
theorem leaves_adoptTensor {out : String} : Leaves s (s.adoptTensor name out) :=
  .bind leaves_leaving fun _ _ => .bind (leaves_onHeap Capsule.leaves_importTensor) fun _ _ => .ok

theorem leaves_deleteTensor : Leaves s (s.deleteTensor name) :=
  .bind leaves_leaving fun _ _ => .ok

theorem leaves_deleteEmptyTensor : Leaves s (s.deleteEmptyTensor name) :=
  .bind leaves_leaving fun _ _ => .ok

theorem leaves_collectRegistry {entries : List (String × String)} :
    Leaves s (s.collectRegistry name entries) :=
  .bind leaves_leaving fun _ _ => .ok

theorem leaves_takeCapsule {key out : String} : Leaves s (s.takeCapsule name key out) := by
  refine .bind leaves_leaving fun r found => ?_
  refine .bind (Registry.leaves_take.mapError fun e => ?_) fun _ _ => .ok
  exact updateRegistry_self (get?_of_need found)

theorem leaves_drainRegistry {lead : String} : Leaves s (s.drainRegistry name lead) :=
  .bind leaves_leaving fun _ _ => .ok

end Session

end TensorExchange
