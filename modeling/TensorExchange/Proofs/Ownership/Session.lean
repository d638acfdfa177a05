import Mathlib.Tactic.Abel
import TensorExchange.Proofs.Ownership.Failure

/-!
Sessions make chains of moves, whatever their commands are.

What a session holds is a bag of things: its buffers, capsules, tensors and allocations, and
the capsules in its registries.  The names under which it holds them do not matter to the
heap, only that a name which is used again lets go of what it named before.

Main statements: a command is a chain of moves from what the session holds to what it holds
afterwards (`moves_of_step`), and so is a run of commands (`moves_of_run`).  There is one case
for each kind of command.  A case finds the thing under its name (`things_of_buffer` and its
kind), applies the chain of the operation (`Proofs/Ownership/Chains`) to it, and puts the
result under a name (`moves_of_putBuffer` and its kind).

Commands fail, and a failure carries the session that it leaves.  A command that is refused
is a chain of moves for that reason alone that the session it carries can be reached so:
`moves_of_leaves` where it is the one from before, and `moves_of_settle` where a thing that
was handed over by value had to be let go.  Nothing here assumes that failures do nothing;
that is the statement of `Proofs/Refusal`.

What moves keep, sessions keep.  The theorems about all commands of a session that are named
`_run` begin with `moves_of_run` and have the rest from invariants of moves.
-/

namespace TensorExchange

/-! ## Slots as bags -/

namespace Slots

variable {α : Type} {s : Slots α} {name : String} {a : α}

/-- The things in slots, without their names. -/
def bag (s : Slots α) : Multiset α := s.values

@[simp] theorem bag_empty : (empty : Slots α).bag = 0 := rfl

@[simp] theorem bag_put (s : Slots α) (name : String) (a : α) :
    (s.put name a).bag = a ::ₘ (s.erase name).bag := rfl

theorem bag_update {b : α} (h : s.get? name = some a) :
    (s.update name b).bag = b ::ₘ (s.erase name).bag :=
  Multiset.coe_eq_coe.mpr (values_update_perm h)

theorem bag_of_some (h : s.get? name = some a) : s.bag = a ::ₘ (s.erase name).bag :=
  Multiset.coe_eq_coe.mpr (values_perm h)

theorem bag_of_none (h : s.get? name = none) : s.bag = (s.erase name).bag :=
  congrArg Multiset.ofList (values_erase_of_none h).symm

theorem bag_eq (s : Slots α) (name : String) :
    s.bag = ↑(s.get? name).toList + (s.erase name).bag := by
  cases h : s.get? name with
  | none => simpa using bag_of_none h
  | some a => simpa using bag_of_some h

end Slots

namespace Session

/-! ## What a session holds -/

/-- Everything that a session holds, also what lost its name. -/
def things (s : Session) : Multiset Thing :=
  s.buffers.bag.map .buffer + s.capsules.bag.map .capsule + s.registries.bag.bind Registry.things +
    (s.tensors.bag + s.strayTensors).map .tensor +
    (s.allocations.bag + s.strayAllocations).map .allocation

/-- A session as a world. -/
def world (s : Session) : World := ⟨s.heap, s.things, s.numbered⟩

variable {s : Session} {name : String}

/-! ### Things that are found -/

theorem things_of_buffer {b : Buffer} (h : s.buffers.get? name = some b) :
    s.things = .buffer b ::ₘ (s.eraseBuffer name).things := by
  simp [things, eraseBuffer, Slots.bag_of_some h]

theorem things_of_capsule {c : Capsule} (h : s.capsules.get? name = some c) :
    s.things = .capsule c ::ₘ (s.eraseCapsule name).things := by
  simp [things, eraseCapsule, Slots.bag_of_some h]

theorem things_of_registry {r : Registry} (h : s.registries.get? name = some r) :
    s.things = r.things + { s with registries := s.registries.erase name }.things := by
  simp only [things, Slots.bag_of_some h, Multiset.cons_bind]
  abel

theorem things_of_tensor {t : ManagedTensor} (h : s.tensors.get? name = some t) :
    s.things = .tensor t ::ₘ { s with tensors := s.tensors.erase name }.things := by
  simp [things, Slots.bag_of_some h]

theorem things_of_allocation {a : Allocation} (h : s.allocations.get? name = some a) :
    s.things = .allocation a ::ₘ { s with allocations := s.allocations.erase name }.things := by
  simp [things, Slots.bag_of_some h]

theorem mem_things_of_buffer {b : Buffer} (h : s.buffers.get? name = some b) :
    .buffer b ∈ s.things := by
  rw [things_of_buffer h]
  exact Multiset.mem_cons_self ..

/-! ### Things that are put -/

theorem things_updateCapsule {c : Capsule} (h : s.capsules.get? name = some c) (c' : Capsule) :
    (s.updateCapsule name c').things = .capsule c' ::ₘ (s.eraseCapsule name).things := by
  simp [things, eraseCapsule, updateCapsule, Slots.bag_update h]

theorem things_updateRegistry {r : Registry} (h : s.registries.get? name = some r)
    (r' : Registry) :
    (s.updateRegistry name r').things =
      r'.things + { s with registries := s.registries.erase name }.things := by
  simp only [things, updateRegistry, Slots.bag_update h, Multiset.cons_bind]
  abel

/-- A tensor that loses its name is still there. -/
theorem things_putTensor (s : Session) (name : String) (t : ManagedTensor) :
    (s.putTensor name t).things = .tensor t ::ₘ s.things := by
  simp only [things, putTensor, Slots.bag_put, s.tensors.bag_eq name, ← Multiset.coe_add,
    Multiset.cons_add, Multiset.map_add, Multiset.map_cons, Multiset.add_cons]
  congr 1
  abel

theorem things_putAllocation (s : Session) (h : Heap) (name : String) (a : Allocation) :
    (s.putAllocation h name a).things = .allocation a ::ₘ s.things := by
  simp only [things, putAllocation, Slots.bag_put, s.allocations.bag_eq name, ← Multiset.coe_add,
    Multiset.cons_add, Multiset.map_add, Multiset.map_cons, Multiset.add_cons]
  congr 1
  abel

theorem moves_of_putBuffer (s : Session) (h : Heap) (name : String) (b : Buffer) :
    Moves ⟨h, .buffer b ::ₘ s.things, s.numbered⟩ (s.putBuffer h name b).world := by
  have hput : (s.putBuffer h name b).things = .buffer b ::ₘ (s.eraseBuffer name).things := by
    simp [things, putBuffer, eraseBuffer]
  unfold world
  rw [hput]
  cases found : s.buffers.get? name with
  | none =>
    have : (s.eraseBuffer name).things = s.things := by
      simp [things, eraseBuffer, Slots.bag_of_none found]
    rw [this]
    simpa [putBuffer, found] using Relation.ReflTransGen.refl
  | some old =>
    rw [things_of_buffer found, Multiset.cons_swap]
    simpa [putBuffer, found] using .single (.drop ..)

theorem moves_of_putCapsule (s : Session) (h : Heap) (name : String) (c : Capsule) :
    Moves ⟨h, .capsule c ::ₘ s.things, s.numbered⟩ (s.putCapsule h name c).world := by
  have hput : (s.putCapsule h name c).things = .capsule c ::ₘ (s.eraseCapsule name).things := by
    simp [things, putCapsule, eraseCapsule]
  unfold world
  rw [hput]
  cases found : s.capsules.get? name with
  | none =>
    have : (s.eraseCapsule name).things = s.things := by
      simp [things, eraseCapsule, Slots.bag_of_none found]
    rw [this]
    simpa [putCapsule, found] using Relation.ReflTransGen.refl
  | some old =>
    rw [things_of_capsule found, Multiset.cons_swap]
    simpa [putCapsule, found] using .single (.dropCapsule ..)

theorem moves_of_putRegistry (s : Session) (h : Heap) (name : String) (r : Registry) :
    Moves ⟨h, r.things + s.things, s.numbered⟩ (s.putRegistry h name r).world := by
  have hput : (s.putRegistry h name r).things =
      r.things + { s with registries := s.registries.erase name }.things := by
    simp only [things, putRegistry, Slots.bag_put, Multiset.cons_bind]
    abel
  unfold world
  rw [hput]
  cases found : s.registries.get? name with
  | none =>
    have : { s with registries := s.registries.erase name }.things = s.things := by
      simp [things, Slots.bag_of_none found]
    rw [this]
    simpa [putRegistry, found] using Relation.ReflTransGen.refl
  | some old =>
    rw [things_of_registry found, add_left_comm]
    simpa [putRegistry, found] using moves_of_dropRegistry h old

/-! ## Commands -/

/-- A command makes moves whether it succeeds or not. -/
theorem moves_of_settle {result : Except (Failure Refusal Session) (Session × Reply)}
    (failed : Fails (fun s' => Moves s.world s'.world) result)
    (ok : ∀ s' reply, result = .ok (s', reply) → Moves s.world s'.world) :
    Moves s.world (settle result).1.world := by
  cases result with
  | error f => exact failed f rfl
  | ok p => exact ok p.1 p.2 rfl

/-- Where a command leaves the session, only its success is to be looked at. -/
theorem moves_of_leaves {result : Except (Failure Refusal Session) (Session × Reply)}
    (leaves : Leaves s result)
    (ok : ∀ s' reply, result = .ok (s', reply) → Moves s.world s'.world) :
    Moves s.world (settle result).1.world :=
  moves_of_settle (fun f failed => leaves f failed ▸ .refl) ok

/-! ### Memory -/

theorem moves_of_runMemory (s : Session) (c : MemoryCommand) :
    Moves s.world (s.runMemory c).1.world := by
  cases c with
  | create name kind config => exact .single (.skip ..)
  | describe name => exact .refl
  | stats name => exact .refl
  | obtain name out size alignment device =>
    refine moves_of_leaves leaves_obtainMemory fun s' reply ok => ?_
    obtain ⟨a, _, ok⟩ := bind_eq_ok.mp ok
    obtain ⟨⟨h, allocation⟩, halloc, ok⟩ := bind_eq_ok.mp ok
    obtain ⟨rfl, rfl⟩ := Prod.mk.inj (pure_eq_ok.mp ok)
    unfold world
    rw [things_putAllocation]
    exact .single (.obtain (mapError_eq_ok.mp halloc))
  | giveBack name =>
    refine moves_of_leaves leaves_giveBackMemory fun s' reply ok => ?_
    obtain ⟨a, found, ok⟩ := bind_eq_ok.mp ok
    obtain ⟨rfl, rfl⟩ := Prod.mk.inj (pure_eq_ok.mp ok)
    unfold world
    rw [things_of_allocation (get?_of_need found)]
    exact .single (.giveBack ..)
  | allocate name out type shape device =>
    refine moves_of_leaves leaves_allocateBuffer fun s' reply ok => ?_
    obtain ⟨a, _, ok⟩ := bind_eq_ok.mp ok
    obtain ⟨⟨h, b⟩, halloc, ok⟩ := bind_eq_ok.mp ok
    obtain ⟨rfl, rfl⟩ := Prod.mk.inj (pure_eq_ok.mp ok)
    exact .head (.allocate (mapError_eq_ok.mp halloc)) (moves_of_putBuffer s h out b)

/-! ### Buffers -/

theorem checkVector_eq_ok_iff {data : Array UInt8} :
    checkVector data = .ok () ↔ data.size ≤ maxSize := by
  unfold checkVector
  split <;> simp_all

theorem checkArray_eq_ok_iff {a : ArrayParts} : checkArray a = .ok () ↔ a.Valid := by
  unfold checkArray
  split <;> simp_all

theorem moves_of_copyBuffer (s : Session) (name allocator out : String) (device : Device) :
    Moves s.world (settle (s.copyBuffer name allocator out device)).1.world := by
  refine moves_of_settle ?_ fun s' reply ok => ?_
  · refine .bind (fails_leaving .refl) fun b _ => .bind (fails_leaving .refl) fun a _ => ?_
    exact .bind (Fails.mapError fails_copyTo fun _ moves => moves) fun _ _ => .ok
  · obtain ⟨b, _, ok⟩ := bind_eq_ok.mp ok
    obtain ⟨a, _, ok⟩ := bind_eq_ok.mp ok
    obtain ⟨⟨h, copy⟩, hcopy, ok⟩ := bind_eq_ok.mp ok
    obtain ⟨rfl, rfl⟩ := Prod.mk.inj (pure_eq_ok.mp ok)
    exact (moves_of_copyTo (mapError_eq_ok.mp hcopy)).trans (moves_of_putBuffer s h out copy)

theorem moves_of_runBuffers (s : Session) (c : BufferCommand) :
    Moves s.world (s.runBuffers c).1.world := by
  cases c with
  | adopt out type data =>
    refine moves_of_leaves leaves_adoptBytes fun s' reply ok => ?_
    obtain ⟨⟨⟩, hcheck, ok⟩ := bind_eq_ok.mp ok
    obtain ⟨rfl, rfl⟩ := Prod.mk.inj (pure_eq_ok.mp ok)
    have small := checkVector_eq_ok_iff.mp (leaving_eq_ok.mp hcheck)
    exact .head (.adopt s.heap s.things s.numbered type data small) (moves_of_putBuffer ..)
  | adoptArray out a =>
    refine moves_of_settle ?_ fun s' reply ok => ?_
    · refine .bind (fails_leaving .refl) fun ⟨⟩ hcheck => ?_
      have small := (checkArray_eq_ok_iff.mp (leaving_eq_ok.mp hcheck)).2.2.1
      exact .bind (Fails.mapError (fails_ofArray small) fun _ moves => moves) fun _ _ => .ok
    · obtain ⟨⟨⟩, hcheck, ok⟩ := bind_eq_ok.mp ok
      obtain ⟨⟨h, b⟩, hadopt, ok⟩ := bind_eq_ok.mp ok
      obtain ⟨rfl, rfl⟩ := Prod.mk.inj (pure_eq_ok.mp ok)
      have small := (checkArray_eq_ok_iff.mp (leaving_eq_ok.mp hcheck)).2.2.1
      exact (moves_of_ofArray small (mapError_eq_ok.mp hadopt)).trans (moves_of_putBuffer s h out b)
  | view name out shape strides byteOffset =>
    refine moves_of_leaves leaves_viewBuffer fun s' reply ok => ?_
    obtain ⟨b, found, ok⟩ := bind_eq_ok.mp ok
    obtain ⟨⟨h, v⟩, hview, ok⟩ := bind_eq_ok.mp ok
    obtain ⟨rfl, rfl⟩ := Prod.mk.inj (pure_eq_ok.mp ok)
    have mem := mem_things_of_buffer (get?_of_need found)
    exact (moves_of_view mem (mapError_eq_ok.mp hview)).trans (moves_of_putBuffer s h out v)
  | reshape name out shape =>
    refine moves_of_leaves leaves_reshapeBuffer fun s' reply ok => ?_
    obtain ⟨b, found, ok⟩ := bind_eq_ok.mp ok
    obtain ⟨⟨h, v⟩, hreshape, ok⟩ := bind_eq_ok.mp ok
    obtain ⟨rfl, rfl⟩ := Prod.mk.inj (pure_eq_ok.mp ok)
    have mem := mem_things_of_buffer (get?_of_need found)
    exact (moves_of_reshape mem (mapError_eq_ok.mp hreshape)).trans (moves_of_putBuffer s h out v)
  | writeBytes name position data =>
    refine moves_of_leaves leaves_writeBuffer fun s' reply ok => ?_
    obtain ⟨b, found, ok⟩ := bind_eq_ok.mp ok
    obtain ⟨⟨h, k⟩, hwrite, ok⟩ := bind_eq_ok.mp ok
    obtain ⟨rfl, rfl⟩ := Prod.mk.inj (pure_eq_ok.mp ok)
    have mem := mem_things_of_buffer (get?_of_need found)
    exact moves_of_writeBytes mem (mapError_eq_ok.mp hwrite)
  | writeElements name type position data =>
    refine moves_of_leaves leaves_writeTyped fun s' reply ok => ?_
    obtain ⟨b, found, ok⟩ := bind_eq_ok.mp ok
    obtain ⟨_, _, ok⟩ := bind_eq_ok.mp ok
    obtain ⟨⟨h, k⟩, hwrite, ok⟩ := bind_eq_ok.mp ok
    obtain ⟨rfl, rfl⟩ := Prod.mk.inj (pure_eq_ok.mp ok)
    have mem := mem_things_of_buffer (get?_of_need found)
    exact moves_of_writeElements mem (mapError_eq_ok.mp hwrite)
  | copy name allocator out device => exact moves_of_copyBuffer s name allocator out device
  | drop name =>
    refine moves_of_leaves leaves_dropBuffer fun s' reply ok => ?_
    obtain ⟨b, found, ok⟩ := bind_eq_ok.mp ok
    obtain ⟨rfl, rfl⟩ := Prod.mk.inj (pure_eq_ok.mp ok)
    unfold world
    rw [things_of_buffer (get?_of_need found)]
    exact .single (.drop ..)
  | describe | shares | bytes | elements | packed | head | headBytes | arrayView | toArray =>
    exact .refl

/-! ### Capsules -/

/-- A buffer that does not fit what is declared has lost its name, and is let go. -/
theorem moves_of_wrapBufferAs (s : Session) (name out : String) (shape : List UInt64)
    (type : ElementType) (device : Device) :
    Moves s.world (settle (s.wrapBufferAs name out shape type device)).1.world := by
  refine moves_of_settle ?_ fun s' reply ok => ?_
  · refine .bind (fails_leaving .refl) fun b found => ?_
    refine .bind (Fails.mapError Capsule.fails_wrapAs fun f same => ?_) fun _ _ => .ok
    unfold world
    rw [things_of_buffer (get?_of_need found), onHeap, same]
    exact .single (.drop ..)
  · obtain ⟨b, found, ok⟩ := bind_eq_ok.mp ok
    obtain ⟨⟨h, c⟩, hwrap, ok⟩ := bind_eq_ok.mp ok
    obtain ⟨rfl, rfl⟩ := Prod.mk.inj (pure_eq_ok.mp ok)
    have hmoves : Moves ⟨s.heap, .buffer b ::ₘ (s.eraseBuffer name).things, s.numbered⟩ _ :=
      moves_of_wrapAs (mapError_eq_ok.mp hwrap)
    rw [← things_of_buffer (get?_of_need found)] at hmoves
    exact hmoves.trans (moves_of_putCapsule (s.eraseBuffer name) h out c)

theorem moves_of_putWon (out : String) (won : List Buffer) (s : Session) :
    Moves ⟨s.heap, ↑(won.map Thing.buffer) + s.things, s.numbered⟩ (s.putWon out won).world := by
  induction won generalizing s with
  | nil => simpa [putWon, world] using Relation.ReflTransGen.refl
  | cons b rest ih =>
    have hput := (moves_of_putBuffer s s.heap out b).frame (rest.map Thing.buffer)
    refine Relation.ReflTransGen.trans ?_ (ih (s.putBuffer s.heap out b))
    rw [List.map_cons, ← Multiset.cons_coe, Multiset.cons_add, add_comm, ← Multiset.cons_add]
    rw [add_comm (Multiset.ofList _)]
    exact hput

/-- A capsule whose tensor is taken for good is dropped, whether it had one or not. -/
theorem moves_of_giveUpCapsule (s : Session) (name out : String) :
    Moves s.world (settle (s.giveUpCapsule name out)).1.world := by
  refine moves_of_settle ?_ fun s' reply ok => ?_
  · refine .bind (fails_leaving .refl) fun c found => ?_
    refine .bind (Fails.mapError Capsule.leaves_takeTensor fun f same => ?_) fun _ _ => .ok
    unfold world
    rw [things_of_capsule (get?_of_need found)]
    exact .single (same ▸ .dropCapsule ..)
  · obtain ⟨c, found, ok⟩ := bind_eq_ok.mp ok
    obtain ⟨⟨c', t⟩, htake, ok⟩ := bind_eq_ok.mp ok
    obtain ⟨rfl, rfl⟩ := Prod.mk.inj (pure_eq_ok.mp ok)
    unfold world
    rw [things_of_capsule (get?_of_need found), things_putTensor]
    exact .head (.takeTensor (mapError_eq_ok.mp htake)) (.single (.dropCapsule ..))

theorem moves_of_runCapsules (s : Session) (c : CapsuleCommand) :
    Moves s.world (s.runCapsules c).1.world := by
  cases c with
  | wrap name out o =>
    refine moves_of_leaves leaves_wrapBuffer fun s' reply ok => ?_
    obtain ⟨b, found, ok⟩ := bind_eq_ok.mp ok
    obtain ⟨rfl, rfl⟩ := Prod.mk.inj (pure_eq_ok.mp ok)
    refine .head ?_ (moves_of_putCapsule (s.eraseBuffer name) s.heap out (.wrapWith b o))
    unfold world
    rw [things_of_buffer (get?_of_need found)]
    exact .wrap ..
  | wrapAs name out shape type device => exact moves_of_wrapBufferAs s name out shape type device
  | consume name out a =>
    refine moves_of_leaves leaves_consumeCapsule fun s' reply ok => ?_
    obtain ⟨c, found, ok⟩ := bind_eq_ok.mp ok
    obtain ⟨⟨h, c', b⟩, hconsume, ok⟩ := bind_eq_ok.mp ok
    obtain ⟨rfl, rfl⟩ := Prod.mk.inj (pure_eq_ok.mp ok)
    refine .head ?_ (moves_of_putBuffer (s.updateCapsule name c') h out b)
    unfold world
    have found := get?_of_need found
    rw [things_of_capsule found, things_updateCapsule found, Multiset.cons_swap]
    exact .consume (mapError_eq_ok.mp hconsume)
  | race name out n =>
    refine moves_of_leaves leaves_raceCapsule fun s' reply ok => ?_
    obtain ⟨c, found, ok⟩ := bind_eq_ok.mp ok
    obtain ⟨rfl, rfl⟩ := Prod.mk.inj (pure_eq_ok.mp ok)
    have hrace : Moves ⟨s.heap, .capsule c ::ₘ (s.eraseCapsule name).things, s.numbered⟩ _ :=
      moves_of_race n rfl
    rw [← things_of_capsule (get?_of_need found), ← Multiset.add_cons,
      ← things_updateCapsule (get?_of_need found)] at hrace
    exact hrace.trans (moves_of_putWon out _ { s.updateCapsule name _ with heap := _ })
  | takeTensor name out =>
    refine moves_of_leaves leaves_takeCapsuleTensor fun s' reply ok => ?_
    obtain ⟨c, found, ok⟩ := bind_eq_ok.mp ok
    obtain ⟨⟨c', t⟩, htake, ok⟩ := bind_eq_ok.mp ok
    obtain ⟨rfl, rfl⟩ := Prod.mk.inj (pure_eq_ok.mp ok)
    unfold world
    have found := get?_of_need found
    rw [things_of_capsule found, things_putTensor, things_updateCapsule found, Multiset.cons_swap]
    exact .single (.takeTensor (mapError_eq_ok.mp htake))
  | intoTensor name out => exact moves_of_giveUpCapsule s name out
  | drop name =>
    refine moves_of_leaves leaves_dropCapsule fun s' reply ok => ?_
    obtain ⟨c, found, ok⟩ := bind_eq_ok.mp ok
    obtain ⟨rfl, rfl⟩ := Prod.mk.inj (pure_eq_ok.mp ok)
    unfold world
    rw [things_of_capsule (get?_of_need found)]
    exact .single (.dropCapsule ..)
  | describe | bytes | elements => exact .refl

/-! ### Tensors -/

theorem moves_of_runTensors (s : Session) (c : TensorCommand) :
    Moves s.world (s.runTensors c).1.world := by
  cases c with
  | foreign out f =>
    refine .single ?_
    unfold world
    rw [show (s.runTensors (.foreign out f)).1.things = _ from things_putTensor ..]
    exact .lend ..
  | adopt name out =>
    refine moves_of_leaves leaves_adoptTensor fun s' reply ok => ?_
    obtain ⟨t, found, ok⟩ := bind_eq_ok.mp ok
    obtain ⟨⟨h, c⟩, himport, ok⟩ := bind_eq_ok.mp ok
    obtain ⟨rfl, rfl⟩ := Prod.mk.inj (pure_eq_ok.mp ok)
    obtain ⟨rfl, hof⟩ := Capsule.importTensor_eq_ok (mapError_eq_ok.mp himport)
    refine .head ?_ (moves_of_putCapsule ..)
    unfold world
    rw [things_of_tensor (get?_of_need found)]
    exact .importTensor hof
  | delete name =>
    refine moves_of_leaves leaves_deleteTensor fun s' reply ok => ?_
    obtain ⟨t, found, ok⟩ := bind_eq_ok.mp ok
    obtain ⟨rfl, rfl⟩ := Prod.mk.inj (pure_eq_ok.mp ok)
    unfold world
    rw [things_of_tensor (get?_of_need found)]
    exact .single (.delete ..)
  | deleteEmpty name =>
    refine moves_of_leaves leaves_deleteEmptyTensor fun s' reply ok => ?_
    obtain ⟨t, _, ok⟩ := bind_eq_ok.mp ok
    obtain ⟨rfl, rfl⟩ := Prod.mk.inj (pure_eq_ok.mp ok)
    exact .refl
  | describe | adoptNull | findNull | deleteNull | deletions => exact .refl

/-! ### Registries -/

theorem things_of_pickCapsules {entries : List (String × String)} :
    ∀ {s s' : Session} {picked : List (String × Capsule)},
      s.pickCapsules entries = .ok (s', picked) →
        s.things = Registry.named picked + s'.things ∧ s'.heap = s.heap ∧
          s'.numbered = s.numbered := by
  induction entries with
  | nil =>
    intro s s' picked ok
    obtain ⟨rfl, rfl⟩ := by simpa [pickCapsules] using ok
    simp
  | cons e rest ih =>
    intro s s' picked ok
    obtain ⟨key, name⟩ := e
    obtain ⟨c, found, ok⟩ := bind_eq_ok.mp ok
    obtain ⟨⟨s₁, picked₁⟩, hpick, ok⟩ := bind_eq_ok.mp ok
    obtain ⟨rfl, rfl⟩ := Prod.mk.inj (pure_eq_ok.mp ok)
    obtain ⟨hthings, hheap, hnumbered⟩ := ih hpick
    refine ⟨?_, hheap, hnumbered⟩
    rw [things_of_capsule (need_eq_ok.mp found), hthings]
    simp

/-- A capsule whose name is taken has lost its own name, and is let go. -/
theorem moves_of_registerCapsule (s : Session) (name key capsule : String) :
    Moves s.world (settle (s.registerCapsule name key capsule)).1.world := by
  refine moves_of_settle ?_ fun s' reply ok => ?_
  · refine .bind (fails_leaving .refl) fun r hr => .bind (fails_leaving .refl) fun c hc => ?_
    refine .bind (Fails.mapError Registry.leaves_register fun f same => ?_) fun _ _ => .ok
    have hkeep : (s.eraseCapsule capsule).registries.get? name = some r := get?_of_need hr
    unfold world
    rw [things_of_capsule (get?_of_need hc), same, updateRegistry_self hkeep]
    exact .single (.dropCapsule ..)
  · obtain ⟨r, hr, ok⟩ := bind_eq_ok.mp ok
    obtain ⟨c, hc, ok⟩ := bind_eq_ok.mp ok
    obtain ⟨r', hregister, ok⟩ := bind_eq_ok.mp ok
    obtain ⟨rfl, rfl⟩ := Prod.mk.inj (pure_eq_ok.mp ok)
    have hkeep : (s.eraseCapsule capsule).registries.get? name = some r := get?_of_need hr
    unfold world
    rw [things_of_capsule (get?_of_need hc), things_of_registry hkeep, things_updateRegistry hkeep,
      Registry.things_of_register (mapError_eq_ok.mp hregister), Multiset.cons_add]
    exact .refl

theorem moves_of_putDrained (lead : String) (drained : List (String × Capsule)) (s : Session) :
    Moves ⟨s.heap, Registry.named drained + s.things, s.numbered⟩
      (s.putDrained lead drained).world := by
  induction drained generalizing s with
  | nil => simpa [putDrained, world] using Relation.ReflTransGen.refl
  | cons e rest ih =>
    obtain ⟨key, c⟩ := e
    have hput := (moves_of_putCapsule s s.heap (lead ++ key) c).frame (Registry.named rest)
    refine Relation.ReflTransGen.trans ?_ (ih (s.putCapsule s.heap (lead ++ key) c))
    rw [Registry.named_cons, Multiset.cons_add, add_comm, ← Multiset.cons_add]
    rw [add_comm (Registry.named rest)]
    exact hput

theorem moves_of_dropNamedRegistry (s : Session) (name : String) :
    Moves s.world (s.dropRegistry name).1.world := by
  unfold dropRegistry
  split
  next r found =>
    unfold world
    rw [things_of_registry found]
    exact moves_of_dropRegistry s.heap r
  next => exact .refl

theorem moves_of_runRegistries (s : Session) (c : RegistryCommand) :
    Moves s.world (s.runRegistries c).1.world := by
  cases c with
  | create name =>
    have := moves_of_putRegistry s s.heap name .empty
    rw [Registry.things_empty, zero_add] at this
    exact this
  | collect name entries =>
    refine moves_of_leaves leaves_collectRegistry fun s' reply ok => ?_
    obtain ⟨⟨s₁, picked⟩, hpick, ok⟩ := bind_eq_ok.mp ok
    obtain ⟨rfl, rfl⟩ := Prod.mk.inj (pure_eq_ok.mp ok)
    obtain ⟨hthings, hheap, hnumbered⟩ := things_of_pickCapsules (leaving_eq_ok.mp hpick)
    refine Relation.ReflTransGen.trans ?_ (moves_of_putRegistry ..)
    unfold world
    rw [hthings, ← hheap, ← hnumbered]
    have hcollect : Moves
        ⟨s₁.heap, Registry.named picked + (Registry.empty.things + s₁.things), s₁.numbered⟩ _ :=
      moves_of_collect picked rfl
    simpa using hcollect
  | register name key capsule => exact moves_of_registerCapsule s name key capsule
  | take name key out =>
    refine moves_of_leaves leaves_takeCapsule fun s' reply ok => ?_
    obtain ⟨r, found, ok⟩ := bind_eq_ok.mp ok
    obtain ⟨⟨r', c⟩, htake, ok⟩ := bind_eq_ok.mp ok
    obtain ⟨rfl, rfl⟩ := Prod.mk.inj (pure_eq_ok.mp ok)
    refine Relation.ReflTransGen.trans ?_ (moves_of_putCapsule ..)
    unfold world
    have found := get?_of_need found
    rw [things_of_registry found, things_updateRegistry found,
      Registry.things_of_take (mapError_eq_ok.mp htake), Multiset.cons_add]
    exact .refl
  | drain name lead =>
    refine moves_of_leaves leaves_drainRegistry fun s' reply ok => ?_
    obtain ⟨r, found, ok⟩ := bind_eq_ok.mp ok
    obtain ⟨rfl, rfl⟩ := Prod.mk.inj (pure_eq_ok.mp ok)
    refine Relation.ReflTransGen.trans ?_ (moves_of_putDrained ..)
    unfold world
    have found := get?_of_need found
    rw [things_of_registry found, things_updateRegistry found,
      Registry.things_of_takeEach (r := r) rfl, add_assoc]
    exact .refl
  | drop name => exact moves_of_dropNamedRegistry s name
  | list | contains | inspect => exact .refl

/-! ## Runs -/

theorem moves_of_step (s : Session) (c : Command) : Moves s.world (s.step c).1.world := by
  cases c with
  | memory c => exact moves_of_runMemory s c
  | buffers c => exact moves_of_runBuffers s c
  | capsules c => exact moves_of_runCapsules s c
  | tensors c => exact moves_of_runTensors s c
  | registries c => exact moves_of_runRegistries s c

theorem moves_of_run (s : Session) (cs : List Command) : Moves s.world (s.run cs).1.world := by
  induction cs generalizing s with
  | nil => exact .refl
  | cons c rest ih => exact (moves_of_step s c).trans (ih (s.step c).1)

/-- At its end a session lets go of all that has a name to be let go by. -/
theorem moves_of_close (s : Session) : Moves s.world s.close.world := by
  have hthings : s.things = s.registries.bag.bind Registry.things +
      (s.capsules.bag.bind (fun c => {.capsule c}) +
        (s.buffers.bag.bind (fun b => {.buffer b}) + s.close.things)) := by
    simp only [things, close, Multiset.bind_singleton, Slots.bag_empty, Multiset.map_zero,
      Multiset.zero_bind]
    abel
  unfold world
  rw [hthings]
  exact (moves_of_foldl (fun h r things => moves_of_dropRegistry h r) ..).trans
    ((moves_of_foldl (fun h c things => .single (.dropCapsule h things _ c)) ..).trans
      (moves_of_foldl (fun h b things => .single (.drop h things _ b)) ..))

/-- The session after commands on a machine that never runs out of memory, in a process without
settings. -/
abbrev after (cs : List Command) : Session := ((start .boundless fun _ => none).run cs).1

end Session

end TensorExchange
