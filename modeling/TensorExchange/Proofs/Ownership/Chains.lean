import Mathlib.Data.Multiset.Bind
import TensorExchange.Proofs.Ownership.Reachable

/-!
Chains: what the compound operations do, as chains of moves.

Moves are small: one thing is made, changed or let go.  The operations that a session offers
are larger.  Adopting an array makes a storage and a view, a copy allocates and fills,
wrapping with a check retains and may drop again, a race tries one consumer after the other,
and a registry holds many capsules at once.  Each of them is shown here to be a chain of
moves, from what is held before to what is held after.

An operation that fails is treated like one that succeeds: it carries the heap it leaves, and
that has to be reached by moves as well.  For most of them it is the heap from before
(`leaves_register`, `leaves_take`), but nothing in a chain depends on that.

A chain acts on some of the things and does not touch the others (`Moves.frame`), so chains
are stated for the things they are about.  The things in a registry are its capsules, as a
bag; that a registry keeps them sorted by name does not matter to the heap
(`Registry.things_of_register`, `Registry.things_of_take`).

Whatever every move keeps is kept by every operation in this file, without another look at
the operation.  That is why there is one invariant lemma for moves and none for commands.
-/

namespace TensorExchange

/-! ## Chains side by side with other things -/

/-- The world with more things in the hands of clients. -/
def World.add (w : World) (extra : Multiset Thing) : World := { w with things := w.things + extra }

/-- A move does not depend on what else there is. -/
theorem Move.frame {w w' : World} (m : Move w w') (extra : Multiset Thing) :
    Move (w.add extra) (w'.add extra) := by
  cases m <;> simp only [World.add, Multiset.cons_add]
  case adopt small => exact .adopt _ _ _ _ _ small
  case allocate ok => exact .allocate ok
  case view mem ok => exact .view (Multiset.mem_add.mpr (.inl mem)) ok
  case reshape mem ok => exact .reshape (Multiset.mem_add.mpr (.inl mem)) ok
  case write mem ok => exact .write _ _ (Multiset.mem_add.mpr (.inl mem)) ok
  case drop => constructor
  case wrap => constructor
  case consume ok => exact .consume ok
  case takeTensor ok => exact .takeTensor ok
  case dropCapsule => constructor
  case importTensor ok => exact .importTensor ok
  case delete => constructor
  case lend => constructor
  case skip => constructor
  case obtain ok => exact .obtain ok
  case giveBack => constructor

theorem Moves.frame {w w' : World} (m : Moves w w') (extra : Multiset Thing) :
    Moves (w.add extra) (w'.add extra) :=
  m.lift (World.add · extra) fun _ _ step => step.frame extra

/-! ## Buffers -/

section Buffers

variable {h h' : Heap} {things : Multiset Thing} {n : Nat} {b : Buffer}

theorem moves_of_view {v : Buffer} {shape : List UInt64} {strides : List Int64}
    {byteOffset : UInt64} (mem : .buffer b ∈ things)
    (ok : b.view h shape strides byteOffset = .ok (h', v)) :
    Moves ⟨h, things, n⟩ ⟨h', .buffer v ::ₘ things, n⟩ := by
  obtain ⟨layout, hlayout, ok⟩ := bind_eq_ok.mp ok
  obtain ⟨rfl, rfl⟩ := by simpa [pure_eq_ok] using ok
  exact .single (.view mem (orShapeError_eq_ok.mp (leaving_eq_ok.mp hlayout)))

theorem moves_of_reshape {v : Buffer} {shape : List UInt64} (mem : .buffer b ∈ things)
    (ok : b.reshape h shape = .ok (h', v)) :
    Moves ⟨h, things, n⟩ ⟨h', .buffer v ::ₘ things, n⟩ := by
  obtain ⟨layout, hlayout, ok⟩ := bind_eq_ok.mp ok
  obtain ⟨rfl, rfl⟩ := by simpa [pure_eq_ok] using ok
  exact .single (.reshape mem (leaving_eq_ok.mp hlayout))

/-- The whole vector of an array is adopted, viewed, and let go again by its first buffer. -/
theorem moves_of_ofArray {a : ArrayParts} (small : a.data.size ≤ maxSize)
    (ok : Buffer.ofArray h a = .ok (h', b)) :
    Moves ⟨h, things, n⟩ ⟨h', .buffer b ::ₘ things, n⟩ := by
  obtain ⟨⟨h₁, v⟩, hview, ok⟩ := bind_eq_ok.mp ok
  obtain ⟨rfl, rfl⟩ := by simpa [pure_eq_ok] using ok
  have hadopt := Move.adopt h things n a.type a.data small
  have hview := mapError_eq_ok.mp hview
  refine .head hadopt ((moves_of_view (Multiset.mem_cons_self _ _) hview).tail ?_)
  rw [Multiset.cons_swap]
  exact .drop ..

theorem moves_of_window {w : Window} (position : Nat) (data : List UInt8)
    (mem : .buffer b ∈ things) (ok : b.window h = .ok w) :
    Moves ⟨h, things, n⟩ ⟨h.writeWindow w position data, things, n⟩ :=
  .single (.write position data mem ok)

theorem moves_of_writeBytes {position k : Nat} {data : List UInt8} (mem : .buffer b ∈ things)
    (ok : b.writeBytes h position data = .ok (h', k)) : Moves ⟨h, things, n⟩ ⟨h', things, n⟩ := by
  obtain ⟨w, hw, ok⟩ := bind_eq_ok.mp ok
  obtain ⟨rfl, _⟩ := Prod.mk.inj (pure_eq_ok.mp ok)
  exact moves_of_window position data mem (leaving_eq_ok.mp hw)

theorem moves_of_writeElements {type : ElementType} {position k : Nat} {data : List UInt8}
    (mem : .buffer b ∈ things) (ok : b.writeElements h type position data = .ok (h', k)) :
    Moves ⟨h, things, n⟩ ⟨h', things, n⟩ := by
  obtain ⟨w, hw, ok⟩ := bind_eq_ok.mp ok
  obtain ⟨_, _, hw⟩ := bind_eq_ok.mp (leaving_eq_ok.mp hw)
  obtain ⟨w', hw', hw⟩ := bind_eq_ok.mp hw
  split at hw
  · obtain rfl := pure_eq_ok.mp hw
    obtain ⟨rfl, _⟩ := Prod.mk.inj (pure_eq_ok.mp ok)
    exact moves_of_window (position * type.size) data mem hw'
  · cases hw

theorem moves_of_fill {data : Array UInt8} (mem : .buffer b ∈ things)
    (ok : b.fill h data = .ok h') : Moves ⟨h, things, n⟩ ⟨h', things, n⟩ := by
  obtain ⟨w, hw, ok⟩ := bind_eq_ok.mp ok
  split at ok
  · obtain rfl := pure_eq_ok.mp ok
    exact moves_of_window 0 data.toList mem (leaving_eq_ok.mp hw)
  · cases ok

theorem moves_of_copyTo {device : Device} {a : Allocator} {copy : Buffer}
    (ok : b.copyTo h device a = .ok (h', copy)) :
    Moves ⟨h, things, n⟩ ⟨h', .buffer copy ::ₘ things, n⟩ := by
  obtain ⟨_, _, ok⟩ := bind_eq_ok.mp ok
  obtain ⟨_, _, ok⟩ := bind_eq_ok.mp ok
  obtain ⟨data, _, ok⟩ := bind_eq_ok.mp ok
  obtain ⟨⟨h₁, copy'⟩, halloc, ok⟩ := bind_eq_ok.mp ok
  obtain ⟨h₂, hfill, ok⟩ := bind_eq_ok.mp ok
  obtain ⟨rfl, rfl⟩ := Prod.mk.inj (pure_eq_ok.mp ok)
  refine .head (.allocate halloc) ?_
  exact moves_of_fill (Multiset.mem_cons_self _ _) (mapError_eq_ok.mp hfill)

end Buffers

/-! ## Capsules -/

section Capsules

variable {h h' : Heap} {things : Multiset Thing} {n : Nat}

/-- A buffer that fits what is declared goes into the capsule, as it is or given a shape. -/
theorem moves_of_wrapAs {b : Buffer} {shape : List UInt64} {type : ElementType} {device : Device}
    {c : Capsule} (ok : Capsule.wrapAs h b shape type device = .ok (h', c)) :
    Moves ⟨h, .buffer b ::ₘ things, n⟩ ⟨h', .capsule c ::ₘ things, n⟩ := by
  obtain ⟨_, ok⟩ := guard_eq_ok.mp ok
  obtain ⟨_, ok⟩ := guard_eq_ok.mp ok
  split at ok
  case isTrue =>
    obtain ⟨rfl, rfl⟩ := Prod.mk.inj (pure_eq_ok.mp ok)
    exact .single (.wrap ..)
  case isFalse =>
    obtain ⟨⟨h₁, reshaped⟩, hreshape, ok⟩ := bind_eq_ok.mp ok
    obtain ⟨rfl, rfl⟩ := Prod.mk.inj (pure_eq_ok.mp ok)
    have hreshape := mapError_eq_ok.mp hreshape
    refine (moves_of_reshape (Multiset.mem_cons_self _ _) hreshape).trans ?_
    rw [Multiset.cons_swap]
    exact .head (.drop ..) (.single (.wrap ..))

/-- The buffers that the winners of a race got, and the capsule that is left. -/
theorem moves_of_race (k : Nat) : ∀ {h h' : Heap} {c c' : Capsule} {won : List Buffer}
    {things : Multiset Thing}, c.race h k = (h', c', won) →
      Moves ⟨h, .capsule c ::ₘ things, n⟩
        ⟨h', .capsule c' ::ₘ (↑(won.map Thing.buffer) + things), n⟩ := by
  induction k with
  | zero =>
    intro h h' c c' won things hrace
    obtain ⟨rfl, rfl, rfl⟩ := by simpa [Capsule.race] using hrace
    simpa using Relation.ReflTransGen.refl
  | succ k ih =>
    intro h h' c c' won things hrace
    unfold Capsule.race at hrace
    split at hrace
    next h₁ c₁ b hconsume =>
      obtain ⟨rfl, rfl, rfl⟩ := by simpa using hrace
      refine .head (.consume hconsume) ?_
      rw [List.map_cons, ← Multiset.cons_coe, Multiset.cons_add, ← Multiset.add_cons]
      exact ih rfl
    next f failed =>
      rw [Capsule.leaves_consumeAs f failed] at hrace
      exact ih hrace

end Capsules

/-! ## Registries -/

namespace Registry

/-- The capsules of a registry. -/
def things (r : Registry) : Multiset Thing := r.capsules.map Thing.capsule

/-- Capsules with names that they are to have, or had, in a registry. -/
def named (entries : List (String × Capsule)) : Multiset Thing :=
  entries.map fun e => Thing.capsule e.2

@[simp] theorem things_empty : empty.things = 0 := rfl

@[simp] theorem named_nil : named [] = 0 := rfl

@[simp] theorem named_cons (key : String) (c : Capsule) (entries : List (String × Capsule)) :
    named ((key, c) :: entries) = .capsule c ::ₘ named entries := rfl

theorem things_eq_named (r : Registry) : r.things = named r.entries :=
  congrArg Multiset.ofList List.map_map

theorem things_of_register {r r' : Registry} {name : String} {c : Capsule}
    (h : r.register name c = .ok r') : r'.things = .capsule c ::ₘ r.things :=
  Multiset.coe_eq_coe.mpr ((capsules_perm_of_register h).map Thing.capsule)

theorem things_of_take {r r' : Registry} {name : String} {c : Capsule}
    (h : r.take name = .ok (r', c)) : r.things = .capsule c ::ₘ r'.things :=
  Multiset.coe_eq_coe.mpr ((capsules_perm_of_take h).map Thing.capsule)

theorem leaves_register {r : Registry} {name : String} {c : Capsule} :
    Leaves r (r.register name c) := by
  unfold register
  split
  case isTrue => exact .error
  case isFalse => exact .ok

theorem leaves_take {r : Registry} {name : String} : Leaves r (r.take name) := by
  unfold take
  split
  next => exact .ok
  next => exact .error

theorem things_of_takeEach {r r' : Registry} {names : List String}
    {taken : List (String × Capsule)} (h : r.takeEach names = (r', taken)) :
    r.things = named taken + r'.things := by
  induction names generalizing r r' taken with
  | nil =>
    obtain ⟨rfl, rfl⟩ := by simpa [takeEach] using h
    simp
  | cons name rest ih =>
    unfold takeEach at h
    split at h
    next r₁ c htake =>
      obtain ⟨rfl, rfl⟩ := by simpa using h
      rw [things_of_take htake, ih (r := r₁) rfl]
      simp
    next f failed =>
      rw [Registry.leaves_take f failed] at h
      exact ih h

end Registry

section Registries

variable {things : Multiset Thing} {n : Nat}

theorem moves_of_foldl {α : Type} {held : α → Multiset Thing} {drop : Heap → α → Heap}
    (step : ∀ h a things, Moves ⟨h, held a + things, n⟩ ⟨drop h a, things, n⟩) (l : List α)
    (h : Heap) : Moves ⟨h, (l : Multiset α).bind held + things, n⟩ ⟨l.foldl drop h, things, n⟩ := by
  induction l generalizing h with
  | nil => simpa using Relation.ReflTransGen.refl
  | cons a rest ih =>
    rw [← Multiset.cons_coe, Multiset.cons_bind, add_assoc]
    exact (step ..).trans (ih _)

theorem moves_of_dropRegistry (h : Heap) (r : Registry) :
    Moves ⟨h, r.things + things, n⟩ ⟨h.dropRegistry r, things, n⟩ := by
  have hbind : r.things =
      (r.entries : Multiset (String × Capsule)).bind fun e => {.capsule e.2} := by
    rw [r.things_eq_named, Multiset.bind_singleton]
    rfl
  rw [hbind]
  exact moves_of_foldl (fun h e things => .single (Move.dropCapsule h things n e.2)) r.entries h

/-- Collecting keeps the first capsule of each name and lets go of the others. -/
theorem moves_of_collect (entries : List (String × Capsule)) : ∀ {h h' : Heap} {r r' : Registry},
    Registry.collect h entries r = (h', r') →
      Moves ⟨h, Registry.named entries + (r.things + things), n⟩ ⟨h', r'.things + things, n⟩ := by
  induction entries with
  | nil =>
    intro h h' r r' hcollect
    obtain ⟨rfl, rfl⟩ := by simpa [Registry.collect] using hcollect
    simpa using Relation.ReflTransGen.refl
  | cons e rest ih =>
    intro h h' r r' hcollect
    obtain ⟨name, c⟩ := e
    unfold Registry.collect at hcollect
    split at hcollect
    next r₁ hregister =>
      have := ih hcollect
      rw [Registry.things_of_register hregister] at this
      simpa using this
    next f failed =>
      rw [Registry.leaves_register f failed] at hcollect
      simp only [Registry.named_cons, Multiset.cons_add]
      exact .head (.dropCapsule ..) (ih hcollect)

end Registries

end TensorExchange
