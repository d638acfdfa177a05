import TensorExchange.Proofs.Ownership.Chains
import TensorExchange.Proofs.Soundness.Moves

/-!
Deals: what happens to tensors between the objects of a script.

The commands of a session are moves of `Proofs/Ownership`, one thing at a time.  A step of
a script is coarser: it claims, imports, consumes and drops in one go, and in between a
thing belongs to nobody that has a name.  So a step is described by what it does to a
world, wherever the things in it are kept.

A deal leads from one world to another such that

* the books stay balanced, whatever else is held (`Deal.frame`);
* every storage has one holder, if every storage had one before;
* no number of a foreign tensor is used twice, and nothing that is gone comes back.

Views and reshapes are what gives a storage more than one holder.  Between the objects of
a script nobody makes any, so the second clause can be kept, and it is what makes the
storage a custodian with one owner in `Proofs/Interop/Custody`.  Sessions do not have it.

Deals compose (`Deal.trans`), a move is a deal if it keeps the second clause
(`Deal.of_move`), and there is one lemma for each thing that a script does to the heap:
`Deal.allocated`, `Deal.lend`, `Deal.importTensor`, `Deal.consume`, `Deal.exported` and so
on.  A result that is refused is no deal: it carries the heap it was given.
-/

namespace TensorExchange

/-! ## Storages with one holder -/

/-- Every storage has one holder. -/
structure Heap.Single (h : Heap) : Prop where
  one : ∀ id x, h.holdings.get? id = some x → x.holders = 1

namespace Heap.Single

variable {h h' : Heap}

theorem of_same (k : h.Single) (same : h'.holdings = h.holdings) : h'.Single :=
  ⟨fun id x found => k.one id x (same ▸ found)⟩

theorem add (k : h.Single) {owner : Owner} (new : h'.holdings = (h.holdings.add ⟨owner, 1⟩).1) :
    h'.Single :=
  ⟨new ▸ Table.forall_add k.one rfl⟩

theorem erase (k : h.Single) (id : Nat) : Single { h with holdings := h.holdings.erase id } :=
  ⟨Table.forall_erase k.one id⟩

theorem releaseId (k : h.Single) (id : Nat) : (h.releaseId id).Single := by
  fun_induction Heap.releaseId h id with
  | case1 h id gone => exact k
  | case2 h id x found hmore => exact absurd hmore (by simp [k.one id x found])
  | case3 h id x found hlast rest a => exact (k.erase id).of_same rfl
  | case4 h id x found hlast rest block => exact (k.erase id).of_same rfl
  | case5 h id x found hlast rest tensor howner buffer hkeeper ih => exact ih (k.erase id)
  | case6 h id x found hlast rest => exact (k.erase id).of_same rfl
  | case7 h id x found hlast rest => exact k.erase id
  | case8 h id x found hlast rest => exact k.erase id
  | case9 h id x found hlast rest => exact k.erase id

theorem drop (k : h.Single) (b : Buffer) : (h.drop b).Single := k.releaseId _

theorem delete (k : h.Single) (t : ManagedTensor) : (h.delete t).Single := by
  unfold Heap.delete
  split
  · exact k.drop _
  · exact k.of_same rfl
  · exact k
  · exact k

theorem dropCapsule (k : h.Single) (c : Capsule) : (h.dropCapsule c).Single := by
  unfold Heap.dropCapsule
  split
  · exact k.delete _
  · exact k

theorem allocateBuffer (k : h.Single) {a : Allocator} {type : ElementType} {shape : List UInt64}
    {device : Device} {b : Buffer} (ok : a.allocate h type shape device = .ok (h', b)) :
    h'.Single := by
  obtain ⟨layout, n, _, ⟨_, s, hadd, rfl⟩ | ⟨h₁, allocation, s, _, halloc, hadd, rfl⟩⟩ :=
    Allocator.allocate_eq_ok ok
  · obtain ⟨rfl, rfl⟩ := Prod.mk.inj hadd
    exact k.add rfl
  · obtain ⟨rfl, rfl⟩ := Prod.mk.inj hadd
    obtain ⟨_, rfl⟩ := Heap.allocate_eq_ok halloc
    exact k.add rfl

theorem ofBytes (k : h.Single) (type : ElementType) (bytes : Array UInt8) :
    (Buffer.ofBytes h type bytes).1.Single := by
  unfold Buffer.ofBytes
  split
  · exact k.add rfl
  · exact k.add rfl

theorem adopt (k : h.Single) (t : ManagedTensor) (d : Described) : (h.adopt t d).1.Single :=
  k.add rfl

theorem addForeign (k : h.Single) (f : ForeignTensor) (n : Nat) : (h.addForeign f n).1.Single := by
  have hplace : (h.placeForeign f.memory).1.holdings = h.holdings := by
    unfold Heap.placeForeign
    split <;> rfl
  exact k.of_same hplace

theorem consumeAs (k : h.Single) {c c' : Capsule} {a : Accept} {b : Buffer}
    (ok : c.consumeAs h a = .ok (h', c', b)) : h'.Single := by
  obtain ⟨_, _, ⟨_, _, rfl, _⟩ | ⟨d, t, _, rfl, _⟩⟩ := Capsule.consumeAs_eq_ok ok
  · exact k
  · exact k.adopt t d

end Heap.Single

/-! ## Deals -/

theorem World.add_zero (w : World) : w.add 0 = w := by
  simp [World.add]

theorem World.add_add (w : World) (extra more : Multiset Thing) :
    (w.add extra).add more = w.add (extra + more) := by
  simp [World.add, add_assoc]

/-- From a world to another the books stay balanced, whatever else there is, every storage has one
holder if it had so before, and no number is used twice. -/
structure Deal (w w' : World) : Prop where
  balanced : ∀ extra, (w.add extra).Balanced → (w'.add extra).Balanced
  single : w.heap.Single → w'.heap.Single
  grown : w.heap.Grown (fun _ => True) w'.heap
  numbered : w.numbered ≤ w'.numbered

namespace Deal

variable {w w' w'' : World} {h h' : Heap} {things : Multiset Thing} {n : Nat}

theorem refl (w : World) : Deal w w := ⟨fun _ => id, id, .refl _, Nat.le_refl _⟩

theorem trans (d : Deal w w') (d' : Deal w' w'') : Deal w w'' :=
  ⟨fun extra => d'.balanced extra ∘ d.balanced extra, d'.single ∘ d.single,
    d.grown.trans d'.grown, Nat.le_trans d.numbered d'.numbered⟩

theorem frame (d : Deal w w') (extra : Multiset Thing) : Deal (w.add extra) (w'.add extra) where
  balanced := by
    intro more b
    rw [World.add_add] at b ⊢
    exact d.balanced _ b
  single := d.single
  grown := d.grown
  numbered := d.numbered

theorem numbered_of_move (m : Move w w') : w.numbered ≤ w'.numbered := by
  cases m <;> first | exact Nat.le_refl _ | exact Nat.le_succ _

theorem of_move (m : Move w w') (single : w.heap.Single → w'.heap.Single)
    (grown : w.heap.Grown (fun _ => True) w'.heap) : Deal w w' :=
  ⟨fun extra b => (m.frame extra).balanced b, single, grown, numbered_of_move m⟩

theorem allocated {a : Allocator} {type : ElementType} {shape : List UInt64} {device : Device}
    {b : Buffer} (ok : a.allocate h type shape device = .ok (h', b)) (o : ExportOptions) :
    Deal ⟨h, things, n⟩ ⟨h', .capsule (.wrapWith b o) ::ₘ things, n⟩ :=
  (of_move (.allocate ok) (fun k => k.allocateBuffer ok)
    (.allocateBuffer trivial (fun _ _ _ => trivial) ok)).trans
      (of_move (.wrap h' things n b o) id (.refl h'))

theorem lend (f : ForeignTensor) :
    Deal ⟨h, things, n⟩
      ⟨(h.addForeign f (n + 1)).1, .tensor (h.addForeign f (n + 1)).2 ::ₘ things, n + 1⟩ :=
  of_move (.lend h things n f) (fun k => k.addForeign f (n + 1)) (.addForeign h f (n + 1))

theorem drop (b : Buffer) : Deal ⟨h, .buffer b ::ₘ things, n⟩ ⟨h.drop b, things, n⟩ :=
  of_move (.drop h things n b) (fun k => k.drop b) (.drop h b)

theorem delete (t : ManagedTensor) : Deal ⟨h, .tensor t ::ₘ things, n⟩ ⟨h.delete t, things, n⟩ :=
  of_move (.delete h things n t) (fun k => k.delete t) (.delete h t)

theorem dropCapsule (c : Capsule) :
    Deal ⟨h, .capsule c ::ₘ things, n⟩ ⟨h.dropCapsule c, things, n⟩ :=
  of_move (.dropCapsule h things n c) (fun k => k.dropCapsule c) (.dropCapsule h c)

/-- A capsule that was consumed goes without a trace. -/
theorem dropSpent (c : Capsule) : Deal ⟨h, .capsule c.spent ::ₘ things, n⟩ ⟨h, things, n⟩ := by
  have hdrop : Deal ⟨h, .capsule c.spent ::ₘ things, n⟩ ⟨h.dropCapsule c.spent, things, n⟩ :=
    dropCapsule c.spent
  rwa [Heap.dropCapsule_spent] at hdrop

theorem importTensor {t : ManagedTensor} {c : Capsule} (ok : Capsule.ofTensor t = .ok c) :
    Deal ⟨h, .tensor t ::ₘ things, n⟩ ⟨h, .capsule c ::ₘ things, n⟩ :=
  of_move (.importTensor ok) id (.refl h)

theorem consume {c c' : Capsule} {b : Buffer} (ok : c.consume h = .ok (h', c', b)) :
    Deal ⟨h, .capsule c ::ₘ things, n⟩ ⟨h', .capsule c' ::ₘ .buffer b ::ₘ things, n⟩ := by
  refine of_move (.consume ok) (fun k => k.consumeAs ok) ?_
  obtain ⟨_, _, ⟨_, _, rfl, _⟩ | ⟨d, t, _, rfl, _⟩⟩ := Capsule.consumeAs_eq_ok ok
  · exact .refl _
  · exact .adopt _ trivial d

theorem takeTensor {c c' : Capsule} {t : ManagedTensor} (ok : c.takeTensor = .ok (c', t)) :
    Deal ⟨h, .capsule c ::ₘ things, n⟩ ⟨h, .capsule c' ::ₘ .tensor t ::ₘ things, n⟩ :=
  of_move (.takeTensor ok) id (.refl h)

/-- A buffer that is exported becomes its managed tensor. -/
theorem exported {b : Buffer} {o : ExportOptions} {c' : Capsule} {t : ManagedTensor}
    (ok : (Capsule.wrapWith b o).takeTensor = .ok (c', t)) :
    Deal ⟨h, .buffer b ::ₘ things, n⟩ ⟨h, .tensor t ::ₘ things, n⟩ := by
  obtain ⟨rfl, _⟩ := Capsule.takeTensor_eq_ok ok
  exact (of_move (.wrap h things n b o) id (.refl h)).trans ((takeTensor ok).trans (dropSpent _))

/-- Packed elements, however many, are adopted and exported at once. -/
theorem packed (type : ElementType) (bytes : Array UInt8) :
    Deal ⟨h, things, n⟩
      ⟨(Buffer.ofBytes h type bytes).1,
        .tensor (.ofBuffer (Buffer.ofBytes h type bytes).2 .legacy false) ::ₘ things, n⟩ := by
  let b := (Buffer.ofBytes h type bytes).2
  have hadopt : Deal ⟨h, things, n⟩ ⟨(Buffer.ofBytes h type bytes).1, .buffer b ::ₘ things, n⟩ := by
    refine ⟨fun extra balanced => ?_, fun k => k.ofBytes type bytes,
      .ofBytes h trivial trivial .., Nat.le_refl n⟩
    simp only [World.Balanced, World.add, Multiset.cons_add, World.held_cons] at balanced ⊢
    exact balanced.ofBytes type bytes
  have htake : (Capsule.wrapWith b ⟨.legacy, false⟩).takeTensor = .ok (_, _) := rfl
  exact hadopt.trans (exported htake)

end Deal

end TensorExchange
