import TensorExchange.Proofs.Ownership.World

/-!
Growth: what the heap keeps of what it had.

A storage keeps its owner and a block its size as long as they are there, no number is used
twice, and the journal forgets nothing.  So what was found out about a storage or a block stays
true until it is gone, and need not be proved again after each operation.

`Table.Grown f new t t'` says it of tables: whatever is in the second one was in the first one
and kept its `f`, or has a number that the first one had not given yet.  The function says
which part of an entry is kept, since holders change and bytes are overwritten; the predicate
`new` restricts what may be added, since some invariants speak of the owners of all storages
and have to know about new ones as well.

`Heap.Grown` is both tables and the journal.  It is reflexive and transitive, and each
operation of the heap is a growth: those that only make something, those that only let go, and
those in between.  Letting go of a chain of storages is by the recursion of that function.

The invariants of `Proofs/Soundness` come with a lemma named `grown` each, which is all that
has to be said about the things that a move does not touch.  Only what is new needs an
argument of its own.
-/

namespace TensorExchange

/-! ## Tables -/

section Tables

variable {α β : Type} {f : α → β} {new : β → Prop}

/-- Whatever is in the second table was there before and kept its `f`, or is new. -/
structure Table.Grown (f : α → β) (new : β → Prop) (t t' : Table α) : Prop where
  next : t.next ≤ t'.next
  kept : ∀ id a', t'.get? id = some a' →
    (∃ a, t.get? id = some a ∧ f a' = f a) ∨ t.next ≤ id ∧ new (f a')

namespace Table.Grown

@[refl] theorem refl (t : Table α) : t.Grown f new t :=
  ⟨Nat.le_refl _, fun _ a' h => .inl ⟨a', h, rfl⟩⟩

theorem trans {t t' t'' : Table α} (g : t.Grown f new t') (g' : t'.Grown f new t'') :
    t.Grown f new t'' := by
  refine ⟨Nat.le_trans g.next g'.next, fun id a'' h => ?_⟩
  rcases g'.kept id a'' h with ⟨a', ha', hf⟩ | ⟨hid, hnew⟩
  · rcases g.kept id a' ha' with ⟨a, ha, hf'⟩ | ⟨hid, hnew⟩
    · exact .inl ⟨a, ha, hf.trans hf'⟩
    · exact .inr ⟨hid, hf ▸ hnew⟩
  · exact .inr ⟨Nat.le_trans g.next hid, hnew⟩

theorem add (t : Table α) {a : α} (h : new (f a)) : t.Grown f new (t.add a).1 := by
  refine ⟨by rw [next_add]; omega, fun id a' found => ?_⟩
  by_cases hid : id = t.next
  · subst hid
    rw [get?_add_next] at found
    exact .inr ⟨Nat.le_refl _, Option.some.inj found ▸ h⟩
  · rw [get?_add_of_ne t a hid] at found
    exact .inl ⟨a', found, rfl⟩

theorem erase (t : Table α) (id : Nat) : t.Grown f new (t.erase id) := by
  refine ⟨by rw [next_erase], fun other a' found => ?_⟩
  by_cases hid : id = other
  · subst hid
    rw [get?_erase_self] at found
    cases found
  · rw [get?_erase_of_ne t hid] at found
    exact .inl ⟨a', found, rfl⟩

theorem set {t : Table α} {id : Nat} {a b : α} (h : t.get? id = some a) (hf : f b = f a) :
    t.Grown f new (t.set id b) := by
  refine ⟨by rw [next_set], fun other a' found => ?_⟩
  by_cases hid : id = other
  · subst hid
    rw [get?_set_self (lt_next_of_get? h)] at found
    exact .inl ⟨a, h, Option.some.inj found ▸ hf⟩
  · rw [get?_set_of_ne t b hid] at found
    exact .inl ⟨a', found, rfl⟩

end Table.Grown

end Tables

/-! ## Heaps -/

/-- Storages kept their owners, apart from new ones, blocks their sizes, and the journal what it
said. -/
structure Heap.Grown (new : Owner → Prop) (h h' : Heap) : Prop where
  holdings : h.holdings.Grown Holding.owner new h'.holdings
  blocks : h.blocks.Grown Array.size (fun _ => True) h'.blocks
  journal : h.journal ⊆ h'.journal

namespace Heap.Grown

variable {new : Owner → Prop} {h h' h'' : Heap}

@[refl] theorem refl (h : Heap) : h.Grown new h := ⟨.refl _, .refl _, List.Subset.refl _⟩

theorem trans (g : h.Grown new h') (g' : h'.Grown new h'') : h.Grown new h'' :=
  ⟨g.holdings.trans g'.holdings, g.blocks.trans g'.blocks, List.Subset.trans g.journal g'.journal⟩

theorem record (h : Heap) (e : Event) : h.Grown new (h.record e) :=
  ⟨.refl _, .refl _, List.subset_cons_self ..⟩

theorem addBlock (h : Heap) (bytes : Array UInt8) : h.Grown new (h.addBlock bytes).1 :=
  ⟨.refl _, .add _ trivial, List.Subset.refl _⟩

theorem dropBlock (h : Heap) (block : Nat) : h.Grown new (h.dropBlock block) :=
  ⟨.refl _, .erase .., List.Subset.refl _⟩

theorem free (h : Heap) (a : Allocation) : h.Grown new (h.free a) :=
  (dropBlock h a.block).trans (record ..)

theorem write (h : Heap) (p : Pointer) (data : List UInt8) : h.Grown new (h.write p data) := by
  cases p with
  | fixed _ => exact .refl h
  | within block offset =>
    simp only [Heap.write]
    split
    next bytes found =>
      exact ⟨.refl _, .set found (Balanced.size_overwrite ..), List.Subset.refl _⟩
    next => exact .refl h

theorem addStorage (h : Heap) {owner : Owner} (hnew : new owner) (base : Pointer) (size : Nat)
    (alignment : Option Nat) (device : Device) (readOnly : Bool) :
    h.Grown new (h.addStorage owner base size alignment device readOnly).1 :=
  ⟨.add _ hnew, .refl _, List.Subset.refl _⟩

theorem addEmptyStorage (h : Heap) (hnobody : new .nobody) (alignment : Nat) (device : Device) :
    h.Grown new (h.addEmptyStorage alignment device).1 :=
  addStorage h hnobody .dangling 0 (some alignment) device false

theorem setHolders {id : Nat} {x : Holding} (found : h.holdings.get? id = some x) (n : Nat) :
    h.Grown new { h with holdings := h.holdings.set id { x with holders := n } } :=
  ⟨.set found rfl, .refl _, List.Subset.refl _⟩

theorem eraseStorage (h : Heap) (id : Nat) :
    h.Grown new { h with holdings := h.holdings.erase id } :=
  ⟨.erase .., .refl _, List.Subset.refl _⟩

theorem retain (h : Heap) (s : Storage) : h.Grown new (h.retain s) := by
  unfold Heap.retain
  split
  next x found => exact setHolders found _
  next => exact .refl h

theorem releaseId (h : Heap) (id : Nat) : h.Grown new (h.releaseId id) := by
  fun_induction Heap.releaseId h id with
  | case1 h id gone => exact .refl h
  | case2 h id x found hmore => exact setHolders found _
  | case3 h id x found hlast rest a => exact (eraseStorage h id).trans (free ..)
  | case4 h id x found hlast rest block => exact (eraseStorage h id).trans (dropBlock ..)
  | case5 h id x found hlast rest tensor howner buffer hkeeper =>
    rename_i ih
    exact (eraseStorage h id).trans ih
  | case6 h id x found hlast rest => exact (eraseStorage h id).trans (record ..)
  | case7 h id x found hlast rest => exact eraseStorage h id
  | case8 h id x found hlast rest => exact eraseStorage h id
  | case9 h id x found hlast rest => exact eraseStorage h id

theorem drop (h : Heap) (b : Buffer) : h.Grown new (h.drop b) := releaseId h _

theorem delete (h : Heap) (t : ManagedTensor) : h.Grown new (h.delete t) := by
  unfold Heap.delete
  split
  · exact drop ..
  · exact record ..
  · exact .refl h
  · exact .refl h

theorem dropCapsule (h : Heap) (c : Capsule) : h.Grown new (h.dropCapsule c) := by
  unfold Heap.dropCapsule
  split
  · exact delete ..
  · exact .refl h

theorem addForeign (h : Heap) (f : ForeignTensor) (n : Nat) :
    h.Grown new (h.addForeign f n).1 := by
  have hplace : h.Grown new (h.placeForeign f.memory).1 := by
    unfold Heap.placeForeign
    split
    · exact .refl h
    · exact addBlock ..
  exact hplace.trans (record ..)

theorem allocate {backend : Backend} {size alignment : Nat} {device : Device} {a : Allocation}
    (ok : h.allocate backend size alignment device = .ok (h', a)) : h.Grown new h' := by
  obtain ⟨_, _, ok⟩ := bind_eq_ok.mp ok
  obtain ⟨rfl, _⟩ := Prod.mk.inj (pure_eq_ok.mp ok)
  exact (addBlock ..).trans (record ..)

theorem ofBytes (h : Heap) (hnobody : new .nobody) (hadopted : new (.adopted h.blocks.next))
    (type : ElementType) (bytes : Array UInt8) : h.Grown new (Buffer.ofBytes h type bytes).1 := by
  unfold Buffer.ofBytes
  split
  · exact addEmptyStorage h hnobody type.size .host
  · exact (addBlock h bytes).trans (addStorage _ hadopted (.within h.blocks.next 0) bytes.size
      (some type.size) .host false)

theorem allocateBuffer (hnobody : new .nobody)
    (hbackend : ∀ a : Allocation, a.block = h.blocks.next → a.size ≠ 0 → new (.backend a))
    {a : Allocator} {type : ElementType} {shape : List UInt64} {device : Device} {b : Buffer}
    (ok : a.allocate h type shape device = .ok (h', b)) : h.Grown new h' := by
  obtain ⟨layout, n, _, ⟨_, s, hadd, rfl⟩ | ⟨h₁, allocation, s, hn, halloc, hadd, rfl⟩⟩ :=
    Allocator.allocate_eq_ok ok
  · obtain ⟨rfl, _⟩ := Prod.mk.inj hadd
    exact addEmptyStorage h hnobody (a.alignmentFor type) device
  · obtain ⟨rfl, _⟩ := Prod.mk.inj hadd
    obtain ⟨_, _, ok⟩ := bind_eq_ok.mp halloc
    have hmade : allocation.block = h.blocks.next ∧ allocation.size = n := by
      obtain ⟨_, rfl⟩ := Prod.mk.inj (pure_eq_ok.mp ok)
      exact ⟨rfl, rfl⟩
    have hnew := hbackend allocation hmade.1 (hmade.2 ▸ hn)
    exact (allocate halloc).trans (addStorage h₁ hnew
      (.within allocation.block 0) n (some (a.alignmentFor type)) device false)

theorem adopt (h : Heap) {t : ManagedTensor} (hnew : new (.imported t)) (d : Described) :
    h.Grown new (h.adopt t d).1 :=
  addStorage h hnew d.base d.size d.alignment d.device d.readOnly

end Heap.Grown

end TensorExchange
