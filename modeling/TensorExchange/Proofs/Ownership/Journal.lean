import TensorExchange.Proofs.Soundness.Moves

/-!
The journal: a move is at most one event.

The journal of a heap lists what the outside could observe: memory handed out and taken back,
tensors lent and deleters called.  Operations may add to it and never remove.

Main statement (`Move.noted`): a move leaves the journal as it was or adds one event.  Views,
exports and imports add none; allocating, giving back, lending and deleting add one.

This is not obvious for letting go.  A buffer that is dropped may be the last holder of its
storage, whose owner may be a tensor that carries another buffer, and so on: a chain of
storages goes at once.  But only the last of them has memory to give back or a deleter to
call, since the owner of each of the others is a storage (`Heap.Noted.releaseId`, by the
recursion of the walk).

It is what the accounts rest on (`Proofs/Account`): between two states that a move relates
the counters of a backend take at most one step, so a peak that is the maximum over all
events is the maximum over all states on the way.
-/

namespace TensorExchange

/-- At most one thing happened that others account for. -/
def Heap.Noted (h h' : Heap) : Prop :=
  h'.journal = h.journal ∨ ∃ e, h'.journal = e :: h.journal

namespace Heap

@[simp] theorem journal_retain (h : Heap) (s : Storage) : (h.retain s).journal = h.journal := by
  unfold retain
  split <;> rfl

@[simp] theorem journal_write (h : Heap) (p : Pointer) (data : List UInt8) :
    (h.write p data).journal = h.journal := by
  unfold write
  split
  · rfl
  · split <;> rfl

@[simp] theorem journal_placeForeign (h : Heap) (m : ForeignMemory) :
    (h.placeForeign m).1.journal = h.journal := by
  unfold placeForeign
  split <;> rfl

@[simp] theorem journal_ofBytes (h : Heap) (type : ElementType) (bytes : Array UInt8) :
    (Buffer.ofBytes h type bytes).1.journal = h.journal := by
  unfold Buffer.ofBytes
  split <;> rfl

namespace Noted

variable {h h' : Heap}

@[refl] theorem refl (h : Heap) : h.Noted h := .inl rfl

theorem record (h : Heap) (e : Event) : h.Noted (h.record e) := .inr ⟨e, rfl⟩

theorem free (h : Heap) (a : Allocation) : h.Noted (h.free a) := .inr ⟨.freed a, rfl⟩

theorem releaseId (h : Heap) (id : Nat) : h.Noted (h.releaseId id) := by
  fun_induction Heap.releaseId h id with
  | case1 h id gone => exact .refl h
  | case2 h id x found hmore => exact .inl rfl
  | case3 h id x found hlast rest a => exact free rest a
  | case4 h id x found hlast rest block => exact .inl rfl
  | case5 h id x found hlast rest tensor howner buffer hkeeper ih => exact ih
  | case6 h id x found hlast rest => exact record rest _
  | case7 h id x found hlast rest => exact .inl rfl
  | case8 h id x found hlast rest => exact .inl rfl
  | case9 h id x found hlast rest => exact .inl rfl

theorem drop (h : Heap) (b : Buffer) : h.Noted (h.drop b) := releaseId h _

theorem delete (h : Heap) (t : ManagedTensor) : h.Noted (h.delete t) := by
  unfold Heap.delete
  split
  · exact drop ..
  · exact record ..
  · exact .refl h
  · exact .refl h

theorem dropCapsule (h : Heap) (c : Capsule) : h.Noted (h.dropCapsule c) := by
  unfold Heap.dropCapsule
  split
  · exact delete ..
  · exact .refl h

theorem allocate {backend : Backend} {size alignment : Nat} {device : Device} {a : Allocation}
    (ok : h.allocate backend size alignment device = .ok (h', a)) : h.Noted h' := by
  obtain ⟨rfl, rfl⟩ := Heap.allocate_eq_ok ok
  exact record ..

theorem allocateBuffer {a : Allocator} {type : ElementType} {shape : List UInt64}
    {device : Device} {b : Buffer} (ok : a.allocate h type shape device = .ok (h', b)) :
    h.Noted h' := by
  obtain ⟨layout, n, _, ⟨_, s, hadd, rfl⟩ | ⟨h₁, allocation, s, _, halloc, hadd, rfl⟩⟩ :=
    Allocator.allocate_eq_ok ok
  · obtain ⟨rfl, rfl⟩ := Prod.mk.inj hadd
    exact .inl rfl
  · obtain ⟨rfl, rfl⟩ := Prod.mk.inj hadd
    exact (allocate halloc : h.Noted h₁)

end Noted

end Heap

theorem Move.noted {w w' : World} (m : Move w w') : w.heap.Noted w'.heap := by
  cases m with
  | adopt h things n type bytes small => exact .inl (Heap.journal_ofBytes ..)
  | allocate ok => exact .allocateBuffer ok
  | view mem ok => exact .inl (Heap.journal_retain ..)
  | reshape mem ok => exact .inl (Heap.journal_retain ..)
  | write position data mem ok => exact .inl (Heap.journal_write ..)
  | drop h things n b => exact .drop h b
  | wrap h things n b o => exact .refl h
  | consume ok =>
    obtain ⟨_, _, ⟨_, _, rfl, _⟩ | ⟨_, _, _, rfl, _⟩⟩ := Capsule.consumeAs_eq_ok ok
    · exact .refl _
    · exact .inl rfl
  | takeTensor ok => exact .refl _
  | dropCapsule h things n c => exact .dropCapsule h c
  | importTensor ok => exact .refl _
  | delete h things n t => exact .delete h t
  | lend h things n f => exact .inr ⟨_, congrArg _ (Heap.journal_placeForeign ..)⟩
  | skip h things n => exact .refl h
  | obtain ok => exact .allocate ok
  | giveBack h things n a => exact .free h a

end TensorExchange
