import Mathlib.Logic.Relation
import TensorExchange.Proofs.Buffer.Addressing
import TensorExchange.Proofs.Exclusive

/-!
Reshapes: another shape over the same row of elements.

A reshape keeps the byte offset of the buffer and puts new row-major strides over it, which is
right only because the rows were packed before; nothing is checked against the storage again.

Main statement (`Session.reshapeable_run`), for a live buffer of any session:

* a reshape to a shape that can be counted succeeds exactly if the buffer is packed and the
  shape has as many elements (`succeeds`);
* it is over the same storage, packed and in bounds, and the element with a row-major number
  is the one that had this number before; the memory is not touched (`result`);
* so chains of reshapes have the same elements in the same sequence, and a chain that returns
  to the shape it began with reads like the buffer it began with, at every index (`chains`);
* a capsule can declare the shape of the buffer, and another one exactly where the reshape to
  it succeeds; it tells that shape, presents the bytes of the buffer and leaves the heap as it
  was (`declares`, `declared`).

`SameSequence` is what all of this has in common: two buffers over one storage that begin at
one place, have one count, and have the same element under each row-major number.  It is
reflexive and transitive, and one reshape gives it.

That a reshape may fail although count and order agree is left to the first clause: a shape
that leaves the word on the way is refused (`Proofs/Admission`), even if an empty axis follows.
-/

namespace TensorExchange

/-! ## Layouts -/

namespace Layout

theorem reshaped_eq_ok_iff {l l' : Layout} {shape : List UInt64} (small : l.count ≤ maxSize) :
    l.reshaped shape = .ok l' ↔ count? shape = some l.count ∧
      l' = ⟨List.zipWith Axis.mk shape (strideWalk shape).1, l.byteOffset⟩ := by
  unfold reshaped
  cases hcount : count? shape with
  | none => exact ⟨nofun, fun h => nomatch h.1⟩
  | some n =>
    simp only [guard_eq_ok, bind_eq_ok, contiguous_eq_ok_iff, pure_eq_ok, Option.some.injEq]
    constructor
    · rintro ⟨hn, packed, ⟨_, rfl⟩, rfl⟩
      exact ⟨Decidable.not_not.mp hn, rfl⟩
    · rintro ⟨rfl, rfl⟩
      have hcheck : checkShape shape = .ok () := by
        rw [checkShape, hcount]
        exact if_pos small
      exact ⟨not_not.mpr rfl, _, ⟨hcheck, rfl⟩, rfl⟩

/-- In packed rows the way to an element is as long as its number says. -/
theorem checkedDisplacement_of_isContiguous {l : Layout} (exact : l.Exact)
    (packed : l.isContiguous = true) (small : l.count ≤ maxSize) {index : List Nat}
    (inside : Inside l.axes index) :
    checkedDisplacement 0 l.axes index = .ok (rowRank l.axes index) := by
  have hne := inside.count_ne_zero exact
  have hshape : 0 ∉ l.shape := mt exact.count_eq_zero_iff.mpr hne
  obtain ⟨hstart, hstop⟩ := span_of_isContiguous exact packed hne 1
  unfold start at hstart
  unfold stop at hstop
  unfold maxSize at small
  have walk := inside.checkedDisplacement Nat.one_pos 0 0 0 (by omega) (by omega) le_rfl le_rfl
    (by omega) (by omega)
  rw [walk, zero_add, (exact.isContiguous_iff.mp packed).resolve_left hshape index inside]

end Layout

/-! ## Buffers -/

namespace Buffer

variable {h h' : Heap} {b b' b'' : Buffer} {shape : List UInt64}

/-- The same elements in the same order, over the same memory. -/
structure SameSequence (b b' : Buffer) : Prop where
  storage : b'.storage = b.storage
  type : b'.type = b.type
  readOnly : b'.readOnly = b.readOnly
  first : b'.layout.byteOffset = b.layout.byteOffset
  count : b'.count = b.count
  packed : b'.layout.isContiguous = b.layout.isContiguous
  /-- The element with a number is where the element with this number was. -/
  elements : ∀ memory, ∀ k < b.count, b'.elementAt memory (unravel b'.layout.axes k) =
    b.elementAt memory (unravel b.layout.axes k)
  heads : ∀ h n, b'.headBytes h n = b.headBytes h n

namespace SameSequence

theorem refl (b : Buffer) : b.SameSequence b :=
  ⟨rfl, rfl, rfl, rfl, rfl, rfl, fun _ _ _ => rfl, fun _ _ => rfl⟩

theorem trans (k : b.SameSequence b') (k' : b'.SameSequence b'') : b.SameSequence b'' where
  storage := k'.storage.trans k.storage
  type := k'.type.trans k.type
  readOnly := k'.readOnly.trans k.readOnly
  first := k'.first.trans k.first
  count := k'.count.trans k.count
  packed := k'.packed.trans k.packed
  elements := fun memory i hi =>
    (k'.elements memory i (k.count.symm ▸ hi)).trans (k.elements memory i hi)
  heads := fun h n => (k'.heads h n).trans (k.heads h n)

theorem of_isContiguous (exact : b.layout.Exact) (exact' : b'.layout.Exact)
    (packed : b.layout.isContiguous = true) (packed' : b'.layout.isContiguous = true)
    (small : b.count ≤ maxSize) (storage : b'.storage = b.storage) (type : b'.type = b.type)
    (readOnly : b'.readOnly = b.readOnly) (first : b'.layout.byteOffset = b.layout.byteOffset)
    (count : b'.count = b.count) : b.SameSequence b' where
  storage := storage
  type := type
  readOnly := readOnly
  first := first
  count := count
  packed := packed'.trans packed.symm
  elements := by
    intro memory k hk
    have hk' : k < b'.count := count.symm ▸ hk
    have walk := Layout.checkedDisplacement_of_isContiguous exact packed small
      (exact.inside_unravel hk)
    have walk' := Layout.checkedDisplacement_of_isContiguous exact' packed' (count.trans_le small)
      (exact'.inside_unravel hk')
    rw [rowRank_unravel (exact.count_eq ▸ hk)] at walk
    rw [rowRank_unravel (exact'.count_eq ▸ hk')] at walk'
    simp only [elementAt, walk, walk', type, first]
  heads := by
    intro h n
    simp only [headBytes, gather, checkHost, device, packedSize, storage, type, first, count,
      packed, packed', if_true]

theorem bytes (k : b.SameSequence b') (h : Heap) : b'.bytes h = b.bytes h := by
  simp only [Buffer.bytes, checkHost, device, checkContiguous, packedSize, k.storage, k.type,
    k.first, k.count, k.packed]

theorem bytes_wrap (k : b.SameSequence b') (h : Heap) :
    (Capsule.wrap b').bytes h = (Capsule.wrap b).bytes h := by
  have hcount : b'.layout.count = b.layout.count := k.count
  simp only [Capsule.bytes, Capsule.wrap, Capsule.wrapWith, Capsule.isConsumed, device,
    CapsuleInfo.bytes?, Layout.bytes?, k.storage, k.type, k.first, hcount, k.packed]
  rfl

end SameSequence

/-- Whatever is read of the two, as a whole, in part or at an index, is the same. -/
structure ReadsLike (b b' : Buffer) : Prop where
  heads : ∀ h n, b'.headBytes h n = b.headBytes h n
  typed : ∀ h type n, b'.head h type n = b.head h type n
  whole : ∀ h type, b'.toPacked h type = b.toPacked h type
  arrays : ∀ {α : Type} (pack : ElementType → List UInt64 → Array UInt8 → Except ShapeCause α) h
      type,
    b'.toArray pack h type = b.toArray pack h type
  bytes : ∀ h, b'.bytes h = b.bytes h
  slices : ∀ h type, b'.elements h type = b.elements h type
  elements : ∀ memory index, Inside b.layout.axes index →
    b'.elementAt memory index = b.elementAt memory index

/-- With the same shape, the same sequence is read alike. -/
theorem SameSequence.readsLike (k : b.SameSequence b') (exact : b.layout.Exact)
    (same : b'.layout.shape = b.layout.shape) : b.ReadsLike b' := by
  have typed (h : Heap) (type : ElementType) (n : Nat) : b'.head h type n = b.head h type n := by
    simp only [head, checkType, k.type, k.heads]
  have whole (h : Heap) (type : ElementType) : b'.toPacked h type = b.toPacked h type := by
    rw [toPacked, toPacked, k.count, typed]
  constructor
  case heads => exact k.heads
  case typed => exact typed
  case whole => exact whole
  case arrays =>
    intro α pack h type
    rw [toArray, toArray, whole, same]
  case bytes => exact k.bytes
  case slices =>
    intro h type
    simp only [Buffer.elements, checkType, start, k.bytes, k.type, k.storage, k.first]
    rfl
  case elements =>
    intro memory index inside
    have hrank : rowRank b.layout.axes index < b.count :=
      inside.rowRank_lt.trans_eq exact.count_eq.symm
    have h := k.elements memory _ hrank
    rwa [unravel_congr same, inside.unravel_rowRank] at h

/-- A buffer whose elements were counted and lie in the storage. -/
structure Placed (b : Buffer) : Prop where
  exact : b.layout.Exact
  fits : b.layout.Fits b.type.size b.storage.size
  small : b.count ≤ maxSize

/-- What a reshape gives. -/
structure Reshaped (b : Buffer) (shape : List UInt64) (b' : Buffer) : Prop where
  shape : b'.layout.shape = shape
  packed : b'.layout.isContiguous = true
  inBounds : b'.layout.checkWithin b'.type.size b'.storage.size = .ok ()
  same : b.SameSequence b'

/-- One buffer is a reshape of another. -/
def ReshapesTo (b b' : Buffer) : Prop := ∃ h shape h', b.reshape h shape = .ok (h', b')

namespace Placed

theorem reshape_eq_ok_iff (k : b.Placed) :
    b.reshape h shape = .ok (h', b') ↔
      (b.layout.isContiguous = true ∧ count? shape = some b.count) ∧ h' = h.retain b.storage ∧
        b' = b.withLayout
          ⟨List.zipWith Axis.mk shape (strideWalk shape).1, b.layout.byteOffset⟩ := by
  have small : b.layout.count ≤ maxSize := k.small
  simp only [reshape, reshapeLayout, bind_eq_ok, leaving_eq_ok, guard_eq_ok, pure_eq_ok,
    orShapeError_eq_ok, Layout.reshaped_eq_ok_iff small, Bool.not_eq_true', Bool.not_eq_false,
    Prod.mk.injEq]
  constructor
  · rintro ⟨l, ⟨hpacked, hcount, rfl⟩, rfl, rfl⟩
    exact ⟨⟨hpacked, hcount⟩, rfl, rfl⟩
  · rintro ⟨⟨hpacked, hcount⟩, rfl, rfl⟩
    exact ⟨_, ⟨hpacked, hcount, rfl⟩, rfl, rfl⟩

/-- A reshape is placed again and has the same sequence of elements. -/
theorem reshape (k : b.Placed) (ok : b.reshape h shape = .ok (h', b')) :
    b'.Placed ∧ b.Reshaped shape b' := by
  obtain ⟨⟨hpacked, hcount⟩, _, rfl⟩ := k.reshape_eq_ok_iff.mp ok
  have hreshaped := (Layout.reshaped_eq_ok_iff k.small).mpr ⟨hcount, rfl⟩
  obtain ⟨hcount', hfirst, hexact, hpacked'⟩ := Layout.reshaped_eq_ok hreshaped
  have hfits := Layout.fits_of_reshaped k.exact hpacked k.fits hreshaped
  refine ⟨⟨hexact, hfits, hcount'.le.trans k.small⟩, ?_⟩
  constructor
  case shape => exact Layout.map_extent_zipWith (Layout.length_strideWalk shape).symm
  case packed => exact hpacked'
  case inBounds => exact (Layout.checkWithin_eq_ok_iff b.type.size_pos).mpr hfits
  case same =>
    exact .of_isContiguous k.exact hexact hpacked hpacked' k.small rfl rfl rfl hfirst hcount'

/-- So is whatever a chain of reshapes ends in. -/
theorem chain (k : b.Placed) (chain : Relation.ReflTransGen ReshapesTo b b') :
    b'.Placed ∧ b.SameSequence b' := by
  induction chain with
  | refl => exact ⟨k, .refl b⟩
  | tail _ last ih =>
    obtain ⟨h, shape, h', ok⟩ := last
    obtain ⟨placed, reshaped⟩ := ih.1.reshape ok
    exact ⟨placed, ih.2.trans reshaped.same⟩

end Placed

end Buffer

/-! ## Declared shapes -/

theorem Heap.blocks_retain (h : Heap) (s : Storage) : (h.retain s).blocks = h.blocks := by
  unfold retain
  split <;> rfl

theorem Heap.drop_retain {h : Heap} {b : Buffer} {x : Holding}
    (found : h.holdings.get? b.storage.id = some x) (held : x.holders ≠ 0) :
    (h.retain b.storage).drop b = h := by
  have hretain : h.retain b.storage =
      { h with holdings := h.holdings.set b.storage.id { x with holders := x.holders + 1 } } := by
    simp only [retain, found]
  have hagain : (h.retain b.storage).holdings.get? b.storage.id =
      some { x with holders := x.holders + 1 } := by
    rw [hretain]
    exact Table.get?_set_self (Table.lt_next_of_get? found) _
  rw [drop, releaseId]
  split
  next hnone => rw [hagain] at hnone; cases hnone
  next y hy =>
    obtain rfl := Option.some.inj (hagain.symm.trans hy)
    rw [if_pos (by simp only; omega), hretain]
    simp only [Nat.add_sub_cancel, Table.set_set, Table.set_eq_self found]

namespace Capsule

variable {h h' : Heap} {b : Buffer} {shape : List UInt64}

/-- With the type and the device of the buffer, it is the shape that decides. -/
theorem wrapAs_self (h : Heap) (b : Buffer) (shape : List UInt64) :
    wrapAs h b shape b.type b.device =
      if b.layout.shape = shape then .ok (h, wrap b)
      else (b.reshape h shape).mapError (.within (Heap.drop · b)) >>= fun r =>
        .ok (r.1.drop b, wrap r.2) :=
  (if_neg (not_not.mpr rfl)).trans (if_neg (not_not.mpr rfl))

/-- What a capsule with a declared shape carries: the elements of the buffer, which any consumer
gets in that shape and any reader finds as they were. -/
structure Declares (b : Buffer) (shape : List UInt64) (c : Capsule) : Prop where
  carried : ∃ b', c = wrap b' ∧ b'.layout.shape = shape ∧ b.SameSequence b' ∧
    ∀ h, c.consume h = .ok (h, c.spent, b')
  presented : ∀ h, c.bytes h = (wrap b).bytes h

theorem declares_wrap {b' : Buffer} (same : b.SameSequence b') (hshape : b'.layout.shape = shape) :
    Declares b shape (wrap b') :=
  ⟨⟨b', rfl, hshape, same, fun _ => rfl⟩, same.bytes_wrap⟩

/-- A declared shape is the shape of the buffer, or one that it is given. -/
theorem wrapAs_self_eq_ok {c : Capsule} {x : Holding}
    (found : h.holdings.get? b.storage.id = some x) (held : x.holders ≠ 0)
    (ok : wrapAs h b shape b.type b.device = .ok (h', c)) :
    h' = h ∧ (b.layout.shape = shape ∧ c = wrap b ∨
      ∃ b', b.reshape h shape = .ok (h.retain b.storage, b') ∧ c = wrap b') := by
  rw [wrapAs_self] at ok
  split at ok
  case isTrue hshape =>
    obtain ⟨rfl, rfl⟩ := Prod.mk.inj (Except.ok.inj ok)
    exact ⟨rfl, .inl ⟨hshape, rfl⟩⟩
  case isFalse =>
    obtain ⟨⟨h₁, b'⟩, hreshape, heq⟩ := bind_eq_ok.mp ok
    obtain ⟨rfl, rfl⟩ := Prod.mk.inj (Except.ok.inj heq)
    obtain ⟨layout, hlayout, heq⟩ := bind_eq_ok.mp (mapError_eq_ok.mp hreshape)
    obtain ⟨rfl, rfl⟩ := Prod.mk.inj (pure_eq_ok.mp heq)
    exact ⟨Heap.drop_retain found held, .inr ⟨_, mapError_eq_ok.mp hreshape, rfl⟩⟩

theorem exists_wrapAs_self_iff (h : Heap) (b : Buffer) (shape : List UInt64) :
    (∃ r, wrapAs h b shape b.type b.device = .ok r) ↔
      shape = b.layout.shape ∨ ∃ r, b.reshape h shape = .ok r := by
  rw [wrapAs_self]
  by_cases hshape : b.layout.shape = shape
  · simp [hshape]
  · have hne : shape ≠ b.layout.shape := fun h => hshape h.symm
    simp [if_neg hshape, hne, bind_eq_ok, mapError_eq_ok]

end Capsule

/-! ## Live buffers -/

namespace Buffer

/-- What can be relied on when a buffer is given other shapes, or declared to have them. -/
structure Reshapeable (h : Heap) (b : Buffer) : Prop where
  succeeds : ∀ shape, (∀ k, volume (shape.take k) < wordBound) →
    ((∃ r, b.reshape h shape = .ok r) ↔ b.layout.isContiguous = true ∧ volume shape = b.count)
  result : ∀ shape h' b', b.reshape h shape = .ok (h', b') →
    b.Reshaped shape b' ∧ h'.blocks = h.blocks
  chains : ∀ b', Relation.ReflTransGen ReshapesTo b b' →
    b.SameSequence b' ∧ (b'.layout.shape = b.layout.shape → b.ReadsLike b')
  declares : ∀ shape, (∃ r, Capsule.wrapAs h b shape b.type b.device = .ok r) ↔
    shape = b.layout.shape ∨ ∃ r, b.reshape h shape = .ok r
  /-- The heap is as it was: the capsule holds what the buffer held. -/
  declared : ∀ shape h' c, Capsule.wrapAs h b shape b.type b.device = .ok (h', c) →
    h' = h ∧ Capsule.Declares b shape c

theorem Placed.reshapeable {h : Heap} {b : Buffer} (k : b.Placed) {x : Holding}
    (found : h.holdings.get? b.storage.id = some x) (held : x.holders ≠ 0) :
    b.Reshapeable h := by
  constructor
  case succeeds =>
    intro shape steps
    simp only [Prod.exists, k.reshape_eq_ok_iff, count?_of_prefixes steps, Option.some.injEq]
    exact ⟨fun ⟨_, _, hok, _⟩ => hok, fun hok => ⟨_, _, hok, rfl, rfl⟩⟩
  case result =>
    intro shape h' b' ok
    obtain ⟨_, rfl, _⟩ := k.reshape_eq_ok_iff.mp ok
    exact ⟨(k.reshape ok).2, Heap.blocks_retain h b.storage⟩
  case chains =>
    intro b' chain
    have same := (k.chain chain).2
    exact ⟨same, same.readsLike k.exact⟩
  case declares => exact Capsule.exists_wrapAs_self_iff h b
  case declared =>
    intro shape h' c ok
    obtain ⟨heap, ⟨hshape, rfl⟩ | ⟨b', hreshape, rfl⟩⟩ := Capsule.wrapAs_self_eq_ok found held ok
    · exact ⟨heap, Capsule.declares_wrap (.refl b) hshape⟩
    · have reshaped := (k.reshape hreshape).2
      exact ⟨heap, Capsule.declares_wrap reshaped.same reshaped.shape⟩

end Buffer

/-- Whatever the commands of a session are: a live buffer is given another shape if it is packed and
the shape has as many elements, and keeps their order. -/
theorem Session.reshapeable_run (m : Machine) (env : Config.Environment) (cs : List Command)
    {b : Buffer} (live : ((start m env).run cs).1.world.Live b) :
    b.Reshapeable ((start m env).run cs).1.heap := by
  have lawful := lawful_run m env cs
  have sound := lawful.sound.live live
  have counted := (lawful.rooted.live live).counted
  have placed : b.Placed :=
    ⟨sound.exact, sound.fits, sound.exact.count_eq.trans_le (volume_le_of_checkShape counted)⟩
  have stake := World.stake_of_live live
  obtain ⟨x, found⟩ := lawful.balanced.storages.exists_of_stake stake
  exact placed.reshapeable found (lawful.balanced.storages.holders_of_get? found ▸ stake)

/-- Six elements, and the last four of them with an axis in between that has one element. -/
def tailing : List Command :=
  [.buffers (.adopt "packed" .int16 #[0, 1, 2, 3, 4, 5, 6, 7, 8, 9, 10, 11]),
    .buffers (.view "packed" "tail" [2, 1, 2] [2, -77, 1] 4)]

def tailRows : Buffer :=
  ⟨⟨0, .within 0 0, 12, some 2, .host, false, "adopted"⟩, ⟨[⟨2, 2⟩, ⟨1, -77⟩, ⟨2, 1⟩], 4⟩, .int16,
    false⟩

theorem Session.reshapeable_tailRows :
    (after tailing).world.Live tailRows ∧
      tailRows.Reshapeable (after tailing).heap ∧
        ∃ row, tailRows.reshape (after tailing).heap [4] = .ok row ∧
          row.2.layout = ⟨[⟨4, 1⟩], 4⟩ ∧ row.2.headBytes row.1 3 = .ok #[4, 5, 6, 7, 8, 9] := by
  have named : (after tailing).buffers.get? "tail" = some tailRows := by
    decide +kernel
  have live := live_of_named named
  exact ⟨live, reshapeable_run _ _ tailing live, _, rfl, by decide +kernel, by decide +kernel⟩

end TensorExchange
