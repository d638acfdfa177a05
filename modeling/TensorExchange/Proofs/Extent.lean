import TensorExchange.Proofs.Bounds
import TensorExchange.Proofs.Buffer.Addressing

/-!
Extents: how many bytes a tensor that was accepted reaches.

The span of a tensor is checked against the word, since it becomes the size of a storage.
Sizes of packed elements and distances between elements are signed words, which end at half
of that.  So there are tensors between the two bounds, accepted and larger than anything
that a signed word can measure.

Main statement (`Capsule.extents_ofTensor`), for every tensor that was accepted.  The memory
of its capsule is as long as the span of its layout and shorter than the word.  If a signed
word measures it (`Capsule.Measured`), then

* packed elements have a size, and as many bytes are presented, wherever they can be read;
* whatever is read of a buffer that the capsule was consumed as stays in signed words.

If not, packed elements have no size: `bytes?` is none exactly for those, and then nothing
is presented, although there are elements.  `packedWords` is such a tensor, of 2⁶⁰ words,
and `Capsule.extents_longest` and `Capsule.extents_longer` place it between the bounds;
`distantWords` reaches even further with two elements.

Only tensors that come from outside are so long.  What is allocated here ends at the signed
bound, which `Proofs/Allocation` says.

The proof has nothing to do with memory.  It compares the span, which is exact, with the
sums that reading makes, each of which is a part of it.
-/

namespace TensorExchange

namespace Capsule

/-- What holds of a capsule whose memory a signed word measures. -/
structure Measured (c : Capsule) : Prop where
  bytes : c.info.layout.isContiguous = true →
    c.info.bytes? = some (c.info.layout.count * c.info.type.size)
  /-- The bytes in the capsule are those of the elements, if there is memory behind them. -/
  presented : ∀ h, c.isConsumed = false → c.info.device.isHostAccessible = true →
    c.info.layout.isContiguous = true → (c.info.layout.count ≠ 0 →
      (h.read? (c.base.shift c.info.layout.byteOffset.toNat)
        (c.info.layout.count * c.info.type.size)).isSome) →
      ∃ data, c.bytes h = .ok data ∧ data.size = c.info.layout.count * c.info.type.size
  consumed : ∀ h a h' c' b, c.consumeAs h a = .ok (h', c', b) → b.Reads

/-- What is known of the bytes that a tensor reaches. -/
structure Extents (c : Capsule) : Prop where
  /-- The memory is as long as the span of the layout, counted from its first element. -/
  span : ∃ span, Layout.span { c.info.layout with byteOffset := 0 } c.info.type.size = .ok span ∧
    (c.contents.room : Int) = span.elim 0 Span.length
  word : c.contents.room < wordBound
  packed : c.info.layout.isContiguous = true →
    c.contents.room = c.info.layout.count * c.info.type.size
  /-- Packed elements have a size exactly if a signed word measures the memory. -/
  bytes : c.info.layout.isContiguous = true →
    (c.info.bytes?.isSome ↔ c.contents.room ≤ maxSize)
  measured : c.contents.room ≤ maxSize → c.Measured

end Capsule

/-! ## The memory of a description -/

namespace Described

variable {t : ManagedTensor} {d : Described}

theorem Describes.span (hd : d.Describes t) :
    ∃ span, Layout.span { d.layout with byteOffset := 0 } d.type.size = .ok span ∧
      (d.size : Int) = span.elim 0 Span.length := by
  by_cases hcount : d.layout.count = 0
  · exact ⟨none, Layout.span_eq_none_iff.mpr hcount, congrArg Int.ofNat (hd.empty hcount).2.2⟩
  · have c := hd.covers hcount
    exact ⟨_, c.span_eq_ok hcount, c.size⟩

theorem Describes.size_of_isContiguous (hd : d.Describes t)
    (packed : d.layout.isContiguous = true) : d.size = d.layout.count * d.type.size := by
  by_cases hcount : d.layout.count = 0
  · rw [(hd.empty hcount).2.2, hcount, Nat.zero_mul]
  · obtain ⟨hstart, hstop⟩ := Layout.span_of_isContiguous hd.exact packed hcount d.type.size
    rw [hd.start hcount] at hstart
    rw [hd.stop hcount] at hstop
    omega

end Described

/-! ## Capsules -/

theorem CapsuleInfo.bytes?_eq_some {i : CapsuleInfo} (h : i.layout.count * i.type.size ≤ maxSize) :
    i.bytes? = some (i.layout.count * i.type.size) :=
  if_pos h

namespace Capsule

variable {c : Capsule}

theorem bytes_of_bytes? {h : Heap} (hopen : c.isConsumed = false)
    (host : c.info.device.isHostAccessible = true) (packed : c.info.layout.isContiguous = true)
    {size : Nat} (hsize : c.info.bytes? = some size)
    (memory : size ≠ 0 →
      (h.read? (c.base.shift c.info.layout.byteOffset.toNat) size).isSome) :
    ∃ data, c.bytes h = .ok data ∧ data.size = size := by
  have hcheck : Accept.host.check c.info.device = .ok () := Accept.check_eq_ok_iff.mpr host
  by_cases hzero : size = 0
  · refine ⟨#[], ?_, hzero.symm⟩
    simp [bytes, hopen, hcheck, packed, hsize, hzero, bind, Except.bind, pure, Except.pure]
  · obtain ⟨data, hdata⟩ := Option.isSome_iff_exists.mp (memory hzero)
    refine ⟨data, ?_, Heap.size_read? hdata⟩
    simp [bytes, hopen, hcheck, packed, hsize, hzero, hdata, bind, Except.bind, pure, Except.pure]

/-- A buffer that is consumed reaches the memory that the tensor was described with. -/
theorem addressable_of_consumeAs {t : ManagedTensor} (ok : ofTensor t = .ok c)
    (small : c.contents.room ≤ maxSize) {h h' : Heap} {a : Accept} {c' : Capsule} {b : Buffer}
    (consumed : c.consumeAs h a = .ok (h', c', b)) : b.Addressable b.storage.size := by
  obtain ⟨d, hd, rfl⟩ := ofTensor_eq_ok ok
  have hdescribes := Described.Describes.of_ofTensor hd
  obtain ⟨_, _, ⟨inner, hcontents, _⟩ | ⟨d', t', hcontents, _, rfl⟩⟩ := consumeAs_eq_ok consumed
  · cases hcontents
  · obtain ⟨rfl, rfl⟩ := by simpa using hcontents
    have adopted : (h.adopt t d).2.Addressable d.size :=
      ⟨hdescribes.exact, hdescribes.fits, small⟩
    rw [storage_deliver]
    unfold deliver
    split
    · exact ⟨adopted.exact, adopted.fits, adopted.small⟩
    · exact adopted

theorem measured_of_ofTensor {t : ManagedTensor} (ok : ofTensor t = .ok c)
    (small : c.contents.room ≤ maxSize) : c.Measured := by
  have hbytes : c.info.layout.isContiguous = true →
      c.info.bytes? = some (c.info.layout.count * c.info.type.size) := by
    intro packed
    obtain ⟨d, hd, rfl⟩ := ofTensor_eq_ok ok
    have hsize := (Described.Describes.of_ofTensor hd).size_of_isContiguous packed
    exact CapsuleInfo.bytes?_eq_some (hsize ▸ small)
  constructor
  case bytes => exact hbytes
  case presented =>
    intro h hopen host packed memory
    exact bytes_of_bytes? hopen host packed (hbytes packed) fun hne =>
      memory (Nat.ne_zero_of_mul_ne_zero_left hne)
  case consumed =>
    intro h a h' c' b consumed
    exact (addressable_of_consumeAs ok small consumed).reads

/-- How many bytes a tensor reaches that was accepted, and that all of them can be found if a signed
word measures them. -/
theorem extents_ofTensor {t : ManagedTensor} (ok : ofTensor t = .ok c) : c.Extents := by
  have hmeasured := measured_of_ofTensor ok
  obtain ⟨d, hd, rfl⟩ := ofTensor_eq_ok ok
  have hdescribes := Described.Describes.of_ofTensor hd
  refine ⟨hdescribes.span, hdescribes.size_lt, hdescribes.size_of_isContiguous, fun packed => ?_,
    hmeasured⟩
  show (Layout.bytes? d.layout d.type.size).isSome ↔ d.size ≤ maxSize
  rw [hdescribes.size_of_isContiguous packed, Layout.bytes?]
  split <;> simp_all

/-! ### The longest tensor that a signed word measures, and the next one -/

end Capsule

/-- Elements of eight bytes in packed rows, somewhere in the memory of the host. -/
def packedWords (extent : Int64) : ManagedTensor :=
  ⟨.legacy, ⟨.fixed 0x1000, ⟨1, 0⟩, 1, ElementType.int64.triple, some [extent], none, 0⟩,
    .runtime 1 true, false⟩

/-- What it is found to be, with as many elements. -/
def packedWordsFound (extent : UInt64) : Described :=
  ⟨⟨[⟨extent, 1⟩], 0⟩, .int64, .host, .fixed 0x1000, extent.toNat * 8, some 0x1000, false⟩

theorem Capsule.extents_longest :
    ∃ c, Capsule.ofTensor (packedWords 0xfffffffffffffff) = .ok c ∧ c.Extents ∧
      c.contents.room = 0x7ffffffffffffff8 ∧ c.contents.room ≤ maxSize := by
  have ok : Capsule.ofTensor (packedWords 0xfffffffffffffff) =
      .ok ⟨⟨⟨[⟨0xfffffffffffffff, 1⟩], 0⟩, .int64, .host, .legacy, false⟩, .fixed 0x1000,
        .unconsumed, .foreign (packedWordsFound 0xfffffffffffffff)
          (some (packedWords 0xfffffffffffffff))⟩ := by
    decide +kernel
  exact ⟨_, ok, Capsule.extents_ofTensor ok, by decide, by decide⟩

theorem Buffer.elementAt_of_far {b : Buffer} {index : List Nat} {d : Int} {e : Error}
    (walk : checkedDisplacement 0 b.layout.axes index = .ok d)
    (far : checkedWord (d * b.type.size) = .error e) (memory : Array UInt8) :
    b.elementAt memory index = .error e := by
  simp only [elementAt, walk, far, bind, Except.bind]

/-- Two elements of eight bytes that lie 2⁶³ bytes apart. -/
def distantWords : ManagedTensor :=
  ⟨.legacy, ⟨.fixed 0x1000, ⟨1, 0⟩, 1, ElementType.int64.triple, some [2],
    some [0x1000000000000000], 0⟩, .runtime 1 true, false⟩

def distantWordsFound : Described :=
  ⟨⟨[⟨2, 0x1000000000000000⟩], 0⟩, .int64, .host, .fixed 0x1000, 0x8000000000000008, some 0x1000,
    false⟩

/-- One element more is accepted, but has no size and presents no bytes; and the way to an element
that lies further away leaves the signed words. -/
theorem Capsule.extents_longer :
    (∃ c, Capsule.ofTensor (packedWords 0x1000000000000000) = .ok c ∧
      c.contents.room = maxSize + 1 ∧ c.info.layout.isContiguous = true ∧
        c.info.layout.count * c.info.type.size = maxSize + 1 ∧ c.info.bytes? = none ∧
          ∀ h, c.bytes h = .ok #[]) ∧
      ∃ c, Capsule.ofTensor distantWords = .ok c ∧ Inside c.info.layout.axes [1] ∧
        ∀ h, ∃ h' c' b, c.consume h = .ok (h', c', b) ∧ b.layout = c.info.layout ∧
          ∀ memory, b.elementAt memory [1] = .error (.fault .offsetOverflow) := by
  have walk : checkedDisplacement 0 distantWordsFound.layout.axes [1] = .ok 0x1000000000000000 := by
    decide +kernel
  have far : checkedWord (0x1000000000000000 * (ElementType.int64.size : Nat)) =
      .error (.fault .offsetOverflow) := by
    decide +kernel
  refine ⟨⟨⟨⟨⟨[⟨0x1000000000000000, 1⟩], 0⟩, .int64, .host, .legacy, false⟩, .fixed 0x1000,
        .unconsumed, .foreign (packedWordsFound 0x1000000000000000)
          (some (packedWords 0x1000000000000000))⟩, ?_, ?_, ?_, ?_, ?_, ?_⟩,
      ⟨⟨distantWordsFound.layout, .int64, .host, .legacy, false⟩, .fixed 0x1000, .unconsumed,
        .foreign distantWordsFound (some distantWords)⟩, ?_, ?_, ?_⟩
  · decide +kernel
  · decide
  · decide +kernel
  · decide +kernel
  · decide +kernel
  · intro h
    rfl
  · decide +kernel
  · exact .cons (by decide) .nil
  · intro h
    refine ⟨_, _, _, rfl, rfl, fun memory => ?_⟩
    exact Buffer.elementAt_of_far walk far memory

end TensorExchange
