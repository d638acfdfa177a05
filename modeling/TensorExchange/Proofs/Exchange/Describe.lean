import TensorExchange.Exchange.Import
import TensorExchange.Proofs.Layout.Packed

/-!
Descriptions: what a tensor that was not refused was found to be.

A tensor that comes from outside is a record of numbers next to a pointer.  Reading it
checks the envelope, the type, the device, the extents, the strides and the reach of the
elements, in this order, and each check refuses with an error of its own.  What is left
when nothing refused is a description, on which everything inside of the library relies.

Main statement (`Describes.of_ofTensor`): a description says what the record says, field
by field.  `Describes` is this list of equations, and it is complete: whatever satisfies
it is the description that reading gives (`Describes.ofTensor_eq_ok`).  So no other proof
has to open the reader.

Where there are elements, `Covers` says which bytes they need: from the lowest byte that an
element reaches to the highest, and the offset of the first element is counted from the
lowest byte.  The distances are exact, since the checks rule out every sum that leaves its
word; only the pointer itself is moved by address arithmetic that wraps.  What is described
lies in the bytes that are adopted (`Describes.start`, `Describes.stop`), and the layout is
exact in the sense of `Proofs/Layout/Strides`, with strides that come from anywhere.

Without elements no byte is adopted and the pointers of the record are not looked at.
-/

namespace TensorExchange

namespace Described

/-- Bytes of the memory behind a record that begin below its first element. -/
structure Covers (r : TensorRecord) (d : Described) : Prop where
  data : r.data.isNull = false
  offset : r.byteOffset.toNat ≤ maxSize
  low : -2 ^ 63 ≤ lowest d.type.size d.layout.axes
  base : d.base = (r.data.shift r.byteOffset.toNat).shift (lowest d.type.size d.layout.axes)
  placed : d.base.isNull = false
  size : (d.size : Int) =
    highest d.type.size d.layout.axes + d.type.size - lowest d.type.size d.layout.axes
  room : d.size < wordBound
  first : (d.layout.byteOffset.toNat : Int) = -lowest d.type.size d.layout.axes

/-- The description of a tensor. -/
structure Describes (t : ManagedTensor) (d : Described) : Prop where
  envelope : checkEnvelope t.envelope = .ok ()
  type : readType t.record.triple = .ok d.type
  device : readDevice t.record.device = .ok d.device
  shape : readShape t.record = .ok d.layout.shape
  strides : readStrides t.record d.layout.shape = .ok d.layout.strides
  checked : checkShape d.layout.shape = .ok ()
  readOnly : d.readOnly = t.envelope.isReadOnly
  alignment : d.alignment =
    reportedAlignment t (if d.layout.count = 0 then d.type.size else d.base.alignment)
  empty : d.layout.count = 0 → d.layout.byteOffset = 0 ∧ d.base = .dangling ∧ d.size = 0
  covers : d.layout.count ≠ 0 → Covers t.record d

theorem readReach_eq_ok_iff {r : TensorRecord} {s : Span} {reach : Reach} :
    readReach r s = .ok reach ↔
      (r.data.isNull = false ∧ s.length < wordBound ∧ r.byteOffset.toNat ≤ maxSize ∧
        -2 ^ 63 ≤ s.start ∧ ((r.data.shift r.byteOffset.toNat).shift s.start).isNull = false) ∧
        reach = ⟨(r.data.shift r.byteOffset.toNat).shift s.start, s.length.toNat,
          UInt64.ofNat s.start.natAbs⟩ := by
  simp only [readReach, signedBound, guard_eq_ok, pure_eq_ok]
  constructor
  · rintro ⟨hdata, hlength, hoffset, hstart, hbase, rfl⟩
    exact ⟨⟨by simpa using hdata, by omega, by omega, by omega, by simpa using hbase⟩, rfl⟩
  · rintro ⟨⟨hdata, hlength, hoffset, hstart, hbase⟩, rfl⟩
    exact ⟨by simp [hdata], by omega, by omega, by omega, by simp [hbase], rfl⟩

/-- Counted from the first element, the lowest byte of a layout is as far away as its axes reach
down. -/
theorem start_relative {l : Layout} (h : l.byteOffset = 0) (size : Nat) :
    l.start size = lowest size l.axes := by
  simp [Layout.start, h]

theorem stop_relative {l : Layout} (h : l.byteOffset = 0) (size : Nat) :
    l.stop size = highest size l.axes + size := by
  simp [Layout.stop, h]

/-- What the description of a tensor with elements says is what was read of its span. -/
theorem covers_iff_readReach {r : TensorRecord} {d : Described} :
    Covers r d ↔
      readReach r ⟨lowest d.type.size d.layout.axes,
          highest d.type.size d.layout.axes + d.type.size⟩ =
        .ok ⟨d.base, d.size, d.layout.byteOffset⟩ := by
  have hlow := lowest_nonpos d.type.size d.layout.axes
  have hhigh := highest_nonneg d.type.size d.layout.axes
  simp only [readReach_eq_ok_iff, Span.length, wordBound, Reach.mk.injEq]
  constructor
  · intro c
    have hmin := c.low
    have hsize := c.size
    have hroom := c.room
    have hfirst := c.first
    rw [wordBound] at hroom
    refine ⟨⟨c.data, by omega, c.offset, hmin, c.base ▸ c.placed⟩, c.base, by omega, ?_⟩
    refine UInt64.toNat_inj.mp ?_
    rw [UInt64.toNat_ofNat_of_lt' (by rw [UInt64.size]; omega)]
    omega
  · rintro ⟨⟨hdata, hlength, hoffset, hmin, hplaced⟩, hbase, hsize, hfirst⟩
    refine ⟨hdata, hoffset, hmin, hbase, hbase ▸ hplaced, by omega, by rw [wordBound]; omega, ?_⟩
    rw [hfirst, UInt64.toNat_ofNat_of_lt' (by rw [UInt64.size]; omega)]
    omega

/-- Reading a tensor finds the same in every heap and leaves the heap, on each of its paths. -/
theorem read_eq (h : Heap) (t : ManagedTensor) : read h t = unchanged h (ofTensor t) := by
  obtain ⟨result, finds⟩ : ∃ result, Finds (fun h => read h t) result := by
    refine exists_finds_bind _ fun _ => exists_finds_bind _ fun type => ?_
    refine exists_finds_bind _ fun device => exists_finds_bind _ fun shape => ?_
    refine exists_finds_bind _ fun strides => exists_finds_bind _ fun relative => ?_
    refine exists_finds_bind _ fun span => ?_
    cases span with
    | none => exact exists_finds_pure _
    | some span => exact exists_finds_bind _ fun reach => exists_finds_pure _
  have hread (h : Heap) : read h t = unchanged h result := finds h
  have hresult : ofTensor t = result := by
    rw [ofTensor, hread]
    cases result <;> rfl
  rw [hread, hresult]

theorem ofTensor_of_read {h : Heap} {t : ManagedTensor} {d : Described}
    (ok : read h t = .ok (h, d)) : ofTensor t = .ok d := by
  rw [read_eq] at ok
  exact (unchanged_eq_ok_iff.mp ok).2

theorem Describes.of_ofTensor {t : ManagedTensor} {d : Described} (h : ofTensor t = .ok d) :
    d.Describes t := by
  have h : read default t = .ok (default, d) := by
    rw [read_eq, h]
    rfl
  obtain ⟨_, henvelope, h⟩ := bind_eq_ok.mp h
  obtain ⟨type, htype, h⟩ := bind_eq_ok.mp h
  obtain ⟨device, hdevice, h⟩ := bind_eq_ok.mp h
  obtain ⟨shape, hshape, h⟩ := bind_eq_ok.mp h
  obtain ⟨strides, hstrides, h⟩ := bind_eq_ok.mp h
  obtain ⟨relative, hrelative, h⟩ := bind_eq_ok.mp h
  obtain ⟨span, hspan, h⟩ := bind_eq_ok.mp h
  obtain ⟨⟨rfl, rfl, hzero⟩, hchecked⟩ :=
    Layout.strided_eq_ok_iff.mp (orInvalidTensor_eq_ok.mp (leaving_eq_ok.mp hrelative))
  have hspan := orInvalidTensor_eq_ok.mp (leaving_eq_ok.mp hspan)
  rw [leaving_eq_ok] at henvelope htype hdevice hshape hstrides
  cases span with
  | none =>
    obtain ⟨_, rfl⟩ := Prod.mk.inj (pure_eq_ok.mp h)
    have hcount := Layout.span_eq_none_iff.mp hspan
    exact ⟨henvelope, htype, hdevice, hshape, hstrides, hchecked, rfl, by simp [hcount],
      fun _ => ⟨hzero, rfl, rfl⟩, fun hne => absurd hcount hne⟩
  | some span =>
    obtain ⟨reach, hreach, h⟩ := bind_eq_ok.mp h
    obtain ⟨_, rfl⟩ := Prod.mk.inj (pure_eq_ok.mp h)
    rw [leaving_eq_ok] at hreach
    obtain ⟨hcount, rfl, _⟩ := (Layout.span_eq_some_iff type.size_pos).mp hspan
    rw [start_relative hzero, stop_relative hzero] at hreach
    have hcount' : Layout.count { relative with byteOffset := reach.first } ≠ 0 := hcount
    exact ⟨henvelope, htype, hdevice, hshape, hstrides, hchecked, rfl, by rw [if_neg hcount'],
      fun h => absurd h hcount', fun _ => covers_iff_readReach.mpr hreach⟩

theorem Covers.span_eq_ok {r : TensorRecord} {d : Described} (c : Covers r d)
    (hcount : d.layout.count ≠ 0) :
    Layout.span { d.layout with byteOffset := 0 } d.type.size =
      .ok (some ⟨lowest d.type.size d.layout.axes,
        highest d.type.size d.layout.axes + d.type.size⟩) := by
  have hlow := c.low
  have hneg := lowest_nonpos d.type.size d.layout.axes
  have hsize := c.size
  have hroom := c.room
  rw [wordBound] at hroom
  refine (Layout.span_eq_some_iff d.type.size_pos).mpr ⟨hcount, ?_, ?_, ?_⟩
  · rw [start_relative rfl, stop_relative rfl]
  · exact Int.le_trans (by decide) hlow
  · rw [stop_relative rfl]
    simp only
    omega

theorem Describes.ofTensor_eq_ok {t : ManagedTensor} {d : Described} (h : d.Describes t) :
    ofTensor t = .ok d := by
  have hrelative : Layout.strided d.layout.shape d.layout.strides 0 =
      .ok { d.layout with byteOffset := 0 } :=
    Layout.strided_eq_ok_iff.mpr ⟨⟨rfl, rfl, rfl⟩, h.checked⟩
  have halignment := h.alignment
  suffices hread : read default t = .ok (default, d) from ofTensor_of_read hread
  refine bind_eq_ok.mpr ⟨(), leaving_eq_ok.mpr h.envelope, ?_⟩
  refine bind_eq_ok.mpr ⟨d.type, leaving_eq_ok.mpr h.type, ?_⟩
  refine bind_eq_ok.mpr ⟨d.device, leaving_eq_ok.mpr h.device, ?_⟩
  refine bind_eq_ok.mpr ⟨d.layout.shape, leaving_eq_ok.mpr h.shape, ?_⟩
  refine bind_eq_ok.mpr ⟨d.layout.strides, leaving_eq_ok.mpr h.strides, ?_⟩
  refine bind_eq_ok.mpr ⟨_, leaving_eq_ok.mpr (orInvalidTensor_eq_ok.mpr hrelative), ?_⟩
  by_cases hcount : d.layout.count = 0
  · obtain ⟨hfirst, hbase, hsize⟩ := h.empty hcount
    rw [if_pos hcount] at halignment
    have hspan : Layout.span { d.layout with byteOffset := 0 } d.type.size = .ok none :=
      Layout.span_eq_none_iff.mpr hcount
    have hspan := orInvalidTensor_eq_ok.mpr hspan
    refine bind_eq_ok.mpr ⟨none, leaving_eq_ok.mpr hspan, pure_eq_ok.mpr ?_⟩
    rw [← halignment, ← h.readOnly, ← hfirst, ← hbase, ← hsize]
  · have c := h.covers hcount
    rw [if_neg hcount] at halignment
    have hspan := orInvalidTensor_eq_ok.mpr (c.span_eq_ok hcount)
    refine bind_eq_ok.mpr ⟨_, leaving_eq_ok.mpr hspan, ?_⟩
    have hreach := covers_iff_readReach.mp c
    refine bind_eq_ok.mpr ⟨_, leaving_eq_ok.mpr hreach, pure_eq_ok.mpr ?_⟩
    rw [← halignment, ← h.readOnly]

theorem Describes.start {t : ManagedTensor} {d : Described} (h : d.Describes t)
    (hcount : d.layout.count ≠ 0) : d.layout.start d.type.size = 0 := by
  have := (h.covers hcount).first
  unfold Layout.start
  omega

theorem Describes.stop {t : ManagedTensor} {d : Described} (h : d.Describes t)
    (hcount : d.layout.count ≠ 0) : d.layout.stop d.type.size = d.size := by
  have c := h.covers hcount
  have hsize := c.size
  have hfirst := c.first
  unfold Layout.stop
  omega

/-- What a tensor was found to be lies in the bytes that are adopted. -/
theorem Describes.fits {t : ManagedTensor} {d : Described} (h : d.Describes t) :
    d.layout.Fits d.type.size d.size := by
  intro hcount
  have hroom := (h.covers hcount).room
  rw [h.start hcount, h.stop hcount]
  rw [wordBound] at hroom
  omega

theorem Describes.exact {t : ManagedTensor} {d : Described} (h : d.Describes t) :
    d.layout.Exact :=
  Nat.lt_of_le_of_lt (volume_le_of_checkShape h.checked) (by decide)

theorem Describes.size_lt {t : ManagedTensor} {d : Described} (h : d.Describes t) :
    d.size < wordBound := by
  by_cases hcount : d.layout.count = 0
  · rw [(h.empty hcount).2.2]
    decide
  · exact (h.covers hcount).room

end Described

end TensorExchange
