import TensorExchange.Exchange.Export
import TensorExchange.Proofs.Exchange.Describe

/-!
Reimport: what an exported buffer is found to be when it comes back.

An export writes a record for a buffer, with casts between words of different signs and
sizes and no check of its own.  An import that meets this record reads it like any other
and checks everything.  Main statements:

* the record of a buffer is read back as its shape, strides, type and device
  (`Describes.axes_eq_take` and its kind);
* the bytes that are adopted are those that the layout of the buffer reaches, inside of
  its storage (`Returns`).

The casts do no harm where the import accepts: an extent that turned negative is refused,
so one that is read is the one that was written, and the same goes for the index of a
device.  Strides turn into themselves.

The rank is the exception.  The exchange format writes it as a 32-bit word.  Of a buffer
with 2³² axes or more only as many are read back as the rank has left in that word,

    d.layout.axes = b.layout.axes.take (b.layout.rank % 2 ^ 32)

and the rest is lost without a refusal; so what `Describes.returns` says of the whole
buffer is said for smaller ranks.  What remains true for every rank is that no byte
outside of the storage is adopted, since the hull of fewer axes is no larger
(`Proofs/RoundTrip`).
-/

namespace TensorExchange

theorem ofInt_toNat (x : UInt64) : UInt64.ofInt x.toNat = x := by
  have h : ((x.toNat : Int) % 2 ^ 64).toNat = x.toNat := by
    have := x.toNat_lt
    omega
  simp only [UInt64.ofInt, h, UInt64.ofNat_toNat]

theorem Pointer.shift_shift (p : Pointer) (m n : Int) : (p.shift m).shift n = p.shift (m + n) := by
  cases p with
  | fixed address =>
    simp only [shift, UInt64.ofInt_add, ofInt_toNat, UInt64.add_assoc]
  | within block offset =>
    simp only [shift]
    congr 1
    rw [Int64.ofInt_add, Int64.add_assoc]

namespace Described

/-! ## Reading back a record -/

theorem readExtent_toInt64 {x y : UInt64} (h : readExtent x.toInt64 = .ok y) : y = x := by
  unfold readExtent at h
  split at h
  · cases h
  · exact (Except.ok.inj h).symm.trans (UInt64.toUInt64_toInt64 x)

theorem mapM_readExtent {shape found : List UInt64}
    (h : (shape.map UInt64.toInt64).mapM readExtent = .ok found) : found = shape := by
  induction shape generalizing found with
  | nil => exact (Except.ok.inj h).symm
  | cons d ds ih =>
    simp only [List.map_cons, List.mapM_cons, bind_eq_ok, pure_eq_ok] at h
    obtain ⟨y, hy, ys, hys, rfl⟩ := h
    rw [readExtent_toInt64 hy, ih hys]

/-- A rank that is not read as a negative one is read as what its word has of it. -/
theorem toNat_rank_mod {n : Nat} (hpos : ¬ Int32.ofNat n < 0) :
    (Int32.ofNat n).toNatClampNeg = n % 2 ^ 32 := by
  have hvalue : (Int32.ofNat n).toInt = Int.bmod n (2 ^ 32) := Int32.toInt_ofNat'
  rw [Int32.lt_iff_toInt_lt, Int32.toInt_zero, hvalue, Int.bmod_def] at hpos
  rw [← Int32.toNat_toInt, hvalue, Int.bmod_def]
  omega

theorem toNat_rank {n : Nat} (hn : n < 2 ^ 32) (hpos : ¬ Int32.ofNat n < 0) :
    (Int32.ofNat n).toNatClampNeg = n := by
  rw [toNat_rank_mod hpos, Nat.mod_eq_of_lt hn]

/-- Of a list with an entry for each axis nothing is read if the rank is read as none. -/
theorem take_rank_of_zero {α : Type} {n : Nat} (entries : List α) (hzero : Int32.ofNat n = 0) :
    entries.take (n % 2 ^ 32) = [] := by
  rw [← toNat_rank_mod (by rw [hzero]; decide), hzero]
  rfl

theorem readShape_toRecord_mod {b : Buffer} {shape : List UInt64}
    (h : readShape b.toRecord = .ok shape) :
    shape = b.layout.shape.take (b.layout.rank % 2 ^ 32) ∧ ¬ b.toRecord.rank < 0 := by
  unfold readShape at h
  split at h
  case isTrue => cases h
  case isFalse hpos =>
    refine ⟨?_, hpos⟩
    split at h
    case isTrue hzero =>
      rw [take_rank_of_zero _ hzero]
      exact (Except.ok.inj h).symm
    case isFalse =>
      change ((b.layout.shape.map UInt64.toInt64).take _).mapM readExtent = .ok shape at h
      rw [← List.map_take, show b.toRecord.rank.toNatClampNeg = _ from toNat_rank_mod hpos] at h
      exact mapM_readExtent h

theorem readStrides_toRecord_mod {b : Buffer} {shape : List UInt64} {strides : List Int64}
    (hpos : ¬ b.toRecord.rank < 0) (h : readStrides b.toRecord shape = .ok strides) :
    strides = b.layout.strides.take (b.layout.rank % 2 ^ 32) := by
  change (if b.toRecord.rank = 0 then Except.ok []
    else .ok (b.layout.strides.take b.toRecord.rank.toNatClampNeg)) = .ok strides at h
  split at h
  case isTrue hzero =>
    rw [take_rank_of_zero _ hzero]
    exact (Except.ok.inj h).symm
  case isFalse =>
    rw [← Except.ok.inj h, show b.toRecord.rank.toNatClampNeg = _ from toNat_rank_mod hpos]

theorem readType_triple (t : ElementType) : readType t.triple = .ok t := by
  simp [readType, ElementType.ofTriple?_triple]

theorem readDevice_pair {d d' : Device} (h : readDevice d.pair = .ok d') : d' = d := by
  unfold readDevice at h
  split at h
  case isTrue => cases h
  case isFalse hpos =>
    split at h
    next found hfound =>
      rw [Device.ofPair?, if_neg hpos] at hfound
      simp only [Device.pair, DeviceKind.ofCode?_code, Option.map_some, UInt32.toUInt32_toInt32,
        Option.some.injEq] at hfound
      exact (Except.ok.inj h).symm.trans hfound.symm
    next => cases h

/-! ## Describing an export -/

/-- The description of a buffer that comes back: its axes are the same, counted from the lowest
byte. -/
structure Returns (b : Buffer) (d : Described) : Prop where
  axes : d.layout.axes = b.layout.axes
  type : d.type = b.type
  device : d.device = b.device
  empty : b.count = 0 → d.layout.byteOffset = 0 ∧ d.base = .dangling ∧ d.size = 0
  first : b.count ≠ 0 →
    (d.layout.byteOffset.toNat : Int) = b.layout.byteOffset.toNat - b.layout.start b.type.size
  base : b.count ≠ 0 → d.base = b.storage.base.shift (b.layout.start b.type.size)
  size : b.count ≠ 0 → (d.size : Int) = b.layout.stop b.type.size - b.layout.start b.type.size

/-- As many axes come back as the word has of the rank. -/
theorem Describes.axes_eq_take {t : ManagedTensor} {b : Buffer} {d : Described}
    (hd : d.Describes t) (hrecord : t.record = b.toRecord) :
    d.layout.axes = b.layout.axes.take (b.layout.rank % 2 ^ 32) := by
  have hshape := hd.shape
  have hstrides := hd.strides
  rw [hrecord] at hshape hstrides
  obtain ⟨hshape, hpos⟩ := readShape_toRecord_mod hshape
  have hstrides := readStrides_toRecord_mod hpos hstrides
  rw [← Layout.zipWith_axes d.layout.axes, ← Layout.zipWith_axes (b.layout.axes.take _),
    List.map_take, List.map_take]
  exact congrArg₂ _ hshape hstrides

theorem Describes.type_eq {t : ManagedTensor} {b : Buffer} {d : Described} (hd : d.Describes t)
    (hrecord : t.record = b.toRecord) : d.type = b.type := by
  have h := hd.type
  rw [hrecord, show b.toRecord.triple = b.type.triple from rfl, readType_triple] at h
  exact (Except.ok.inj h).symm

theorem Describes.device_eq {t : ManagedTensor} {b : Buffer} {d : Described} (hd : d.Describes t)
    (hrecord : t.record = b.toRecord) : d.device = b.device := by
  have h := hd.device
  rw [hrecord] at h
  exact readDevice_pair h

theorem Describes.returns {t : ManagedTensor} {b : Buffer} {d : Described} (hd : d.Describes t)
    (hrecord : t.record = b.toRecord) (hrank : b.layout.rank < 2 ^ 32) : Returns b d := by
  have haxes : d.layout.axes = b.layout.axes := by
    rw [hd.axes_eq_take hrecord, Nat.mod_eq_of_lt hrank]
    exact List.take_length
  have htype := hd.type_eq hrecord
  have hdevice := hd.device_eq hrecord
  have hcount : d.layout.count = b.count := by
    simp only [Layout.count, Buffer.count, haxes]
  have hcovers : b.count ≠ 0 → Covers b.toRecord d := by
    intro hne
    rw [← hrecord]
    exact hd.covers (hcount ▸ hne)
  refine ⟨haxes, htype, hdevice, fun hzero => hd.empty (hcount.trans hzero), ?_, ?_, ?_⟩
  · intro hne
    have := (hcovers hne).first
    rw [haxes, htype] at this
    simp only [Layout.start]
    omega
  · intro hne
    have := (hcovers hne).base
    rw [haxes, htype, Pointer.shift_shift] at this
    exact this
  · intro hne
    have := (hcovers hne).size
    rw [haxes, htype] at this
    simp only [Layout.start, Layout.stop]
    omega

end Described

end TensorExchange
