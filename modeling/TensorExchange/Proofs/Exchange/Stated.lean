import TensorExchange.Capsule
import TensorExchange.Proofs.Exchange.Reimport

/-!
Stated tensors: records that say in numbers what a capsule tells.

A capsule tells a layout, a type and a device in the words of this library, which are
unsigned.  A record has signed words.  The two state the same tensor if the numbers are the
same (`TensorRecord.States`), and this file says when they do.

From outside in they always do: whatever tensor was described has a record that states its
description (`Describes.states`), because the description was read from it and what could
not be read was refused.  Sizes of words never get in the way there, since a number that
came out of a signed word fits in one (`TensorRecord.States.representable`).

From inside out nothing is refused: an export casts.  The record that is written for a
buffer states what the buffer is exactly if its numbers fit (`Buffer.states_toRecord_iff`),

    rank < 2³¹      index of the device < 2³¹      every extent < 2⁶³

and each of the three can fail for a buffer that this library made, at once or after a
reshape: an empty shape may have extents of any size, and a device any index.  This is the
form in which the deals between libraries use it (`Proofs/Interop/Deals`), where a consumer
knows a tensor by its record alone.
-/

namespace TensorExchange

/-! ## Words and the numbers that they are written for -/

theorem toInt_toInt64_iff {x : UInt64} : x.toInt64.toInt = x.toNat ↔ x.toNat < 2 ^ 63 := by
  have hword := x.toNat_lt
  have hsigned : x.toInt64.toInt = (x.toNat : Int).bmod (2 ^ 64) := BitVec.toInt_eq_toNat_bmod _
  rw [hsigned, Int.bmod_def]
  omega

theorem toInt_toInt32_iff {x : UInt32} : x.toInt32.toInt = x.toNat ↔ x.toNat < 2 ^ 31 := by
  have hword := x.toNat_lt
  have hsigned : x.toInt32.toInt = (x.toNat : Int).bmod (2 ^ 32) := BitVec.toInt_eq_toNat_bmod _
  rw [hsigned, Int.bmod_def]
  omega

theorem toNatClampNeg_eq {x : Int32} (h : ¬ x < 0) : (x.toNatClampNeg : Int) = x.toInt := by
  rw [Int32.lt_iff_toInt_lt, Int32.toInt_zero] at h
  rw [← Int32.toNat_toInt]
  omega

theorem toNat_toUInt32 {x : Int32} (h : ¬ x < 0) : (x.toUInt32.toNat : Int) = x.toInt := by
  rw [Int32.toNat_toUInt32_of_le (Int32.not_lt.mp h), toNatClampNeg_eq h]

theorem toNat_toUInt64 {x : Int64} (h : ¬ x < 0) : (x.toUInt64.toNat : Int) = x.toInt := by
  have hclamp := Int64.toNat_toUInt64_of_le (Int64.not_lt.mp h)
  rw [Int64.lt_iff_toInt_lt, Int64.toInt_zero] at h
  rw [hclamp, ← Int64.toNat_toInt]
  omega

/-! ## What a record states -/

/-- A record states the tensor that a capsule tells of: its numbers are the same.  Of the arrays
those numbers count that the rank says; a record without strides is of packed rows. -/
structure TensorRecord.States (r : TensorRecord) (i : CapsuleInfo) : Prop where
  /-- An array that is shorter than the rank says is none of the exchange format. -/
  rank : (∀ extents, r.shape = some extents → r.rank.toNatClampNeg ≤ extents.length) →
    r.rank.toInt = i.layout.rank
  present : r.rank ≠ 0 → r.shape ≠ none
  extents : ((r.shape.getD []).take r.rank.toNatClampNeg).map Int64.toInt =
    i.layout.shape.map fun d => (d.toNat : Int)
  strides : ∀ strides, r.strides = some strides →
    strides.take r.rank.toNatClampNeg = i.layout.strides
  packed : r.strides = none → rowMajorStrides i.layout.shape = .ok i.layout.strides
  type : r.triple = i.type.triple
  kind : r.device.type = i.device.kind.code
  index : r.device.id.toInt = i.device.index.toNat

/-- A tensor whose numbers fit in the signed words of the exchange format. -/
structure CapsuleInfo.Representable (i : CapsuleInfo) : Prop where
  rank : i.layout.rank < 2 ^ 31
  index : i.device.index.toNat < 2 ^ 31
  extents : ∀ d ∈ i.layout.shape, d.toNat < 2 ^ 63

theorem TensorRecord.States.representable {r : TensorRecord} {i : CapsuleInfo} (k : r.States i) :
    i.Representable where
  rank := by
    have hlength := congrArg List.length k.extents
    simp only [List.length_map, List.length_take, Layout.shape] at hlength
    have hrank : r.rank.toNatClampNeg < 2 ^ 31 := Int32.toNatClampNeg_lt r.rank
    rw [Layout.rank]
    omega
  index := by
    have hlt := r.device.id.toInt_lt
    rw [k.index] at hlt
    omega
  extents := by
    intro d hd
    have hmem : (d.toNat : Int) ∈ i.layout.shape.map fun d => (d.toNat : Int) :=
      List.mem_map_of_mem hd
    rw [← k.extents] at hmem
    obtain ⟨x, _, hx⟩ := List.mem_map.mp hmem
    have hlt := x.toInt_lt
    omega

namespace Described

/-! ## Tensors that were described -/

theorem toInt_of_readExtent {d : Int64} {x : UInt64} (h : readExtent d = .ok x) :
    d.toInt = x.toNat := by
  unfold readExtent at h
  split at h
  case isTrue => cases h
  case isFalse hpos => exact Except.ok.inj h ▸ (toNat_toUInt64 hpos).symm

theorem toInt_of_mapM_readExtent {extents : List Int64} {shape : List UInt64}
    (h : extents.mapM readExtent = .ok shape) :
    extents.map Int64.toInt = shape.map fun d => (d.toNat : Int) := by
  induction extents generalizing shape with
  | nil =>
    obtain rfl := Except.ok.inj h
    rfl
  | cons d ds ih =>
    simp only [List.mapM_cons, bind_eq_ok, pure_eq_ok] at h
    obtain ⟨x, hx, xs, hxs, rfl⟩ := h
    rw [List.map_cons, List.map_cons, toInt_of_readExtent hx, ih hxs]

theorem readShape_eq_ok {r : TensorRecord} {shape : List UInt64} (h : readShape r = .ok shape) :
    ¬ r.rank < 0 ∧ (r.rank ≠ 0 → r.shape ≠ none) ∧
      ((r.shape.getD []).take r.rank.toNatClampNeg).map Int64.toInt =
        shape.map fun d => (d.toNat : Int) := by
  unfold readShape at h
  split at h
  case isTrue => cases h
  case isFalse hpos =>
    refine ⟨hpos, ?_⟩
    split at h
    case isTrue hzero =>
      obtain rfl := Except.ok.inj h
      simp [hzero]
    case isFalse =>
      split at h
      next => cases h
      next extents hextents =>
        rw [hextents]
        exact ⟨fun _ => nofun, toInt_of_mapM_readExtent h⟩

theorem readType_eq_ok {triple : TypeTriple} {type : ElementType}
    (h : readType triple = .ok type) : type.triple = triple := by
  unfold readType at h
  split at h
  next found hfound => exact Except.ok.inj h ▸ ElementType.triple_of_ofTriple? hfound
  next => cases h

theorem readDevice_eq_ok {p : DevicePair} {d : Device} (h : readDevice p = .ok d) :
    p.type = d.kind.code ∧ p.id.toInt = d.index.toNat := by
  unfold readDevice at h
  split at h
  case isTrue => cases h
  case isFalse hpos =>
    split at h
    next found hfound =>
      obtain rfl := Except.ok.inj h
      rw [Device.ofPair?, if_neg hpos] at hfound
      obtain ⟨kind, hkind, rfl⟩ := Option.map_eq_some_iff.mp hfound
      exact ⟨(DeviceKind.code_of_ofCode? hkind).symm, (toNat_toUInt32 hpos).symm⟩
    next => cases h

/-- The record of a tensor states what the tensor was found to be. -/
theorem Describes.states {t : ManagedTensor} {d : Described} (hd : d.Describes t)
    (format : CapsuleFormat) (readOnly : Bool) :
    t.record.States ⟨d.layout, d.type, d.device, format, readOnly⟩ := by
  obtain ⟨hpos, hpresent, hextents⟩ := readShape_eq_ok hd.shape
  obtain ⟨hkind, hindex⟩ := readDevice_eq_ok hd.device
  have hstrides := hd.strides
  constructor
  case rank =>
    intro hwhole
    have hlength := congrArg List.length hextents
    rw [List.length_map, List.length_take, List.length_map] at hlength
    have hfits : t.record.rank.toNatClampNeg ≤ (t.record.shape.getD []).length := by
      cases hshape : t.record.shape with
      | none => simp [Decidable.not_not.mp fun hne => hpresent hne hshape]
      | some extents => exact hwhole extents hshape
    have hclamp : (t.record.rank.toNatClampNeg : Int) = t.record.rank.toInt := toNatClampNeg_eq hpos
    rw [Layout.shape, List.length_map] at hlength
    show t.record.rank.toInt = d.layout.axes.length
    omega
  case present => exact hpresent
  case extents => exact hextents
  case strides =>
    intro strides hsome
    rw [readStrides, hsome] at hstrides
    simp only at hstrides
    split at hstrides
    case isTrue hzero =>
      rw [hzero, ← Except.ok.inj hstrides]
      rfl
    case isFalse => exact Except.ok.inj hstrides
  case packed =>
    intro hnone
    rw [readStrides, hnone] at hstrides
    exact orInvalidTensor_eq_ok.mp hstrides
  case type => exact (readType_eq_ok hd.type).symm
  case kind => exact hkind
  case index => exact hindex

end Described

/-! ## Records that are written -/

/-- The record of a buffer states what the buffer is exactly if its numbers fit. -/
theorem Buffer.states_toRecord_iff (b : Buffer) (format : CapsuleFormat) (readOnly : Bool) :
    b.toRecord.States ⟨b.layout, b.type, b.device, format, readOnly⟩ ↔
      CapsuleInfo.Representable ⟨b.layout, b.type, b.device, format, readOnly⟩ := by
  refine ⟨TensorRecord.States.representable, fun fits => ?_⟩
  have hrank : b.layout.rank < 2 ^ 31 := fits.rank
  have hclamp : b.toRecord.rank.toNatClampNeg = b.layout.rank :=
    Int32.toNatClampNeg_ofNat_of_lt hrank
  have hlength : b.layout.axes.length = b.layout.rank := rfl
  constructor
  case rank => exact fun _ => Int32.toInt_ofNat_of_lt hrank
  case present =>
    intro _ h
    cases h
  case extents =>
    show ((b.layout.shape.map UInt64.toInt64).take b.toRecord.rank.toNatClampNeg).map Int64.toInt =
      b.layout.shape.map fun d => (d.toNat : Int)
    rw [hclamp, List.take_of_length_le (by simp [Layout.shape, hlength]), List.map_map]
    exact List.map_congr_left fun d hd => toInt_toInt64_iff.mpr (fits.extents d hd)
  case strides =>
    rintro strides ⟨⟩
    rw [hclamp, List.take_of_length_le (by simp [Layout.strides, hlength])]
  case packed =>
    intro h
    cases h
  case type => rfl
  case kind => rfl
  case index => exact toInt_toInt32_iff.mpr fits.index

end TensorExchange
