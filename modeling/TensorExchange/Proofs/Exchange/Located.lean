import Mathlib.Data.Int.ModEq
import TensorExchange.Proofs.Exchange.Stated
import TensorExchange.Proofs.Layout.Order
import TensorExchange.Proofs.Layout.Rows

/-!
Located tensors: a description finds the elements where the record has them.

A record counts from its data pointer, in address arithmetic that wraps, and its strides
may run to either side, so the element at index zero need not be the lowest.  A description
counts from the lowest byte, upwards, inside of a storage that begins there.  That both
name the same bytes is not seen from either.

Main statement (`located_ofTensor`), for every tensor that was accepted.  Its memory is
exactly the hull of its elements: one of them begins where the memory begins and one ends
where it ends.  And every element is where the record has it,

    base + offset + size · Σ strideₖ · indexₖ  ≡  data + byteOffset + size · Σ strideₖ · indexₖ

modulo the word, with the strides of the description on the left and those of the record
on the right, which are the packed ones where the record gives none.  It is said twice, of
pointers into blocks and of numbers, wherever the blocks are placed; the second is what
the formats of other libraries speak of.

A tensor without elements has no memory, and what its pointers and strides are makes no
difference to its description (`empty`): wherever they lead, the description is the same.

`wrappedRows` is a tensor whose first stride is negative and whose pointer wraps on the way
to the lowest element; the statement is applied to it in `located_wrappedRows`.
-/

namespace TensorExchange

/-! ## Strides and addresses in numbers -/

/-- How far the element at an index lies from the first one by these strides, in elements. -/
def strideSum (strides : List Int) (index : List Nat) : Int :=
  (List.zipWith (fun (stride : Int) (i : Nat) => i * stride) strides index).sum

theorem displacement_eq_strideSum (axes : List Axis) (index : List Nat) :
    displacement axes index = strideSum (axes.map fun a => a.stride.toInt) index := by
  induction axes generalizing index with
  | nil => cases index <;> rfl
  | cons a axes ih =>
    cases index with
    | nil => rfl
    | cons i index =>
      rw [displacement, ih, List.map_cons, strideSum, strideSum, List.zipWith_cons_cons,
        List.sum_cons]

/-- The strides that a record gives to a shape: those it has, or else those of packed rows. -/
def TensorRecord.stridesOf (r : TensorRecord) (shape : List UInt64) : List Int :=
  match r.strides with
  | some strides => (strides.take r.rank.toNatClampNeg).map Int64.toInt
  | none => shape.tails.tail.map fun inner => (volume inner : Int)

namespace Pointer

/-- The address of a byte once each block has its own. -/
def addressIn (place : Nat → Int) : Pointer → Int
  | fixed address => address.toNat
  | within block offset => place block + offset.toInt

theorem addressIn_shift (place : Nat → Int) (p : Pointer) (n : Int) :
    (p.shift n).addressIn place ≡ p.addressIn place + n [ZMOD wordBound] := by
  cases p with
  | fixed address =>
    have hlt : ((address.toNat + n) % 2 ^ 64).toNat < 2 ^ 64 := by omega
    simp only [shift, addressIn, Int.ModEq, wordBound, UInt64.ofInt, UInt64.toNat_ofNat_of_lt' hlt]
    omega
  | within block offset =>
    rw [shift, addressIn, addressIn, Int64.toInt_add, Int64.toInt_ofInt, Int.ModEq, add_assoc]
    have hoffset := Int.bmod_def (offset.toInt + n.bmod Int64.size) (2 ^ 64)
    have hn := Int.bmod_def n Int64.size
    simp only [wordBound, Int64.size] at *
    omega

end Pointer

namespace Described

/-- Where the memory of a description begins and how long it is, compared with the record. -/
structure Located (t : ManagedTensor) (d : Described) : Prop where
  extents : ((t.record.shape.getD []).take t.record.rank.toNatClampNeg).map Int64.toInt =
    d.layout.shape.map fun d => (d.toNat : Int)
  strides : 0 ∉ d.layout.shape →
    d.layout.strides.map Int64.toInt = t.record.stridesOf d.layout.shape
  /-- The lowest element begins where the memory does. -/
  lowest : 0 ∉ d.layout.shape → IsLeast (d.layout.places d.type.size) 0
  /-- The highest one ends where the memory does. -/
  highest : 0 ∉ d.layout.shape →
    IsGreatest (d.layout.places d.type.size) (d.size - d.type.size)
  room : d.size < wordBound
  first : 0 ∉ d.layout.shape →
    d.base.shift d.layout.byteOffset.toNat = t.record.data.shift t.record.byteOffset.toNat
  /-- Every element is where the record has it. -/
  elements : 0 ∉ d.layout.shape → ∀ index,
    d.base.shift (d.layout.place d.type.size index) =
      t.record.data.shift (t.record.byteOffset.toNat +
        d.type.size * strideSum (t.record.stridesOf d.layout.shape) index)
  /-- The same in numbers, wherever the blocks of memory are. -/
  addresses : 0 ∉ d.layout.shape → ∀ (place : Nat → Int) (index : List Nat),
    d.base.addressIn place + d.layout.byteOffset.toNat +
        d.type.size * strideSum (d.layout.strides.map Int64.toInt) index ≡
      t.record.data.addressIn place + t.record.byteOffset.toNat +
        d.type.size * strideSum (t.record.stridesOf d.layout.shape) index [ZMOD wordBound]
  /-- Without elements it does not matter where the pointers lead. -/
  empty : 0 ∈ d.layout.shape → d.size = 0 ∧ ∀ data byteOffset strides,
    (∀ given, strides = some given →
      (given.take t.record.rank.toNatClampNeg).length = d.layout.rank) →
      ∃ d', ofTensor { t with record := { t.record with data, byteOffset, strides } } = .ok d' ∧
        d'.layout.shape = d.layout.shape ∧ d'.size = 0

variable {t : ManagedTensor} {d : Described}

theorem Describes.strides_eq (hd : d.Describes t) (hne : 0 ∉ d.layout.shape) :
    d.layout.strides.map Int64.toInt = t.record.stridesOf d.layout.shape := by
  have hstates := hd.states .legacy d.readOnly
  cases hsome : t.record.strides with
  | some strides =>
    rw [TensorRecord.stridesOf, hsome]
    exact (congrArg (List.map Int64.toInt) (hstates.strides strides hsome)).symm
  | none =>
    obtain ⟨_, hcheck, hwalk⟩ := bind_eq_ok.mp (hstates.packed hsome)
    rw [TensorRecord.stridesOf, hsome]
    rw [← pure_eq_ok.mp hwalk]
    exact toInt_strideWalk_of_ne_zero hne hcheck

theorem Describes.count_ne_zero (hd : d.Describes t) (hne : 0 ∉ d.layout.shape) :
    d.layout.count ≠ 0 := mt hd.exact.count_eq_zero_iff.mp hne

/-- From the first element on, records and descriptions count alike. -/
theorem Describes.shift_first (hd : d.Describes t) (hne : 0 ∉ d.layout.shape) :
    d.base.shift d.layout.byteOffset.toNat = t.record.data.shift t.record.byteOffset.toNat := by
  have c := hd.covers (hd.count_ne_zero hne)
  rw [c.base, Pointer.shift_shift, c.first, add_neg_cancel, Pointer.shift_zero]

theorem readStrides_of_length {r : TensorRecord} {shape : List UInt64}
    (hcheck : checkShape shape = .ok ())
    (hlength : ∀ given, r.strides = some given →
      (given.take r.rank.toNatClampNeg).length = shape.length) :
    ∃ strides, readStrides r shape = .ok strides ∧ shape.length = strides.length := by
  cases hsome : r.strides with
  | none =>
    refine ⟨(strideWalk shape).1, ?_, (Layout.length_strideWalk shape).symm⟩
    rw [readStrides, hsome]
    exact orInvalidTensor_eq_ok.mpr (bind_eq_ok.mpr ⟨(), hcheck, rfl⟩)
  | some given =>
    have hgiven := hlength given hsome
    rw [readStrides, hsome]
    dsimp only
    split
    case isTrue hzero =>
      rw [hzero] at hgiven
      exact ⟨[], rfl, hgiven.symm⟩
    case isFalse => exact ⟨_, rfl, hgiven.symm⟩

/-- A tensor without elements is described whatever its pointers are. -/
theorem Describes.relocated (hd : d.Describes t) (hempty : 0 ∈ d.layout.shape) (data : Pointer)
    (byteOffset : UInt64) {strides : Option (List Int64)}
    (hstrides : ∀ given, strides = some given →
      (given.take t.record.rank.toNatClampNeg).length = d.layout.rank) :
    ∃ d', ofTensor { t with record := { t.record with data, byteOffset, strides } } = .ok d' ∧
      d'.layout.shape = d.layout.shape ∧ d'.size = 0 := by
  have hlength : d.layout.shape.length = d.layout.rank := List.length_map ..
  obtain ⟨found, hfound, hsame⟩ :=
    readStrides_of_length (r := { t.record with data, byteOffset, strides }) hd.checked
      fun given h => (hstrides given h).trans hlength.symm
  obtain ⟨l, hl⟩ : ∃ l, Layout.strided d.layout.shape found 0 = .ok l :=
    ⟨⟨List.zipWith Axis.mk d.layout.shape found, 0⟩, Layout.strided_eq_ok_iff.mpr
      ⟨⟨Layout.map_extent_zipWith hsame, Layout.map_stride_zipWith hsame, rfl⟩, hd.checked⟩⟩
  obtain ⟨⟨hshape, rfl, hzero⟩, hchecked⟩ := Layout.strided_eq_ok_iff.mp hl
  have hcount : l.count = 0 :=
    (Layout.exact_of_strided hl).count_eq_zero_iff.mpr (hshape.symm ▸ hempty)
  refine ⟨⟨l, d.type, d.device, .dangling, 0, reportedAlignment t d.type.size, d.readOnly⟩, ?_,
    hshape, rfl⟩
  refine Describes.ofTensor_eq_ok ⟨hd.envelope, hd.type, hd.device, hshape.symm ▸ hd.shape,
    hshape.symm ▸ hfound, hshape.symm ▸ hchecked, hd.readOnly, ?_, fun _ => ⟨hzero, rfl, rfl⟩,
    fun hne => absurd hcount hne⟩
  rw [if_pos hcount]
  rfl

/-- A tensor that is described is located. -/
theorem located_ofTensor (ok : ofTensor t = .ok d) : d.Located t := by
  have hd := Describes.of_ofTensor ok
  have hextents (hne : 0 ∉ d.layout.shape) := hd.exact.extent_ne_zero (hd.count_ne_zero hne)
  have hsum (hne : 0 ∉ d.layout.shape) (index : List Nat) : displacement d.layout.axes index =
      strideSum (t.record.stridesOf d.layout.shape) index := by
    rw [← hd.strides_eq hne, displacement_eq_strideSum, Layout.strides, List.map_map]
    rfl
  have helements (hne : 0 ∉ d.layout.shape) (index : List Nat) :
      d.base.shift (d.layout.place d.type.size index) =
        t.record.data.shift (t.record.byteOffset.toNat +
          d.type.size * strideSum (t.record.stridesOf d.layout.shape) index) := by
    rw [Layout.place, ← Pointer.shift_shift, hd.shift_first hne, Pointer.shift_shift, hsum hne,
      mul_comm]
  constructor
  case extents => exact (readShape_eq_ok hd.shape).2.2
  case strides => exact hd.strides_eq
  case lowest =>
    intro hne
    rw [← hd.start (hd.count_ne_zero hne)]
    exact Layout.isLeast_places (hextents hne) d.type.size
  case highest =>
    intro hne
    have hstop := hd.stop (hd.count_ne_zero hne)
    rw [← hstop]
    exact Layout.isGreatest_places (hextents hne) d.type.size
  case room => exact hd.size_lt
  case first => exact hd.shift_first
  case elements => exact helements
  case addresses =>
    intro hne place index
    have h := congrArg (Pointer.addressIn place) (helements hne index)
    have hleft := Pointer.addressIn_shift place d.base (d.layout.place d.type.size index)
    have hright := Pointer.addressIn_shift place t.record.data (t.record.byteOffset.toNat +
      d.type.size * strideSum (t.record.stridesOf d.layout.shape) index)
    rw [hd.strides_eq hne]
    rw [Layout.place, hsum hne, mul_comm] at hleft h
    rw [add_assoc, add_assoc]
    exact hleft.symm.trans (h ▸ hright)
  case empty =>
    intro hempty
    have hcount := hd.exact.count_eq_zero_iff.mpr hempty
    exact ⟨(hd.empty hcount).2.2, fun data byteOffset strides hstrides =>
      hd.relocated hempty data byteOffset hstrides⟩

/-- Two rows of three elements of two bytes, the last row first in memory, at a data pointer close
to the end of the address space: the byte offset leads across it. -/
def wrappedRows : ManagedTensor :=
  ⟨.legacy, ⟨.fixed 0xfffffffffffffffc, ⟨1, 0⟩, 2, ElementType.int16.triple, some [2, 3],
    some [-3, 1], 16⟩, .runtime 1 true, false⟩

theorem located_wrappedRows :
    ∃ d, ofTensor wrappedRows = .ok d ∧ d.Located wrappedRows ∧ 0 ∉ d.layout.shape ∧
      d.base = .fixed 6 ∧ d.layout.byteOffset = 6 ∧ d.size = 12 := by
  have ok : ofTensor wrappedRows =
      .ok ⟨⟨[⟨2, -3⟩, ⟨3, 1⟩], 6⟩, .int16, .host, .fixed 6, 12, some 2, false⟩ := by
    decide +kernel
  exact ⟨_, ok, located_ofTensor ok, by decide, rfl, rfl, rfl⟩

end Described

end TensorExchange
