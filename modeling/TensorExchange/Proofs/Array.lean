import TensorExchange.Proofs.Buffer.InPlace
import TensorExchange.Proofs.Layout.Rows
import TensorExchange.Proofs.Reshape

/-!
Arrays: the parts of an array always become a buffer.

The parts of an array are a vector, a shape, strides, and the entry of the vector that
comes first.  The element at an index is an entry of the vector: the first one, and each
stride as often as the position on its axis says.  For parts that are valid every index
leads into the vector, and this is all that the rest is derived from.

The vector becomes a storage as it is, and a view of it gets the axes of the array, with
the first entry counted in bytes.  The check of that view looks at the lowest and the
highest place that the layout reaches, but these are places of elements, so it passes;
and an array without elements is not checked.  Main statement: valid parts are adopted
whatever is in the heap, and the heap then has the storage of the vector and nothing else
that is new.
-/

namespace TensorExchange

theorem fitsArray_iff {shape : List UInt64} : fitsArray shape = true ↔ rowStep shape ≤ maxSize := by
  unfold fitsArray
  constructor
  · intro h
    split at h
    next n hn =>
      obtain ⟨rfl, _⟩ := count?_eq_some hn
      rw [← volume_filter_ne_zero]
      exact of_decide_eq_true h
    next => cases h
  · intro h
    have hfilter : rowStep (shape.filter (· != 0)) ≤ maxSize := by
      have hne : 0 ∉ shape.filter (· != 0) := by simp
      rwa [rowStep_eq_volume hne, volume_filter_ne_zero]
    rw [count?_of_rowStep hfilter, volume_filter_ne_zero]
    exact decide_eq_true h

/-! ## Data that was handed in -/

/-- A buffer over bytes that were handed in, from a place that fits every type of element. -/
structure Buffer.Fills (b : Buffer) (h : Heap) (type : ElementType) (data : Array UInt8) :
    Prop where
  type : b.type = type
  host : b.device = .host
  size : b.storage.size = data.size
  bytes : h.storageBytes b.storage = .ok data
  base : data.size ≠ 0 → ∃ block, b.storage.base = .within block 0
  holders : ∃ x, h.holdings.get? b.storage.id = some x ∧ x.holders ≠ 0

theorem Buffer.fills_ofBytes (h : Heap) (type : ElementType) {data : Array UInt8}
    (small : data.size ≤ maxSize) :
    (ofBytes h type data).2.Fills (ofBytes h type data).1 type data := by
  unfold ofBytes
  split
  case isTrue hempty =>
    obtain rfl := Array.isEmpty_iff.mp hempty
    constructor
    case holders => exact ⟨_, Table.get?_add_next .., Nat.one_ne_zero⟩
    case base => exact fun hne => absurd rfl hne
    all_goals rfl
  case isFalse =>
    constructor
    case bytes =>
      refine (Heap.storageBytes_within 0 (Table.get?_add_next ..) small rfl ?_).trans ?_
      · exact (Nat.zero_add _).le
      · exact congrArg Except.ok (by simp [Buffer.ofStorage, Heap.addStorage])
    case base => exact fun _ => ⟨_, rfl⟩
    case holders => exact ⟨_, Table.get?_add_next .., Nat.one_ne_zero⟩
    all_goals rfl

namespace ArrayParts

variable {a : ArrayParts} {index : List Nat}

/-- The bytes of the element at an index. -/
def elementAt (a : ArrayParts) (index : List Nat) : Array UInt8 :=
  let start := (a.entryAt index * a.type.size).toNat
  a.data.extract start (start + a.type.size)

/-- The axes of an array, with its first entry in bytes. -/
def layout (a : ArrayParts) : Layout := ⟨a.axes, UInt64.ofNat (a.first.getD 0 * a.type.size)⟩

theorem count_eq (a : ArrayParts) : a.count = volume (a.axes.map Axis.extent) := by
  rw [count, volume, List.map_map, List.prod_eq_foldr]
  rfl

namespace Valid

/-! ## Where the elements lie -/

theorem shape_eq (k : a.Valid) : a.axes.map Axis.extent = a.shape :=
  Layout.map_extent_zipWith k.1.symm

theorem strides_eq (k : a.Valid) : a.axes.map Axis.stride = a.strides :=
  Layout.map_stride_zipWith k.1.symm

theorem small (k : a.Valid) : a.data.size ≤ maxSize := k.2.2.1

theorem counted (k : a.Valid) : rowStep a.shape ≤ maxSize := fitsArray_iff.mp k.2.2.2.1

theorem entry_mem (k : a.Valid) (inside : Inside a.axes index) :
    0 ≤ a.entryAt index ∧ a.entryAt index < a.length := by
  have h := k.2.2.2.2 (rowRank a.axes index) (a.count_eq.symm ▸ inside.rowRank_lt)
  rwa [inside.unravel_rowRank] at h

theorem bytes_mem (k : a.Valid) (inside : Inside a.axes index) :
    0 ≤ a.entryAt index * a.type.size ∧
      a.entryAt index * a.type.size + a.type.size ≤ a.data.size := by
  obtain ⟨hlow, hhigh⟩ := k.entry_mem inside
  have hle : (a.entryAt index + 1) * a.type.size ≤ a.length * a.type.size :=
    mul_le_mul_of_nonneg_right (by omega) (Int.natCast_nonneg _)
  rw [add_mul, one_mul] at hle
  refine ⟨mul_nonneg hlow (Int.natCast_nonneg _), hle.trans ?_⟩
  exact_mod_cast k.2.1.ge

theorem first_inside (k : a.Valid) (hne : 0 ∉ a.shape) :
    Inside a.axes (a.axes.map fun _ => 0) :=
  inside_first fun _ haxis hzero => hne <| k.shape_eq ▸ hzero ▸ List.mem_map_of_mem haxis

/-- Where there are elements, the place of the first one is a word. -/
theorem toNat_byteOffset (k : a.Valid) (hne : 0 ∉ a.shape) :
    a.layout.byteOffset.toNat = a.first.getD 0 * a.type.size := by
  have hbytes := k.bytes_mem (k.first_inside hne)
  rw [entryAt, displacement_first, add_zero] at hbytes
  have hsmall := k.small
  unfold maxSize at hsmall
  exact UInt64.toNat_ofNat_of_lt' (by rw [UInt64.size]; omega)

theorem place_eq (k : a.Valid) (inside : Inside a.axes index) :
    a.layout.place a.type.size index = a.entryAt index * a.type.size := by
  have hne : 0 ∉ a.shape := by
    intro hzero
    rw [← k.shape_eq] at hzero
    obtain ⟨axis, haxis, hextent⟩ := List.mem_map.mp hzero
    exact inside.extent_ne_zero axis haxis hextent
  rw [Layout.place, k.toNat_byteOffset hne, entryAt, add_mul, Nat.cast_mul]
  rfl

/-! ## The layout of an array -/

theorem exact (k : a.Valid) : a.layout.Exact := by
  rw [Layout.Exact, Layout.shape, layout, k.shape_eq]
  exact Nat.lt_of_le_of_lt ((volume_le_rowStep a.shape).trans k.counted) (by decide)

theorem strided (k : a.Valid) :
    Layout.strided a.shape a.strides a.layout.byteOffset = .ok a.layout :=
  Layout.strided_eq_ok_iff.mpr ⟨⟨k.shape_eq, k.strides_eq, rfl⟩, checkShape_of_rowStep k.counted⟩

/-- The places between which the elements lie are places of elements. -/
theorem fits (k : a.Valid) : a.layout.Fits a.type.size a.data.size := by
  intro hne
  have hsmall := k.small
  unfold maxSize at hsmall
  obtain ⟨hlow, hhigh⟩ :=
    (k.exact.forall_places_iff hne a.type.size a.data.size).mp <| by
      rintro _ ⟨index, inside, rfl⟩
      rw [k.place_eq inside]
      exact k.bytes_mem inside
  exact ⟨hlow, hhigh, by omega⟩

/-! ## The buffer of an array -/

/-- Nothing is in the way of an array, and nobody but the buffer holds its vector then. -/
theorem ofArray_eq (k : a.Valid) (h : Heap) :
    Buffer.ofArray h a =
      .ok ((Buffer.ofBytes h a.type a.data).1,
        (Buffer.ofBytes h a.type a.data).2.withLayout a.layout) := by
  have fills := Buffer.fills_ofBytes h a.type k.small
  obtain ⟨x, found, held⟩ := fills.holders
  have hlayout : (Buffer.ofBytes h a.type a.data).2.viewLayout a.shape a.strides
      a.layout.byteOffset = .ok a.layout := by
    refine bind_eq_ok.mpr ⟨_, k.strided, bind_eq_ok.mpr ⟨(), ?_, rfl⟩⟩
    rw [fills.type, fills.size]
    exact (Layout.checkWithin_eq_ok_iff a.type.size_pos).mpr k.fits
  have hview : (Buffer.ofBytes h a.type a.data).2.view (Buffer.ofBytes h a.type a.data).1 a.shape
      a.strides a.layout.byteOffset =
        .ok ((Buffer.ofBytes h a.type a.data).1.retain (Buffer.ofBytes h a.type a.data).2.storage,
          (Buffer.ofBytes h a.type a.data).2.withLayout a.layout) :=
    bind_eq_ok.mpr ⟨_, leaving_eq_ok.mpr (orShapeError_eq_ok.mpr hlayout), rfl⟩
  refine bind_eq_ok.mpr ⟨_, mapError_eq_ok.mpr hview, ?_⟩
  rw [pure_eq_ok]
  exact Prod.ext (Heap.drop_retain found held) rfl

end Valid

end ArrayParts

end TensorExchange
