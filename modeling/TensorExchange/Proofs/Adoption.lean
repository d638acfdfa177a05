import Mathlib.Data.Finset.Card
import TensorExchange.Proofs.Array

/-!
Adoption: an array and the buffer that it becomes have the same elements.

Arrays belong to a library of its own.  How it makes, slices and turns them is its
business; it is a parameter here, and it is known by what it says of every array it
owns, however that was come by: the element at an index is an entry of the vector, the
first entry and each stride as often as the position on its axis says, and no entry is
two elements.  From the last follows by counting that an array has no more elements than
its vector, so that what is copied out of the buffer is no longer than what was put in.

Main statement: every array is adopted, whatever is in the heap.  The buffer has the
shape and the strides of the array and the whole vector, and whoever reads it finds the
elements of the array: all of them in row-major order, in an array that the library packs
from that copy, or in place at an index.  Only a copy of scattered elements needs memory,
which the machine may not have.

To see that a library can be what is asked of it, there is one whose arrays are nothing
but their parts.
-/

namespace TensorExchange

/-- A library of arrays: what its arrays are taken apart into, the bytes of their elements, and how
it packs elements into an array. -/
structure ArrayLibrary (α : Type) where
  parts : α → ArrayParts
  element : α → List Nat → Array UInt8
  pack : ElementType → List UInt64 → Array UInt8 → Except ShapeCause α

namespace ArrayLibrary

variable {α : Type} {L : ArrayLibrary α} {a : α} {index : List Nat}

/-- What the library says of its arrays. -/
structure Documented (L : ArrayLibrary α) : Prop where
  /-- There are as many strides as extents. -/
  rank : ∀ a, (L.parts a).strides.length = (L.parts a).shape.length
  /-- The vector has whole elements, and memory holds it. -/
  vector : ∀ a, (L.parts a).data.size = (L.parts a).length * (L.parts a).type.size ∧
    (L.parts a).data.size ≤ maxSize
  /-- The extents that are not zero multiply to a size. -/
  counted : ∀ a, fitsArray (L.parts a).shape = true
  /-- The element at an index is an entry of the vector; only an array without elements has no
  first one. -/
  entry : ∀ a index, Inside (L.parts a).axes index → ∃ first n : Nat,
    (L.parts a).first = some first ∧ first + displacement (L.parts a).axes index = n ∧
      n < (L.parts a).length ∧ L.element a index = (L.parts a).data.extract
        (n * (L.parts a).type.size) (n * (L.parts a).type.size + (L.parts a).type.size)
  /-- An array owns its elements: none of them is at two indices. -/
  own : ∀ a index index', Inside (L.parts a).axes index → Inside (L.parts a).axes index' →
    displacement (L.parts a).axes index = displacement (L.parts a).axes index' → index = index'
  /-- As many elements as a shape has become an array of that shape, in row-major order. -/
  pack : ∀ type shape data, fitsArray shape = true → data.size = volume shape * type.size →
    data.size ≤ maxSize → ∃ a, L.pack type shape data = .ok a ∧ (L.parts a).type = type ∧
      (L.parts a).shape = shape ∧ ∀ index, Inside (L.parts a).axes index →
        L.element a index = data.extract (rowRank (L.parts a).axes index * type.size)
          (rowRank (L.parts a).axes index * type.size + type.size)

/-- Two arrays of one shape with the same element at each index. -/
structure Equal (L : ArrayLibrary α) (a a' : α) : Prop where
  type : (L.parts a').type = (L.parts a).type
  shape : (L.parts a').shape = (L.parts a).shape
  elements : ∀ index, Inside (L.parts a).axes index → L.element a' index = L.element a index

/-- Bytes that are the elements of an array in row-major order. -/
structure Lists (L : ArrayLibrary α) (a : α) (bytes : Array UInt8) : Prop where
  size : bytes.size = volume (L.parts a).shape * (L.parts a).type.size
  elements : ∀ index, Inside (L.parts a).axes index →
    bytes.extract (rowRank (L.parts a).axes index * (L.parts a).type.size)
      (rowRank (L.parts a).axes index * (L.parts a).type.size + (L.parts a).type.size) =
        L.element a index

/-- What it means that a buffer took over an array. -/
structure Adopts (L : ArrayLibrary α) (h : Heap) (a : α) (b : Buffer) : Prop where
  type : b.type = (L.parts a).type
  host : b.device = .host
  shape : b.layout.shape = (L.parts a).shape
  strides : b.layout.strides = (L.parts a).strides
  first : 0 ∉ (L.parts a).shape → ∃ first, (L.parts a).first = some first ∧
    b.layout.byteOffset.toNat = first * (L.parts a).type.size
  /-- The storage is the vector of the array as it was. -/
  data : b.storage.size = (L.parts a).data.size ∧ h.storageBytes b.storage = .ok (L.parts a).data
  inBounds : b.layout.checkWithin b.type.size b.storage.size = .ok ()
  /-- It takes no more than memory for the elements to copy them out. -/
  room : h.machine.refuses (volume (L.parts a).shape * (L.parts a).type.size) 1 = false →
    b.Gatherable h b.count
  copies : b.Gatherable h b.count → ∃ bytes a', b.toPacked h (L.parts a).type = .ok bytes ∧
    L.Lists a bytes ∧ b.toArray L.pack h (L.parts a).type = .ok a' ∧ L.Equal a a'
  refused : ¬ b.Gatherable h b.count → ∃ cause,
    b.toPacked h (L.parts a).type = .error (.allocation cause) ∧
      b.toArray L.pack h (L.parts a).type = .error (.allocation cause)
  /-- A view in place is always had, and it reads the element at each index. -/
  view : ∃ v, b.arrayView (L.parts a).type = .ok v ∧ v.shape = (L.parts a).shape ∧
    ∀ index, Inside (L.parts a).axes index →
      v.elementAt (L.parts a).data (L.parts a).type.size index = .ok (L.element a index)

/-! ## What the library says, as facts about the parts -/

namespace Documented

theorem entryAt_eq (doc : L.Documented) (inside : Inside (L.parts a).axes index) :
    ∃ n : Nat, (L.parts a).entryAt index = n ∧ n < (L.parts a).length ∧
      L.element a index = (L.parts a).elementAt index := by
  obtain ⟨first, n, hfirst, hn, hlt, helement⟩ := doc.entry a index inside
  have hentry : (L.parts a).entryAt index = n := by
    rw [ArrayParts.entryAt, hfirst]
    exact hn
  refine ⟨n, hentry, hlt, ?_⟩
  rw [helement, ArrayParts.elementAt, hentry]
  rfl

theorem element_eq (doc : L.Documented) (inside : Inside (L.parts a).axes index) :
    L.element a index = (L.parts a).elementAt index :=
  let ⟨_, _, _, h⟩ := doc.entryAt_eq inside
  h

theorem valid (doc : L.Documented) (a : α) : (L.parts a).Valid := by
  refine ⟨doc.rank a, (doc.vector a).1, (doc.vector a).2, doc.counted a, fun k hk => ?_⟩
  rw [ArrayParts.count_eq] at hk
  obtain ⟨n, hn, hlt, _⟩ := doc.entryAt_eq (inside_unravel hk)
  rw [hn]
  exact ⟨Int.natCast_nonneg n, Int.ofNat_lt.mpr hlt⟩

/-- An array has no more elements than its vector, since each of them has an entry of its own. -/
theorem volume_le (doc : L.Documented) (a : α) :
    volume (L.parts a).shape ≤ (L.parts a).length := by
  have k := doc.valid a
  rw [← k.shape_eq]
  have entries : ∀ i ∈ Finset.range (volume ((L.parts a).axes.map Axis.extent)),
      ((L.parts a).entryAt (unravel (L.parts a).axes i)).toNat ∈
        Finset.range (L.parts a).length := by
    intro i hi
    have := k.entry_mem (inside_unravel (Finset.mem_range.mp hi))
    exact Finset.mem_range.mpr (by omega)
  have distinct : Set.InjOn
      (fun i => ((L.parts a).entryAt (unravel (L.parts a).axes i)).toNat)
      (Finset.range (volume ((L.parts a).axes.map Axis.extent))) := by
    intro i hi j hj (same : Int.toNat _ = Int.toNat _)
    have hi := Finset.mem_range.mp (Finset.mem_coe.mp hi)
    have hj := Finset.mem_range.mp (Finset.mem_coe.mp hj)
    have hilow := (k.entry_mem (inside_unravel hi)).1
    have hjlow := (k.entry_mem (inside_unravel hj)).1
    unfold ArrayParts.entryAt at same hilow hjlow
    have hindex := doc.own a _ _ (inside_unravel hi) (inside_unravel hj) (by omega)
    rw [← rowRank_unravel hi, hindex, rowRank_unravel hj]
  simpa using Finset.card_le_card_of_injOn _ entries distinct

theorem room (doc : L.Documented) (a : α) :
    volume (L.parts a).shape * (L.parts a).type.size ≤ (L.parts a).data.size :=
  (Nat.mul_le_mul_right _ (doc.volume_le a)).trans (doc.vector a).1.ge

end Documented

end ArrayLibrary

/-! ## Reading the buffer of an array -/

namespace ArrayParts.Valid

variable {a : ArrayParts} {index : List Nat} {h : Heap} {b : Buffer}

theorem addressable (k : a.Valid) (fills : b.Fills h a.type a.data)
    (hlayout : b.layout = a.layout) :
    b.Addressable a.data.size := by
  constructor
  case exact => exact hlayout ▸ k.exact
  case fits =>
    rw [hlayout, fills.type]
    exact k.fits
  case small => exact k.small

theorem count_eq (k : a.Valid) (hlayout : b.layout = a.layout) : b.count = volume a.shape := by
  rw [Buffer.count, hlayout, k.exact.count_eq, Layout.shape, layout, k.shape_eq]

theorem extract_elements (k : a.Valid) (fills : b.Fills h a.type a.data)
    (hlayout : b.layout = a.layout) (inside : Inside a.axes index) :
    (b.firstElements a.data b.count).extract (rowRank a.axes index * a.type.size)
      (rowRank a.axes index * a.type.size + a.type.size) = a.elementAt index := by
  have addressable := k.addressable fills hlayout
  have haxes : b.layout.axes = a.axes := congrArg Layout.axes hlayout
  have hrank : rowRank a.axes index < b.count := by
    rw [k.count_eq hlayout, ← k.shape_eq]
    exact inside.rowRank_lt
  rw [← fills.type, addressable.extract_firstElements hrank le_rfl, Buffer.elementBytes,
    Buffer.place, haxes, inside.unravel_rowRank, hlayout, fills.type, k.place_eq inside, elementAt]

theorem isAligned_start (k : a.Valid) (fills : b.Fills h a.type a.data)
    (hne : a.layout.count ≠ 0) :
    (b.storage.base.shift (a.layout.start a.type.size)).isAligned a.type.size = true := by
  obtain ⟨index, inside, hstart⟩ :=
    (Layout.isLeast_places (k.exact.extent_ne_zero hne) a.type.size).1
  rw [k.place_eq inside] at hstart
  obtain ⟨hlow, hhigh⟩ := k.bytes_mem inside
  have hpos := a.type.size_pos
  have hsmall := k.small
  unfold maxSize at hsmall
  obtain ⟨block, hbase⟩ := fills.base (by omega)
  rw [hbase, hstart, Pointer.shift, Int64.zero_add, Pointer.isAligned,
    Int64.toInt_ofInt_of_le (by omega) (by omega), Int.mul_emod_left]
  rfl

theorem arrayView (k : a.Valid) (fills : b.Fills h a.type a.data) (hlayout : b.layout = a.layout) :
    ∃ v, b.arrayView a.type = .ok v ∧ v.shape = a.shape ∧ ∀ index, Inside a.axes index →
      v.elementAt a.data a.type.size index = .ok (a.elementAt index) := by
  have addressable := k.addressable fills hlayout
  have haxes : b.layout.axes = a.axes := congrArg Layout.axes hlayout
  have host : b.checkHost = .ok () := by
    rw [Buffer.checkHost, fills.host]
    rfl
  by_cases hempty : b.count = 0
  · refine ⟨⟨0, b.layout.axes⟩, ?_, ?_, ?_⟩
    · have htype : b.checkType a.type = .ok () := if_pos fills.type.symm
      simp only [Buffer.arrayView, htype, host, if_pos hempty, bind, Except.bind]
      rfl
    · rw [ArrayView.shape, haxes, k.shape_eq]
    · intro index inside
      rw [← haxes] at inside
      exact absurd hempty (inside.count_ne_zero addressable.exact)
  · have hview := addressable.arrayView_self hempty host
    rw [fills.type, hlayout, if_pos (k.isAligned_start fills (hlayout ▸ hempty))] at hview
    refine ⟨_, hview, k.shape_eq, fun index inside => ?_⟩
    have hread := addressable.slice_place (haxes ▸ inside)
    rw [hlayout, fills.type, k.place_eq inside] at hread
    rw [elementAt, ← hread, ← k.place_eq inside]
    rfl

end ArrayParts.Valid

/-! ## Adoption -/

namespace ArrayLibrary

variable {α : Type} {L : ArrayLibrary α} {a : α} {h : Heap} {b : Buffer} {bytes : Array UInt8}

/-- The elements of an array, listed in row-major order, are packed into an array equal to it. -/
theorem Lists.pack (l : L.Lists a bytes) (doc : L.Documented) :
    ∃ a', L.pack (L.parts a).type (L.parts a).shape bytes = .ok a' ∧ L.Equal a a' := by
  have small : bytes.size ≤ maxSize :=
    l.size.trans_le ((doc.room a).trans (doc.valid a).small)
  obtain ⟨a', ok, type, shape, elements⟩ :=
    doc.pack (L.parts a).type (L.parts a).shape bytes (doc.counted a) l.size small
  refine ⟨a', ok, ⟨type, shape, fun index inside => ?_⟩⟩
  have same : (L.parts a').axes.map Axis.extent = (L.parts a).axes.map Axis.extent := by
    rw [(doc.valid a').shape_eq, (doc.valid a).shape_eq, shape]
  rw [elements index (inside.congr same), rowRank_congr same, l.elements index inside]

/-- What is copied out of a view of the vector lists the elements of the array. -/
theorem Documented.lists (doc : L.Documented)
    (fills : b.Fills h (L.parts a).type (L.parts a).data)
    (hlayout : b.layout = (L.parts a).layout) :
    L.Lists a (b.firstElements (L.parts a).data b.count) := by
  have k := doc.valid a
  constructor
  case size =>
    rw [(k.addressable fills hlayout).size_firstElements le_rfl, k.count_eq hlayout, fills.type]
  case elements =>
    intro index inside
    rw [doc.element_eq inside, k.extract_elements fills hlayout inside]

/-- A view of the vector with the layout of the array has the elements of the array. -/
theorem Documented.adopts (doc : L.Documented)
    (fills : b.Fills h (L.parts a).type (L.parts a).data)
    (hlayout : b.layout = (L.parts a).layout) : L.Adopts h a b := by
  have k := doc.valid a
  have addressable := k.addressable fills hlayout
  have host : b.device.isHostAccessible = true := by
    rw [fills.host]
    rfl
  have gathers := addressable.gathers fills.bytes host
  have htype := fills.type
  have hcount := k.count_eq hlayout
  constructor
  case type => exact htype
  case host => exact fills.host
  case shape => exact (congrArg Layout.shape hlayout).trans k.shape_eq
  case strides => exact (congrArg Layout.strides hlayout).trans k.strides_eq
  case first =>
    intro hne
    obtain ⟨first, _, hfirst, _⟩ := doc.entry a _ (k.first_inside hne)
    refine ⟨first, hfirst, ?_⟩
    rw [hlayout, k.toNat_byteOffset hne, hfirst]
    rfl
  case data => exact ⟨fills.size, fills.bytes⟩
  case inBounds =>
    rw [fills.size]
    exact (Layout.checkWithin_eq_ok_iff b.type.size_pos).mpr addressable.fits
  case room =>
    intro granted
    rw [← hcount, ← htype] at granted
    refine .inr (.inr ⟨?_, granted⟩)
    rw [hcount, htype]
    exact (doc.room a).trans k.small
  case copies =>
    intro ready
    have hpacked : b.toPacked h (L.parts a).type =
        .ok (b.firstElements (L.parts a).data b.count) := by
      have hhead := gathers.heads b.count (by rwa [min_self])
      rwa [min_self, ← gathers.whole, htype] at hhead
    have lists := doc.lists fills hlayout
    obtain ⟨a', ok, equal⟩ := lists.pack doc
    refine ⟨_, a', hpacked, lists, bind_eq_ok.mpr ⟨_, hpacked, ?_⟩, equal⟩
    have hshape : b.layout.shape = (L.parts a).shape :=
      (congrArg Layout.shape hlayout).trans k.shape_eq
    rw [hshape, ok]
    rfl
  case refused =>
    intro full
    obtain ⟨cause, hcause⟩ := gathers.refused b.count (by rwa [min_self])
    rw [← gathers.whole, htype] at hcause
    refine ⟨cause, hcause, ?_⟩
    rw [Buffer.toArray, hcause]
    rfl
  case view =>
    obtain ⟨v, ok, shape, elements⟩ := k.arrayView fills hlayout
    refine ⟨v, ok, shape, fun index inside => ?_⟩
    rw [elements index inside, doc.element_eq inside]

/-- Whatever the library did to the array, and whatever is in the heap: the array is adopted, and
the buffer has its elements. -/
theorem adopted_ofArray (doc : L.Documented) (h : Heap) (a : α) :
    ∃ h' b, Buffer.ofArray h (L.parts a) = .ok (h', b) ∧ h'.machine = h.machine ∧
      L.Adopts h' a b := by
  have fills := Buffer.fills_ofBytes h (L.parts a).type (doc.valid a).small
  refine ⟨_, _, (doc.valid a).ofArray_eq h, ?_, doc.adopts ?_ rfl⟩
  · unfold Buffer.ofBytes
    split <;> rfl
  · exact ⟨fills.type, fills.host, fills.size, fills.bytes, fills.base, fills.holders⟩

end ArrayLibrary

/-! ## Arrays that are their parts -/

namespace ArrayParts

/-- Valid parts whose elements all have entries of their own. -/
def Owned (a : ArrayParts) : Prop :=
  a.Valid ∧ (a.first = none → a.count = 0) ∧ ∀ j < a.count, ∀ k < a.count,
    displacement a.axes (unravel a.axes j) = displacement a.axes (unravel a.axes k) → j = k

instance (a : ArrayParts) : Decidable a.Owned := inferInstanceAs (Decidable (_ ∧ _))

/-- The parts of packed elements. -/
def packed (type : ElementType) (shape : List UInt64) (data : Array UInt8) : ArrayParts :=
  ⟨type, shape, (strideWalk shape).1, data, some 0⟩

/-- With packed strides, an index leads to the entry with its row-major number. -/
theorem displacement_packed {type : ElementType} {shape : List UInt64} {data : Array UInt8}
    {index : List Nat} (counted : rowStep shape ≤ maxSize)
    (inside : Inside (packed type shape data).axes index) :
    displacement (packed type shape data).axes index =
      rowRank (packed type shape data).axes index := by
  have ok : Layout.contiguous shape = .ok ⟨(packed type shape data).axes, 0⟩ :=
    Layout.contiguous_eq_ok_iff.mpr ⟨checkShape_of_rowStep counted, rfl⟩
  have exact := Layout.exact_of_contiguous ok
  have rows := exact.isContiguous_iff.mp (Layout.isContiguous_of_contiguous ok)
  exact rows.resolve_left (fun hzero => inside.count_ne_zero exact
    (exact.count_eq_zero_iff.mpr hzero)) index inside

theorem owned_packed {type : ElementType} {shape : List UInt64} {data : Array UInt8}
    (fits : fitsArray shape = true) (filled : data.size = volume shape * type.size)
    (small : data.size ≤ maxSize) : (packed type shape data).Owned := by
  have counted := fitsArray_iff.mp fits
  have hlength : (packed type shape data).length = volume shape := by
    rw [length, packed, filled, Nat.mul_div_cancel _ type.size_pos]
  have hshape : (packed type shape data).axes.map Axis.extent = shape :=
    Layout.map_extent_zipWith (Layout.length_strideWalk shape).symm
  have hcount := (packed type shape data).count_eq
  have entry : ∀ k < (packed type shape data).count,
      displacement (packed type shape data).axes (unravel (packed type shape data).axes k) = k := by
    intro k hk
    rw [hcount] at hk
    rw [displacement_packed counted (inside_unravel hk), rowRank_unravel hk]
  refine ⟨⟨Layout.length_strideWalk shape, ?_, small, fits, fun k hk => ?_⟩, nofun, ?_⟩
  · rw [hlength]
    exact filled
  · rw [entryAt, entry k hk, hlength]
    rw [hcount, hshape] at hk
    simp [packed, hk]
  · intro j hj k hk same
    rw [entry j hj, entry k hk] at same
    exact Int.ofNat.inj same

/-- The library of arrays that are nothing but parts that own their elements. -/
def library : ArrayLibrary { a : ArrayParts // a.Owned } where
  parts := Subtype.val
  element a := a.val.elementAt
  pack type shape data :=
    if h : (packed type shape data).Owned then .ok ⟨_, h⟩ else .error .oversizedArray

theorem documented_library : library.Documented where
  rank a := a.property.1.1
  vector a := ⟨a.property.1.2.1, a.property.1.small⟩
  counted a := a.property.1.2.2.2.1
  entry a index inside := by
    have k := a.property.1
    change Inside a.val.axes index at inside
    obtain ⟨hlow, hhigh⟩ := k.entry_mem inside
    have hlt := a.val.count_eq ▸ inside.rowRank_lt
    obtain ⟨first, hfirst⟩ : ∃ first, a.val.first = some first :=
      Option.ne_none_iff_exists'.mp fun hnone => by
        rw [a.property.2.1 hnone] at hlt
        exact absurd hlt (Nat.not_lt_zero _)
    obtain ⟨n, hn⟩ := Int.eq_ofNat_of_zero_le hlow
    have hentry : first + displacement a.val.axes index = n := by
      rw [← hn, entryAt, hfirst]
      rfl
    refine ⟨first, n, hfirst, hentry, by rw [hn] at hhigh; exact Int.ofNat_lt.mp hhigh, ?_⟩
    simp only [library, elementAt, hn]
    rfl
  own a index index' inside inside' same := by
    change Inside a.val.axes index at inside
    change Inside a.val.axes index' at inside'
    have hrank := a.property.2.2 _ (a.val.count_eq ▸ inside.rowRank_lt) _
      (a.val.count_eq ▸ inside'.rowRank_lt)
    rw [inside.unravel_rowRank, inside'.unravel_rowRank] at hrank
    rw [← inside.unravel_rowRank, hrank same, inside'.unravel_rowRank]
  pack type shape data fits filled small := by
    have owned := owned_packed fits filled small
    refine ⟨⟨_, owned⟩, dif_pos owned, rfl, rfl, fun index inside => ?_⟩
    have hentry : (packed type shape data).entryAt index =
        rowRank (packed type shape data).axes index := by
      rw [entryAt, displacement_packed (fitsArray_iff.mp fits) inside]
      exact Int.zero_add _
    simp only [library, elementAt, hentry]
    rfl

/-- Two rows of three columns that lie column by column; of these the last and the first are taken,
and then become the rows. -/
def turnedColumns : { a : ArrayParts // a.Owned } :=
  ⟨⟨.int16, [2, 2], [-4, 1], #[0, 1, 2, 3, 4, 5, 6, 7, 8, 9, 10, 11], some 4⟩, by decide +kernel⟩

theorem adopted_turnedColumns :
    library.Documented ∧ library.element turnedColumns [0, 1] = #[10, 11] ∧
      ∃ h b, Buffer.ofArray default (library.parts turnedColumns) = .ok (h, b) ∧
        h.machine = (default : Heap).machine ∧ library.Adopts h turnedColumns b :=
  ⟨documented_library, by decide +kernel,
    ArrayLibrary.adopted_ofArray documented_library default turnedColumns⟩

end ArrayParts

end TensorExchange
