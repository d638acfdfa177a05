import TensorExchange.Buffer.Array
import TensorExchange.Proofs.Buffer.Read
import TensorExchange.Proofs.Layout.Order

/-!
Addressing: the arithmetic by which elements are found stays inside signed words.

Elements are found by sums of positions times strides, in checked arithmetic of signed
words.  The axes may run in either direction, so a partial sum may be further away than
the element that it leads to.  That no sum leaves the signed words is a matter of bounds:
counted from the lowest byte of a layout, the elements lie below the length of its span,
and so does every partial sum, since each axis adds something between what it reaches down
and what it reaches up.

    Addressable b length    the layout of `b` fits `length` bytes, and `length ≤ maxSize`

is what all lemmas here assume.  It holds over every storage that a signed word measures
(`Proofs/Bounds`), which all memory of this library is; of memory that another runtime lent
it may fail, and then elements are refused as too far away.

Main statements, under that assumption:

* reading an element never fails (`Buffer.Addressable.elementAt`);
* reading the first `n` elements gives their bytes in row-major order (`gather_eq`): the
  loop that gathers is at the digits of `i` after `i` steps, and packed rows, which are
  read as one slice, have their elements where the loop would find them;
* an array view, which is made from the lowest byte and has its axes turned around one
  after the other, begins at the first element and has the axes of the buffer
  (`arrayView_self`).

An axis whose stride is the least signed word has no opposite stride to be turned around
with; it has just one element then (`extent_of_least_stride`), so its stride is not used.
-/

namespace TensorExchange

/-- The numbers that signed words hold. -/
def Signed (n : Int) : Prop := -signedBound ≤ n ∧ n < signedBound

theorem signed_iff {n : Int} : Signed n ↔ -2 ^ 63 ≤ n ∧ n < 2 ^ 63 := Iff.rfl

theorem checkedWord_of_signed {n : Int} (h : Signed n) : checkedWord n = .ok n :=
  checkedWord_eq_ok_iff.mpr ⟨rfl, h⟩

theorem Signed.of_mul {n : Int} {size : Nat} (h : Signed (n * size)) (hsize : 0 < size) :
    Signed n := by
  have hone : (1 : Int) ≤ size := by omega
  obtain ⟨hlow, hhigh⟩ := signed_iff.mp h
  rcases Int.le_total 0 n with hn | hn
  · have := le_mul_of_one_le_right hn hone
    exact signed_iff.mpr ⟨by omega, by omega⟩
  · have := mul_le_mul_of_nonpos_left hone hn
    exact signed_iff.mpr ⟨by omega, by omega⟩

/-! ## Displacements -/

/-- Every partial sum lies between what the axes so far reach down and what they reach up. -/
theorem Inside.checkedDisplacement {axes : List Axis} {index : List Nat}
    (inside : Inside axes index)
    {size : Nat} (hsize : 0 < size) : ∀ sum low high : Int, low ≤ sum * size → sum * size ≤ high →
      low ≤ 0 → 0 ≤ high → -2 ^ 63 ≤ low + lowest size axes → high + highest size axes < 2 ^ 63 →
        checkedDisplacement sum axes index = .ok (sum + displacement axes index) := by
  induction inside with
  | nil =>
    intro sum low high _ _ _ _ _ _
    simp [TensorExchange.checkedDisplacement, displacement]
  | @cons a i axes index hi _ ih =>
    intro sum low high hlow hhigh hneg hpos hmin hmax
    obtain ⟨hdown, hup⟩ := Axis.mul_stride_mem hi size
    have hrest := lowest_nonpos size axes
    have hrest' := highest_nonneg size axes
    rw [lowest_cons] at hmin
    rw [highest_cons] at hmax
    have hstep : Signed (i * a.stride.toInt) :=
      Signed.of_mul (signed_iff.mpr ⟨by omega, by omega⟩) hsize
    have hnext : (sum + i * a.stride.toInt) * size = sum * size + i * a.stride.toInt * size :=
      add_mul ..
    have hsum : Signed (sum + i * a.stride.toInt) :=
      Signed.of_mul (signed_iff.mpr ⟨by omega, by omega⟩) hsize
    have hwalk := ih (sum + i * a.stride.toInt) (low + min (a.reach size) 0)
      (high + max (a.reach size) 0) (by omega) (by omega) (by omega) (by omega) (by omega)
      (by omega)
    simp only [TensorExchange.checkedDisplacement, checkedWord_of_signed hstep,
      checkedWord_of_signed hsum, bind, Except.bind, hwalk, displacement]
    rw [add_assoc]

/-! ## Elements -/

namespace Buffer

/-- A buffer whose elements lie in memory of a length that a signed word holds. -/
structure Addressable (b : Buffer) (length : Nat) : Prop where
  exact : b.layout.Exact
  fits : b.layout.Fits b.type.size length
  small : length ≤ maxSize

/-- Bytes that memory can hold are read as one slice if they are packed, and else one element after
the other. -/
theorem gather_of_fits {h : Heap} {b : Buffer} {memory : Array UInt8} {n : Nat}
    (hmemory : h.storageBytes b.storage = .ok memory) (hzero : n ≠ 0)
    (hfits : n * b.type.size ≤ maxSize) :
    b.gather h n =
      if b.layout.isContiguous then
        slice memory b.layout.byteOffset.toNat
          (b.layout.byteOffset.toNat + (n * b.type.size : Nat))
      else if h.machine.refuses (n * b.type.size) 1 then
        .error (.allocation (.gatherTooLarge (n * b.type.size)))
      else b.gatherFrom memory n (b.layout.axes.map fun _ => 0) #[] := by
  simp only [gather, if_neg hzero, packedSize, if_pos hfits, hmemory, bind, Except.bind]
  rfl

theorem gather_of_not_fits {h : Heap} {b : Buffer} {n : Nat} (hzero : n ≠ 0)
    (hfits : ¬ n * b.type.size ≤ maxSize) :
    b.gather h n = .error (.allocation (.unmaterializable n b.type)) := by
  simp [gather, hzero, packedSize, hfits, bind, Except.bind]

theorem headBytes_of_host {h : Heap} {b : Buffer} (host : b.device.isHostAccessible = true)
    (n : Nat) : b.headBytes h n = b.gather h (min n b.count) := by
  have hcheck : b.checkHost = .ok () := Accept.check_eq_ok_iff.mpr host
  rw [headBytes, hcheck]
  rfl

/-! ### Elements in order -/

/-- Where the element with a row-major number begins, in bytes from the base of the storage. -/
def place (b : Buffer) (i : Nat) : Int := b.layout.place b.type.size (unravel b.layout.axes i)

/-- The bytes of the element with a row-major number. -/
def elementBytes (b : Buffer) (memory : Array UInt8) (i : Nat) : Array UInt8 :=
  memory.extract (b.place i).toNat ((b.place i).toNat + b.type.size)

/-- The bytes of the first elements in row-major order, one after the other. -/
def firstElements (b : Buffer) (memory : Array UInt8) : Nat → Array UInt8
  | 0 => #[]
  | n + 1 => firstElements b memory n ++ b.elementBytes memory n

theorem firstElements_prefix (b : Buffer) (memory : Array UInt8) {n m : Nat} (h : n ≤ m) :
    ∃ rest, b.firstElements memory m = b.firstElements memory n ++ rest := by
  induction h with
  | refl => exact ⟨#[], Array.append_empty.symm⟩
  | step _ ih =>
    obtain ⟨rest, hrest⟩ := ih
    exact ⟨rest ++ b.elementBytes memory _, by rw [firstElements, hrest, Array.append_assoc]⟩

/-- Whether the first elements are handed out: packed ones are a slice of the memory, scattered ones
need memory of their own, which the machine must have. -/
def Gatherable (h : Heap) (b : Buffer) (n : Nat) : Prop :=
  n = 0 ∨ b.layout.isContiguous = true ∨
    n * b.type.size ≤ maxSize ∧ h.machine.refuses (n * b.type.size) 1 = false

theorem Gatherable.mono {h : Heap} {b : Buffer} {n m : Nat} (hle : n ≤ m)
    (ready : b.Gatherable h m) : b.Gatherable h n := by
  have hmul : n * b.type.size ≤ m * b.type.size := Nat.mul_le_mul_right _ hle
  rcases ready with rfl | packed | ⟨hfits, has⟩
  · exact .inl (Nat.le_zero.mp hle)
  · exact .inr (.inl packed)
  · refine .inr (.inr ⟨hmul.trans hfits, Bool.eq_false_iff.mpr fun refuses => ?_⟩)
    rw [h.machine.mono _ _ _ hmul refuses] at has
    cases has

theorem gather_of_not_gatherable {h : Heap} {b : Buffer} {memory : Array UInt8} {n : Nat}
    (hmemory : h.storageBytes b.storage = .ok memory) (full : ¬ b.Gatherable h n) :
    ∃ cause, b.gather h n = .error (.allocation cause) := by
  obtain ⟨hzero, scattered, full⟩ : n ≠ 0 ∧ ¬ b.layout.isContiguous = true ∧
      ¬ (n * b.type.size ≤ maxSize ∧ h.machine.refuses (n * b.type.size) 1 = false) := by
    simpa only [Gatherable, not_or] using full
  by_cases hfits : n * b.type.size ≤ maxSize
  · have refuses : h.machine.refuses (n * b.type.size) 1 = true :=
      Bool.eq_true_of_not_eq_false fun has => full ⟨hfits, has⟩
    refine ⟨.gatherTooLarge (n * b.type.size), ?_⟩
    rw [gather_of_fits hmemory hzero hfits, if_neg scattered, if_pos refuses]
  · exact ⟨.unmaterializable n b.type, gather_of_not_fits hzero hfits⟩

namespace Addressable

variable {b : Buffer} {memory : Array UInt8} {index : List Nat}

theorem place_mem {length : Nat} (k : b.Addressable length) (inside : Inside b.layout.axes index) :
    0 ≤ b.layout.place b.type.size index ∧
      b.layout.place b.type.size index + b.type.size ≤ length := by
  obtain ⟨hstart, hstop, _⟩ := k.fits (inside.count_ne_zero k.exact)
  obtain ⟨hlow, hhigh⟩ := inside.displacement_mem b.type.size
  unfold Layout.start at hstart
  unfold Layout.stop at hstop
  unfold Layout.place
  omega

/-- Each step to an element stays in signed words. -/
theorem way {length : Nat} (k : b.Addressable length) (inside : Inside b.layout.axes index) :
    checkedDisplacement 0 b.layout.axes index = .ok (displacement b.layout.axes index) ∧
      Signed (displacement b.layout.axes index * b.type.size) := by
  obtain ⟨hstart, hstop, _⟩ := k.fits (inside.count_ne_zero k.exact)
  obtain ⟨hlow, hhigh⟩ := inside.displacement_mem b.type.size
  have hsmall := k.small
  have hneg := lowest_nonpos b.type.size b.layout.axes
  have hpos := highest_nonneg b.type.size b.layout.axes
  unfold Layout.start at hstart
  unfold Layout.stop at hstop
  unfold maxSize at hsmall
  have hwalk := inside.checkedDisplacement b.type.size_pos 0 0 0 (by omega) (by omega) le_rfl le_rfl
    (by omega) (by omega)
  rw [zero_add] at hwalk
  exact ⟨hwalk, signed_iff.mpr ⟨by omega, by omega⟩⟩

theorem elementAt_eq_slice {length : Nat} (k : b.Addressable length)
    (inside : Inside b.layout.axes index) (memory : Array UInt8) :
    b.elementAt memory index =
      slice memory (b.layout.place b.type.size index)
        (b.layout.place b.type.size index + b.type.size) := by
  obtain ⟨hwalk, hdistance⟩ := k.way inside
  obtain ⟨hlow, hhigh⟩ := k.place_mem inside
  have hsmall := k.small
  unfold maxSize at hsmall
  have hplace : Signed (b.layout.place b.type.size index) := signed_iff.mpr ⟨by omega, by omega⟩
  unfold Layout.place at hplace
  simp only [Buffer.elementAt, hwalk, checkedWord_of_signed hdistance,
    checkedWord_of_signed hplace, bind, Except.bind]
  rfl

theorem slice_place (k : b.Addressable memory.size) (inside : Inside b.layout.axes index) :
    slice memory (b.layout.place b.type.size index)
        (b.layout.place b.type.size index + b.type.size) =
      .ok (memory.extract (b.layout.place b.type.size index).toNat
        ((b.layout.place b.type.size index).toNat + b.type.size)) := by
  obtain ⟨hlow, hhigh⟩ := k.place_mem inside
  rw [slice_eq_ok hlow (by omega) hhigh]
  congr 2
  omega

theorem elementAt (k : b.Addressable memory.size) (inside : Inside b.layout.axes index) :
    ∃ element, b.elementAt memory index = .ok element ∧ element.size = b.type.size := by
  obtain ⟨hlow, hhigh⟩ := k.place_mem inside
  refine ⟨_, (k.elementAt_eq_slice inside memory).trans (k.slice_place inside), ?_⟩
  rw [Array.size_extract]
  omega

theorem elementAt_unravel (k : b.Addressable memory.size) {i : Nat} (hi : i < b.count) :
    0 ≤ b.place i ∧ b.place i + b.type.size ≤ memory.size ∧
      b.elementAt memory (unravel b.layout.axes i) = .ok (b.elementBytes memory i) := by
  have inside := k.exact.inside_unravel hi
  obtain ⟨hlow, hhigh⟩ := k.place_mem inside
  exact ⟨hlow, hhigh, (k.elementAt_eq_slice inside memory).trans (k.slice_place inside)⟩

theorem size_firstElements (k : b.Addressable memory.size) {n : Nat} (hn : n ≤ b.count) :
    (b.firstElements memory n).size = n * b.type.size := by
  induction n with
  | zero => simp [firstElements]
  | succ n ih =>
    obtain ⟨hlow, hhigh, _⟩ := k.elementAt_unravel hn
    rw [firstElements, Array.size_append, ih (by omega), elementBytes, Array.size_extract,
      Nat.succ_mul]
    omega

theorem gatherFrom_unravel (k : b.Addressable memory.size) (n : Nat) : ∀ {i : Nat},
    i + n ≤ b.count →
      b.gatherFrom memory n (unravel b.layout.axes i) (b.firstElements memory i) =
        .ok (b.firstElements memory (i + n)) := by
  induction n with
  | zero => exact fun _ => rfl
  | succ n ih =>
    intro i hi
    obtain ⟨_, _, hread⟩ := k.elementAt_unravel (show i < b.count by omega)
    refine bind_eq_ok.mpr ⟨_, hread, ?_⟩
    cases n with
    | zero => rfl
    | succ n =>
      -- there is a next element, so the odometer has not started over
      have hvolume : b.count = volume (b.layout.axes.map Axis.extent) := k.exact.count_eq
      have hnext : (advance b.layout.axes (unravel b.layout.axes i)).1 =
          unravel b.layout.axes (i + 1) := by
        rw [advance_unravel (by omega), if_pos (by omega)]
      rw [hnext, show i + (n + 1 + 1) = i + 1 + (n + 1) by omega]
      exact ih (by omega)

/-- So the loop over the first elements collects their bytes. -/
theorem gatherFrom_first (k : b.Addressable memory.size) {n : Nat} (hn : n ≤ b.count) :
    b.gatherFrom memory n (b.layout.axes.map fun _ => 0) #[] =
      .ok (b.firstElements memory n) := by
  have hloop := k.gatherFrom_unravel n (Nat.zero_add n ▸ hn)
  rwa [unravel_zero, Nat.zero_add] at hloop

theorem place_of_isContiguous (k : b.Addressable memory.size)
    (packed : b.layout.isContiguous = true) {i : Nat} (hi : i < b.count) :
    (b.place i).toNat = b.layout.byteOffset.toNat + i * b.type.size := by
  rw [place, Layout.place, Layout.displacement_of_isContiguous k.exact packed hi,
    ← Int.natCast_mul, ← Int.natCast_add, Int.toNat_natCast]

theorem firstElements_of_isContiguous (k : b.Addressable memory.size)
    (packed : b.layout.isContiguous = true) {n : Nat} (hn : n ≤ b.count) :
    b.firstElements memory n =
      memory.extract b.layout.byteOffset.toNat
        (b.layout.byteOffset.toNat + n * b.type.size) := by
  induction n with
  | zero => simp [firstElements]
  | succ n ih =>
    rw [firstElements, ih (by omega), elementBytes, k.place_of_isContiguous packed hn,
      Array.extract_append_extract, Nat.succ_mul]
    congr 1 <;> omega

/-- Reading the first elements gives their bytes, whether they are one slice or gathered. -/
theorem gather_eq {h : Heap} (k : b.Addressable memory.size)
    (hmemory : h.storageBytes b.storage = .ok memory) {n : Nat} (hn : n ≤ b.count)
    (ready : b.Gatherable h n) : b.gather h n = .ok (b.firstElements memory n) := by
  by_cases hzero : n = 0
  · obtain rfl := hzero
    rfl
  have ready := ready.resolve_left hzero
  have hne : b.count ≠ 0 := by omega
  have hroom (packed : b.layout.isContiguous = true) :
      b.layout.byteOffset.toNat + n * b.type.size ≤ memory.size := by
    have := Layout.room_of_fits k.exact packed k.fits hne
    have := Nat.mul_le_mul_right b.type.size hn
    unfold count at this
    omega
  have hfits : n * b.type.size ≤ maxSize := by
    rcases ready with packed | ⟨hfits, _⟩
    · have := hroom packed
      have := k.small
      omega
    · exact hfits
  rw [gather_of_fits hmemory hzero hfits]
  split
  case isTrue packed =>
    have := hroom packed
    rw [k.firstElements_of_isContiguous packed hn, slice_eq_ok (by omega) (by omega) (by omega)]
    rfl
  case isFalse scattered =>
    rw [(ready.resolve_left scattered).2]
    exact k.gatherFrom_first hn

theorem headBytes {h : Heap} (k : b.Addressable memory.size)
    (hmemory : h.storageBytes b.storage = .ok memory) (host : b.device.isHostAccessible = true)
    (n : Nat) :
    (∃ data, b.headBytes h n = .ok data ∧ data.size = min n b.count * b.type.size) ∨
      ¬ b.Gatherable h (min n b.count) ∧ ∃ cause, b.headBytes h n = .error (.allocation cause) := by
  rw [headBytes_of_host host]
  have hmin : min n b.count ≤ b.count := Nat.min_le_right ..
  by_cases ready : b.Gatherable h (min n b.count)
  · exact .inl ⟨_, k.gather_eq hmemory hmin ready, k.size_firstElements hmin⟩
  · exact .inr ⟨ready, gather_of_not_gatherable hmemory ready⟩

end Addressable

end Buffer

/-! ## Array views -/

namespace ArrayView

variable {size : Nat} {axes : List Axis}

theorem farEnd_mul (a : Axis) (size : Nat) : farEnd a * size = a.reach size := rfl

/-- An array view begins at the lowest byte. -/
theorem origin_ascending (hne : ∀ a ∈ axes, a.extent ≠ 0) (origin : Int) :
    (ascending origin size axes).origin = origin + lowest size axes := by
  induction axes generalizing origin with
  | nil => simp [ascending]
  | cons a axes ih =>
    have ha := hne a (List.mem_cons_self ..)
    have hrest := fun b hb => hne b (List.mem_cons_of_mem a hb)
    rw [lowest_cons]
    unfold ascending
    split
    case isTrue hdown =>
      rw [ih hrest, farEnd_mul, min_eq_left (Axis.reach_nonpos ha hdown size), add_assoc]
    case isFalse hup =>
      rw [ih hrest, min_eq_right (Axis.reach_nonneg ha hup size), zero_add]

theorem reverseAxis_reverseAxis (a : Axis) : reverseAxis (reverseAxis a) = a := by
  simp [reverseAxis]

/-- The least signed word has no opposite; all others do. -/
theorem toInt_neg_stride {a : Axis} (hstride : a.stride.toInt ≠ -2 ^ 63) :
    (-a.stride).toInt = -a.stride.toInt := by
  have := a.stride.le_toInt
  have := a.stride.toInt_lt
  rw [Int64.toInt_neg]
  exact Int.bmod_eq_of_le (by omega) (by omega)

/-- From its other end, an axis reaches as far the other way, unless its stride has no opposite:
then it must have just one element. -/
theorem reach_reverseAxis {a : Axis} (hstride : a.stride.toInt = -2 ^ 63 → a.extent = 1) :
    (reverseAxis a).reach size = -a.reach size := by
  by_cases hmin : a.stride.toInt = -2 ^ 63
  · simp [Axis.reach, reverseAxis, hstride hmin]
  · simp only [Axis.reach, reverseAxis, toInt_neg_stride hmin]
    ring

/-- Turning the first axes around where they run backwards leads up by what they reach down, and
gives these axes back; the axes after them make no difference. -/
theorem descend_ascending {before : List Axis} (hne : ∀ a ∈ before, a.extent ≠ 0)
    (hstride : ∀ a ∈ before, a.stride.toInt = -2 ^ 63 → a.extent = 1) (after : List Axis)
    (origin place : Int) :
    descend place size before (ascending origin size (before ++ after)).axes =
      ⟨place - lowest size before, before⟩ := by
  induction before generalizing origin place with
  | nil => simp [descend]
  | cons a before ih =>
    have ha := hne a (List.mem_cons_self ..)
    have hrest := fun b hb => hne b (List.mem_cons_of_mem a hb)
    have hstride' := fun b hb => hstride b (List.mem_cons_of_mem a hb)
    rw [lowest_cons, List.cons_append]
    unfold ascending
    split
    case isTrue hdown =>
      simp only [descend, if_pos hdown, ih hrest hstride', reverseAxis_reverseAxis, farEnd_mul,
        reach_reverseAxis (hstride a (List.mem_cons_self ..)),
        min_eq_left (Axis.reach_nonpos ha hdown size), ArrayView.mk.injEq, and_true]
      omega
    case isFalse hup =>
      simp only [descend, if_neg hup, ih hrest hstride',
        min_eq_right (Axis.reach_nonneg ha hup size), zero_add]

end ArrayView

/-! ## Reading -/

theorem Heap.size_read? {h : Heap} {p : Pointer} {length : Nat} {bytes : Array UInt8}
    (found : h.read? p length = some bytes) : bytes.size = length := by
  cases p with
  | fixed address => cases found
  | within block offset =>
    obtain ⟨whole, _, found⟩ := Option.bind_eq_some_iff.mp found
    dsimp only at found
    split at found
    next hroom =>
      obtain rfl := Option.some.inj found
      rw [Array.size_extract]
      omega
    next => cases found

theorem Heap.size_storageBytes {h : Heap} {s : Storage} {memory : Array UInt8}
    (ok : h.storageBytes s = .ok memory) : memory.size = s.size := by
  unfold storageBytes at ok
  split at ok
  case isTrue hzero =>
    obtain rfl := Except.ok.inj ok
    exact hzero.symm
  case isFalse =>
    split at ok
    next bytes hread =>
      obtain rfl := Except.ok.inj ok
      exact size_read? hread
    next => cases ok

namespace Buffer

/-- Whatever is read of a buffer, no number on the way leaves the signed words and no element lies
outside of the storage. -/
structure Reads (b : Buffer) : Prop where
  elements : ∀ (memory : Array UInt8) index, memory.size = b.storage.size →
    Inside b.layout.axes index →
      ∃ element, b.elementAt memory index = .ok element ∧ element.size = b.type.size
  heads : ∀ h memory n, h.storageBytes b.storage = .ok memory →
    b.device.isHostAccessible = true →
      (∃ data, b.headBytes h n = .ok data ∧ data.size = min n b.count * b.type.size) ∨
        ¬ b.Gatherable h (min n b.count) ∧
          ∃ cause, b.headBytes h n = .error (.allocation cause)
  /-- The places between which an array view is turned around, axis by axis. -/
  turns : b.count ≠ 0 → ∀ before a after, b.layout.axes = before ++ a :: after →
    Signed (ArrayView.farEnd a) ∧ Signed (ArrayView.farEnd a * b.type.size) ∧
      Signed (ArrayView.ascending b.layout.byteOffset.toNat b.type.size (before ++ [a])).origin
  views : ∀ type v, b.arrayView type = .ok v → v.axes = b.layout.axes ∧
    ∀ index, Inside v.axes index →
      0 ≤ v.origin + displacement v.axes index * b.type.size ∧
        v.origin + displacement v.axes index * b.type.size + b.type.size ≤ b.storage.size

variable {b : Buffer}

theorem arrayView_of_empty (hempty : b.count = 0) {type : ElementType} {v : ArrayView}
    (ok : b.arrayView type = .ok v) : v = ⟨0, b.layout.axes⟩ := by
  obtain ⟨_, _, ok⟩ := bind_eq_ok.mp ok
  obtain ⟨_, _, ok⟩ := bind_eq_ok.mp ok
  rw [if_pos hempty] at ok
  exact (pure_eq_ok.mp ok).symm

namespace Addressable

variable {length : Nat}

/-- What one of the axes reaches, and what those before it and those after it do, lies inside. -/
theorem bounds (k : b.Addressable length) (hne : b.count ≠ 0) {a : Axis} {before after : List Axis}
    (haxes : b.layout.axes = before ++ a :: after) :
    0 ≤ b.layout.byteOffset.toNat + lowest b.type.size before + min (a.reach b.type.size) 0 ∧
      (b.layout.byteOffset.toNat : Int) + max (a.reach b.type.size) 0 < 2 ^ 63 := by
  obtain ⟨hstart, hstop, _⟩ := k.fits hne
  have hsmall := k.small
  have := lowest_nonpos b.type.size after
  have := highest_nonneg b.type.size before
  have := highest_nonneg b.type.size after
  have := b.type.size_pos
  unfold Layout.start at hstart
  unfold Layout.stop at hstop
  rw [haxes, lowest_append, lowest_cons] at hstart
  rw [haxes, highest_append, highest_cons] at hstop
  unfold maxSize at hsmall
  omega

/-- The far end of an axis lies less than the length of the memory away. -/
theorem reach_bounds (k : b.Addressable length) (hne : b.count ≠ 0) {a : Axis}
    (ha : a ∈ b.layout.axes) : -2 ^ 63 < a.reach b.type.size ∧ a.reach b.type.size < 2 ^ 63 := by
  obtain ⟨before, after, haxes⟩ := List.append_of_mem ha
  obtain ⟨hlow, hhigh⟩ := k.bounds hne haxes
  have := lowest_nonpos b.type.size before
  omega

theorem signed (k : b.Addressable length) (hne : b.count ≠ 0) {a : Axis} {before after : List Axis}
    (haxes : b.layout.axes = before ++ a :: after) :
    Signed (a.reach b.type.size) ∧
      Signed (b.layout.byteOffset.toNat + lowest b.type.size (before ++ [a])) := by
  obtain ⟨hlow, hhigh⟩ := k.bounds hne haxes
  have := lowest_nonpos b.type.size before
  rw [lowest_append, lowest_cons, lowest_nil, add_zero]
  exact ⟨signed_iff.mpr ⟨by omega, by omega⟩, signed_iff.mpr ⟨by omega, by omega⟩⟩

/-- An axis with the least stride has just one element: a second one would lie further down than
the memory is long. -/
theorem extent_of_least_stride (k : b.Addressable length) (hne : b.count ≠ 0) {a : Axis}
    (ha : a ∈ b.layout.axes) (hstride : a.stride.toInt = -2 ^ 63) : a.extent = 1 := by
  have hlow := (k.reach_bounds hne ha).1
  have := b.type.size_pos
  have hextent : a.extent.toNat ≠ 0 := fun h =>
    k.exact.extent_ne_zero hne a ha (UInt64.toNat_inj.mp h)
  by_contra hone
  have htwo : (1 : Int) ≤ (a.extent.toNat : Int) - 1 := by
    have : a.extent.toNat ≠ 1 := fun h => hone (UInt64.toNat_inj.mp h)
    omega
  have hfar : ((a.extent.toNat : Int) - 1) * a.stride.toInt ≤ -2 ^ 63 := by
    rw [hstride]
    omega
  have hreach : a.reach b.type.size ≤ -2 ^ 63 :=
    (mul_le_of_one_le_right (by omega) (by omega)).trans hfar
  omega

/-- An array view begins at the first element, with the axes of the buffer; it is refused only if
the lowest element is not aligned. -/
theorem arrayView_self (k : b.Addressable length) (hne : b.count ≠ 0)
    (host : b.checkHost = .ok ()) :
    b.arrayView b.type =
      if (b.storage.base.shift (b.layout.start b.type.size)).isAligned b.type.size then
        .ok ⟨b.layout.byteOffset.toNat, b.layout.axes⟩
      else .error (.shape (.misalignedArray b.type)) := by
  have hextents := k.exact.extent_ne_zero hne
  have htype : b.checkType b.type = .ok () := if_pos rfl
  have hview : ArrayView.descend (b.layout.start b.type.size) b.type.size b.layout.axes
      (ArrayView.ascending b.layout.byteOffset.toNat b.type.size (b.layout.axes ++ [])).axes =
        ⟨b.layout.start b.type.size - lowest b.type.size b.layout.axes, b.layout.axes⟩ :=
    ArrayView.descend_ascending hextents (fun a ha => k.extent_of_least_stride hne ha) [] _ _
  rw [List.append_nil, Layout.start, add_sub_cancel_right] at hview
  simp only [arrayView, htype, host, if_neg hne, ArrayView.origin_ascending hextents, bind,
    Except.bind]
  rw [hview, Layout.start]
  cases (b.storage.base.shift _).isAligned b.type.size <;> rfl

theorem arrayView_eq (k : b.Addressable length) (hne : b.count ≠ 0) {type : ElementType}
    {v : ArrayView} (ok : b.arrayView type = .ok v) :
    v = ⟨b.layout.byteOffset.toNat, b.layout.axes⟩ := by
  obtain ⟨_, htype, rest⟩ := bind_eq_ok.mp ok
  obtain ⟨_, host, _⟩ := bind_eq_ok.mp rest
  obtain rfl : type = b.type := by
    unfold checkType at htype
    split at htype
    · assumption
    · cases htype
  rw [k.arrayView_self hne host] at ok
  split at ok
  · exact (Except.ok.inj ok).symm
  · cases ok

/-- Memory that a signed word can measure is read without a step that could go wrong. -/
theorem reads (k : b.Addressable b.storage.size) : b.Reads where
  elements := fun memory index hsize inside => elementAt (hsize ▸ k) inside
  heads := fun h memory n hmemory host =>
    headBytes (Heap.size_storageBytes hmemory ▸ k) hmemory host n
  turns := by
    intro hne before a after haxes
    obtain ⟨hreach, hlow⟩ := k.signed hne haxes
    have hextents : ∀ c ∈ before ++ [a], c.extent ≠ 0 := fun c hc =>
      k.exact.extent_ne_zero hne c (by
        rw [haxes]
        exact (List.append_cons before a after) ▸ List.mem_append_left after hc)
    rw [ArrayView.origin_ascending hextents]
    exact ⟨Signed.of_mul hreach b.type.size_pos, hreach, hlow⟩
  views := by
    intro type v ok
    by_cases hempty : b.count = 0
    · obtain rfl := arrayView_of_empty hempty ok
      exact ⟨rfl, fun index inside => absurd hempty (inside.count_ne_zero k.exact)⟩
    · obtain rfl := k.arrayView_eq hempty ok
      exact ⟨rfl, fun index inside => k.place_mem inside⟩

end Addressable

end Buffer

end TensorExchange
