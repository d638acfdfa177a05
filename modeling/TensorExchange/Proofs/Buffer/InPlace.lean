import TensorExchange.Proofs.Buffer.Gather
import TensorExchange.Proofs.Soundness.Rooted

/-!
Arrays in place: a view that is built from the lowest byte finds each element.

An array view has strides in elements and a pointer, and its strides must run forwards
while it is built.  So it is built from the lowest byte with the axes that run backwards
turned around, and then these are turned back one after the other, each of them moving the
pointer to the other end of the axis.

Main statement (`Session.inPlace_run`), for a live buffer with elements in host memory that
a signed word measures: the view is refused only if the lowest element is not aligned or the
type is another; it has the shape of the buffer and its pointer is at the first element; and
at each index it reads what the strides lead to, which is what a gathering has at the
row-major number of the index.

`Buffer.Steps` says that nothing on the way leaves the signed words, nor the memory: after
each axis the pointer is up by what the axes so far reach down (`descend_ascending`), so it
is always at an element, and in the end at the first one.  The steps are stated for every
way to split the axes in those already turned and the others, because that is what holds
between two turns.
-/

namespace TensorExchange

namespace Buffer

variable {h : Heap} {b : Buffer} {memory : Array UInt8} {index : List Nat}

/-- The numbers that are computed to make a view in place, and in it: none of them leaves the signed
words. -/
structure Steps (b : Buffer) : Prop where
  offset : Signed b.layout.byteOffset.toNat
  extents : ∀ a ∈ b.layout.axes, Signed a.extent.toNat
  ends : ∀ a ∈ b.layout.axes,
    Signed (ArrayView.farEnd a) ∧ Signed (ArrayView.farEnd a * b.type.size)
  /-- The lowest byte, as far as some of the axes reach. -/
  down : ∀ before after, b.layout.axes = before ++ after →
    Signed (ArrayView.ascending b.layout.byteOffset.toNat b.type.size before).origin
  /-- The opposite of a stride; of an axis with one element it does not matter. -/
  opposites : ∀ a ∈ b.layout.axes, a.extent ≠ 1 → (-a.stride).toInt = -a.stride.toInt
  turns : ∀ a ∈ b.layout.axes, Signed (ArrayView.farEnd (ArrayView.reverseAxis a)) ∧
    Signed (ArrayView.farEnd (ArrayView.reverseAxis a) * b.type.size)
  /-- After some of the axes were turned around, the pointer is at an element of the storage. -/
  up : ∀ before after, b.layout.axes = before ++ after →
    ∃ place ∈ b.layout.places b.type.size,
      (ArrayView.descend (b.layout.start b.type.size) b.type.size before
        (ArrayView.ascending b.layout.byteOffset.toNat b.type.size b.layout.axes).axes).origin =
          place ∧ 0 ≤ place ∧ place + b.type.size ≤ b.storage.size
  ways : ∀ index, Inside b.layout.axes index →
    checkedDisplacement 0 b.layout.axes index = .ok (displacement b.layout.axes index) ∧
      Signed (displacement b.layout.axes index * b.type.size)

/-- What an array view of a buffer is, and what it reads. -/
structure InPlace (h : Heap) (b : Buffer) : Prop where
  lowest : IsLeast (b.layout.places b.type.size) (b.layout.start b.type.size)
  /-- Nothing but the alignment of the lowest element is in the way. -/
  view : b.arrayView b.type =
    if (b.storage.base.shift (b.layout.start b.type.size)).isAligned b.type.size then
      .ok ⟨b.layout.byteOffset.toNat, b.layout.axes⟩
    else .error (.shape (.misalignedArray b.type))
  steps : b.Steps
  shape : ∀ v, b.arrayView b.type = .ok v → v.shape = b.layout.shape
  /-- Each index leads to the element where the strides put it. -/
  elements : ∀ v memory index, b.arrayView b.type = .ok v → memory.size = b.storage.size →
    Inside b.layout.axes index →
      ∃ place : Nat, place = b.layout.place b.type.size index ∧
        place + b.type.size ≤ b.storage.size ∧
        v.elementAt memory b.type.size index = .ok (memory.extract place (place + b.type.size))
  /-- It is the entry of whatever was read from the first element on and is long enough. -/
  heads : ∀ v n data index, b.arrayView b.type = .ok v → b.head h b.type n = .ok data →
    Inside b.layout.axes index → rowRank b.layout.axes index < n →
      ∃ memory, h.storageBytes b.storage = .ok memory ∧
        v.elementAt memory b.type.size index =
          .ok (data.extract (rowRank b.layout.axes index * b.type.size)
            (rowRank b.layout.axes index * b.type.size + b.type.size))

/-! ## Entries of what was read -/

theorem memory_of_gather {n : Nat} {data : Array UInt8} (hn : n ≠ 0)
    (ok : b.gather h n = .ok data) : ∃ memory, h.storageBytes b.storage = .ok memory := by
  rw [gather, if_neg hn] at ok
  obtain ⟨_, _, ok⟩ := bind_eq_ok.mp ok
  obtain ⟨memory, hmemory, _⟩ := bind_eq_ok.mp ok
  exact ⟨memory, hmemory⟩

namespace Addressable

theorem extract_firstElements (k : b.Addressable memory.size) {i n : Nat} (hi : i < n)
    (hn : n ≤ b.count) :
    (b.firstElements memory n).extract (i * b.type.size) (i * b.type.size + b.type.size) =
      b.elementBytes memory i := by
  obtain ⟨rest, hrest⟩ := firstElements_prefix b memory (Nat.succ_le_of_lt hi)
  have hbefore := k.size_firstElements (Nat.le_of_lt (hi.trans_le hn))
  have hwith := k.size_firstElements (hi.trans_le hn)
  have hsize : (b.elementBytes memory i).size = b.type.size := by
    rw [firstElements, Array.size_append, hbefore, Nat.succ_mul] at hwith
    omega
  have hpast : i * b.type.size + b.type.size - (b.firstElements memory (i + 1)).size = 0 := by
    rw [hwith, Nat.succ_mul]
    omega
  rw [hrest, Array.extract_append, hpast, firstElements, Array.extract_append, hbefore,
    Array.extract_eq_empty_of_le (by omega), Nat.sub_self, Nat.add_sub_cancel_left, ← hsize,
    Array.extract_size]
  simp

/-- Where the pointer is after some axes were turned around: at the first position on these, and
still at the lowest one on the others. -/
theorem mem_places_append {before after : List Axis} (haxes : b.layout.axes = before ++ after)
    (hne : ∀ a ∈ b.layout.axes, a.extent ≠ 0) :
    b.layout.byteOffset.toNat + lowest b.type.size after ∈ b.layout.places b.type.size := by
  have hbefore : ∀ a ∈ before, a.extent ≠ 0 := fun a ha =>
    hne a (haxes ▸ List.mem_append_left after ha)
  have hafter : ∀ a ∈ after, a.extent ≠ 0 := fun a ha =>
    hne a (haxes ▸ List.mem_append_right before ha)
  refine ⟨(before.map fun _ => 0) ++ lowCorner after, ?_, ?_⟩
  · rw [haxes]
    exact List.rel_append (inside_first hbefore) (inside_lowCorner hafter)
  · rw [Layout.place, haxes, displacement_append (inside_first hbefore), displacement_first,
      zero_add, displacement_lowCorner hafter]

/-- On the way down and up again, the pointer stays at elements. -/
theorem steps (k : b.Addressable b.storage.size) (hne : b.count ≠ 0)
    (counted : checkShape b.layout.shape = .ok ()) : b.Steps := by
  have hextents := k.exact.extent_ne_zero hne
  have hleast := Layout.isLeast_places hextents b.type.size
  have hgreatest := Layout.isGreatest_places hextents b.type.size
  have hstride (a : Axis) (ha : a ∈ b.layout.axes) : a.stride.toInt = -2 ^ 63 → a.extent = 1 :=
    k.extent_of_least_stride hne ha
  have hlowest : b.layout.start b.type.size - lowest b.type.size b.layout.axes =
      b.layout.byteOffset.toNat := add_sub_cancel_right ..
  obtain ⟨hstart, hstop, _⟩ := k.fits hne
  have hsmall := k.small
  unfold maxSize at hsmall
  have hpos := b.type.size_pos
  have hoffset : (b.layout.byteOffset.toNat : Int) < 2 ^ 63 := by
    have := highest_nonneg b.type.size b.layout.axes
    unfold Layout.stop at hstop
    omega
  constructor
  case offset => exact signed_iff.mpr ⟨by omega, hoffset⟩
  case extents =>
    intro a ha
    have := Layout.extents_lt_of_counted counted hne _ (List.mem_map_of_mem ha)
    exact signed_iff.mpr ⟨by omega, by omega⟩
  case ends =>
    intro a ha
    obtain ⟨hlow, hhigh⟩ := k.reach_bounds hne ha
    have hsigned : Signed (a.reach b.type.size) := signed_iff.mpr ⟨hlow.le, hhigh⟩
    exact ⟨hsigned.of_mul hpos, hsigned⟩
  case down =>
    intro before after haxes
    have hrest := lowest_nonpos b.type.size after
    have hdown := lowest_nonpos b.type.size before
    rw [haxes, lowest_append] at hlowest
    rw [ArrayView.origin_ascending fun a ha => hextents a (haxes ▸ List.mem_append_left after ha)]
    exact signed_iff.mpr ⟨by omega, by omega⟩
  case opposites =>
    intro a ha hone
    exact ArrayView.toInt_neg_stride (mt (hstride a ha) hone)
  case turns =>
    intro a ha
    obtain ⟨hlow, hhigh⟩ := k.reach_bounds hne ha
    have hsigned : Signed ((ArrayView.reverseAxis a).reach b.type.size) := by
      rw [ArrayView.reach_reverseAxis (hstride a ha)]
      exact signed_iff.mpr ⟨by omega, by omega⟩
    exact ⟨hsigned.of_mul hpos, hsigned⟩
  case up =>
    intro before after haxes
    have hmem := mem_places_append haxes hextents
    have hlow := hleast.2 hmem
    have hhigh := hgreatest.2 hmem
    have hbefore (a : Axis) (ha : a ∈ before) : a ∈ b.layout.axes :=
      haxes ▸ List.mem_append_left after ha
    refine ⟨_, hmem, ?_, by omega, by omega⟩
    rw [haxes, lowest_append] at hlowest
    rw [haxes, ArrayView.descend_ascending (fun a ha => hextents a (hbefore a ha))
      fun a ha => hstride a (hbefore a ha)]
    simp only
    omega
  case ways => exact fun index inside => k.way inside

theorem extract_head (k : b.Addressable b.storage.size) {n : Nat} {data : Array UInt8}
    (ok : b.head h b.type n = .ok data) (inside : Inside b.layout.axes index)
    (hn : rowRank b.layout.axes index < n) :
    ∃ memory, h.storageBytes b.storage = .ok memory ∧ memory.size = b.storage.size ∧
      data.extract (rowRank b.layout.axes index * b.type.size)
          (rowRank b.layout.axes index * b.type.size + b.type.size) =
        memory.extract (b.layout.place b.type.size index).toNat
          ((b.layout.place b.type.size index).toNat + b.type.size) := by
  have hrank : rowRank b.layout.axes index < b.count :=
    inside.rowRank_lt.trans_eq k.exact.count_eq.symm
  rw [head_of_type] at ok
  obtain ⟨_, hcheck, hgather⟩ := bind_eq_ok.mp ok
  obtain ⟨memory, hmemory⟩ := memory_of_gather (by omega) hgather
  have hsize := Heap.size_storageBytes hmemory
  have k' : b.Addressable memory.size := hsize ▸ k
  have gathers := k'.gathers hmemory (Accept.check_eq_ok_iff.mp hcheck)
  have ready : b.Gatherable h (min n b.count) := by
    by_contra full
    obtain ⟨cause, hcause⟩ := gathers.refused n full
    rw [ok] at hcause
    cases hcause
  obtain rfl := Except.ok.inj (ok.symm.trans (gathers.heads n ready))
  refine ⟨memory, hmemory, hsize, ?_⟩
  rw [k'.extract_firstElements (lt_min hn hrank) (Nat.min_le_right ..), elementBytes, Buffer.place,
    inside.unravel_rowRank]

theorem inPlace (k : b.Addressable b.storage.size) (hne : b.count ≠ 0)
    (counted : checkShape b.layout.shape = .ok ()) (host : b.device.isHostAccessible = true) :
    b.InPlace h := by
  have hview (v : ArrayView) (ok : b.arrayView b.type = .ok v) :
      v = ⟨b.layout.byteOffset.toNat, b.layout.axes⟩ := k.arrayView_eq hne ok
  constructor
  case lowest => exact Layout.isLeast_places (k.exact.extent_ne_zero hne) b.type.size
  case view => exact k.arrayView_self hne (Accept.check_eq_ok_iff.mpr host)
  case steps => exact k.steps hne counted
  case shape =>
    intro v ok
    rw [hview v ok]
    rfl
  case elements =>
    intro v memory index ok hsize inside
    obtain ⟨hlow, hhigh⟩ := k.place_mem inside
    have k' : b.Addressable memory.size := hsize ▸ k
    refine ⟨(b.layout.place b.type.size index).toNat, by omega, by omega, ?_⟩
    rw [hview v ok]
    exact k'.slice_place inside
  case heads =>
    intro v n data index ok hdata inside hn
    obtain ⟨memory, hmemory, hsize, hentry⟩ := k.extract_head hdata inside hn
    have k' : b.Addressable memory.size := hsize ▸ k
    refine ⟨memory, hmemory, ?_⟩
    rw [hview v ok, hentry]
    exact k'.slice_place inside

end Addressable

end Buffer

/-- Whatever the commands of a session are: a live buffer with elements in host memory that a signed
word measures is viewed in place. -/
theorem Session.inPlace_run (m : Machine) (env : Config.Environment) (cs : List Command)
    {b : Buffer} (live : ((start m env).run cs).1.world.Live b) (hne : b.count ≠ 0)
    (host : b.device.isHostAccessible = true) (small : b.storage.size ≤ maxSize) :
    b.InPlace ((start m env).run cs).1.heap := by
  have sound := (sound_run m env cs).live live
  have counted := ((rooted_run m env cs).live live).counted
  have addressable : b.Addressable b.storage.size := ⟨sound.exact, sound.fits, small⟩
  exact addressable.inPlace hne counted host

/-- The view whose rows run backwards begins four bytes above its lowest element. -/
theorem Session.inPlace_turned :
    (after turning).world.Live turned ∧ turned.count ≠ 0 ∧
      turned.device.isHostAccessible = true ∧ turned.storage.size ≤ maxSize ∧
        turned.InPlace (after turning).heap ∧
          turned.layout.start turned.type.size = 4 ∧
            turned.arrayView .int16 = .ok ⟨8, [⟨2, -2⟩, ⟨2, 1⟩]⟩ := by
  have named : (after turning).buffers.get? "turned" = some turned := by
    decide +kernel
  have live := live_of_named named
  have hne : turned.count ≠ 0 := by decide
  have host : turned.device.isHostAccessible = true := by decide
  have small : turned.storage.size ≤ maxSize := by decide
  exact ⟨live, hne, host, small, inPlace_run _ _ turning live hne host small, by decide +kernel,
    by decide +kernel⟩

end TensorExchange
