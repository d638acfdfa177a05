import Mathlib.Data.List.TakeWhile
import TensorExchange.Proofs.Exchange.Describe
import TensorExchange.Proofs.Layout.Counting
import TensorExchange.Proofs.Layout.Rows

/-!
Admission: which shapes a layout may have.

Extents are multiplied from the first axis on, and each product must be a word.  After an
empty axis all products are zero, and nothing can leave the word any more; so it is not
the count of a shape that decides, nor the product of its extents other than zero, but the
product of those before the first empty axis, the `leading` ones.

Main statement (`judged`), for every shape: it is counted exactly if the leading extents
multiply to a word, and packed rows, given strides and imports admit it exactly if memory
has room for its count as well; a shape that is refused is refused with one error, as too
large.  What follows of the order of the axes is said in full:

* without an empty axis the count decides, so every order of the axes is judged alike;
* with one, all orders are judged alike exactly if the other extents multiply to a word.

So `[2⁶², 4, 0]` is refused and `[0, 4, 2⁶²]` is not (`refused_empty_last`), although both
have no elements.  The strict order has a use: `Layout.count` multiplies in the same order
without a check, and is exact because no partial product left the word
(`Proofs/Layout/Counting`).

An import reads a shape before it can be judged, and may refuse a tensor for other
reasons.  `Reaches` says that reading came as far as the shape; from there on an import is
judged like given strides.
-/

namespace TensorExchange

variable {shape : List UInt64}

/-! ## Shapes -/

/-- The extents before the first empty axis. -/
def leading (shape : List UInt64) : List UInt64 := shape.takeWhile (· != 0)

theorem leading_of_full (full : 0 ∉ shape) : leading shape = shape := by
  refine List.takeWhile_eq_self_iff.mpr fun d hd => ?_
  have hne : d ≠ 0 := fun h => full (h ▸ hd)
  simpa using hne

theorem volume_leading_pos (shape : List UInt64) : 0 < volume (leading shape) := by
  refine Nat.pos_of_ne_zero fun hzero => ?_
  have hne := List.mem_takeWhile_imp (volume_eq_zero_iff.mp hzero)
  simp at hne

theorem volume_take_le_leading {j : Nat} (full : 0 ∉ shape.take j) :
    volume (shape.take j) ≤ volume (leading shape) := by
  have hsplit : leading shape = shape.take j ++ leading (shape.drop j) := by
    conv_lhs => rw [leading, ← List.take_append_drop j shape]
    refine List.takeWhile_append_of_pos fun d hd => ?_
    have hne : d ≠ 0 := fun h => full (h ▸ hd)
    simpa using hne
  rw [hsplit, volume_append]
  exact Nat.le_mul_of_pos_right _ (volume_leading_pos _)

theorem volume_take_lt_iff :
    (∀ j, volume (shape.take j) < wordBound) ↔ volume (leading shape) < wordBound := by
  constructor
  · intro steps
    have hprefix : leading shape <+: shape := List.takeWhile_prefix _
    rw [List.prefix_iff_eq_take.mp hprefix]
    exact steps _
  · intro bound j
    by_cases hempty : 0 ∈ shape.take j
    · rw [volume_eq_zero_iff.mpr hempty]
      decide
    · exact Nat.lt_of_le_of_lt (volume_take_le_leading hempty) bound

/-- A shape that is admitted: its product stays in the word up to the first empty axis, and memory
has room for as many elements. -/
def Admitted (shape : List UInt64) : Prop :=
  volume (leading shape) < wordBound ∧ volume shape ≤ maxSize

theorem count?_eq_some_iff_leading {n : Nat} :
    count? shape = some n ↔ n = volume shape ∧ volume (leading shape) < wordBound := by
  rw [count?_eq_some_iff, volume_take_lt_iff]

theorem checkShape_eq_ok_iff_admitted : checkShape shape = .ok () ↔ Admitted shape := by
  rw [checkShape_eq_ok_iff, count?_eq_some_iff_leading, Admitted]
  simp

theorem checkShape_eq_error (refused : ¬ Admitted shape) :
    checkShape shape = .error (.overflow shape) := by
  have hnot : checkShape shape ≠ .ok () := mt checkShape_eq_ok_iff_admitted.mp refused
  unfold checkShape at hnot ⊢
  split
  next n hn =>
    rw [hn] at hnot
    exact if_neg fun hroom => hnot (if_pos hroom)
  next => rfl

/-- Without an empty axis it is the count that decides. -/
theorem admitted_of_full (full : 0 ∉ shape) : Admitted shape ↔ volume shape ≤ maxSize := by
  rw [Admitted, leading_of_full full]
  exact ⟨And.right, fun hroom => ⟨Nat.lt_of_le_of_lt hroom (by decide), hroom⟩⟩

/-- With one it is the product before the first. -/
theorem admitted_of_empty (empty : 0 ∈ shape) :
    Admitted shape ↔ volume (leading shape) < wordBound := by
  rw [Admitted, volume_eq_zero_iff.mpr empty]
  exact ⟨And.left, fun hword => ⟨hword, Nat.zero_le _⟩⟩

/-! ## The order of the axes -/

theorem volume_perm {shape' : List UInt64} (perm : shape'.Perm shape) :
    volume shape' = volume shape :=
  (perm.map _).prod_eq

theorem volume_leading_le (shape : List UInt64) :
    volume (leading shape) ≤ volume (shape.filter (· != 0)) := by
  have hprefix : leading shape <+: shape := List.takeWhile_prefix _
  rw [volume_filter_ne_zero, List.prefix_iff_eq_take.mp hprefix]
  exact volume_take_le_rowStep shape _

/-- A shape is judged alike in every order of its axes exactly if none of them is empty or the
others multiply to a word. -/
theorem forall_perm_admitted_iff :
    (∀ shape', shape'.Perm shape → (Admitted shape' ↔ Admitted shape)) ↔
      0 ∉ shape ∨ volume (shape.filter (· != 0)) < wordBound := by
  constructor
  · intro alike
    by_contra! hnot
    obtain ⟨empty, hlarge⟩ := hnot
    -- with an empty axis in front the shape is admitted
    have hfirst : (0 :: shape.erase 0).Perm shape := (List.perm_cons_erase empty).symm
    have admitted : Admitted (0 :: shape.erase 0) := by
      rw [admitted_of_empty (List.mem_cons_self ..)]
      exact (by decide : volume [] < wordBound)
    -- and with all of them behind the others it is not
    let others := shape.filter (· != 0)
    let zeros := shape.filter fun d => !(d != 0)
    have hlast : (others ++ zeros).Perm shape := List.filter_append_perm _ _
    have hfull : 0 ∉ (others ++ zeros).take others.length := by
      rw [List.take_left]
      simp [others]
    have hlarge' : wordBound ≤ volume (leading (others ++ zeros)) := by
      refine hlarge.trans ?_
      have := volume_take_le_leading hfull
      rwa [List.take_left] at this
    have refused : ¬ Admitted (others ++ zeros) := fun h => absurd h.1 (Nat.not_lt.mpr hlarge')
    exact refused ((alike _ hlast).mpr ((alike _ hfirst).mp admitted))
  · rintro (full | hword) shape' perm
    · have full' : 0 ∉ shape' := fun h => full (perm.mem_iff.mp h)
      rw [admitted_of_full full, admitted_of_full full', volume_perm perm]
    · have hword' : volume (shape'.filter (· != 0)) < wordBound := by
        rwa [volume_perm (perm.filter _)]
      have hleading := Nat.lt_of_le_of_lt (volume_leading_le shape) hword
      have hleading' := Nat.lt_of_le_of_lt (volume_leading_le shape') hword'
      simp only [Admitted, hleading, hleading', volume_perm perm]

/-! ## What admits a shape -/

namespace Layout

theorem exists_contiguous_iff : (∃ l, contiguous shape = .ok l) ↔ Admitted shape := by
  rw [← checkShape_eq_ok_iff_admitted]
  constructor
  · rintro ⟨l, ok⟩
    exact (contiguous_eq_ok_iff.mp ok).1
  · intro hcheck
    exact ⟨_, contiguous_eq_ok_iff.mpr ⟨hcheck, rfl⟩⟩

theorem exists_strided_iff {strides : List Int64} {byteOffset : UInt64}
    (hlength : shape.length = strides.length) :
    (∃ l, strided shape strides byteOffset = .ok l) ↔ Admitted shape := by
  rw [← checkShape_eq_ok_iff_admitted]
  constructor
  · rintro ⟨l, ok⟩
    exact (strided_eq_ok_iff.mp ok).2
  · intro hcheck
    refine ⟨⟨List.zipWith Axis.mk shape strides, byteOffset⟩, strided_eq_ok_iff.mpr ⟨?_, hcheck⟩⟩
    exact ⟨map_extent_zipWith hlength, map_stride_zipWith hlength, rfl⟩

theorem strided_eq_error {strides : List Int64} {byteOffset : UInt64}
    (hlength : shape.length = strides.length) (refused : ¬ Admitted shape) :
    strided shape strides byteOffset = .error (.overflow shape) := by
  rw [strided, if_neg (not_not.mpr hlength), checkShape_eq_error refused]
  rfl

end Layout

namespace Described

/-- A tensor of which all can be read that is read before its shape is checked, with a stride for
each extent if it states any. -/
structure Reaches (t : ManagedTensor) (shape : List UInt64) : Prop where
  envelope : checkEnvelope t.envelope = .ok ()
  type : ∃ type, readType t.record.triple = .ok type
  device : ∃ device, readDevice t.record.device = .ok device
  extents : readShape t.record = .ok shape
  strides : ∀ strides, readStrides t.record shape = .ok strides → shape.length = strides.length

/-- The shape of a tensor passes the checks of an import. -/
def Passes (t : ManagedTensor) (shape : List UInt64) : Prop :=
  ∃ strides l, readStrides t.record shape = .ok strides ∧ Layout.strided shape strides 0 = .ok l

variable {t : ManagedTensor}

theorem readStrides_cases (r : TensorRecord) (shape : List UInt64) :
    (∃ strides, readStrides r shape = .ok strides) ∨
      readStrides r shape = orInvalidTensor (rowMajorStrides shape) := by
  rw [readStrides]
  cases r.strides with
  | none => exact .inr rfl
  | some strides =>
    left
    simp only
    split
    · exact ⟨_, rfl⟩
    · exact ⟨_, rfl⟩

theorem Reaches.passes_iff (k : Reaches t shape) : Passes t shape ↔ Admitted shape := by
  constructor
  · rintro ⟨strides, l, read, ok⟩
    exact (Layout.exists_strided_iff (k.strides _ read)).mp ⟨l, ok⟩
  · intro admitted
    have read : ∃ strides, readStrides t.record shape = .ok strides := by
      rcases readStrides_cases t.record shape with read | read
      · exact read
      · rw [read, rowMajorStrides, checkShape_eq_ok_iff_admitted.mpr admitted]
        exact ⟨_, rfl⟩
    obtain ⟨strides, read⟩ := read
    obtain ⟨l, ok⟩ := (Layout.exists_strided_iff (k.strides _ read)).mpr admitted
    exact ⟨strides, l, read, ok⟩

theorem Reaches.ofTensor_eq_error (k : Reaches t shape) (refused : ¬ Admitted shape) :
    ofTensor t = .error (.invalidTensor (.layout (.overflow shape))) := by
  obtain ⟨type, htype⟩ := k.type
  obtain ⟨device, hdevice⟩ := k.device
  simp only [ofTensor, Described.read, k.envelope, htype, hdevice, k.extents, leaving_ok, bind,
    Except.bind]
  rcases readStrides_cases t.record shape with ⟨strides, read⟩ | read
  · simp only [read, Layout.strided_eq_error (k.strides _ read) refused, orInvalidTensor,
      leaving_ok, leaving_error]
  · simp only [read, rowMajorStrides, checkShape_eq_error refused, orInvalidTensor, bind,
      Except.bind, leaving_error]

/-- Without elements nothing else can be refused. -/
theorem Reaches.exists_ofTensor_iff (k : Reaches t shape) (empty : 0 ∈ shape) :
    (∃ d, ofTensor t = .ok d) ↔ Admitted shape := by
  constructor
  · rintro ⟨d, ok⟩
    by_contra refused
    rw [k.ofTensor_eq_error refused] at ok
    cases ok
  · intro admitted
    obtain ⟨type, htype⟩ := k.type
    obtain ⟨device, hdevice⟩ := k.device
    obtain ⟨strides, l, read, ok⟩ := k.passes_iff.mpr admitted
    have hshape := (Layout.strided_eq_ok_iff.mp ok).1.1
    have hcount : l.count = 0 := by
      rw [(Layout.exact_of_strided ok).count_eq_zero_iff, hshape]
      exact empty
    refine ⟨⟨l, type, device, .dangling, 0, reportedAlignment t type.size,
      t.envelope.isReadOnly⟩, ?_⟩
    have hspan : l.span type.size = .ok none := Layout.span_eq_none_iff.mpr hcount
    refine ofTensor_of_read (h := default) ?_
    refine bind_eq_ok.mpr ⟨(), leaving_eq_ok.mpr k.envelope, ?_⟩
    refine bind_eq_ok.mpr ⟨type, leaving_eq_ok.mpr htype, ?_⟩
    refine bind_eq_ok.mpr ⟨device, leaving_eq_ok.mpr hdevice, ?_⟩
    refine bind_eq_ok.mpr ⟨shape, leaving_eq_ok.mpr k.extents, ?_⟩
    refine bind_eq_ok.mpr ⟨strides, leaving_eq_ok.mpr read, ?_⟩
    refine bind_eq_ok.mpr ⟨l, leaving_eq_ok.mpr (orInvalidTensor_eq_ok.mpr ok), ?_⟩
    exact bind_eq_ok.mpr ⟨none, leaving_eq_ok.mpr (orInvalidTensor_eq_ok.mpr hspan), rfl⟩

end Described

/-! ## How a shape is judged -/

/-- How a shape is judged, by all that judge it. -/
structure Judged (shape : List UInt64) : Prop where
  counted : ∀ n, count? shape = some n ↔ n = volume shape ∧ volume (leading shape) < wordBound
  contiguous : (∃ l, Layout.contiguous shape = .ok l) ↔ Admitted shape
  strided : ∀ strides byteOffset, shape.length = strides.length →
    ((∃ l, Layout.strided shape strides byteOffset = .ok l) ↔ Admitted shape)
  imported : ∀ t, Described.Reaches t shape → (Described.Passes t shape ↔ Admitted shape)
  /-- An import that refuses a shape says so; a tensor without elements it refuses for nothing
  else. -/
  refused : ∀ t, Described.Reaches t shape → ¬ Admitted shape →
    Described.ofTensor t = .error (.invalidTensor (.layout (.overflow shape)))
  empty : ∀ t, Described.Reaches t shape → 0 ∈ shape →
    ((∃ d, Described.ofTensor t = .ok d) ↔ Admitted shape)
  /-- Without an empty axis the count alone decides. -/
  full : 0 ∉ shape → ((∃ n, count? shape = some n) ↔ volume shape < wordBound) ∧
    (Admitted shape ↔ volume shape ≤ maxSize)
  reordered : (∀ shape', shape'.Perm shape → (Admitted shape' ↔ Admitted shape)) ↔
    0 ∉ shape ∨ volume (shape.filter (· != 0)) < wordBound

theorem judged (shape : List UInt64) : Judged shape where
  counted _ := count?_eq_some_iff_leading
  contiguous := Layout.exists_contiguous_iff
  strided _ _ := Layout.exists_strided_iff
  imported _ k := k.passes_iff
  refused _ k := k.ofTensor_eq_error
  empty _ k := k.exists_ofTensor_iff
  full := by
    intro full
    refine ⟨?_, admitted_of_full full⟩
    simp only [count?_eq_some_iff_leading, leading_of_full full]
    exact ⟨fun ⟨_, _, hword⟩ => hword, fun hword => ⟨_, rfl, hword⟩⟩
  reordered := forall_perm_admitted_iff

/-- Bytes of another runtime, three axes of them. -/
def threeAxes (extents : List Int64) : ManagedTensor :=
  ⟨.legacy, ⟨.fixed 0x1000, ⟨1, 0⟩, 3, ElementType.uint8.triple, some extents, none, 0⟩,
    .runtime 1 true, false⟩

/-- Three axes without an element are refused when the empty one comes last, and admitted when it
comes first. -/
theorem refused_empty_last :
    volume [0x4000000000000000, 4, 0] = 0 ∧ count? [0x4000000000000000, 4, 0] = none ∧
      Layout.contiguous [0x4000000000000000, 4, 0] =
          .error (.overflow [0x4000000000000000, 4, 0]) ∧
        Layout.strided [0x4000000000000000, 4, 0] [4, 1, 1] 0 =
            .error (.overflow [0x4000000000000000, 4, 0]) ∧
          Described.ofTensor (threeAxes [0x4000000000000000, 4, 0]) =
              .error (.invalidTensor (.layout (.overflow [0x4000000000000000, 4, 0]))) ∧
            (∃ l, Layout.contiguous [0, 4, 0x4000000000000000] = .ok l) ∧
              ∃ d, Described.ofTensor (threeAxes [0, 4, 0x4000000000000000]) = .ok d :=
  ⟨rfl, by decide +kernel, rfl, rfl, rfl, ⟨_, rfl⟩, ⟨_, rfl⟩⟩

end TensorExchange
