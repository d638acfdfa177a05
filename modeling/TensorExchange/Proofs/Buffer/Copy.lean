import TensorExchange.Proofs.Buffer.Read
import TensorExchange.Proofs.Soundness.Moves

/-!
Copying: a copy that has its memory can be filled.

A copy is made in five steps: the devices are checked, the elements gathered, memory is
allocated, its window is taken, and the bytes are written.  From the third step on there
is something to lose: a failure after it must give the memory back.

Main statement (`Buffer.leaves_copyTo`): a copy that fails leaves the heap as it was.  The
proof shows where a copy can fail at all.  Whatever may go wrong goes wrong before memory
is there, `Buffer.copySource` being the part up to that point; after it the new buffer is
packed, host accessible and held by nobody else, so that its window is given out, and what
was gathered has as many bytes as the window, so that all of it is written.
`Buffer.copyTo_cases` says this as two cases, which is how other proofs take a copy apart.

The assumption that the layout is exact (its count does not wrap) holds of all layouts that
were built.  Without it the gathered bytes could be fewer than the window has.
-/

namespace TensorExchange

theorem size_slice {bytes data : Array UInt8} {start stop : Int}
    (ok : slice bytes start stop = .ok data) : (data.size : Int) = stop - start := by
  unfold slice at ok
  split at ok
  case isTrue hrange =>
    obtain rfl := Except.ok.inj ok
    rw [Array.size_extract]
    omega
  case isFalse => cases ok

theorem Heap.isSole_addStorage (h : Heap) (owner : Owner) (base : Pointer) (size : Nat)
    (alignment : Option Nat) (device : Device) (readOnly : Bool) :
    (h.addStorage owner base size alignment device readOnly).1.isSole
      (h.addStorage owner base size alignment device readOnly).2 = true := by
  have hnew : (h.addStorage owner base size alignment device readOnly).1.holdings.get?
      (h.addStorage owner base size alignment device readOnly).2.id = some ⟨owner, 1⟩ :=
    Table.get?_add_next ..
  simp [isSole, hnew]

namespace Buffer

theorem checkCopyable_eq_ok_iff {d : Device} :
    checkCopyable d = .ok () ↔ d.isHostAccessible = true := by
  unfold checkCopyable
  split <;> simp_all

variable {h h' : Heap} {b : Buffer} {data : Array UInt8}

theorem size_elementAt {memory : Array UInt8} {index : List Nat}
    (ok : b.elementAt memory index = .ok data) : data.size = b.type.size := by
  obtain ⟨_, _, ok⟩ := bind_eq_ok.mp ok
  obtain ⟨_, _, ok⟩ := bind_eq_ok.mp ok
  obtain ⟨_, _, ok⟩ := bind_eq_ok.mp ok
  have := size_slice ok
  omega

theorem size_gatherFrom {memory : Array UInt8} (n : Nat) : ∀ {index : List Nat}
    {out : Array UInt8}, b.gatherFrom memory n index out = .ok data →
      data.size = out.size + n * b.type.size := by
  induction n with
  | zero =>
    intro index out ok
    obtain rfl := Except.ok.inj ok
    simp
  | succ n ih =>
    intro index out ok
    obtain ⟨element, helement, ok⟩ := bind_eq_ok.mp ok
    rw [ih ok, Array.size_append, size_elementAt helement, Nat.succ_mul]
    omega

theorem size_gather {n : Nat} (ok : b.gather h n = .ok data) : data.size = n * b.type.size := by
  unfold gather at ok
  split at ok
  case isTrue hn =>
    obtain rfl := pure_eq_ok.mp ok
    simp [hn]
  case isFalse =>
    obtain ⟨size, hsize, ok⟩ := bind_eq_ok.mp ok
    obtain ⟨memory, _, ok⟩ := bind_eq_ok.mp ok
    obtain rfl := packedSize_eq_ok hsize
    split at ok
    case isTrue =>
      have := size_slice ok
      omega
    case isFalse =>
      obtain ⟨_, ok⟩ := guard_eq_ok.mp ok
      simpa using size_gatherFrom n ok

theorem window_of_allocate {a : Allocator} {type : ElementType} {shape : List UInt64}
    {device : Device} (ok : a.allocate h type shape device = .ok (h', b))
    (accessible : device.isHostAccessible = true) :
    ∃ w, b.window h' = .ok w ∧ w.size = volume shape * type.size := by
  obtain ⟨layout, n, hplan, hcases⟩ := Allocator.allocate_eq_ok ok
  obtain ⟨hlayout, rfl, hsmall⟩ := Allocator.plan_eq_ok hplan
  have hcount := Layout.count_of_contiguous hlayout
  have hstorage : ∃ s, b = .ofStorage s layout type ∧ s.device = device ∧ s.readOnly = false ∧
      h'.isSole s = true := by
    rcases hcases with ⟨_, s, hadd, rfl⟩ | ⟨h₁, allocation, s, _, _, hadd, rfl⟩
    · obtain ⟨rfl, rfl⟩ := Prod.mk.inj hadd
      exact ⟨_, rfl, rfl, rfl, Heap.isSole_addStorage ..⟩
    · obtain ⟨rfl, rfl⟩ := Prod.mk.inj hadd
      exact ⟨_, rfl, rfl, rfl, Heap.isSole_addStorage ..⟩
  obtain ⟨s, rfl, rfl, hwritable, hsole⟩ := hstorage
  have hhost : (ofStorage s layout type).checkHost = .ok () := Accept.check_eq_ok_iff.mpr accessible
  have hpacked : (ofStorage s layout type).checkContiguous = .ok () :=
    if_pos (Layout.isContiguous_of_contiguous hlayout)
  have hsize : (ofStorage s layout type).packedSize (ofStorage s layout type).count =
      .ok (volume shape * type.size) := by
    rw [← hcount]
    exact if_pos hsmall
  have hopen : (ofStorage s layout type).readOnly = false := hwritable
  have hsole : h'.isSole (ofStorage s layout type).storage = true := hsole
  unfold window
  simp only [hhost, hpacked, hopen, hsize, hsole]
  by_cases hzero : volume shape * type.size = 0
  · exact ⟨⟨.dangling, 0⟩, by simp [hzero, bind, Except.bind, pure, Except.pure], hzero.symm⟩
  · refine ⟨⟨s.base.shift layout.byteOffset.toNat, volume shape * type.size⟩, ?_, rfl⟩
    simp [hzero, ofStorage, bind, Except.bind, pure, Except.pure]

/-- What a copy is made of before it is written: the elements, and new memory for them. -/
def copySource (h : Heap) (b : Buffer) (device : Device) (a : Allocator) :
    Except (Failure Error Heap) (Array UInt8 × Heap × Buffer) := do
  leaving h (checkCopyable b.device)
  leaving h (checkCopyable device)
  let data ← leaving h (b.gather h b.count)
  let (h, copy) ← a.allocate h b.type b.layout.shape device
  return (data, h, copy)

variable {device : Device} {a : Allocator}

theorem copyTo_eq : b.copyTo h device a = (do
    let (data, h₁, copy) ← b.copySource h device a
    let h₁ ← (copy.fill h₁ data).mapError (.within (Heap.drop · copy))
    return (h₁, copy)) := by
  simp only [copyTo, copySource, bind_assoc, pure_bind]

/-- Until then a copy that fails leaves no trace. -/
theorem leaves_copySource : Leaves h (b.copySource h device a) :=
  .bind leaves_leaving fun _ _ => .bind leaves_leaving fun _ _ =>
    .bind leaves_leaving fun _ _ => .bind Allocator.leaves_allocate fun _ _ => .ok

theorem copyTo_of_source_error {f : Failure Error Heap}
    (failed : b.copySource h device a = .error f) :
    b.copyTo h device a = .error f := by
  rw [copyTo_eq, failed]
  rfl

theorem copyTo_of_source {h₁ : Heap} {copy : Buffer} (exact : b.layout.Exact)
    (ok : b.copySource h device a = .ok (data, h₁, copy)) :
    a.allocate h b.type b.layout.shape device = .ok (h₁, copy) ∧
      ∃ w, copy.window h₁ = .ok w ∧
        b.copyTo h device a = .ok (h₁.writeWindow w 0 data.toList, copy) := by
  rw [copyTo_eq, ok]
  obtain ⟨_, _, ok⟩ := bind_eq_ok.mp ok
  obtain ⟨⟨⟩, haccessible, ok⟩ := bind_eq_ok.mp ok
  obtain ⟨data', hdata, ok⟩ := bind_eq_ok.mp ok
  obtain ⟨⟨h₂, copy'⟩, halloc, ok⟩ := bind_eq_ok.mp ok
  obtain ⟨rfl, rfl, rfl⟩ := by simpa [pure_eq_ok] using ok
  have haccessible := checkCopyable_eq_ok_iff.mp (leaving_eq_ok.mp haccessible)
  obtain ⟨w, hw, hsize⟩ := window_of_allocate halloc haccessible
  have hmatch : w.size = data'.size := by
    rw [hsize, size_gather (leaving_eq_ok.mp hdata), count, exact.count_eq]
  have hfill : copy'.fill h₂ data' = .ok (h₂.writeWindow w 0 data'.toList) :=
    bind_eq_ok.mpr ⟨w, leaving_eq_ok.mpr hw, if_pos hmatch⟩
  refine ⟨halloc, w, hw, ?_⟩
  simp only [bind, Except.bind, hfill]
  rfl

/-- A copy fails before it has memory, or it is made of new memory, which is then written. -/
theorem copyTo_cases (exact : b.layout.Exact) (h : Heap) (device : Device) (a : Allocator) :
    (∃ f, b.copyTo h device a = .error f ∧ f.state = h) ∨
      ∃ h₁ copy w data, a.allocate h b.type b.layout.shape device = .ok (h₁, copy) ∧
        copy.window h₁ = .ok w ∧ b.copyTo h device a = .ok (h₁.writeWindow w 0 data, copy) := by
  cases hsource : b.copySource h device a with
  | error f => exact .inl ⟨f, copyTo_of_source_error hsource, leaves_copySource f hsource⟩
  | ok source =>
    obtain ⟨data, h₁, copy⟩ := source
    obtain ⟨halloc, w, hw, hcopy⟩ := copyTo_of_source exact hsource
    exact .inr ⟨h₁, copy, w, data.toList, halloc, hw, hcopy⟩

/-- So a copy that fails leaves the heap as it was. -/
theorem leaves_copyTo (exact : b.layout.Exact) : Leaves h (b.copyTo h device a) := by
  rcases copyTo_cases exact h device a with ⟨f, hf, same⟩ | ⟨h₁, copy, w, data, _, _, ok⟩
  · rintro f' failed
    obtain rfl := Except.error.inj (hf.symm.trans failed)
    exact same
  · exact .of_ok ok

end Buffer

end TensorExchange
