import TensorExchange.Proofs.Ownership.Session
import TensorExchange.Proofs.Soundness.Sound

/-!
Soundness is kept by every move.

What is new in a move is sound for a reason of its own, one of four: memory was handed in or
out for it, its layout was checked against its storage, packed elements were given another
shape, or a description was adopted.  Each reason is one lemma, and these lemmas are where the
layouts of `Proofs/Layout` meet the heap:

    Buffer.sound_ofBytes, Allocator.sound_allocate    packed rows in memory of their size
    Buffer.Sound.view                                 checked against the storage
    Buffer.Sound.reshape                              not checked, but the hull is the same
    Heap.sound_adopt                                  the bytes that a description reaches

Everything else stays sound while the heap grows (`Proofs/Soundness/Growth`), so a case of
`Move.sound` names what is new and cites one of these.

A capsule may describe what it carries or have been emptied, and a tensor may have been
exported here or come from elsewhere.  Of tensors from elsewhere nothing is assumed until they
are described; a description says itself what it reaches.
-/

namespace TensorExchange

variable {h h' : Heap}

/-! ## New buffers -/

theorem Layout.count_vector (n : UInt64) : (vector n).count = n.toNat := by
  rw [(vector_exact n).count_eq]
  simp [vector, shape]

theorem Buffer.sound_ofBytes (h : Heap) (type : ElementType) {bytes : Array UInt8}
    (small : bytes.size ≤ maxSize) : (ofBytes h type bytes).2.Sound (ofBytes h type bytes).1 := by
  have hcount : (UInt64.ofNat (bytes.size / type.size)).toNat * type.size ≤ bytes.size := by
    rw [UInt64.toNat_ofNat']
    exact (Nat.mul_le_mul_right _ (Nat.mod_le ..)).trans (Nat.div_mul_le_self ..)
  have hfits :
      (Layout.vector (UInt64.ofNat (bytes.size / type.size))).Fits type.size bytes.size := by
    refine Layout.fits_of_isContiguous (Layout.vector_exact _) (Layout.vector_isContiguous _) ?_
    rw [Layout.count_vector]
    simpa [Layout.vector] using hcount
  unfold ofBytes
  split
  case isTrue hempty =>
    have hsize : bytes.size = 0 := by simpa using hempty
    rw [hsize] at hfits
    rw [hsize]
    exact ⟨Heap.backs_addStorage rfl, Layout.vector_exact _, hfits⟩
  case isFalse =>
    refine ⟨Heap.backs_addStorage ⟨rfl, small, ?_, fun data found => ?_⟩, Layout.vector_exact _,
      hfits⟩
    · simp only [Heap.addBlock, Table.next_add]
      exact Nat.lt_succ_self _
    · have hfound : some bytes = some data := (Table.get?_add_next ..).symm.trans found
      exact Option.some.inj hfound ▸ rfl

theorem Allocator.plan_eq_ok {a : Allocator} {type : ElementType} {shape : List UInt64}
    {device : Device} {layout : Layout} {n : Nat}
    (ok : a.plan type shape device = .ok (layout, n)) :
    Layout.contiguous shape = .ok layout ∧ n = layout.count * type.size ∧ n ≤ maxSize := by
  simp only [plan, guard_eq_ok, bind_eq_ok, orLayoutError_eq_ok] at ok
  obtain ⟨_, layout', hlayout, ok⟩ := ok
  split at ok
  next => cases ok
  next m hbytes =>
    obtain ⟨_, ok⟩ := guard_eq_ok.mp ok
    obtain ⟨rfl, rfl⟩ := Prod.mk.inj (pure_eq_ok.mp ok)
    unfold Layout.bytes? at hbytes
    split at hbytes
    next hle =>
      obtain rfl := Option.some.inj hbytes
      exact ⟨hlayout, rfl, hle⟩
    next => cases hbytes

theorem Heap.allocate_eq_ok {backend : Backend} {size alignment : Nat} {device : Device}
    {a : Allocation} (ok : h.allocate backend size alignment device = .ok (h', a)) :
    a = ⟨backend, h.blocks.next, size, alignment, device⟩ ∧
      h' = (h.addBlock (Array.replicate size 0)).1.record (.allocated a) := by
  obtain ⟨_, _, ok⟩ := bind_eq_ok.mp ok
  obtain ⟨rfl, rfl⟩ := Prod.mk.inj (pure_eq_ok.mp ok)
  exact ⟨rfl, rfl⟩

/-- A new buffer has as many bytes as it asked for. -/
theorem Allocator.sound_allocate {a : Allocator} {type : ElementType} {shape : List UInt64}
    {device : Device} {b : Buffer} (ok : a.allocate h type shape device = .ok (h', b)) :
    b.Sound h' := by
  obtain ⟨layout, n, hplan, hcases⟩ := allocate_eq_ok ok
  obtain ⟨hlayout, rfl, hsmall⟩ := plan_eq_ok hplan
  have hexact := Layout.exact_of_contiguous hlayout
  have hfits : layout.Fits type.size (layout.count * type.size) := by
    refine Layout.fits_of_isContiguous hexact (Layout.isContiguous_of_contiguous hlayout) ?_
    obtain ⟨_, rfl⟩ := Layout.contiguous_eq_ok_iff.mp hlayout
    simp
  rcases hcases with ⟨hn, s, hadd, rfl⟩ | ⟨h₁, allocation, s, _, halloc, hadd, rfl⟩
  · obtain ⟨rfl, rfl⟩ := Prod.mk.inj hadd
    rw [hn] at hfits
    exact ⟨Heap.backs_addStorage rfl, hexact, hfits⟩
  · obtain ⟨rfl, rfl⟩ := Prod.mk.inj hadd
    obtain ⟨rfl, rfl⟩ := Heap.allocate_eq_ok halloc
    refine ⟨Heap.backs_addStorage ⟨rfl, rfl, rfl, rfl, hsmall, ?_, fun data found => ?_⟩, hexact,
      hfits⟩
    · simp only [Heap.addBlock, Heap.record, Table.next_add]
      exact Nat.lt_succ_self _
    · have hfound : some _ = some data := (Table.get?_add_next ..).symm.trans found
      rw [← Option.some.inj hfound]
      exact Array.size_replicate ..

/-- A view was checked against the storage. -/
theorem Buffer.Sound.view {b : Buffer} (k : b.Sound h) {shape : List UInt64} {strides : List Int64}
    {byteOffset : UInt64} {layout : Layout}
    (ok : b.viewLayout shape strides byteOffset = .ok layout) : (b.withLayout layout).Sound h := by
  obtain ⟨layout', hstrided, ok⟩ := bind_eq_ok.mp ok
  obtain ⟨⟨⟩, hcheck, ok⟩ := bind_eq_ok.mp ok
  obtain rfl := pure_eq_ok.mp ok
  exact ⟨k.backed, Layout.exact_of_strided hstrided,
    (Layout.checkWithin_eq_ok_iff b.type.size_pos).mp hcheck⟩

/-- A reshape needs no check, since its elements are those that were packed there. -/
theorem Buffer.Sound.reshape {b : Buffer} (k : b.Sound h) {shape : List UInt64} {layout : Layout}
    (ok : b.reshapeLayout shape = .ok layout) : (b.withLayout layout).Sound h := by
  obtain ⟨hpacked, ok⟩ := guard_eq_ok.mp ok
  have hreshaped := orShapeError_eq_ok.mp ok
  have hpacked : b.layout.isContiguous = true := by simpa using hpacked
  exact ⟨k.backed, (Layout.reshaped_eq_ok hreshaped).2.2.1,
    Layout.fits_of_reshaped k.exact hpacked k.fits hreshaped⟩

theorem Heap.sound_adopt {t : ManagedTensor} {d : Described} (hd : d.Describes t) (h : Heap) :
    (h.adopt t d).2.Sound (h.adopt t d).1 :=
  ⟨Heap.backs_addStorage ⟨d, hd, rfl, rfl, rfl⟩, hd.exact, hd.fits⟩

theorem Buffer.Sound.deliver {b : Buffer} (k : b.Sound h) (c : Capsule) :
    (c.deliver b).Sound h := by
  unfold Capsule.deliver
  split
  · exact ⟨k.backed, k.exact, k.fits⟩
  · exact k

/-! ## Capsules and tensors -/

theorem Capsule.sound_spent (c : Capsule) : c.spent.Sound h := by
  unfold Capsule.spent Capsule.emptied
  split <;> rfl

theorem Capsule.Sound.takeTensor {c c' : Capsule} {t : ManagedTensor} (k : c.Sound h)
    (ok : c.takeTensor = .ok (c', t)) : t.Sound h := by
  obtain ⟨_, htensor⟩ := takeTensor_eq_ok ok
  rcases tensor?_eq_some htensor with ⟨inner, hcontents, rfl⟩ | ⟨d, t', hcontents, rfl⟩
  · simp only [Capsule.Sound, hcontents] at k
    intro b hb
    obtain rfl : inner = b := by simpa [ManagedTensor.ofBuffer] using hb
    exact ⟨rfl, k.2⟩
  · simp only [Capsule.Sound, hcontents] at k
    exact k.2

theorem ManagedTensor.sound_addForeign (h : Heap) (f : ForeignTensor) (n : Nat) :
    (h.addForeign f n).2.Sound (h.addForeign f n).1 :=
  fun _ hb => nomatch hb

theorem Capsule.sound_ofTensor {t : ManagedTensor} {c : Capsule} (k : t.Sound h)
    (ok : Capsule.ofTensor t = .ok c) : c.Sound h := by
  have hok := ok
  obtain ⟨d, _, rfl⟩ := ofTensor_eq_ok ok
  exact ⟨hok, k⟩

theorem Capsule.describes_of_ofTensor {t t' : ManagedTensor} {c : Capsule} {d : Described}
    (ok : Capsule.ofTensor t' = .ok c) (hcontents : c.contents = .foreign d (some t)) :
    d.Describes t := by
  obtain ⟨d', hd', rfl⟩ := ofTensor_eq_ok ok
  obtain ⟨rfl, rfl⟩ := by simpa using hcontents
  exact .of_ofTensor hd'

/-! ## Moves -/

theorem Move.sound {w w' : World} (m : Move w w') (k : w.Sound) : w'.Sound := by
  cases m with
  | adopt h things n type bytes small =>
    exact (k.grown (.ofBytes h trivial trivial ..)).cons (Buffer.sound_ofBytes h type small)
  | allocate ok =>
    exact (k.grown (.allocateBuffer trivial (fun _ _ _ => trivial) ok)).cons
      (Allocator.sound_allocate ok)
  | view mem ok =>
    have hb : Buffer.Sound _ _ := k.things _ mem
    exact (k.cons (x := .buffer _) (hb.view ok)).grown (.retain ..)
  | reshape mem ok =>
    have hb : Buffer.Sound _ _ := k.things _ mem
    exact (k.cons (x := .buffer _) (hb.reshape ok)).grown (.retain ..)
  | write position data mem ok => exact k.grown (.write ..)
  | drop h things n b => exact k.tail.grown (.drop ..)
  | wrap h things n b o => exact k.tail.cons ⟨⟨o, rfl⟩, k.head⟩
  | @consume h things n c a h' c' b ok =>
    have hc : Capsule.Sound h c := k.head
    obtain ⟨_, rfl, ⟨inner, hcontents, rfl, rfl⟩ | ⟨d, t, hcontents, rfl, rfl⟩⟩ :=
      Capsule.consumeAs_eq_ok ok
    · simp only [Capsule.Sound, hcontents] at hc
      exact (k.tail.cons (x := .buffer _) (hc.2.deliver c)).cons (Capsule.sound_spent c)
    · simp only [Capsule.Sound, hcontents] at hc
      have hd := Capsule.describes_of_ofTensor hc.1 hcontents
      refine World.Sound.cons (World.Sound.cons ?_ ?_) (Capsule.sound_spent c)
      · exact k.tail.grown (.adopt h hc.2 d)
      · exact (Heap.sound_adopt hd h).deliver c
  | takeTensor ok =>
    have hc : Capsule.Sound _ _ := k.head
    obtain ⟨rfl, _⟩ := Capsule.takeTensor_eq_ok ok
    exact (k.tail.cons (x := .tensor _) (hc.takeTensor ok)).cons (Capsule.sound_spent _)
  | dropCapsule h things n c => exact k.tail.grown (.dropCapsule ..)
  | importTensor ok => exact k.tail.cons (Capsule.sound_ofTensor k.head ok)
  | delete h things n t => exact k.tail.grown (.delete ..)
  | lend h things n f =>
    exact (k.grown (.addForeign ..)).cons (ManagedTensor.sound_addForeign h f (n + 1))
  | skip h things n => exact k.grown (.refl _)
  | obtain ok => exact (k.grown (.allocate ok)).cons trivial
  | giveBack h things n a => exact k.tail.grown (.free ..)

theorem Moves.sound {w w' : World} (m : Moves w w') (k : w.Sound) : w'.Sound := by
  induction m with
  | refl => exact k
  | tail _ last ih => exact last.sound ih

/-- Everything in a session is sound, whatever its commands were. -/
theorem Session.sound_run (m : Machine) (env : Config.Environment) (cs : List Command) :
    ((start m env).run cs).1.world.Sound :=
  (moves_of_run (start m env) cs).sound (World.sound_empty m 0)

end TensorExchange
