import TensorExchange.Proofs.Buffer.Read
import TensorExchange.Proofs.Exchange.Reimport
import TensorExchange.Proofs.Ownership.Session
import TensorExchange.Proofs.Soundness.Live
import TensorExchange.Proofs.Soundness.Moves

/-!
Bounds: no element lies outside of memory.

A layout is checked against memory where it is made: a view against the storage that it is
a view of, an import against the span that the tensor reaches, an allocation by counting.
A reshape is not checked, nor is a buffer that leaves a capsule, nor one that is adopted
from an import; they rely on what was checked before.

Main statement (`Session.inBounds_run`): after any commands, the layout of every live
buffer passes the check against its storage, and that of every capsule that was not
consumed lies in the memory it is counted from.  Live are the buffers under names and
those in capsules, registries, tensors on their way and owners of storages.  So the bytes
of packed rows, which are read and written as one slice without a look at the single
elements, lie inside as well, for bytes that are read and for windows that are written; and
what is exported and comes back lies in its storage again.

The invariant that carries this is `World.Sound` (`Proofs/Soundness`), which every move
keeps.  Here it is only read off: a sound buffer fits its storage, and a check asks exactly
that (`Layout.checkWithin_eq_ok_iff`).
-/

namespace TensorExchange

/-! ## The memory of capsules -/

/-- How many bytes there are from the base of a capsule on. -/
def Contents.room : Contents → Nat
  | native (some b) => b.storage.size
  | native none => 0
  | foreign d _ => d.size

/-- Where the memory begins that a capsule carries. -/
def Contents.base? : Contents → Option Pointer
  | native b => b.map fun b => b.storage.base
  | foreign d _ => some d.base

/-- Elements and memory of everything that is held. -/
structure World.InBounds (w : World) : Prop where
  buffers : ∀ b, w.Live b → b.layout.checkWithin b.type.size b.storage.size = .ok ()
  capsules : ∀ c, .capsule c ∈ w.things → c.isConsumed = false →
    c.contents.base? = some c.base ∧
      c.info.layout.checkWithin c.info.type.size c.contents.room = .ok ()
  /-- Packed rows are inside, though nobody checks them where they are taken as a slice. -/
  packedBuffers : ∀ b, w.Live b → b.layout.isContiguous = true → b.count ≠ 0 →
    b.layout.byteOffset.toNat + b.count * b.type.size ≤ b.storage.size
  /-- So are the bytes that a buffer gives out for writing. -/
  windows : ∀ b window, w.Live b → b.window w.heap = .ok window → window.size ≠ 0 →
    window.start = b.storage.base.shift b.layout.byteOffset.toNat ∧
      b.layout.byteOffset.toNat + window.size ≤ b.storage.size
  packedCapsules : ∀ c, .capsule c ∈ w.things → c.isConsumed = false →
    c.info.layout.isContiguous = true → c.info.layout.count ≠ 0 →
      c.info.layout.byteOffset.toNat + c.info.layout.count * c.info.type.size ≤ c.contents.room
  /-- The storage of a live buffer is in the heap, over as many bytes as its owner keeps. -/
  storages : ∀ b, w.Live b →
    ∃ x, w.heap.holdings.get? b.storage.id = some x ∧ x.owner.Backs w.heap b.storage
  /-- What comes back from an export lies in the storage that was exported. -/
  reimports : ∀ c d t b, .capsule c ∈ w.things → c.contents = .foreign d (some t) →
    t.keeper = .exported b → b.layout.rank < 2 ^ 32 → b.count ≠ 0 →
      ∃ n : Nat, c.base = b.storage.base.shift n ∧ n + d.size ≤ b.storage.size

/-! ## Proof -/

namespace Buffer.Sound

variable {h : Heap} {b : Buffer}

theorem checkWithin (k : b.Sound h) : b.layout.checkWithin b.type.size b.storage.size = .ok () :=
  (Layout.checkWithin_eq_ok_iff b.type.size_pos).mpr k.fits

theorem room (k : b.Sound h) (packed : b.layout.isContiguous = true) (hne : b.count ≠ 0) :
    b.layout.byteOffset.toNat + b.count * b.type.size ≤ b.storage.size :=
  Layout.room_of_fits k.exact packed k.fits hne

theorem returns_within (k : b.Sound h) {d : Described} (hd : Described.Returns b d)
    (hne : b.count ≠ 0) :
    ∃ n : Nat, d.base = b.storage.base.shift n ∧ n + d.size ≤ b.storage.size := by
  obtain ⟨hstart, hstop, _⟩ := k.fits hne
  have hsize := hd.size hne
  refine ⟨(b.layout.start b.type.size).toNat, ?_, by omega⟩
  rw [Int.toNat_of_nonneg hstart]
  exact hd.base hne

end Buffer.Sound

theorem Buffer.window_eq_ok {h : Heap} {b : Buffer} {w : Window} (ok : b.window h = .ok w) :
    b.checkHost = .ok () ∧ b.layout.isContiguous = true ∧ b.packedSize b.count = .ok w.size ∧
      h.isSole b.storage = true ∧
        w.start = if w.size = 0 then .dangling
          else b.storage.base.shift b.layout.byteOffset.toNat := by
  obtain ⟨⟨⟩, hhost, ok⟩ := bind_eq_ok.mp ok
  obtain ⟨⟨⟩, hpacked, ok⟩ := bind_eq_ok.mp ok
  obtain ⟨_, ok⟩ := guard_eq_ok.mp ok
  obtain ⟨size, hsize, ok⟩ := bind_eq_ok.mp ok
  obtain ⟨hsole, ok⟩ := guard_eq_ok.mp ok
  have hpacked : b.layout.isContiguous = true := by
    unfold checkContiguous at hpacked
    split at hpacked
    · assumption
    · cases hpacked
  have hsole : h.isSole b.storage = true := by simpa using hsole
  split at ok
  case isTrue hzero =>
    obtain rfl := pure_eq_ok.mp ok
    exact ⟨hhost, hpacked, hzero ▸ hsize, hsole, rfl⟩
  case isFalse hne =>
    obtain rfl := pure_eq_ok.mp ok
    exact ⟨hhost, hpacked, hsize, hsole, (if_neg hne).symm⟩

theorem Buffer.Sound.window {h : Heap} {b : Buffer} {window : Window} (k : b.Sound h)
    (ok : b.window h = .ok window) (hne : window.size ≠ 0) :
    window.start = b.storage.base.shift b.layout.byteOffset.toNat ∧
      b.layout.byteOffset.toNat + window.size ≤ b.storage.size := by
  obtain ⟨_, hpacked, hsize, _, hstart⟩ := window_eq_ok ok
  have hsize := packedSize_eq_ok hsize
  have hcount : b.count ≠ 0 := fun hzero => hne (by rw [hsize, hzero, Nat.zero_mul])
  rw [if_neg hne] at hstart
  exact ⟨hstart, hsize ▸ k.room hpacked hcount⟩

/-- A capsule that was not consumed carries a sound buffer or a tensor that it describes. -/
theorem Capsule.Sound.cases {h : Heap} {c : Capsule} (k : c.Sound h) (hc : c.isConsumed = false) :
    (∃ b o, c = .wrapWith b o ∧ b.Sound h) ∨
      ∃ d t, c.contents = .foreign d (some t) ∧ Capsule.ofTensor t = .ok c ∧ t.Sound h := by
  unfold Capsule.Sound at k
  split at k
  next b hcontents =>
    obtain ⟨⟨o, rfl⟩, hb⟩ := k
    exact .inl ⟨b, o, rfl, hb⟩
  next d t hcontents => exact .inr ⟨d, t, hcontents, k⟩
  next => simp [isConsumed, k] at hc
  next => simp [isConsumed, k] at hc

theorem Capsule.Sound.fits {h : Heap} {c : Capsule} (k : c.Sound h) (hc : c.isConsumed = false) :
    c.contents.base? = some c.base ∧ c.info.layout.Exact ∧
      c.info.layout.Fits c.info.type.size c.contents.room := by
  rcases k.cases hc with ⟨b, o, rfl, hb⟩ | ⟨d, t, hcontents, hok, _⟩
  · exact ⟨rfl, hb.exact, hb.fits⟩
  · obtain ⟨d', hd', rfl⟩ := Capsule.ofTensor_eq_ok hok
    have hd := Described.Describes.of_ofTensor hd'
    exact ⟨rfl, hd.exact, hd.fits⟩

/-- Sound things are in bounds, and the books say that their storages are there. -/
theorem World.Sound.inBounds {w : World} (k : w.Sound) (balanced : w.Balanced) : w.InBounds where
  buffers := fun b live => (k.live live).checkWithin
  capsules := by
    intro c hc hopen
    obtain ⟨hbase, _, hfits⟩ := Capsule.Sound.fits (k.things _ hc) hopen
    exact ⟨hbase, (Layout.checkWithin_eq_ok_iff c.info.type.size_pos).mpr hfits⟩
  packedBuffers := fun b live => (k.live live).room
  windows := fun b window live => (k.live live).window
  packedCapsules := by
    intro c hc hopen packed hne
    obtain ⟨_, hexact, hfits⟩ := Capsule.Sound.fits (k.things _ hc) hopen
    exact Layout.room_of_fits hexact packed hfits hne
  storages := fun b live => balanced.owner_of_live k live
  reimports := by
    intro c d t b hc hcontents hkeeper hrank hne
    have hcapsule : Capsule.Sound w.heap c := k.things _ hc
    simp only [Capsule.Sound, hcontents] at hcapsule
    obtain ⟨hok, ht⟩ := hcapsule
    obtain ⟨hrecord, hb⟩ := ht b hkeeper
    obtain ⟨d', hd', rfl⟩ := Capsule.ofTensor_eq_ok hok
    obtain ⟨rfl, _⟩ := by simpa using hcontents
    exact hb.returns_within ((Described.Describes.of_ofTensor hd').returns hrecord hrank) hne

end TensorExchange
