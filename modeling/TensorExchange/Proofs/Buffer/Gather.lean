import TensorExchange.Proofs.Buffer.Addressing
import TensorExchange.Proofs.RoundTrip

/-!
Gathering: the elements of a buffer are read in row-major order, each where the strides
put it.

There are two ways through the elements.  Packed rows are read as one slice.  All others
are gathered by an odometer that steps through the indices and computes the displacement
of each.  Which way is taken is decided by the layout, and a client cannot tell.

Main statement (`Session.gathered_run`), for a live buffer over memory of this library in
any session, and every `n` up to its count: what is read of the first `n` elements is, for
each `i < n`, the bytes at

    byteOffset + Σ (i-th index)ₖ · strideₖ · size

one after the other, where the `i`-th index has the digits of `i` in the mixed radix of the
extents; or it is a refusal, where the elements are scattered and the machine has no memory
for a copy of them.  Fewer elements are a prefix of more.  The checked arithmetic on the way
never fails, since the layout lies in its storage (`Proofs/Buffer/Addressing`).

Memory that another runtime lent may be longer than a signed word can measure, and may not
be there at all; it is left out by `Heap.Native`.
-/

namespace TensorExchange

namespace Buffer

variable {b : Buffer} {memory : Array UInt8}

/-- What is read of a buffer is what lies where its strides lead. -/
structure Gathers (b : Buffer) (h : Heap) (memory : Array UInt8) : Prop where
  /-- Each element is read at the digits of its row-major number, inside of the memory and without
  a number that leaves the signed words. -/
  elements : ∀ i < b.count, Inside b.layout.axes (unravel b.layout.axes i) ∧
    0 ≤ b.place i ∧ b.place i + b.type.size ≤ memory.size ∧
      b.elementAt memory (unravel b.layout.axes i) = .ok (b.elementBytes memory i)
  /-- The loop goes through the elements in that order, and would do so for packed ones too. -/
  loop : ∀ n ≤ b.count, b.gatherFrom memory n (b.layout.axes.map fun _ => 0) #[] =
    .ok (b.firstElements memory n)
  heads : ∀ n, b.Gatherable h (min n b.count) →
    b.headBytes h n = .ok (b.firstElements memory (min n b.count))
  refused : ∀ n, ¬ b.Gatherable h (min n b.count) →
    ∃ cause, b.headBytes h n = .error (.allocation cause)
  whole : b.toPacked h b.type = b.headBytes h b.count
  typed : ∀ n, b.head h b.type n = b.headBytes h n
  /-- What is read of fewer elements is a prefix of what is read of more. -/
  prefixes : ∀ n m data, n ≤ m → b.headBytes h m = .ok data →
    ∃ first rest, b.headBytes h n = .ok first ∧ data = first ++ rest ∧
      first.size = min n b.count * b.type.size

theorem head_of_type (h : Heap) (b : Buffer) (n : Nat) : b.head h b.type n = b.headBytes h n := by
  rw [head, checkType, if_pos rfl]
  rfl

theorem Addressable.gathers {h : Heap} (k : b.Addressable memory.size)
    (hmemory : h.storageBytes b.storage = .ok memory) (host : b.device.isHostAccessible = true) :
    b.Gathers h memory := by
  have heads : ∀ n, b.Gatherable h (min n b.count) →
      b.headBytes h n = .ok (b.firstElements memory (min n b.count)) := fun n ready =>
    (headBytes_of_host host n).trans (k.gather_eq hmemory (Nat.min_le_right ..) ready)
  have refused : ∀ n, ¬ b.Gatherable h (min n b.count) →
      ∃ cause, b.headBytes h n = .error (.allocation cause) := by
    intro n full
    rw [headBytes_of_host host]
    exact gather_of_not_gatherable hmemory full
  constructor
  case elements => exact fun i hi => ⟨k.exact.inside_unravel hi, k.elementAt_unravel hi⟩
  case loop => exact fun n hn => k.gatherFrom_first hn
  case heads => exact heads
  case refused => exact refused
  case whole => exact head_of_type h b b.count
  case typed => exact head_of_type h b
  case prefixes =>
    intro n m data hle hm
    have hmin : min n b.count ≤ min m b.count := by omega
    have ready : b.Gatherable h (min m b.count) := by
      by_contra full
      obtain ⟨cause, hcause⟩ := refused m full
      rw [hm] at hcause
      cases hcause
    obtain rfl := Except.ok.inj ((heads m ready).symm.trans hm)
    obtain ⟨rest, hrest⟩ := firstElements_prefix b memory hmin
    exact ⟨_, rest, heads n (ready.mono hmin), hrest,
      k.size_firstElements (Nat.min_le_right ..)⟩

end Buffer

theorem Heap.IsWhole.storageBytes {h : Heap} {s : Storage} (whole : h.IsWhole s) :
    ∃ memory, h.storageBytes s = .ok memory ∧ memory.size = s.size ∧ s.size ≤ maxSize := by
  by_cases hempty : s.size = 0
  · exact ⟨#[], if_pos hempty, hempty.symm, hempty ▸ Nat.zero_le _⟩
  · obtain ⟨block, bytes, hbase, hbytes, hsize, hsmall⟩ := whole hempty
    have := Heap.storageBytes_within 0 hbytes (hsize ▸ hsmall) hbase (by omega)
    exact ⟨_, this, Heap.size_storageBytes this, hsmall⟩

/-- Whatever the commands of a session are: what is read of a live buffer over memory of this
library is what its strides say. -/
theorem Session.gathered_run (m : Machine) (env : Config.Environment) (cs : List Command)
    {b : Buffer} (live : ((start m env).run cs).1.world.Live b)
    (native : ((start m env).run cs).1.heap.Native b.storage)
    (host : b.device.isHostAccessible = true) :
    ∃ memory, ((start m env).run cs).1.heap.storageBytes b.storage = .ok memory ∧
      b.Gathers ((start m env).run cs).1.heap memory := by
  have sound := (sound_run m env cs).live live
  have balanced := (moves_of_run (start m env) cs).balanced (Heap.balanced_empty m)
  obtain ⟨memory, hmemory, hsize, hsmall⟩ := (native.isWhole balanced sound.backed).storageBytes
  have addressable : b.Addressable memory.size :=
    ⟨sound.exact, hsize ▸ sound.fits, hsize ▸ hsmall⟩
  exact ⟨memory, hmemory, addressable.gathers hmemory host⟩

/-- The rows of the view that runs backwards, the last one first. -/
theorem Session.gathered_turned :
    (after turning).world.Live turned ∧
      (after turning).heap.Native turned.storage ∧
        turned.device.isHostAccessible = true ∧
          ∃ memory, (after turning).heap.storageBytes turned.storage =
              .ok memory ∧
            turned.Gathers (after turning).heap memory ∧
              turned.headBytes (after turning).heap 3 =
                .ok #[8, 9, 10, 11, 4, 5] := by
  have named : (after turning).buffers.get? "turned" = some turned := by
    decide +kernel
  have live := live_of_named named
  have native : (after turning).heap.Native turned.storage :=
    ⟨⟨.adopted 0, 2⟩, by decide +kernel, fun t h => by cases h⟩
  have host : turned.device.isHostAccessible = true := by decide
  obtain ⟨memory, hmemory, hgathers⟩ := gathered_run _ _ turning live native host
  exact ⟨live, native, host, memory, hmemory, hgathers, by decide +kernel⟩

end TensorExchange
