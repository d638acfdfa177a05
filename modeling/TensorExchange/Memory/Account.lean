import TensorExchange.Memory.Heap

/-!
Accounts: what passed through a backend, counted from the journal of the heap.

The counters are not kept beside the heap but folded from its journal, event by event, oldest
first.  So they can not disagree with what happened, and what is to be proved is that they agree
with what is there: that the live bytes are the bytes of the allocations somebody still holds, and
that the peak is the most that was live at any moment.

Events of other accounts, and what happens to the tensors of other runtimes, do not count.
-/

namespace TensorExchange

/-- The counters of an account. -/
structure Stats where
  allocations : Nat
  deallocations : Nat
  /-- The bytes handed out and not yet returned. -/
  liveBytes : Nat
  /-- The most bytes that were live at a time. -/
  peakBytes : Nat
deriving DecidableEq, Repr

namespace Stats

def zero : Stats := ⟨0, 0, 0, 0⟩

/-- Allocations not yet returned. -/
def liveAllocations (s : Stats) : Nat := s.allocations - s.deallocations

/-- The counters after one more event; events of other accounts do not count. -/
def next (account : Nat) (s : Stats) : Event → Stats
  | .allocated a =>
    if a.backend.account = account then
      { s with
        allocations := s.allocations + 1
        liveBytes := s.liveBytes + a.size
        peakBytes := max s.peakBytes (s.liveBytes + a.size) }
    else s
  | .freed a =>
    if a.backend.account = account then
      { s with deallocations := s.deallocations + 1, liveBytes := s.liveBytes - a.size }
    else s
  | .lent .. => s
  | .deleted _ => s

end Stats

/-- The counters of an account. -/
def Heap.stats (h : Heap) (account : Nat) : Stats :=
  h.journal.foldr (fun e s => s.next account e) .zero

end TensorExchange
