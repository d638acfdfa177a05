import TensorExchange.Config

/-!
Pointers: where memory begins.

A pointer is an address given as a number, or a place counted from the start of
a block of memory.  The address of a block is not known; it is a multiple of the
alignment with which the block was made, and no element has a larger size than
that, so whether an element is aligned depends on its place in the block alone.
Arithmetic wraps at the word: addresses are unsigned, and places are signed because
they may lie before the block.
-/

namespace TensorExchange

/-- The place of a byte. -/
inductive Pointer where
  | fixed (address : UInt64)
  | within (block : Nat) (offset : Int64)
deriving DecidableEq, Repr

namespace Pointer

def null : Pointer := fixed 0

/-- Where memory without bytes lies. -/
def dangling : Pointer := fixed 1

def isNull (p : Pointer) : Bool := p == null

/-- The place `n` bytes further on. -/
def shift (p : Pointer) (n : Int) : Pointer :=
  match p with
  | fixed address => fixed (UInt64.ofInt (address.toNat + n))
  | within block offset => within block (offset + Int64.ofInt n)

/-- Whether an element of this size may begin here. -/
def isAligned (p : Pointer) (size : Nat) : Bool :=
  match p with
  | fixed address => address.toNat % size == 0
  | within _ offset => offset.toInt % size == 0

/-- The alignment of a place, up to a page: the largest power of two that divides both. -/
def alignment (p : Pointer) : Nat :=
  match p with
  | fixed address => Nat.gcd address.toNat pageSize
  | within _ offset => Int.gcd offset.toInt pageSize

theorem shift_zero (p : Pointer) : p.shift 0 = p := by
  cases p with
  | fixed a =>
    have h : ((a.toNat : Int) % 2 ^ 64).toNat = a.toNat := by
      have := a.toNat_lt
      omega
    simp only [shift, Int.add_zero, UInt64.ofInt, h, UInt64.ofNat_toNat]
  | within b o => exact congrArg (within b) (Int64.add_zero o)

end Pointer

end TensorExchange
