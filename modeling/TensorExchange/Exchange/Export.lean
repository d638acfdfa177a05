import TensorExchange.Memory.Heap

/-!
Export: the managed tensor that carries a buffer to another runtime.

The strides are always written out.  The data begins at the base of the storage and the byte offset
is that of the buffer, so a view of a large storage is exported with an offset and not with another
pointer.

Extents, the rank and the device number are written in signed words without a check, the largest
ones coming out negative and a rank losing what is above its word.  An export never fails; what
becomes of such numbers is decided by whoever reads them.
-/

namespace TensorExchange

/-- The record of a buffer. -/
def Buffer.toRecord (b : Buffer) : TensorRecord where
  data := b.storage.base
  device := b.device.pair
  rank := Int32.ofNat b.layout.rank
  triple := b.type.triple
  shape := some b.layout.signedShape
  strides := some b.layout.strides
  byteOffset := b.layout.byteOffset

/-- The managed tensor that carries a buffer, in a form and with or without permission to write. -/
def ManagedTensor.ofBuffer (b : Buffer) (format : CapsuleFormat) (readOnly : Bool) :
    ManagedTensor :=
  ⟨.ofFormat format readOnly, b.toRecord, .exported b, true⟩

end TensorExchange
