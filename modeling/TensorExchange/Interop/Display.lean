import TensorExchange.Buffer.Read
import TensorExchange.Interop.Object
import TensorExchange.Scalar

/-!
How tensors are shown to a script.

A tensor object shows its shape, type and device, and whether it was handed over.
A printed tensor shows its layout too, and its first values if the host can read
them, with the number of all values when there are more.
-/

namespace TensorExchange.Interop

/-- How a tensor object is shown. -/
def showTensor (c : Capsule) : String :=
  s!"Tensor(shape={Text.listing c.info.layout.shape}, dtype={c.info.type}, " ++
    s!"device={c.info.device}" ++ (if c.isConsumed then ", consumed)" else ")")

/-- How many values of a tensor are printed. -/
def previewLength : Nat := 8

/-- The first values of a tensor of `total` values. -/
def preview (values : List Scalar) (total : Nat) : String :=
  let shown := Text.bracketed (values.map Scalar.write)
  if values.length < total then s!"{shown} ... ({total} total)" else shown

/-- The line that prints a buffer. -/
def printed (h : Heap) (b : Buffer) : Except Error String := do
  let head := s!"shape={Text.listing b.layout.shape} strides={Text.listing b.layout.strides} " ++
    s!"dtype={b.type} device={b.device}"
  if b.device.isHostAccessible then
    let data ← b.headBytes h previewLength
    return head ++ s!" values={preview (b.type.decodeAll data) b.count}\n"
  else return head ++ "\n"

end TensorExchange.Interop
