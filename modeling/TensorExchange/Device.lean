import TensorExchange.Text.Blank
import TensorExchange.Text.Case
import TensorExchange.Text.Numeral

/-!
Devices: where the memory of a tensor lives.

A device is a kind of memory domain and an index among the devices of that kind.
The exchange format names it by a pair of signed numbers, people by a text such
as `cuda:1`.
-/

namespace TensorExchange

/-- Kinds of memory domain. -/
inductive DeviceKind where
  | cpu
  | cuda
  /-- Pinned host memory of a cuda runtime. -/
  | cudaHost
  | openCl
  | vulkan
  | metal
  | rocm
  /-- Pinned host memory of a rocm runtime. -/
  | rocmHost
  /-- Unified memory of a cuda runtime. -/
  | cudaManaged
  | oneApi
  | webGpu
deriving DecidableEq, Repr

namespace DeviceKind

def all : List DeviceKind :=
  [cpu, cuda, cudaHost, openCl, vulkan, metal, rocm, rocmHost, cudaManaged, oneApi, webGpu]

/-- The device type number of the exchange format. -/
def code : DeviceKind → Int32
  | cpu => 1
  | cuda => 2
  | cudaHost => 3
  | openCl => 4
  | vulkan => 7
  | metal => 8
  | rocm => 10
  | rocmHost => 11
  | cudaManaged => 13
  | oneApi => 14
  | webGpu => 15

def name : DeviceKind → String
  | cpu => "cpu"
  | cuda => "cuda"
  | cudaHost => "cuda_host"
  | openCl => "opencl"
  | vulkan => "vulkan"
  | metal => "metal"
  | rocm => "rocm"
  | rocmHost => "rocm_host"
  | cudaManaged => "cuda_managed"
  | oneApi => "oneapi"
  | webGpu => "webgpu"

/-- The kind as descriptions of buffers and capsules write it. -/
def tag : DeviceKind → String
  | cpu => "Cpu"
  | cuda => "Cuda"
  | cudaHost => "CudaHost"
  | openCl => "OpenCl"
  | vulkan => "Vulkan"
  | metal => "Metal"
  | rocm => "Rocm"
  | rocmHost => "RocmHost"
  | cudaManaged => "CudaManaged"
  | oneApi => "OneApi"
  | webGpu => "WebGpu"

/-- Further names that people use. -/
def aliases : DeviceKind → List String
  | cuda => ["gpu"]
  | metal => ["mps"]
  | rocm => ["hip"]
  | _ => []

def ofCode? (c : Int32) : Option DeviceKind := all.find? fun k => k.code = c

def ofName? (s : String) : Option DeviceKind :=
  all.find? fun k => s == k.name || k.aliases.contains s

/-- Whether the host can read and write memory of this kind. -/
def isHostAccessible : DeviceKind → Bool
  | cpu | cudaHost | rocmHost | cudaManaged => true
  | _ => false

theorem ofCode?_code (k : DeviceKind) : ofCode? k.code = some k := by
  cases k <;> decide

theorem code_of_ofCode? {c : Int32} {k : DeviceKind} (h : ofCode? c = some k) : k.code = c := by
  simpa using List.find?_some h

end DeviceKind

/-- A memory domain: a kind and an index among the devices of that kind. -/
structure Device where
  kind : DeviceKind
  index : UInt32
deriving DecidableEq, Repr

/-- The device type and device number of the exchange format. -/
structure DevicePair where
  type : Int32
  id : Int32
deriving DecidableEq, Repr, Inhabited

namespace Device

/-- Host memory. -/
def host : Device := ⟨.cpu, 0⟩

def isCpu (d : Device) : Bool := d.kind == .cpu

def isHostAccessible (d : Device) : Bool := d.kind.isHostAccessible

/-- How a device is shown; the index of host memory is left out. -/
def display (d : Device) : String :=
  if d.isCpu then "cpu"
  else d.kind.name ++ ":" ++ String.ofList (Text.decimal d.index.toNat)

/-- The device as descriptions of buffers and capsules write it. -/
def describe (d : Device) : String :=
  s!"Device \x7b kind: {d.kind.tag}, index: {d.index} \x7d"

/-- The part before the first colon, and the part after it if there is one. -/
def splitColon : List Char → List Char × Option (List Char)
  | [] => ([], none)
  | ':' :: cs => ([], some cs)
  | c :: cs => ((c :: (splitColon cs).1), (splitColon cs).2)

/-- The index a device text names: zero if it names none. -/
def readIndex? : Option (List Char) → Option UInt32
  | none => some 0
  | some cs =>
    match Text.readNumeral 0x100000000 cs with
    | .ok n => some (UInt32.ofNat n)
    | .error _ => none

/-- The device a person means; capitals and the blanks around the text do not matter. -/
def parse? (s : String) : Option Device := do
  let (name, index) := splitColon (Text.lower (Text.trim s)).toList
  let index ← readIndex? index
  let kind ← DeviceKind.ofName? (String.ofList name)
  return ⟨kind, index⟩

/-! ## The exchange pair -/

/-- The pair of a device; indices from 2³¹ on come out negative. -/
def pair (d : Device) : DevicePair := ⟨d.kind.code, d.index.toInt32⟩

/-- The device with this pair; numbers below zero name none. -/
def ofPair? (p : DevicePair) : Option Device :=
  if p.id < 0 then none
  else (DeviceKind.ofCode? p.type).map fun kind => ⟨kind, p.id.toUInt32⟩

end Device

instance : ToString Device := ⟨Device.display⟩

end TensorExchange
