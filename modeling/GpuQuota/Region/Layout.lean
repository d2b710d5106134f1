import GpuQuota.Region

/-!
# The file layout of a region

A region lives in a file of fixed layout: little-endian words at fixed offsets, two semaphores of
32 bytes whose first word is the count, and room that no field uses, which is left as it is.

The module introduces:

* `Layout.size`, `Layout.slotSize` — the sizes of a region and of a slot.
* `Layout.word`, `Layout.setWord` — a little-endian word within bytes; what lies past the end
  reads as zero.
* `Region.ofBytes`, `Region.writeTo` — reading the fields of a region, and storing them into the
  bytes that they came from.
-/

namespace GpuQuota

namespace Layout

/-- The bytes of one device's usage within a slot. -/
def usageSize : Nat := 64

/-- The bytes of one device's observed shares within a slot. -/
def sharesSize : Nat := 48

/-- The bytes of a slot. -/
def slotSize : Nat := 0x7A8

/-- Where the count of the lock's semaphore stands. -/
def lockOffset : Nat := 24

/-- Where the count of the semaphore for host identities stands. -/
def postinitOffset : Nat := 56

/-- The bytes of a device name in the header. -/
def deviceNameSize : Nat := 96

/-- Where the memory limits stand, after the device names. -/
def memoryLimitsOffset : Nat := 96 + maxDevices * deviceNameSize

/-- Where the compute limits stand. -/
def computeLimitsOffset : Nat := memoryLimitsOffset + maxDevices * 8

/-- Where the slots stand. -/
def slotsOffset : Nat := computeLimitsOffset + maxDevices * 8

/-- Where the words after the slots stand. -/
def trailerOffset : Nat := slotsOffset + maxProcesses * slotSize

/-- The bytes of a region. -/
def size : Nat := trailerOffset + 64

/-! ## Words -/

/-- The word of `width` bytes at an offset, lowest byte first. -/
def word (bytes : ByteArray) (offset : Nat) : (width : Nat) → Nat
  | 0 => 0
  | width + 1 =>
    (bytes[offset]?.getD 0).toNat + 256 * word bytes (offset + 1) width

/-- Stores a word of `width` bytes at an offset, lowest byte first. -/
def setWord (bytes : ByteArray) (offset : Nat) (value : Nat) : (width : Nat) → ByteArray
  | 0 => bytes
  | width + 1 => setWord (bytes.set! offset (UInt8.ofNat value)) (offset + 1) (value / 256) width

/-- A word of eight bytes. -/
def word64 (bytes : ByteArray) (offset : Nat) : UInt64 := UInt64.ofNat (word bytes offset 8)

/-- A signed word of four bytes. -/
def int32 (bytes : ByteArray) (offset : Nat) : Int := wrap32 (word bytes offset 4)

/-- Stores a word of eight bytes. -/
def setWord64 (bytes : ByteArray) (offset : Nat) (value : UInt64) : ByteArray :=
  setWord bytes offset value.toNat 8

/-- Stores a signed word of four bytes. -/
def setInt32 (bytes : ByteArray) (offset : Nat) (value : Int) : ByteArray :=
  setWord bytes offset (value % 0x100000000).toNat 4

/-- The bytes continued with zeros up to a length. -/
def padTo (bytes : ByteArray) (length : Nat) : ByteArray :=
  bytes ++ ⟨Array.replicate (length - bytes.size) 0⟩

/-! ## Slots -/

/-- Where the usage on a device stands within a slot. -/
def usageOffset (slot : Nat) (d : Nat) : Nat := slot + 0x10 + d * usageSize

/-- Where the observed memory on a device stands within a slot. -/
def monitorOffset (slot : Nat) (d : Nat) : Nat := slot + 0x410 + d * 8

/-- Where the observed shares on a device stand within a slot. -/
def sharesOffset (slot : Nat) (d : Nat) : Nat := slot + 0x490 + d * sharesSize

/-- Where the status of a slot stands. -/
def statusOffset (slot : Nat) : Nat := slot + 0x790

/-- Reads one device of the slot at an offset. -/
def readDevice (bytes : ByteArray) (slot : Nat) (d : Nat) : DeviceRecord where
  usage :=
    { context := word64 bytes (usageOffset slot d)
      module := word64 bytes (usageOffset slot d + 8)
      data := word64 bytes (usageOffset slot d + 16)
      total := word64 bytes (usageOffset slot d + 32) }
  monitor := word64 bytes (monitorOffset slot d)
  decoder := word64 bytes (sharesOffset slot d)
  encoder := word64 bytes (sharesOffset slot d + 8)
  compute := word64 bytes (sharesOffset slot d + 16)

/-- Stores one device of the slot at an offset. -/
def writeDevice (bytes : ByteArray) (slot : Nat) (d : Nat) (r : DeviceRecord) : ByteArray :=
  let bytes := setWord64 bytes (usageOffset slot d) r.usage.context
  let bytes := setWord64 bytes (usageOffset slot d + 8) r.usage.module
  let bytes := setWord64 bytes (usageOffset slot d + 16) r.usage.data
  let bytes := setWord64 bytes (usageOffset slot d + 32) r.usage.total
  let bytes := setWord64 bytes (monitorOffset slot d) r.monitor
  let bytes := setWord64 bytes (sharesOffset slot d) r.decoder
  let bytes := setWord64 bytes (sharesOffset slot d + 8) r.encoder
  setWord64 bytes (sharesOffset slot d + 16) r.compute

/-- Reads the slot at an offset. -/
def readSlot (bytes : ByteArray) (slot : Nat) : Slot :=
  if bytes.size ≤ slot then .empty
  else
    { pid := int32 bytes slot
      hostPid := int32 bytes (slot + 4)
      seq := word64 bytes (slot + 8)
      devices := .ofFn fun d => readDevice bytes slot d
      rawStatus := int32 bytes (statusOffset slot) }

/-- Stores the slot at an offset. -/
def writeSlot (bytes : ByteArray) (slot : Nat) (s : Slot) : ByteArray :=
  let bytes := setInt32 bytes slot s.pid
  let bytes := setInt32 bytes (slot + 4) s.hostPid
  let bytes := setWord64 bytes (slot + 8) s.seq
  let bytes := s.devices.toList.zipIdx.foldl (fun b (r, d) => writeDevice b slot d r) bytes
  setInt32 bytes (statusOffset slot) s.rawStatus

/-- Where a slot stands. -/
def slotOffset (i : Nat) : Nat := slotsOffset + i * slotSize

/-- Stores one word of eight bytes for each device. -/
def writeLimits (bytes : ByteArray) (offset : Nat) (limits : Vector UInt64 maxDevices) :
    ByteArray :=
  limits.toList.zipIdx.foldl (fun b (n, d) => setWord64 b (offset + d * 8) n) bytes

end Layout

namespace Region

open Layout

/-- Reads the fields of a region. -/
def ofBytes (bytes : ByteArray) : Region where
  flag := int32 bytes 0
  major := word bytes 4 4
  minor := word bytes 8 4
  computeFlag := int32 bytes 12
  lock := { owner := int32 bytes 16, count := word bytes lockOffset 4 }
  postinit := word bytes postinitOffset 4
  deviceNum := word64 bytes 88
  memoryLimits := .ofFn fun d => word64 bytes (memoryLimitsOffset + d * 8)
  computeLimits := .ofFn fun d => word64 bytes (computeLimitsOffset + d * 8)
  slots := .ofFn fun i => readSlot bytes (slotOffset i)
  procNum := int32 bytes trailerOffset
  highWater := int32 bytes (trailerOffset + 4)
  switch := int32 bytes (trailerOffset + 8)
  recentKernel := int32 bytes (trailerOffset + 12)
  priority := int32 bytes (trailerOffset + 16)
  lastKernel := word64 bytes (trailerOffset + 24)

/-- Stores the fields of a region into bytes, which are continued with zeros where they are too
short. The room between the fields keeps its bytes. -/
def writeTo (r : Region) (bytes : ByteArray) : ByteArray :=
  let bytes := padTo bytes size
  let bytes := setInt32 bytes 0 r.flag
  let bytes := setWord bytes 4 r.major 4
  let bytes := setWord bytes 8 r.minor 4
  let bytes := setInt32 bytes 12 r.computeFlag
  let bytes := setInt32 bytes 16 r.lock.owner
  let bytes := setWord bytes lockOffset r.lock.count 4
  let bytes := setWord bytes postinitOffset r.postinit 4
  let bytes := setWord64 bytes 88 r.deviceNum
  let bytes := writeLimits bytes memoryLimitsOffset r.memoryLimits
  let bytes := writeLimits bytes computeLimitsOffset r.computeLimits
  let bytes := r.slots.toList.zipIdx.foldl (fun b (s, i) => writeSlot b (slotOffset i) s) bytes
  let bytes := setInt32 bytes trailerOffset r.procNum
  let bytes := setInt32 bytes (trailerOffset + 4) r.highWater
  let bytes := setInt32 bytes (trailerOffset + 8) r.switch
  let bytes := setInt32 bytes (trailerOffset + 12) r.recentKernel
  let bytes := setInt32 bytes (trailerOffset + 16) r.priority
  setWord64 bytes (trailerOffset + 24) r.lastKernel

end Region

end GpuQuota
