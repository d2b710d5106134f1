import GpuQuota.Text.Blank
import GpuQuota.Text.Numeral
import GpuQuota.Word

/-!
# Devices

A region has room for sixteen devices. A device is named by its index in the region; the
management interface of the host numbers all devices of the machine in its own way, and a
`DeviceMap` leads from one numbering to the other.

The module introduces:

* `DeviceIndex`, `InvalidDevice`, `device?` — indices checked against the room of a region.
* `DeviceMap` — the visible devices, in region order.
-/

namespace GpuQuota

/-- The number of devices that a region has room for. -/
def maxDevices : Nat := 16

/-- An index of a device within a region. -/
abbrev DeviceIndex := Fin maxDevices

/-- The device whose memory quota is paired with a share of its compute time. -/
def governedDevice : DeviceIndex := ⟨0, by decide⟩

/-- A device index beyond the room of a region. -/
structure InvalidDevice where
  /-- The index that was asked for. -/
  index : Nat
  deriving DecidableEq, Repr

/-- The wording of a refused device index. -/
def InvalidDevice.message (e : InvalidDevice) : String :=
  s!"device index {e.index} out of range"

/-- The index as one within a region. -/
def device? (dev : Nat) : Except InvalidDevice DeviceIndex :=
  if h : dev < maxDevices then .ok ⟨dev, h⟩ else .error ⟨dev⟩

/-- The visible devices: entry `i` is the number that the management interface gives to region
device `i`. A number may stand more than once; the first place counts. -/
structure DeviceMap where
  /-- The management numbers in region order. -/
  visible : List Nat
  /-- There are no more entries than a region has devices. -/
  length_le : visible.length ≤ maxDevices := by decide
  deriving DecidableEq, Repr

namespace DeviceMap

/-- The first `count` devices of the machine under their own numbers. -/
def identity (count : Nat) : DeviceMap where
  visible := List.range (min count maxDevices)
  length_le := by
    rw [List.length_range]
    exact Nat.min_le_right _ _

/-- Reads a list of management numbers separated by commas. Blank entries are skipped; the list
must hold a number and nothing but numbers, and is cut at the room of a region. -/
def ofVisible? (text : String) : Option DeviceMap :=
  let entries := ((Text.pieces ',' text.toList).map Text.trim).filter (· ≠ [])
  match entries.mapM fun e => (Text.natural 10 wordMax e).toOption with
  | none | some [] => none
  | some numbers => some ⟨numbers.take maxDevices, List.length_take_le _ _⟩

/-- The region index of a management number. -/
def regionFor (map : DeviceMap) (number : Nat) : Option DeviceIndex :=
  match h : map.visible.findIdx? (· == number) with
  | none => none
  | some i => some ⟨i, by
      have := (List.findIdx?_eq_some_iff_findIdx_eq.1 h).1
      exact Nat.lt_of_lt_of_le this map.length_le⟩

/-- The management number of a region index. -/
def numberFor (map : DeviceMap) (dev : Nat) : Option Nat := map.visible[dev]?

/-- The number of visible devices. -/
def size (map : DeviceMap) : Nat := map.visible.length

end DeviceMap

end GpuQuota
