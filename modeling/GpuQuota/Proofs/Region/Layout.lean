import GpuQuota.Host.Files
import GpuQuota.Proofs.Region.Fields

/-!
# A region in its file

Whoever maps a region reads its fields out of the bytes of a file, and on the way back the fields
are stored into the bytes that they came from. If no field has changed, no byte changes, and the
room between the fields is left alone in any case. Whoever reads the file next finds every field as
it was stored, as far as its word goes.

The module introduces:

* `Layout.slotFields`, `Region.fields` — a slot and a region as lists of fields;
  `Region.writeTo_eq_foldl`.
* `Region.block_fields` — the fields of a region lie within its size and have no byte in common.
* `Region.alike_writeTo_ofBytes` — storing the region that was read.
* `Region.StoredIn` — bytes that hold a region; `Region.storedIn_writeTo`.
* `Region.wrapped`, `Region.StoredIn.ofBytes_eq` — reading the region that was stored.
* `FileNode.allBytes_store_region`, `FileNode.ofBytes_allBytes_store` — the same for a file.
-/

namespace GpuQuota

namespace Layout

/-! ## The fields of a slot -/

/-- A signed word of four bytes. -/
def intField (offset : Nat) (value : Int) : Field := ⟨offset, 4, (value % 0x100000000).toNat⟩

/-- A word of eight bytes. -/
def wordField (offset : Nat) (value : UInt64) : Field := ⟨offset, 8, value.toNat⟩

/-- The fields of one device of the slot at an offset. -/
def deviceFields (slot d : Nat) (r : DeviceRecord) : List Field :=
  [wordField (usageOffset slot d) r.usage.context,
    wordField (usageOffset slot d + 8) r.usage.module,
    wordField (usageOffset slot d + 16) r.usage.data,
    wordField (usageOffset slot d + 32) r.usage.total,
    wordField (monitorOffset slot d) r.monitor,
    wordField (sharesOffset slot d) r.decoder,
    wordField (sharesOffset slot d + 8) r.encoder,
    wordField (sharesOffset slot d + 16) r.compute]

/-- The fields of the slot at an offset. -/
def slotFields (slot : Nat) (s : Slot) : List Field :=
  [intField slot s.pid, intField (slot + 4) s.hostPid, wordField (slot + 8) s.seq] ++
    ((List.finRange maxDevices).flatMap
      (fun d : DeviceIndex => deviceFields slot d (s.devices.get d)) ++
        [intField (statusOffset slot) s.rawStatus])

/-- One field for each device. -/
def limitFields (offset : Nat) (limits : Vector UInt64 maxDevices) : List Field :=
  (List.finRange maxDevices).flatMap fun d : DeviceIndex =>
    [wordField (offset + d * 8) (limits.get d)]

/-- A field of a signed number is stored as such a number. -/
theorem write_intField (b : ByteArray) (offset : Nat) (value : Int) :
    Field.write b (intField offset value) = setInt32 b offset value := by
  rw [Field.write, intField, setInt32]

/-- A field of a word is stored as a word. -/
theorem write_wordField (b : ByteArray) (offset : Nat) (value : UInt64) :
    Field.write b (wordField offset value) = setWord64 b offset value := by
  rw [Field.write, wordField, setWord64]

/-- Fields are stored by their width. -/
theorem write_mk (b : ByteArray) (offset width value : Nat) :
    Field.write b ⟨offset, width, value⟩ = setWord b offset value width := by
  rw [Field.write]

/-- Storing the record of a device stores its fields one after the other. -/
theorem writeDevice_eq_foldl (b : ByteArray) (slot d : Nat) (r : DeviceRecord) :
    writeDevice b slot d r = (deviceFields slot d r).foldl Field.write b := by
  simp only [writeDevice, deviceFields, List.foldl_cons, List.foldl_nil, write_wordField]

/-- The entries of a vector with their positions. -/
theorem zipIdx_toList {α : Type} {n : Nat} (v : Vector α n) :
    v.toList.zipIdx = (List.finRange n).map fun i => (v.get i, i.val) := by
  refine List.ext_getElem (by simp) fun i hi hi' => ?_
  simp only [List.getElem_zipIdx, Vector.getElem_toList, List.getElem_map, List.getElem_finRange,
    Nat.zero_add]
  rfl

/-- Storing a slot stores its fields one after the other. -/
theorem writeSlot_eq_foldl (b : ByteArray) (slot : Nat) (s : Slot) :
    writeSlot b slot s = (slotFields slot s).foldl Field.write b := by
  unfold writeSlot slotFields
  dsimp only
  simp only [zipIdx_toList, List.foldl_map, List.foldl_append, List.foldl_flatMap, List.foldl_cons,
    List.foldl_nil, write_intField, write_wordField, writeDevice_eq_foldl]

/-- Storing limits stores one field for each device. -/
theorem writeLimits_eq_foldl (b : ByteArray) (offset : Nat) (limits : Vector UInt64 maxDevices) :
    writeLimits b offset limits = (limitFields offset limits).foldl Field.write b := by
  simp only [writeLimits, limitFields, zipIdx_toList, List.foldl_map, List.foldl_flatMap,
    List.foldl_cons, List.foldl_nil, write_wordField]

/-! ## Where the fields lie -/

/-- A field of a device lies with the usage, the observed memory, or the observed shares of the
device. -/
theorem within_of_mem_deviceFields {slot d : Nat} {r : DeviceRecord} {f : Field}
    (hf : f ∈ deviceFields slot d r) :
    f.Within (usageOffset slot d) (usageOffset slot (d + 1)) ∨
      f.Within (monitorOffset slot d) (monitorOffset slot (d + 1)) ∨
        f.Within (sharesOffset slot d) (sharesOffset slot (d + 1)) := by
  simp only [deviceFields, List.mem_cons, List.not_mem_nil, or_false] at hf
  rcases hf with rfl | rfl | rfl | rfl | rfl | rfl | rfl | rfl <;>
    simp only [Field.Within, Field.stop, wordField, usageOffset, monitorOffset, sharesOffset,
      usageSize, sharesSize] <;>
    omega

/-- The fields of a device record do not overlap. -/
theorem deviceFields_pairwise (slot : Nat) (d : DeviceIndex) (r : DeviceRecord) :
    (deviceFields slot d r).Pairwise Field.Apart := by
  have hd : d.val < 16 := d.isLt
  simp only [deviceFields, List.pairwise_cons, List.forall_mem_cons, List.Pairwise.nil, Field.Apart,
    Field.stop, wordField, usageOffset, monitorOffset, sharesOffset, usageSize, sharesSize,
    List.not_mem_nil, false_imp_iff, implies_true, and_true]
  omega

/-- The devices of a slot are interleaved, so they are no blocks of their own. -/
theorem block_devices (slot : Nat) (s : Slot) :
    Field.Block (slot + 16) (statusOffset slot) ((List.finRange maxDevices).flatMap
      fun d : DeviceIndex => deviceFields slot d (s.devices.get d)) where
  within := by
    intro f hf
    obtain ⟨d, -, hf⟩ := List.mem_flatMap.1 hf
    have hd : d.val < 16 := d.isLt
    have hf := within_of_mem_deviceFields hf
    -- The three tables of a slot are apart, and in each the devices lie one behind the other.
    simp only [Field.Within, usageOffset, monitorOffset, sharesOffset, usageSize, sharesSize] at hf
    simp only [Field.Within, statusOffset]
    omega
  pairwise := by
    refine List.pairwise_flatMap.2 ⟨fun d _ => deviceFields_pairwise slot d _, ?_⟩
    refine (List.pairwise_lt_finRange _).imp fun {d e} hde f hf g hg => ?_
    have hlt : d.val < e.val := hde
    have he : e.val < 16 := e.isLt
    have hf := within_of_mem_deviceFields hf
    have hg := within_of_mem_deviceFields hg
    simp only [Field.Within, usageOffset, monitorOffset, sharesOffset, usageSize, sharesSize]
      at hf hg
    unfold Field.Apart
    omega

/-- The fields of a slot lie within the bytes of that slot and do not overlap. -/
theorem block_slotFields (slot : Nat) (s : Slot) :
    Field.Block slot (slot + slotSize) (slotFields slot s) := by
  -- A slot is its head, the tables of the devices, and its status, in this order.
  have hhead : Field.Block slot (slot + 16)
      [intField slot s.pid, intField (slot + 4) s.hostPid, wordField (slot + 8) s.seq] :=
    ⟨by simp [Field.Within, Field.stop, intField, wordField],
      by simp [Field.Apart, Field.stop, intField, wordField]⟩
  have htail : Field.Block (statusOffset slot) (slot + slotSize)
      [intField (statusOffset slot) s.rawStatus] :=
    ⟨by simp [Field.Within, Field.stop, intField, statusOffset, slotSize],
      List.pairwise_singleton _ _⟩
  have hstatus : slot + 16 ≤ statusOffset slot ∧ statusOffset slot ≤ slot + slotSize := by
    simp [statusOffset, slotSize]
  exact hhead.append ((block_devices slot s).append htail hstatus.1 hstatus.2)
    (Nat.le_add_right _ _) (Nat.add_le_add_left (by decide) _)

/-- The fields of limits lie within their table and do not overlap. -/
theorem block_limitFields (offset : Nat) (limits : Vector UInt64 maxDevices) :
    Field.Block offset (offset + maxDevices * 8) (limitFields offset limits) :=
  Field.Block.flatMap_finRange fun _ =>
    ⟨by simp [Field.Within, Field.stop, wordField], List.pairwise_singleton _ _⟩

end Layout

open Layout

namespace Region

/-- The fields before the limits. -/
def headerFields (r : Region) : List Field :=
  [intField 0 r.flag, ⟨4, 4, r.major⟩, ⟨8, 4, r.minor⟩, intField 12 r.computeFlag,
    intField 16 r.lock.owner, ⟨lockOffset, 4, r.lock.count⟩, ⟨postinitOffset, 4, r.postinit⟩,
    wordField 88 r.deviceNum]

/-- The fields after the slots. -/
def trailerFields (r : Region) : List Field :=
  [intField trailerOffset r.procNum, intField (trailerOffset + 4) r.highWater,
    intField (trailerOffset + 8) r.switch, intField (trailerOffset + 12) r.recentKernel,
    intField (trailerOffset + 16) r.priority, wordField (trailerOffset + 24) r.lastKernel]

/-- The fields of all slots. -/
def tableFields (r : Region) : List Field :=
  (List.finRange maxProcesses).flatMap fun i : Fin maxProcesses =>
    slotFields (slotOffset i) (r.slots.get i)

/-- The fields of a region in the order in which they are stored. -/
def fields (r : Region) : List Field :=
  r.headerFields ++ (limitFields memoryLimitsOffset r.memoryLimits ++
    (limitFields computeLimitsOffset r.computeLimits ++ (r.tableFields ++ r.trailerFields)))

/-- The fields of a region by the part that they belong to. -/
theorem mem_fields {r : Region} {f : Field} :
    f ∈ r.fields ↔ f ∈ r.headerFields ∨ f ∈ limitFields memoryLimitsOffset r.memoryLimits ∨
      f ∈ limitFields computeLimitsOffset r.computeLimits ∨ f ∈ r.tableFields ∨
        f ∈ r.trailerFields := by
  simp only [fields, List.mem_append]

/-- Storing a region stores all its fields one after the other. -/
theorem writeTo_eq_foldl (r : Region) (b : ByteArray) :
    r.writeTo b = r.fields.foldl Field.write (padTo b Layout.size) := by
  -- The slots are stored by a fold over the table, all else one after the other.
  have htable : ∀ b, r.slots.toList.zipIdx.foldl (fun b x => writeSlot b (slotOffset x.2) x.1) b =
      r.tableFields.foldl Field.write b := by
    intro b
    rw [tableFields, zipIdx_toList, List.foldl_map, List.foldl_flatMap]
    simp only [writeSlot_eq_foldl]
  rw [fields, List.foldl_append, List.foldl_append, List.foldl_append, List.foldl_append, ← htable,
    ← writeLimits_eq_foldl, ← writeLimits_eq_foldl, headerFields, trailerFields]
  simp only [List.foldl_cons, List.foldl_nil, write_intField, write_wordField, write_mk]
  rw [writeTo]

/-- The fields of a region lie within its size, and no two of them have a byte in common. -/
theorem block_fields (r : Region) : Field.Block 0 Layout.size r.fields := by
  -- The file is the header, two tables of limits, the slots, and the trailer, in this order.
  have hheader : Field.Block 0 memoryLimitsOffset r.headerFields :=
    ⟨by simp [headerFields, Field.Within, Field.stop, intField, wordField, lockOffset,
        postinitOffset, memoryLimitsOffset, maxDevices, deviceNameSize],
      by simp [headerFields, Field.Apart, Field.stop, intField, wordField, lockOffset,
        postinitOffset]⟩
  have htable : Field.Block slotsOffset trailerOffset r.tableFields :=
    Field.Block.flatMap_finRange fun i => block_slotFields (slotOffset i) _
  have htrailer : Field.Block trailerOffset Layout.size r.trailerFields :=
    ⟨by simp [trailerFields, Field.Within, Field.stop, intField, wordField, Layout.size],
      by simp [trailerFields, Field.Apart, Field.stop, intField, wordField]⟩
  have hmemory := block_limitFields memoryLimitsOffset r.memoryLimits
  have hcompute := block_limitFields computeLimitsOffset r.computeLimits
  exact hheader.append (hmemory.append (hcompute.append (htable.append htrailer (by decide)
    (by decide)) (by decide) (by decide)) (by decide) (by decide)) (by decide) (by decide)

end Region

/-! ## Storing what was read -/

namespace Layout

/-- Eight bytes fit into a word. -/
theorem toNat_word64 (b : ByteArray) (offset : Nat) :
    (word64 b offset).toNat = word b offset 8 := by
  rw [word64, UInt64.toNat_ofNat']
  exact Nat.mod_eq_of_lt (word_lt b offset 8)

/-- A signed number stands in the four bytes that it was read from. -/
theorem toNat_int32_emod (b : ByteArray) (offset : Nat) :
    (int32 b offset % 0x100000000).toNat = word b offset 4 := by
  have hlt : word b offset 4 < 0x100000000 := word_lt b offset 4
  rw [int32, wrap32, Int.bmod]
  omega

/-- A slot past the end reads like a slot of zeros. -/
theorem readSlot_eq (bytes : ByteArray) (slot : Nat) :
    readSlot bytes slot =
      { pid := int32 bytes slot
        hostPid := int32 bytes (slot + 4)
        seq := word64 bytes (slot + 8)
        devices := .ofFn fun d => readDevice bytes slot d
        rawStatus := int32 bytes (statusOffset slot) } := by
  rw [readSlot]
  split
  next hpast =>
    -- Every word of the slot lies past the end.
    have hint : ∀ offset, slot ≤ offset → int32 bytes offset = 0 := by
      intro offset h
      rw [int32, word_of_size_le (hpast.trans h)]
      rfl
    have hword : ∀ offset, slot ≤ offset → word64 bytes offset = 0 := by
      intro offset h
      rw [word64, word_of_size_le (hpast.trans h)]
      rfl
    -- The devices are read back one by one, each from its own three places.
    have hdevices : (Vector.ofFn fun d : DeviceIndex => readDevice bytes slot d) =
        .replicate _ .zero := by
      refine Vector.ext fun d hd => ?_
      rw [Vector.getElem_ofFn, Vector.getElem_replicate, readDevice]
      simp only [usageOffset, monitorOffset, sharesOffset]
      iterate 8 rw [hword _ (by omega)]
      rfl
    have hstatus : slot ≤ statusOffset slot := Nat.le_add_right ..
    rw [hint _ le_rfl, hint _ (by omega), hword _ (by omega), hdevices, hint _ hstatus]
    rfl
  next => rfl

theorem get_ofFn {α : Type} {n : Nat} (f : Fin n → α) (i : Fin n) :
    (Vector.ofFn f).get i = f i := Vector.getElem_ofFn i.isLt

/-- The fields of a slot that was read have the values that were read. -/
theorem value_of_mem_slotFields (b : ByteArray) (slot : Nat) :
    ∀ f ∈ slotFields slot (readSlot b slot), f.value = word b f.offset f.width := by
  simp only [readSlot_eq, slotFields, deviceFields, readDevice, intField, wordField,
    List.forall_mem_append, List.forall_mem_flatMap, List.forall_mem_cons, List.not_mem_nil,
    false_imp_iff, get_ofFn, toNat_word64, toNat_int32_emod, and_true, implies_true]

/-- So have the fields of limits that were read. -/
theorem value_of_mem_limitFields (b : ByteArray) (offset : Nat) :
    ∀ f ∈ limitFields offset (.ofFn fun d => word64 b (offset + d * 8)),
      f.value = word b f.offset f.width := by
  simp only [limitFields, wordField, List.forall_mem_flatMap, List.forall_mem_cons,
    List.not_mem_nil, false_imp_iff, get_ofFn, toNat_word64, and_true, implies_true]

end Layout

/-- A region that is stored into the bytes that it was read from changes none of them. -/
theorem Region.alike_writeTo_ofBytes (bytes : ByteArray) :
    Alike ((ofBytes bytes).writeTo bytes) bytes := by
  rw [writeTo_eq_foldl]
  -- Every field is written with the value that was read from the same bytes.
  refine Field.alike_foldl_write (byteAt_padTo bytes Layout.size) ?_
  rw [fields, List.forall_mem_append, List.forall_mem_append, List.forall_mem_append,
    List.forall_mem_append]
  refine ⟨?_, value_of_mem_limitFields bytes _, value_of_mem_limitFields bytes _, ?_, ?_⟩
  · simp only [headerFields, ofBytes, intField, wordField, List.forall_mem_cons, List.not_mem_nil,
      false_imp_iff, toNat_word64, toNat_int32_emod, and_true, implies_true]
  · refine List.forall_mem_flatMap.2 fun i _ => ?_
    rw [show (ofBytes bytes).slots.get i = readSlot bytes (slotOffset i) from get_ofFn _ i]
    exact value_of_mem_slotFields bytes _
  · simp only [trailerFields, ofBytes, intField, wordField, List.forall_mem_cons, List.not_mem_nil,
      false_imp_iff, toNat_word64, toNat_int32_emod, and_true, implies_true]

/-! ## Reading what was stored -/

/-- The slot with its identifiers and its status cut to their words. -/
def Slot.wrapped (s : Slot) : Slot :=
  { s with pid := wrap32 s.pid, hostPid := wrap32 s.hostPid, rawStatus := wrap32 s.rawStatus }

namespace Region

/-- The region with every number cut to its word. -/
def wrapped (r : Region) : Region :=
  { r with
    flag := wrap32 r.flag
    major := r.major % 0x100000000
    minor := r.minor % 0x100000000
    computeFlag := wrap32 r.computeFlag
    lock := { count := r.lock.count % 0x100000000, owner := wrap32 r.lock.owner }
    postinit := r.postinit % 0x100000000
    slots := r.slots.map (·.wrapped)
    procNum := wrap32 r.procNum
    highWater := wrap32 r.highWater
    switch := wrap32 r.switch
    recentKernel := wrap32 r.recentKernel
    priority := wrap32 r.priority }

/-- The bytes hold all fields of the region, as far as their words go. -/
def StoredIn (r : Region) (b : ByteArray) : Prop :=
  ∀ f ∈ r.fields, word b f.offset f.width = f.value % 256 ^ f.width

/-- The bytes hold a region that was stored in them, since no field overwrites another. -/
theorem storedIn_writeTo (r : Region) (b : ByteArray) : r.StoredIn (r.writeTo b) := by
  intro f hf
  rw [writeTo_eq_foldl]
  exact Field.word_foldl_write r.block_fields (le_size_padTo b Layout.size) hf

namespace StoredIn

variable {r : Region} {b b' : ByteArray}

/-- What lies behind the region does not matter. -/
theorem congr (h : r.StoredIn b) (hbytes : ∀ j < Layout.size, byteAt b' j = byteAt b j) :
    r.StoredIn b' := by
  intro f hf
  rw [← h f hf]
  refine word_congr fun j _ hj => hbytes j (hj.trans_le ?_)
  exact (r.block_fields.within f hf).2

/-- A word is read back as it was stored. -/
theorem word64_eq (h : r.StoredIn b) {offset : Nat} {value : UInt64}
    (hmem : wordField offset value ∈ r.fields) : word64 b offset = value := by
  have hword := h _ hmem
  rw [wordField, Nat.mod_eq_of_lt (show value.toNat < 256 ^ 8 from value.toNat_lt)] at hword
  rw [word64, hword, UInt64.ofNat_toNat]

/-- A signed number is read back as it was stored, as far as it fits into four bytes. -/
theorem int32_eq (h : r.StoredIn b) {offset : Nat} {value : Int}
    (hmem : intField offset value ∈ r.fields) : int32 b offset = wrap32 value := by
  have hword := h _ hmem
  have hlt : (value % 0x100000000).toNat < 256 ^ 4 := by omega
  rw [intField, Nat.mod_eq_of_lt hlt] at hword
  rw [int32, hword, wrap32, wrap32, Int.bmod, Int.bmod]
  omega

/-! ### Limits and slots -/

/-- Limits are read back as they were stored. -/
theorem limits_eq (h : r.StoredIn b) {offset : Nat} {limits : Vector UInt64 maxDevices}
    (hmem : ∀ f ∈ limitFields offset limits, f ∈ r.fields) :
    (Vector.ofFn fun d : DeviceIndex => word64 b (offset + d * 8)) = limits := by
  refine Vector.ext fun d hd => ?_
  rw [Vector.getElem_ofFn]
  refine h.word64_eq (hmem _ (List.mem_flatMap.2 ⟨⟨d, hd⟩, List.mem_finRange _, ?_⟩))
  exact List.mem_singleton_self _

/-- So is the record of a device. -/
theorem readDevice_eq (h : r.StoredIn b) {slot : Nat} {d : DeviceIndex} {record : DeviceRecord}
    (hmem : ∀ f ∈ deviceFields slot d record, f ∈ r.fields) : readDevice b slot d = record := by
  simp only [deviceFields, List.forall_mem_cons, List.not_mem_nil, false_imp_iff, implies_true,
    and_true] at hmem
  obtain ⟨hcontext, hmodule, hdata, htotal, hmonitor, hdecoder, hencoder, hcompute⟩ := hmem
  rw [readDevice, h.word64_eq hcontext, h.word64_eq hmodule, h.word64_eq hdata,
    h.word64_eq htotal, h.word64_eq hmonitor, h.word64_eq hdecoder, h.word64_eq hencoder,
    h.word64_eq hcompute]

/-- So is a slot, with its numbers cut to four bytes. -/
theorem readSlot_eq (h : r.StoredIn b) {slot : Nat} {s : Slot}
    (hmem : ∀ f ∈ slotFields slot s, f ∈ r.fields) : readSlot b slot = s.wrapped := by
  simp only [slotFields, List.forall_mem_append, List.forall_mem_flatMap, List.forall_mem_cons,
    List.not_mem_nil, false_imp_iff, implies_true, and_true] at hmem
  obtain ⟨⟨hpid, hhostPid, hseq⟩, hdevices, hstatus⟩ := hmem
  have hdevices : (Vector.ofFn fun d : DeviceIndex => readDevice b slot d) = s.devices := by
    refine Vector.ext fun d hd => ?_
    rw [Vector.getElem_ofFn]
    exact h.readDevice_eq fun f hf => hdevices ⟨d, hd⟩ (List.mem_finRange _) f hf
  rw [Layout.readSlot_eq, h.int32_eq hpid, h.int32_eq hhostPid, h.word64_eq hseq, hdevices,
    h.int32_eq hstatus, Slot.wrapped]

/-- What is read from bytes that hold a region is that region, with every number cut to its word. -/
theorem ofBytes_eq (h : r.StoredIn b) : ofBytes b = r.wrapped := by
  have hheader : ∀ f ∈ r.headerFields, f ∈ r.fields := fun f hf => mem_fields.2 (.inl hf)
  have htrailer : ∀ f ∈ r.trailerFields, f ∈ r.fields :=
    fun f hf => mem_fields.2 (.inr (.inr (.inr (.inr hf))))
  simp only [headerFields, trailerFields, List.forall_mem_cons, List.not_mem_nil, false_imp_iff,
    implies_true, and_true] at hheader htrailer
  obtain ⟨hflag, hmajor, hminor, hcomputeFlag, howner, hcount, hpostinit, hdeviceNum⟩ := hheader
  obtain ⟨hprocNum, hhighWater, hswitch, hrecent, hpriority, hlast⟩ := htrailer
  -- What is read of each field is the value that is stored there, at its width.
  have hword : ∀ {offset value : Nat}, ⟨offset, 4, value⟩ ∈ r.fields →
      word b offset 4 = value % 0x100000000 := fun hmem => h _ hmem
  have hmemory := h.limits_eq fun f hf => mem_fields.2 (.inr (.inl hf))
  have hcompute := h.limits_eq fun f hf => mem_fields.2 (.inr (.inr (.inl hf)))
  have hslots : (Vector.ofFn fun i : Fin maxProcesses => readSlot b (slotOffset i)) =
      r.slots.map (·.wrapped) := by
    refine Vector.ext fun i hi => ?_
    rw [Vector.getElem_ofFn, Vector.getElem_map]
    refine h.readSlot_eq fun f hf => mem_fields.2 (.inr (.inr (.inr (.inl ?_))))
    exact List.mem_flatMap.2 ⟨⟨i, hi⟩, List.mem_finRange _, hf⟩
  rw [ofBytes, h.int32_eq hflag, hword hmajor, hword hminor, h.int32_eq hcomputeFlag,
    h.int32_eq howner, hword hcount, hword hpostinit, h.word64_eq hdeviceNum, hmemory, hcompute,
    hslots, h.int32_eq hprocNum, h.int32_eq hhighWater, h.int32_eq hswitch, h.int32_eq hrecent,
    h.int32_eq hpriority, h.word64_eq hlast, wrapped]

end StoredIn

end Region

/-! ## Files -/

namespace FileNode

/-- A file shows its contents up to its length, with zeros where they end earlier. -/
theorem getElem?_allBytes (n : FileNode) (j : Nat) :
    n.allBytes.data[j]? = if j < n.length then some (byteAt n.contents j) else none := by
  have hsize := le_size_padTo (n.contents.extract 0 n.length) n.length
  rw [allBytes, slice, Nat.zero_add, Nat.min_self, ByteArray.data_extract, Array.getElem?_extract,
    ByteArray.size_data, Nat.min_eq_left hsize, Nat.sub_zero, Nat.zero_add]
  refine if_ctx_congr Iff.rfl (fun hj => ?_) fun _ => rfl
  rw [getElem?_eq_byteAt (hj.trans_le hsize), byteAt_padTo, byteAt_extract, if_pos hj]

/-- Mapping a file changes no byte. -/
theorem allBytes_store_region (n : FileNode) : (n.store n.region).allBytes = n.allBytes := by
  have hcontents : Alike (n.store n.region).contents n.contents := by
    rw [contents, contents, store, region]
    cases n.mapped with
    | some r => exact fun _ => rfl
    | none => exact Region.alike_writeTo_ofBytes n.bytes
  refine ByteArray.ext (Array.ext_getElem? fun j => ?_)
  rw [getElem?_allBytes, getElem?_allBytes, hcontents]
  rfl

theorem contents_store (n : FileNode) (r : Region) :
    (n.store r).contents = r.writeTo n.bytes := rfl

/-- Whoever reads a file of full size finds the region that was stored in it. -/
theorem ofBytes_allBytes_store {n : FileNode} (h : Layout.size ≤ n.length) (r : Region) :
    Region.ofBytes (n.store r).allBytes = r.wrapped := by
  have hbyte : ∀ j < Layout.size, byteAt (n.store r).allBytes j = byteAt (r.writeTo n.bytes) j := by
    intro j hj
    have hlength : j < (n.store r).length := hj.trans_le h
    rw [byteAt_eq_data, getElem?_allBytes, if_pos hlength, Option.getD_some, contents_store]
  exact ((r.storedIn_writeTo n.bytes).congr hbyte).ofBytes_eq

end FileNode

end GpuQuota
