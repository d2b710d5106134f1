import GpuQuota.Driver.Simulated
import GpuQuota.Proofs.Registry.Look
import Mathlib.Data.UInt

/-!
# Whose samples are whose

The host samples the processes on its devices and names them by its own identities. A sample counts
for the first slot in use whose owner has that identity, if there is one, and on the device of the
region that stands for the device of the host. This module says what a round of observations makes
of the samples, slot by slot and device by device.

The module introduces:

* `Region.Attributed` — the slot that samples of a host identity are about;
  `Region.Attributed.unique` — there is one at most.
* `Region.tallied`, `Region.talliedAll` — what samples come to for one slot, and for all.
* `Region.SameOwners` — regions in which samples are about the same slots.
* `Watch.device_tally`, `Watch.sumShares_eq` — what is added for one device, and what is in use.
* `Watch.Shown` — what the host tells when it is asked for some devices in turn.
* `Watch.Round`, `Watch.round_foldl` — what a round of observations leads to.
-/

namespace GpuQuota

/-! ## Records of devices -/

namespace Slot

variable {α : Type} (s : Slot) (d e : DeviceIndex)

/-- A change of one record leaves the others alone. -/
theorem device_modifyDevice (f : DeviceRecord → DeviceRecord) :
    (s.modifyDevice d f).device e = if e = d then f (s.device d) else s.device e := by
  simp only [modifyDevice, device, Fin.getElem_fin, Vector.getElem_set]
  by_cases h : e = d
  · simp [h]
  · have hne : (d : Nat) ≠ e := fun he => h (Fin.ext he.symm)
    simp [h, hne]

/-- Changes of one record, one after the other, add up in that record alone. -/
theorem device_foldl_modifyDevice (f : α → DeviceRecord → DeviceRecord) (l : List α) :
    (l.foldl (fun s a => s.modifyDevice d (f a)) s).device e =
      if e = d then l.foldl (fun x a => f a x) (s.device d) else s.device e := by
  -- The induction is on the updates; each one is of the same device.
  induction l generalizing s with
  | nil =>
    split
    next h => rw [h]; rfl
    next => rfl
  | cons a l ih =>
    rw [List.foldl_cons, ih, device_modifyDevice, device_modifyDevice, if_pos rfl]
    split <;> rfl

end Slot

/-! ## Devices of the host -/

namespace DeviceMap

variable {map : DeviceMap} {a b : Nat} {d : DeviceIndex}

/-- The place of a number holds that number. -/
theorem numberFor_of_regionFor (h : map.regionFor a = some d) : map.numberFor d = some a := by
  unfold regionFor at h
  split at h
  next => cases h
  next i hi =>
    cases h
    obtain ⟨hlt, hmatch, -⟩ := List.findIdx?_eq_some_iff_getElem.1 hi
    rw [numberFor, List.getElem?_eq_getElem hlt, beq_iff_eq.1 hmatch]

/-- A device of the region stands for one device of the host at most, even if the map lists some
device twice. -/
theorem regionFor_injective (ha : map.regionFor a = some d) (hb : map.regionFor b = some d) :
    a = b :=
  Option.some.inj ((numberFor_of_regionFor ha).symm.trans (numberFor_of_regionFor hb))

end DeviceMap

namespace Region

variable {r : Region} {i : Fin maxProcesses}

/-! ## Slots that samples are about -/

/-- A search that can only fit below the mark finds the first slot that fits. -/
theorem findSlot?_eq_some_iff {p : Slot → Bool} (hp : ∀ i, p (r.slotAt i) → i.val < r.mark) :
    r.findSlot? p = some i.val ↔ p (r.slotAt i) ∧ ∀ j < i, p (r.slotAt j) = false := by
  constructor
  · intro h
    obtain ⟨j, hji, -, hj, hfirst⟩ := findSlot?_eq_some h
    obtain rfl := Fin.ext hji
    exact ⟨hj, hfirst⟩
  · rintro ⟨hi, hfirst⟩
    cases hfind : r.findSlot? p with
    | none => simp [findSlot?_eq_none_iff.1 hfind i (hp i hi)] at hi
    | some n =>
      obtain ⟨j, rfl, -, hj, hfirst'⟩ := findSlot?_eq_some hfind
      -- Both fit, and nothing before either of them does.
      rcases lt_trichotomy i j with hlt | rfl | hgt
      · simp [hfirst' i hlt] at hi
      · rfl
      · simp [hfirst j hgt] at hj

/-- A sample with this host identity is about a slot: the first one in use whose owner has that
identity. Nobody has the identity zero, nor one that is no positive signed 32-bit word. -/
def Attributed (r : Region) (hostPid : Nat) (i : Fin maxProcesses) : Prop :=
  hostPid ≠ 0 ∧ hostPid < 2 ^ 31 ∧ (r.slotAt i).pid ≠ 0 ∧ (r.slotAt i).hostPid = hostPid ∧
    ∀ j < i, (r.slotAt j).pid ≠ 0 → (r.slotAt j).hostPid ≠ hostPid

instance (r : Region) (hostPid : Nat) (i : Fin maxProcesses) : Decidable (r.Attributed hostPid i) :=
  inferInstanceAs (Decidable (_ ∧ _ ∧ _ ∧ _ ∧ _))

/-- No sample is about two slots. -/
theorem Attributed.unique {hostPid : Nat} {j : Fin maxProcesses} (hi : r.Attributed hostPid i)
    (hj : r.Attributed hostPid j) : i = j := by
  obtain ⟨-, -, hiused, hihost, hifirst⟩ := hi
  obtain ⟨-, -, hjused, hjhost, hjfirst⟩ := hj
  rcases lt_trichotomy i j with hlt | heq | hgt
  · exact absurd hihost (hjfirst i hlt hiused)
  · exact heq
  · exact absurd hjhost (hifirst j hgt hjused)

/-- What the samples that are about a slot come to. -/
def tallied {α : Type} (r : Region) (i : Fin maxProcesses) (amount : α → Nat)
    (samples : List (Nat × α)) : Nat :=
  ((samples.filter fun sample => r.Attributed sample.1 i).map fun sample => amount sample.2).sum

/-- What the samples that are about any slot come to. -/
def talliedAll {α : Type} (r : Region) (amount : α → Nat) (samples : List (Nat × α)) : Nat :=
  ((samples.filter fun sample => ∃ i, r.Attributed sample.1 i).map fun sample =>
    amount sample.2).sum

/-! ## Who owns what -/

/-- The same processes own the same slots, and are known to the host by the same identities. -/
structure SameOwners (r r' : Region) : Prop where
  mark_eq : r'.mark = r.mark
  pid_eq : ∀ i, (r'.slotAt i).pid = (r.slotAt i).pid
  hostPid_eq : ∀ i, (r'.slotAt i).hostPid = (r.slotAt i).hostPid

variable {r' r'' : Region}

/-- A region has the owners that it has. -/
theorem SameOwners.refl (r : Region) : r.SameOwners r := ⟨rfl, fun _ => rfl, fun _ => rfl⟩

/-- Owners that stay the same twice have stayed the same. -/
theorem SameOwners.trans (h : r.SameOwners r') (h' : r'.SameOwners r'') : r.SameOwners r'' where
  mark_eq := h'.mark_eq.trans h.mark_eq
  pid_eq i := (h'.pid_eq i).trans (h.pid_eq i)
  hostPid_eq i := (h'.hostPid_eq i).trans (h.hostPid_eq i)

/-- What is noted of a device is nothing of the owners. -/
theorem sameOwners_modifyDevice (r : Region) (j : Fin maxProcesses) (d : DeviceIndex)
    (f : DeviceRecord → DeviceRecord) :
    r.SameOwners (r.modifySlot j (·.modifyDevice d f)) where
  mark_eq := r.mark_modifySlot j _
  pid_eq i := r.pid_modifySlot j i fun _ => rfl
  hostPid_eq i := by
    rw [slotAt_modifySlot]
    split
    next h =>
      rw [h]
      rfl
    next => rfl

/-- No observation changes the owners. -/
theorem outlastsObserving_sameOwners (r : Region) : OutlastsObserving r.SameOwners :=
  fun r' i _ d f _ h => h.trans (r'.sameOwners_modifyDevice i d f)

/-- Which slot a sample is about is a matter of the owners. -/
theorem SameOwners.attributed_iff (h : r.SameOwners r') {hostPid : Nat} :
    r'.Attributed hostPid i ↔ r.Attributed hostPid i := by
  simp only [Attributed, h.pid_eq, h.hostPid_eq]

/-- So is what the samples about a slot come to. -/
theorem SameOwners.tallied_eq {α : Type} (h : r.SameOwners r') (amount : α → Nat)
    (samples : List (Nat × α)) : r'.tallied i amount samples = r.tallied i amount samples := by
  simp only [tallied, h.attributed_iff]

/-- So is what all samples come to. -/
theorem SameOwners.talliedAll_eq {α : Type} (h : r.SameOwners r') (amount : α → Nat)
    (samples : List (Nat × α)) : r'.talliedAll amount samples = r.talliedAll amount samples := by
  simp only [talliedAll, h.attributed_iff]

/-- All slots in use are scanned. -/
def Overseen (r : Region) : Prop := ∀ i, (r.slotAt i).pid ≠ 0 → i.val < r.mark

/-- Owners are not told apart by the lock. -/
theorem sameOwners_setLock (r : Region) (word : LockWord) : r.SameOwners { r with lock := word } :=
  ⟨rfl, fun _ => rfl, fun _ => rfl⟩

/-- Forgetting what was observed is nothing of the owners. -/
theorem sameOwners_resetObserved (r : Region) : r.SameOwners r.resetObserved where
  mark_eq := rfl
  pid_eq i := by
    rw [slotAt_resetObserved]
    split <;> rfl
  hostPid_eq i := by
    rw [slotAt_resetObserved]
    split <;> rfl

/-- Of slots in use nothing observed is left after it was forgotten. -/
theorem observed_resetObserved (hr : r.Overseen) (hi : (r.slotAt i).pid ≠ 0) (d : DeviceIndex) :
    ((r.resetObserved.slotAt i).device d).monitor = 0 ∧
      ((r.resetObserved.slotAt i).device d).compute = 0 := by
  rw [slotAt_resetObserved, if_pos (by simp [hr i hi, Slot.isFree_eq_false_iff.2 hi])]
  simp [Slot.device, Slot.resetObserved, DeviceRecord.forgetObserved]

/-- Slots that are scanned stay so while the owners stay the same. -/
theorem SameOwners.overseen (h : r.SameOwners r') (hr : r.Overseen) : r'.Overseen := by
  intro i hi
  rw [h.pid_eq] at hi
  rw [h.mark_eq]
  exact hr i hi

end Region

namespace Watch

open Region

variable {r r' : Region} {i : Fin maxProcesses} {d : DeviceIndex} {α : Type}

/-- What is found for a sample is a slot in use. -/
theorem pid_sampleSlot? {hostPid n : Nat} (h : sampleSlot? r hostPid = some n) :
    ∃ i : Fin maxProcesses, i.val = n ∧ (r.slotAt i).pid ≠ 0 := by
  rw [sampleSlot?] at h
  split at h
  next => exact pid_slotOfHost? h
  next => cases h

/-- Where all slots in use are scanned, a sample is about the slot that is found for it. -/
theorem sampleSlot?_eq_some_iff (hr : r.Overseen) {hostPid : Nat} :
    sampleSlot? r hostPid = some i.val ↔ r.Attributed hostPid i := by
  have hword : (2 : Nat) ^ 31 = 0x80000000 := rfl
  rw [sampleSlot?, Attributed, hword]
  by_cases hfits : hostPid < 0x80000000
  · rw [if_pos hfits, slotOfHost?]
    by_cases hzero : hostPid = 0
    · simp [hzero]
    · have hzero' : (hostPid : Pid) ≠ 0 := Int.natCast_ne_zero.2 hzero
      -- Only slots in use can fit, and those are scanned.
      rw [if_neg hzero', findSlot?_eq_some_iff fun j hj => hr j (by simp_all [Slot.isFree])]
      simp [Slot.isFree, hzero, hfits, and_assoc]
  · simp [hfits]

/-- A slot is found for a sample exactly if the sample is about one. -/
theorem isSome_sampleSlot?_iff (hr : r.Overseen) {hostPid : Nat} :
    (sampleSlot? r hostPid).isSome ↔ ∃ i, r.Attributed hostPid i := by
  constructor
  · intro hsome
    obtain ⟨n, hn⟩ := Option.isSome_iff_exists.1 hsome
    obtain ⟨i, rfl, -⟩ := pid_sampleSlot? hn
    exact ⟨i, (sampleSlot?_eq_some_iff hr).1 hn⟩
  · rintro ⟨i, hi⟩
    rw [(sampleSlot?_eq_some_iff hr).2 hi]
    rfl

/-- A search goes by owners alone. -/
theorem sampleSlot?_congr (h : r.SameOwners r') (hostPid : Nat) :
    sampleSlot? r' hostPid = sampleSlot? r hostPid := by
  -- Slots differ as a whole, so the two scans are compared by what the search asks of a slot.
  have hscan : ∀ pid : Pid, r'.slotOfHost? pid = r.slotOfHost? pid := by
    intro pid
    rw [slotOfHost?, slotOfHost?, findSlot?, findSlot?, scanned_eq_map, scanned_eq_map, h.mark_eq,
      List.findIdx?_map, List.findIdx?_map]
    congr 2
    ext i
    simp [Slot.isFree, h.pid_eq i, h.hostPid_eq i]
  rw [sampleSlot?, sampleSlot?, hscan]

/-! ## Adding samples up -/

/-- A slot is changed by the samples that are found to be about it, one after the other. -/
theorem slotAt_tally (add : α → DeviceRecord → DeviceRecord) (samples : List (Nat × α)) :
    (tally r d add samples).slotAt i =
      (samples.filter fun sample => sampleSlot? r sample.1 = some i.val).foldl
        (fun s sample => s.modifyDevice d (add sample.2)) (r.slotAt i) := by
  unfold tally
  induction samples generalizing r with
  | nil => rfl
  | cons sample samples ih =>
    obtain ⟨hostPid, a⟩ := sample
    rw [List.foldl_cons, ih]
    cases hfound : sampleSlot? r hostPid with
    | none => simp [hfound]
    | some n =>
      obtain ⟨j, rfl, -⟩ := pid_sampleSlot? hfound
      simp only [hfound, sampleSlot?_congr (r.sameOwners_modifyDevice j d (add a)),
        slotAt_modifySlot, List.filter_cons]
      -- Only the slot that the sample is about is another one for the samples to come.
      by_cases hij : i = j
      · simp [hij]
      · have hne : ¬ j.val = i.val := fun h => hij (Fin.ext h.symm)
        simp [hij, hne]

/-- The record of its device gets the samples that are about its slot. -/
theorem device_tally (hr : r.Overseen) (add : α → DeviceRecord → DeviceRecord)
    (samples : List (Nat × α)) (e : DeviceIndex) :
    ((tally r d add samples).slotAt i).device e =
      if e = d then
        (samples.filter fun sample => r.Attributed sample.1 i).foldl
          (fun x sample => add sample.2 x) ((r.slotAt i).device d)
      else (r.slotAt i).device e := by
  rw [slotAt_tally]
  simp only [sampleSlot?_eq_some_iff hr]
  exact Slot.device_foldl_modifyDevice _ d e (fun sample : Nat × α => add sample.2) _

end Watch

/-- The record of a slot with what two lists of samples say of it, by memory and compute time. -/
def Region.depict (r : Region) (i : Fin maxProcesses) (memory : List (Nat × UInt64))
    (compute : List (Nat × Nat)) (x : DeviceRecord) : DeviceRecord :=
  { x with
    monitor := x.monitor + UInt64.ofNat (r.tallied i UInt64.toNat memory)
    compute := x.compute + UInt64.ofNat (r.tallied i id compute) }

namespace Watch

variable {r r' : Region} {i : Fin maxProcesses} {d : DeviceIndex} {α : Type}

/-- Adding to a counter time and again adds the sum, modulo `2^64`. -/
private theorem foldl_add {f : UInt64 → DeviceRecord → DeviceRecord} (hzero : ∀ x, f 0 x = x)
    (hadd : ∀ a b x, f b (f a x) = f (a + b) x) (amount : α → Nat) (samples : List (Nat × α))
    (x : DeviceRecord) :
    samples.foldl (fun x sample => f (UInt64.ofNat (amount sample.2)) x) x =
      f (UInt64.ofNat (samples.map fun sample => amount sample.2).sum) x := by
  induction samples generalizing x with
  | nil => exact (hzero x).symm
  | cons sample samples ih =>
    rw [List.foldl_cons, ih, hadd, List.map_cons, List.sum_cons, UInt64.ofNat_add]

/-- Saturating at every step cuts the sum off once. -/
private theorem foldl_saturate (samples : List (Nat × Nat)) (n : Nat) :
    samples.foldl (fun n sample => saturate (n + sample.2)) (min (n : Int) signedMax) =
      min ((n + (samples.map fun sample => id sample.2).sum : Nat) : Int) signedMax := by
  induction samples generalizing n with
  | nil => simp
  | cons sample samples ih =>
    -- A sum that has reached the bound stays there, so saturating at each step is saturating once.
    have hstep : saturate (min (n : Int) signedMax + sample.2) =
        min ((n + sample.2 : Nat) : Int) signedMax := by
      simp only [saturate, signedMin, signedMax]
      omega
    rw [List.foldl_cons, hstep, ih, List.map_cons, List.sum_cons, id, Nat.add_assoc]

/-- The compute time in use is the sum of the samples that are about registered processes. -/
theorem sumShares_eq (hr : r.Overseen) (samples : List (Nat × Nat)) :
    sumShares r samples = min (r.talliedAll id samples : Int) signedMax := by
  -- The samples that are found are those that belong to somebody.
  have hfound : (samples.filter fun sample => (sampleSlot? r sample.1).isSome) =
      samples.filter fun sample => ∃ i, r.Attributed sample.1 i :=
    List.filter_congr fun sample _ => by
      rw [Bool.eq_iff_iff, decide_eq_true_iff]
      exact isSome_sampleSlot?_iff hr
  have hsum := foldl_saturate (samples.filter fun sample => ∃ i, r.Attributed sample.1 i) 0
  rw [Nat.zero_add] at hsum
  unfold sumShares
  change List.foldl _ _ (samples.filter fun sample => (sampleSlot? r sample.1).isSome) = _
  rw [hfound]
  exact hsum

/-! ## Rounds of observations -/

section Rounds

variable {μ : Type} [Management μ] {memory : Nat → List (Nat × UInt64)}
  {compute : Nat → List (Nat × Nat)}

/-- Asked for some devices in turn, the host tells for each of them which processes hold memory of
it, and which were seen using its compute time. -/
def Shown (memory : Nat → List (Nat × UInt64)) (compute : Nat → List (Nat × Nat)) :
    List (Nat × DeviceIndex) → μ → Prop
  | [], _ => True
  | (number, _) :: devices, host =>
    let (answer, host) := Management.processes number host
    let (answer', host) := Management.utilization number host
    answer = .ok (memory number) ∧ answer' = .ok (compute number) ∧
      Shown memory compute devices host

/-- A simulated host tells what is noted of its devices. -/
theorem shown_simulated (host : SimulatedHost) (devices : List (Nat × DeviceIndex)) :
    Shown (fun n => (host.device n).processes) (fun n => (host.device n).utilization)
      devices host := by
  induction devices with
  | nil => trivial
  | cons device devices ih => exact ⟨rfl, rfl, ih⟩

variable {number : Nat} {start : (Utilization × μ) × Region}

/-- The region with the samples of one device added. -/
private def noted (r : Region) (d : DeviceIndex) (memory : List (Nat × UInt64))
    (compute : List (Nat × Nat)) : Region :=
  tally (tally r d (fun n x => { x with monitor := x.monitor + n }) memory) d
    (fun n x => { x with compute := x.compute + UInt64.ofNat n }) compute

/-- Adding samples up is nothing of the owners. -/
private theorem sameOwners_tally {add : α → DeviceRecord → DeviceRecord}
    (hadd : ∀ a x, (add a x).usage = x.usage) (samples : List (Nat × α)) :
    r.SameOwners (tally r d add samples) :=
  keeps_tally (Region.outlastsObserving_sameOwners r) hadd samples (.refl r)

/-- Nor is noting the samples of a device. -/
private theorem sameOwners_noted (r : Region) (d : DeviceIndex) (memory : List (Nat × UInt64))
    (compute : List (Nat × Nat)) : r.SameOwners (noted r d memory compute) := by
  refine .trans (sameOwners_tally (fun _ _ => ?_) memory) (sameOwners_tally (fun _ _ => ?_) compute)
  · rfl
  · rfl

/-- Noting the samples of a device depicts it in every slot, and leaves other devices alone. -/
private theorem device_noted (hr : r.Overseen) (memory : List (Nat × UInt64))
    (compute : List (Nat × Nat)) (e : DeviceIndex) :
    ((noted r d memory compute).slotAt i).device e =
      if e = d then r.depict i memory compute ((r.slotAt i).device d)
      else (r.slotAt i).device e := by
  have hfirst :
      r.SameOwners (tally r d (fun n x => { x with monitor := x.monitor + n }) memory) := by
    refine sameOwners_tally (fun _ _ => ?_) memory
    rfl
  rw [noted, device_tally (hfirst.overseen hr), device_tally hr, device_tally hr, if_pos rfl]
  -- The compute samples find the slots that they would have found before memory was noted.
  simp only [hfirst.attributed_iff]
  split
  next =>
    have hmonitor := foldl_add (f := fun n x => { x with monitor := x.monitor + n })
      (fun x => by simp) (fun a b x => by simp [add_assoc]) UInt64.toNat
      (memory.filter fun sample => r.Attributed sample.1 i)
    have hshares := foldl_add (f := fun n x => { x with compute := x.compute + n })
      (fun x => by simp) (fun a b x => by simp [add_assoc]) id
      (compute.filter fun sample => r.Attributed sample.1 i)
    simp only [UInt64.ofNat_toNat, id] at hmonitor hshares
    rw [hmonitor, hshares]
    rfl
  next => rfl

/-- The shares noted add up to the samples that are about some slot, saturated. -/
private theorem max_sumShares_noted (hr : r.Overseen) (memory : List (Nat × UInt64))
    (compute : List (Nat × Nat)) :
    max (sumShares (noted r d memory compute) compute) 0 =
      min (r.talliedAll id compute : Int) signedMax := by
  have hsame := sameOwners_noted r d memory compute
  rw [sumShares_eq (hsame.overseen hr), hsame.talliedAll_eq, signedMax]
  omega

/-- A device that is told of is observed: its samples are noted, and their sum is the compute time
in use. -/
private theorem observeNext_apply
    (hmemory : (Management.processes number start.1.2).1 = .ok (memory number))
    (hcompute : (Management.utilization number (Management.processes number start.1.2).2).1 =
      .ok (compute number)) :
    (observeNext start (number, d)).2 = noted start.2 d (memory number) (compute number) ∧
    (observeNext start (number, d)).1.1 = start.1.1.set d
      (max (sumShares (noted start.2 d (memory number) (compute number)) (compute number)) 0)
      d.isLt ∧
    (observeNext start (number, d)).1.2 =
      (Management.utilization number (Management.processes number start.1.2).2).2 := by
  obtain ⟨⟨used, host⟩, r⟩ := start
  simp [observeNext, observeDevice, hmemory, hcompute, noted, Except.toOption]

/-- What a round of observations over some devices leads to. -/
structure Round (memory : Nat → List (Nat × UInt64)) (compute : Nat → List (Nat × Nat))
    (devices : List (Nat × DeviceIndex)) (start final : (Utilization × μ) × Region) : Prop where
  sameOwners : start.2.SameOwners final.2
  /-- The samples of a device are noted in its place. -/
  device_eq : ∀ n d, (n, d) ∈ devices → ∀ i, (final.2.slotAt i).device d =
    start.2.depict i (memory n) (compute n) ((start.2.slotAt i).device d)
  used_eq : ∀ n d, (n, d) ∈ devices →
    final.1.1.get d = min (start.2.talliedAll id (compute n) : Int) signedMax
  /-- All other places stay as they are. -/
  device_of_notMem : ∀ d, d ∉ devices.map (·.2) → ∀ i,
    (final.2.slotAt i).device d = (start.2.slotAt i).device d
  used_of_notMem : ∀ d, d ∉ devices.map (·.2) → final.1.1.get d = start.1.1.get d

/-- Observing devices one after the other is a round, if none comes twice. -/
theorem round_foldl (devices : List (Nat × DeviceIndex)) (hnodup : (devices.map (·.2)).Nodup)
    (hshown : Shown memory compute devices start.1.2) (hr : start.2.Overseen) :
    Round memory compute devices start (devices.foldl observeNext start) := by
  -- The induction is on the devices still to come, none of which is the one observed first.
  induction devices generalizing start with
  | nil => exact ⟨.refl _, nofun, nofun, fun _ _ _ => rfl, fun _ _ => rfl⟩
  | cons device devices ih =>
    obtain ⟨number, d⟩ := device
    obtain ⟨hmemory, hcompute, hrest⟩ := hshown
    obtain ⟨hnotMem, hnodup⟩ := List.nodup_cons.1 hnodup
    obtain ⟨hregion, hused, hhost⟩ := observeNext_apply (d := d) hmemory hcompute
    have hfirst := sameOwners_noted start.2 d (memory number) (compute number)
    rw [← hregion] at hfirst
    have hround := ih hnodup (hhost ▸ hrest) (hfirst.overseen hr)
    have hown : ∀ i, ((observeNext start (number, d)).2.slotAt i).device d =
        start.2.depict i (memory number) (compute number) ((start.2.slotAt i).device d) := by
      intro i
      rw [hregion, device_noted hr, if_pos rfl]
    have hothers : ∀ e, e ≠ d → (∀ i, ((observeNext start (number, d)).2.slotAt i).device e =
        (start.2.slotAt i).device e) ∧
        (observeNext start (number, d)).1.1.get e = start.1.1.get e := by
      intro e he
      have hval : d.val ≠ e.val := fun h => he (Fin.ext h.symm)
      refine ⟨fun i => ?_, ?_⟩
      · rw [hregion, device_noted hr, if_neg he]
      · rw [hused]
        exact Vector.getElem_set_ne d.isLt e.isLt hval
    have hlater : ∀ n e, (n, e) ∈ devices → e ≠ d :=
      fun n e he h => hnotMem (List.mem_map.2 ⟨(n, e), he, h⟩)
    rw [List.foldl_cons]
    refine ⟨hfirst.trans hround.sameOwners, fun n e he i => ?_, fun n e he => ?_,
      fun e he i => ?_, fun e he => ?_⟩
    · rcases List.mem_cons.1 he with heq | he
      · cases heq
        rw [hround.device_of_notMem d hnotMem, hown]
      · rw [hround.device_eq n e he, (hothers e (hlater n e he)).1, Region.depict, Region.depict,
          hfirst.tallied_eq, hfirst.tallied_eq]
    · rcases List.mem_cons.1 he with heq | he
      · cases heq
        rw [hround.used_of_notMem d hnotMem, hused, max_sumShares_noted hr]
        exact Vector.getElem_set_self d.isLt
      · rw [hround.used_eq n e he, hfirst.talliedAll_eq]
    · obtain ⟨hne, he⟩ := List.ne_and_not_mem_of_not_mem_cons he
      rw [hround.device_of_notMem e he, (hothers e hne).1]
    · obtain ⟨hne, he⟩ := List.ne_and_not_mem_of_not_mem_cons he
      rw [hround.used_of_notMem e he, (hothers e hne).2]

end Rounds

/-! ## The devices that are visible -/

section Visible

variable {map : DeviceMap} {count number : Nat}

/-- Visible are the devices that the host has and that the map gives a place. -/
theorem mem_visibleDevices :
    (number, d) ∈ visibleDevices map count ↔ number < count ∧ map.regionFor number = some d := by
  simp [visibleDevices]

/-- No place of the region is observed twice. -/
theorem nodup_visibleDevices : ((visibleDevices map count).map (·.2)).Nodup := by
  have hplaces :
      (visibleDevices map count).map (·.2) = (List.range count).filterMap map.regionFor := by
    rw [visibleDevices, List.map_filterMap]
    congr 1
    ext number : 1
    cases map.regionFor number <;> rfl
  rw [hplaces]
  exact List.Nodup.filterMap (fun _ _ _ => DeviceMap.regionFor_injective) List.nodup_range

end Visible

end Watch

end GpuQuota
