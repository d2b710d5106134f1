import GpuQuota.Proofs.Region.Agreement
import GpuQuota.Proofs.Registry.Owners

/-!
# The tables on a host

The regions of a host lie in files, and each has a table of its own. This module says what
attaching, working on a region, and signals do to all tables of a host: they stay consistent, a
region that was not set up has no process in it, and slots change hands only where processes come or
go.

The module introduces:

* `Region.Orderly`, `Machine.Orderly` — a region that may be worked on, and a host where all are.
* `Machine.Handover` — a change of a host, by who keeps a slot and who gains one.
* `Machine.handover_attach`, `Machine.Handover.store` — attaching and working on a region.
* `Attachment.Stands` — the file of an attachment is there, and its region was set up for it.
* `Machine.orderly_call` — work of a member leaves a host orderly.
-/

namespace GpuQuota

namespace Region

/-- The table is consistent, and empty if the region was not set up. -/
structure Orderly (r : Region) : Prop where
  consistent : r.Consistent
  unused : r.flag = 0 → ∀ i, (r.slotAt i).pid = 0

variable {r : Region}

/-- Attaching leaves all slots as they are. -/
theorem slotAt_attach (r : Region) (s : Settings) (now : UInt64) (i : Fin maxProcesses) :
    (r.attach s now).2.slotAt i = r.slotAt i := by
  unfold attach
  split
  next => rfl
  next => split <;> rfl

namespace Orderly

/-- A region that was set up is orderly if its table is consistent. -/
theorem of_flag (h : r.Consistent) (hflag : r.flag ≠ 0) : r.Orderly :=
  ⟨h, fun hzero => absurd hzero hflag⟩

/-- So is one that members have agreed on. -/
theorem of_agrees {s : Settings} (h : r.Consistent) (hagrees : r.Agrees s) : r.Orderly := by
  apply of_flag h
  rw [hagrees.complete]
  decide

theorem attach (h : r.Orderly) (s : Settings) (now : UInt64) : (r.attach s now).2.Orderly := by
  -- A region that is complete or broken is left alone; one that is all zero is set up.
  by_cases hcomplete : r.flag = completeFlag
  · rwa [attach_of_complete hcomplete]
  · by_cases hzero : r.flag = 0
    · rw [attach_of_zero hzero]
      have hfree := h.unused hzero
      refine .of_flag (.of_unused hfree (fun i => ?_) rfl rfl) ?_
      · exact h.consistent.blank_of_free i (hfree i)
      · show completeFlag ≠ 0
        decide
    · rwa [attach_of_other hcomplete hzero]

/-- A file without contents is a region that was not set up. -/
theorem ofBytes_empty : (Region.ofBytes .empty).Orderly := by
  -- The file is shorter than its table, so that no slot is read from it.
  have hslot : ∀ i, (Region.ofBytes .empty).slotAt i = .empty := by
    intro i
    show (Vector.ofFn _)[i] = _
    rw [Fin.getElem_fin, Vector.getElem_ofFn, Layout.readSlot, if_pos]
    exact Nat.zero_le _
  have hfree : ∀ i, ((Region.ofBytes .empty).slotAt i).pid = 0 := by
    intro i
    rw [hslot, Slot.pid_empty]
  refine ⟨.of_unused hfree (fun i => ?_) (by decide +kernel) (by decide +kernel), fun _ => hfree⟩
  rw [hslot]
  exact Slot.isBlank_empty

end Orderly

/-- A status says nothing about who owns a slot, nor about what is charged. -/
theorem Consistent.setStatus (h : r.Consistent) (n : Nat) (status : ProcStatus) :
    (r.modifySlot n (·.setStatus status)).Consistent := by
  by_cases hn : n < maxProcesses
  · -- A status is no part of what makes a table consistent.
    have hpid := fun i => r.pid_modifySlot_nat n i (f := (·.setStatus status)) fun _ => rfl
    have hslot := slotAt_modifySlot r ⟨n, hn⟩ (f := (·.setStatus status))
    refine ⟨fun i j hi hij => ?_, ?_, ?_, ?_, fun i hi => ?_, fun i hi => ?_⟩
    · rw [hpid] at hi hij
      rw [hpid] at hij
      exact h.pid_injective i j hi hij
    · have hocc : (r.modifySlot n (·.setStatus status)).occupied = r.occupied := by
        ext i
        rw [mem_occupied, mem_occupied, hpid]
      rw [procNum_modifySlot, hocc, h.procNum_eq]
    · rw [highWater_modifySlot]
      exact h.highWater_nonneg
    · rw [highWater_modifySlot]
      exact h.highWater_le
    · rw [highWater_modifySlot] at hi
      rw [hpid]
      exact h.free_of_highWater_le i hi
    · rw [hpid] at hi
      have hblank := h.blank_of_free i hi
      rw [hslot]
      split
      next hi' => exact hi' ▸ hblank
      next => exact hblank
  · rwa [Region.modifySlot, dif_neg hn]

end Region

namespace Machine

/-- All regions on the host are orderly, and names lead to files that there are. -/
structure Orderly (host : Machine) : Prop where
  sound : host.files.Sound
  region : ∀ node, (host.region node).Orderly

/-- In all files of the host, processes in `safe` keep the slots that they have, and nobody gains
one but those in `new`. -/
def Handover (safe new : Pid → Prop) (host host' : Machine) : Prop :=
  ∀ node, (host.region node).Handover safe new (host'.region node)

variable {host host' host'' : Machine} {safe new : Pid → Prop} {node : NodeId} {r : Region}

/-- Regions are a matter of the files. -/
theorem region_congr (h : host'.files = host.files) (node : NodeId) :
    host'.region node = host.region node := by
  rw [Machine.region, Machine.region, h]

namespace Orderly

variable (h : host.Orderly)

include h

theorem of_files (hfiles : host'.files = host.files) : host'.Orderly where
  sound := hfiles ▸ h.sound
  region node := region_congr hfiles node ▸ h.region node

theorem store (hr : r.Orderly) : (host.store node r).Orderly where
  sound := h.sound.modifyNode node _
  region j := by
    rw [region_store]
    split
    next => exact hr
    next => exact h.region j

theorem attach (settings : Settings) (pid : Pid) (liveness : Liveness) :
    (Machine.attach settings pid liveness host).2.Orderly := by
  refine ⟨(Upholds.attach settings pid liveness).names h.sound, fun j => ?_⟩
  rcases attach_eq_error_or pid liveness settings host with ⟨e, he⟩ | ⟨hvalid, node, files, hcreate⟩
  · rw [he]
    exact h.region j
  · rw [region_attach pid liveness hvalid hcreate]
    split
    next hj => exact (h.region node).attach settings host.clock
    next => exact h.region j

/-- A status may be stored anywhere. -/
theorem storeStatus (t : StatusTarget) (status : ProcStatus) :
    (host.storeStatus t status).Orderly := by
  have hr := h.region t.node
  refine h.store ⟨hr.consistent.setStatus t.slot status, fun hflag i => ?_⟩
  have hframe := congrArg Region.flag
    ((host.region t.node).frame_modifySlot t.slot (·.setStatus status))
  rw [Region.pid_modifySlot_nat]
  · exact hr.unused (hframe.symm.trans hflag) i
  · exact fun _ => rfl

end Orderly

namespace Handover

theorem of_files (h : host'.files = host.files) : host.Handover safe new host' := fun node => by
  rw [region_congr h]
  exact .refl _

theorem trans (h : host.Handover safe new host') (h' : host'.Handover safe new host'') :
    host.Handover safe new host'' :=
  fun node => (h node).trans (h' node)

theorem store (h : (host.region node).Handover safe new r) :
    host.Handover safe new (host.store node r) := by
  intro j
  rw [region_store]
  split
  next hj => exact hj.1 ▸ h
  next => exact .refl _

end Handover

/-- Attaching hands no slot out. -/
theorem handover_attach (settings : Settings) (pid : Pid) (liveness : Liveness) :
    host.Handover safe new (Machine.attach settings pid liveness host).2 := by
  intro j
  rcases attach_eq_error_or pid liveness settings host with ⟨e, he⟩ | ⟨hvalid, node, files, hcreate⟩
  · rw [he]
    exact .refl _
  · rw [region_attach pid liveness hvalid hcreate]
    -- Setting a region up does not touch its slots.
    split
    next hj =>
      refine .of_pid_eq fun i => ?_
      rw [hj.1, Region.slotAt_attach]
    next => exact .refl _

/-- Nor does storing a status. -/
theorem handover_storeStatus (t : StatusTarget) (status : ProcStatus) :
    host.Handover safe new (host.storeStatus t status) :=
  .store (.of_pid_eq fun i => (host.region t.node).pid_modifySlot_nat t.slot i fun _ => rfl)

/-- Attaching is nothing that the other processes notice. -/
theorem running_attach (settings : Settings) (pid : Pid) (liveness : Liveness) :
    (Machine.attach settings pid liveness host).2.running = host.running := by
  rcases attach_eq_error_or pid liveness settings host with ⟨e, he⟩ | ⟨hvalid, node, files, hcreate⟩
  · rw [he]
  · rw [attach_apply pid liveness hvalid hcreate]
    dsimp only
    split <;> rfl

end Machine

/-! ## Attachments -/

/-- The file of an attachment is there, its region was set up and agrees with the settings of the
member, and the member has an identifier. -/
structure Attachment.Stands (host : Machine) (a : Attachment) : Prop where
  lt_size : a.node < host.files.nodes.size
  agrees : (host.region a.node).Agrees a.settings
  pid_ne_zero : a.pid ≠ 0

namespace Attachment

variable {host host' : Machine} {a : Attachment}

theorem Stands.mono (h : a.Stands host) (hup : host.Upholds host') : a.Stands host' where
  lt_size := h.lt_size.trans_le hup.size
  agrees := hup.agrees a.node a.settings h.agrees
  pid_ne_zero := h.pid_ne_zero

/-- Working through an attachment does not depend on where the member last saw its slot. -/
theorem Stands.remember (h : a.Stands host) (n : Option Nat) :
    { a with remembered := n }.Stands host :=
  ⟨h.lt_size, h.agrees, h.pid_ne_zero⟩

/-- Whoever is let in has a file attached that is there, as the process that asked. -/
theorem stands_of_attach {settings : Settings} {pid : Pid} {liveness : Liveness}
    (hsound : host.files.Sound) (hpid : pid ≠ 0)
    (h : (Machine.attach settings pid liveness host).1 = .ok a) :
    a.Stands (Machine.attach settings pid liveness host).2 ∧ a.pid = pid ∧
      a.liveness = liveness := by
  have hagrees := Machine.agrees_of_attach hsound h
  rcases Machine.attach_eq_error_or pid liveness settings host with
    ⟨e, he⟩ | ⟨hvalid, node, files, hcreate⟩
  · rw [he] at h
    cases h
  · obtain ⟨-, rfl⟩ := Machine.eq_of_attach pid liveness hvalid hcreate h
    -- The file was there or has just been created, so that the node is one of the files.
    refine ⟨⟨?_, hagrees, hpid⟩, rfl, rfl⟩
    rw [Machine.files_attach pid liveness hvalid hcreate, Files.size_modifyNode,
      Files.size_modifyNode]
    exact (hsound.create hcreate).2

end Attachment

/-! ## Work of members -/

/-- Whatever a member asks for, a property that endures is kept. -/
theorem RegionCall.run_endures {m : Member} {s : Seat} {P : Seat → Prop} (h : Seat.Enduring m P)
    (call : RegionCall) (hs : P s) : P (call.run m s) := by
  cases call with
  | registerSelf => exact h.registerSelf s hs
  | register pid hpid => exact h.register pid s hs
  | removeSelf => exact h.removeSelf s hs
  | clearDead => exact h.clearDead s hs
  | setHostPid hostPid => exact h.setHostPid hostPid s hs
  | setStatus status => exact h.setStatus status s hs
  | addUsage pid dev bytes kind => exact h.addUsage pid dev bytes kind s hs
  | removeUsage pid dev bytes kind => exact h.removeUsage pid dev bytes kind s hs
  | setMonitor hostPid dev bytes => exact h.setMonitor hostPid dev bytes s hs
  | setCompute hostPid dev share => exact h.setCompute hostPid dev share s hs
  | resetObserved => exact h.resetObserved s hs

/-- A region stays orderly, and stays the region that its members have agreed on, when a member
works on it. -/
theorem Machine.orderly_call {host : Machine} {a : Attachment} (h : host.Orderly)
    (ha : a.Stands host) (call : RegionCall) :
    (host.store a.node (call.run (host.member a) (host.seat a)).region).Orderly ∧
      host.Upholds (host.store a.node (call.run (host.member a) (host.seat a)).region) := by
  have hagrees : ∀ s, (host.region a.node).Agrees s →
      (call.run (host.member a) (host.seat a)).region.Agrees s :=
    fun s hs => call.run_endures (Seat.enduring_agrees (host.member a) s) hs
  have hconsistent := (h.region a.node).consistent
  -- Agreement with the settings keeps the flag of the region from being zero.
  refine ⟨h.store (.of_agrees ?_ (hagrees _ ha.agrees)), .store hagrees⟩
  exact call.run_keeps Region.stable_consistent ha.pid_ne_zero hconsistent

end GpuQuota
