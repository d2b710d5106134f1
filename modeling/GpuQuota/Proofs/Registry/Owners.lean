import GpuQuota.Proofs.Registry.Registration

/-!
# Who owns the slots

A slot is handed to a process when the process is registered, and taken back when the process gives
it back or is reaped. Everything else that members do leaves the owners of all slots as they are.
So a process keeps its slot as long as it does not give it back and nobody takes it for dead.

The module introduces:

* `Region.Handover` — a change of a region, by who keeps a slot and who gains one.
* `Region.Consistent.slotAt_unregister` — the slots after one was taken back.
* `Region.handover_reap`, `Region.Granted.handover`, `Region.Consistent.handover_register`,
  `.handover_unregister` — the handovers of the registry.
* `Member.handover_register`, `Member.handover_addUsage` and their kind — those of a member.
* `RegionCall.handover` — whatever a member asks for.
-/

namespace GpuQuota

namespace Region

/-- Processes in `safe` keep the slots that they have, and nobody gains one but those in `new`. -/
structure Handover (safe new : Pid → Prop) (r r' : Region) : Prop where
  kept : ∀ i, safe (r.slotAt i).pid → (r'.slotAt i).pid = (r.slotAt i).pid
  gained : ∀ i, (r'.slotAt i).pid = (r.slotAt i).pid ∨ (r'.slotAt i).pid = 0 ∨
    new (r'.slotAt i).pid

variable {safe new : Pid → Prop} {r r' r'' : Region} {me pid : Pid} {alive : Pid → Bool}

namespace Handover

/-- Where no slot changes its owner nobody loses one and nobody gains one. -/
theorem of_pid_eq (h : ∀ i, (r'.slotAt i).pid = (r.slotAt i).pid) : Handover safe new r r' :=
  ⟨fun i _ => h i, fun i => .inl (h i)⟩

/-- Nobody loses or gains a slot where nothing changes. -/
protected theorem refl (r : Region) : Handover safe new r r := of_pid_eq fun _ => rfl

/-- The lock says nothing about the table. -/
theorem setLock (h : Handover safe new r r') (word : LockWord) :
    Handover safe new r { r' with lock := word } :=
  ⟨h.kept, h.gained⟩

/-- What nobody loses or gains at two changes nobody loses or gains at both. -/
theorem trans (h : Handover safe new r r') (h' : Handover safe new r' r'') :
    Handover safe new r r'' where
  kept i hi := by
    have hkept := h.kept i hi
    rw [h'.kept i (hkept ▸ hi), hkept]
  gained i := by
    rcases h'.gained i with hsame | hgained
    · rw [hsame]
      exact h.gained i
    · exact .inr hgained

end Handover

/-! ## Work on the table -/

/-- A change of any slot that keeps its owner keeps all owners. -/
theorem pid_modifySlot_nat (r : Region) (n : Nat) (i : Fin maxProcesses) {f : Slot → Slot}
    (hf : ∀ s : Slot, (f s).pid = s.pid) :
    ((r.modifySlot n f).slotAt i).pid = (r.slotAt i).pid := by
  by_cases hn : n < maxProcesses
  · exact r.pid_modifySlot ⟨n, hn⟩ i hf
  · rw [modifySlot, dif_neg hn]

/-- Reaping takes slots from dead processes only. -/
theorem handover_reap (r : Region) (hsafe : ∀ q, safe q → q = me ∨ alive q) :
    Handover safe new r (r.reap me alive).2 := by
  refine ⟨fun i hi => ?_, fun i => ?_⟩
  · -- Nobody safe is dead, so the slot is not swept.
    rw [pid_reap, if_neg]
    intro hdead
    have hliving := isDeadSlot_eq_false_of_living (hsafe _ hi)
    exact Bool.false_ne_true (hliving.symm.trans (mem_deadSlots.1 hdead).2)
  · rw [pid_reap]
    split
    next => exact .inr (.inl rfl)
    next => exact .inl rfl

/-- A slot is handed out to one process and taken from nobody who is alive. -/
theorem Granted.handover {i : Fin maxProcesses} (hg : Granted me alive pid i r r')
    (hzero : ¬ safe 0) (hnew : new pid) (hsafe : ∀ q, safe q → q = me ∨ alive q) :
    Handover safe new r r' := by
  have hown : (r'.slotAt i).pid = pid := by rw [hg.slot_eq, Slot.pid_resetFor]
  have hliving : ∀ j, safe (r.slotAt j).pid → isDeadSlot me alive (r.slotAt j) ≠ true :=
    fun j hj => Bool.eq_false_iff.1 (isDeadSlot_eq_false_of_living (hsafe _ hj))
  refine ⟨fun j hj => ?_, fun j => ?_⟩
  · -- A slot of somebody safe is granted to nobody else, since it is neither free nor dead.
    by_cases hji : j = i
    · subst hji
      rcases hg.vacant with hsame | hfree | hdead
      · rw [hown, hsame]
      · exact absurd (hfree ▸ hj) hzero
      · exact absurd hdead (hliving j hj)
    · rcases hg.others j hji with hsame | ⟨hdead, -⟩
      · rw [hsame]
      · exact absurd hdead (hliving j hj)
  · by_cases hji : j = i
    · exact .inr (.inr (by rwa [hji, hown]))
    · rcases hg.others j hji with hsame | ⟨-, hempty⟩
      · exact .inl (by rw [hsame])
      · exact .inr (.inl (by rw [hempty, Slot.pid_empty]))

namespace Consistent

variable (h : r.Consistent)

include h

/-- Registering gives a slot to the process registered, and may take one from the dead. -/
theorem handover_register (hpid : pid ≠ 0) (hzero : ¬ safe 0) (hnew : new pid)
    (hsafe : ∀ q, safe q → q = me ∨ alive q) :
    Handover safe new r (r.register me alive pid).2 := by
  have hcases := h.claim_cases me alive hpid
  rw [Region.register]
  generalize r.claim me alive pid = claimed at hcases
  -- A refused registration has reaped the dead, and gives nothing away.
  obtain ⟨n?, r'⟩ := claimed
  obtain ⟨rfl, -, hslot⟩ | ⟨i, rfl, hg⟩ := hcases
  · exact .of_pid_eq fun j => congrArg Slot.pid (hslot j)
  · exact (hg.handover hzero hnew hsafe).trans (handover_reap _ hsafe)

/-- Giving a slot back clears all slots of the process and no others. -/
theorem slotAt_unregister (hpid : pid ≠ 0) (i : Fin maxProcesses) :
    (r.unregister pid).2.slotAt i = if (r.slotAt i).pid = pid then .empty else r.slotAt i := by
  rw [Region.unregister]
  split
  next n hfind =>
    obtain ⟨j, rfl, -, hj, -⟩ := findSlot?_eq_some hfind
    have hown : (r.slotAt j).pid = pid := beq_iff_eq.1 hj
    refine (slotAt_modifySlot r j i (·.clear)).trans (if_congr ?_ rfl rfl)
    -- No process owns two slots.
    constructor
    · rintro rfl
      exact hown
    · intro hi
      exact h.pid_injective i j (hi ▸ hpid) (hi.trans hown.symm)
  next hfind =>
    have hnone := (h.findSlot?_eq_none_iff fun s hs => by
      rw [beq_iff_eq] at hs
      exact hs ▸ hpid).1 hfind i
    rw [if_neg (by simpa using hnone)]

/-- Giving a slot back takes it from that process and from nobody else. -/
theorem handover_unregister (hpid : pid ≠ 0) (hsafe : ¬ safe pid) :
    Handover safe new r (r.unregister pid).2 := by
  have hslot := h.slotAt_unregister hpid
  refine ⟨fun i hi => ?_, fun i => ?_⟩
  · -- The slot that is given back belongs to the process, which is not safe.
    rw [hslot, if_neg]
    intro heq
    exact hsafe (heq ▸ hi)
  · rw [hslot]
    split
    next => exact .inr (.inl rfl)
    next => exact .inl rfl

end Consistent

end Region

/-! ## Members -/

namespace Member

open Region

variable (m : Member) {safe new : Pid → Prop} {r : Region} {s : Seat}

/-- Taking the lock and giving it back changes no owner. -/
theorem handover_locked {α : Type} {body : Region → α × Region}
    (hs : Handover safe new r s.region) (hbody : ∀ word,
      Handover safe new { s.region with lock := word } (body { s.region with lock := word }).2) :
    Handover safe new r (m.locked body s).2.region := by
  let attempt := s.region.lock.acquire m.pid m.alive m.settings.lock.retries
  exact ((hs.setLock attempt.word).trans (hbody attempt.word)).setLock _

/-- Work under the lock hands over what the work itself does, or nothing. -/
theorem handover_tryLocked {α : Type} {body : Region → α × Region}
    (hs : Handover safe new r s.region) (hbody : ∀ word,
      Handover safe new { s.region with lock := word } (body { s.region with lock := word }).2) :
    Handover safe new r (m.tryLocked body s).2.region := by
  unfold tryLocked
  split
  next => exact hs
  next word _ => exact ((hs.setLock word).trans (hbody word)).setLock _

/-- Registering is work under the lock, whatever comes of it. -/
theorem snd_register (pid : Pid) (s : Seat) :
    (m.register pid s).2 = (m.locked (·.register m.pid m.alive pid) s).2 := by
  rw [register_apply]
  rcases m.locked (·.register m.pid m.alive pid) s with ⟨_ | n, t⟩ <;> rfl

/-- Registering itself does to the region what registering does. -/
theorem region_registerSelf (s : Seat) :
    (m.registerSelf s).2.region = (m.register m.pid s).2.region := by
  rw [registerSelf, Run.bind_apply]
  rcases m.register m.pid s with ⟨_ | i, t⟩ <;> rfl

/-- Giving the own slot back is work under the lock, if the lock is to be had. -/
theorem region_removeSelf (s : Seat) :
    (m.removeSelf s).2.region = (m.tryLocked (·.unregister m.pid) s).2.region := by
  show (StateT.bind (m.tryLocked (·.unregister m.pid)) _ s).2.region = _
  unfold StateT.bind
  rcases m.tryLocked (·.unregister m.pid) s with ⟨_ | had, t⟩ <;> rfl

section

variable (hs : s.region.Consistent)

include hs

/-- Whoever registers may reap, and gives a slot to the process registered. -/
theorem handover_register {pid : Pid} (hpid : pid ≠ 0) (hzero : ¬ safe 0) (hnew : new pid)
    (hsafe : ∀ q, safe q → q = m.pid ∨ m.alive q) :
    Handover safe new s.region (m.register pid s).2.region := by
  rw [m.snd_register]
  exact m.handover_locked (.refl _) fun word =>
    (hs.setLock word).handover_register hpid hzero hnew hsafe

/-- Registering itself takes slots from the dead alone. -/
theorem handover_registerSelf (hm : m.pid ≠ 0) (hzero : ¬ safe 0) (hnew : new m.pid)
    (hsafe : ∀ q, safe q → q = m.pid ∨ m.alive q) :
    Handover safe new s.region (m.registerSelf s).2.region := by
  rw [m.region_registerSelf]
  exact m.handover_register hs hm hzero hnew hsafe

/-- Whoever gives its slot back takes none from others. -/
theorem handover_removeSelf (hm : m.pid ≠ 0) (hsafe : ¬ safe m.pid) :
    Handover safe new s.region (m.removeSelf s).2.region := by
  rw [m.region_removeSelf]
  exact m.handover_tryLocked (.refl _) fun word => (hs.setLock word).handover_unregister hm hsafe

end

/-- Reaping takes slots from those that the member takes for dead. -/
theorem handover_clearDead (hsafe : ∀ q, safe q → q = m.pid ∨ m.alive q)
    (hs : Handover safe new r s.region) : Handover safe new r (m.clearDead s).2.region :=
  m.handover_locked hs fun _ => handover_reap _ hsafe

/-! ## What leaves all owners alone -/

/-- Changing the slot that was found, if one was. -/
private theorem handover_modifyFound {found : Option Nat × Seat} {e : RegionError}
    {f : Slot → Slot} (hf : ∀ s : Slot, (f s).pid = s.pid)
    (hfound : Handover safe new r found.2.region) :
    Handover safe new r (match found with
      | (some n, t) => (Except.ok (), { t with region := t.region.modifySlot n f })
      | (none, t) => (.error e, t)).2.region := by
  rcases found with ⟨_ | n, t⟩
  · exact hfound
  · exact hfound.trans (.of_pid_eq fun i => t.region.pid_modifySlot_nat n i hf)

variable (hs : Handover safe new r s.region)

include hs

/-- Noting the own host identity leaves all owners as they are. -/
theorem handover_setHostPid (hostPid : Pid) :
    Handover safe new r (m.setHostPid hostPid s).2.region := by
  rw [m.setHostPid_apply]
  exact handover_modifyFound (fun _ => rfl) (by rwa [m.region_mySlot?])

/-- So does storing the own status. -/
theorem handover_setStatus (status : ProcStatus) :
    Handover safe new r (m.setStatus status s).2.region := by
  rw [m.setStatus_apply]
  exact handover_modifyFound (fun _ => rfl) (by rwa [m.region_mySlot?])

/-- So does charging a process. -/
theorem handover_addUsage (pid : Pid) (dev : Nat) (bytes : UInt64) (kind : UsageKind) :
    Handover safe new r (m.addUsage pid dev bytes kind s).2.region := by
  rw [m.addUsage_apply]
  cases device? dev with
  | error e => exact hs
  | ok d => exact handover_modifyFound (fun _ => rfl) (by rwa [m.region_slotOf?])

/-- So does taking a charge back. -/
theorem handover_removeUsage (pid : Pid) (dev : Nat) (bytes : UInt64) (kind : UsageKind) :
    Handover safe new r (m.removeUsage pid dev bytes kind s).2.region := by
  rw [m.removeUsage_apply]
  cases device? dev with
  | error e => exact hs
  | ok d => exact handover_modifyFound (fun _ => rfl) (by rwa [m.region_slotOf?])

/-- So does forgetting what was observed. -/
theorem handover_resetObserved : Handover safe new r (m.resetObserved s).2.region := by
  refine m.handover_locked hs fun word => .of_pid_eq fun i => ?_
  rw [slotAt_resetObserved]
  split <;> rfl

end Member

namespace Region

/-- An observation does not change an owner. -/
theorem outlastsObserving_handover (safe new : Pid → Prop) (r : Region) :
    OutlastsObserving (Handover safe new r) :=
  fun r' i _ _ _ _ hr => hr.trans (.of_pid_eq fun j => r'.pid_modifySlot i j fun _ => rfl)

end Region

/-- The operation reaps. -/
def RegionCall.reaps : RegionCall → Bool
  | .registerSelf | .register .. | .clearDead => true
  | _ => false

open Region in
/-- Whatever a member asks for, processes that it takes for alive keep their slots, unless it gives
its own slot back. -/
theorem RegionCall.handover {safe : Pid → Prop} {m : Member} (hm : m.pid ≠ 0) (call : RegionCall)
    {s : Seat} (hs : s.region.Consistent) (hzero : ¬ safe 0)
    (hsafe : call.reaps → ∀ q, safe q → q = m.pid ∨ m.alive q)
    (hleave : call = .removeSelf → ¬ safe m.pid) :
    Handover safe (fun _ => True) s.region (call.run m s).region := by
  -- Only registering gives slots away; reaping and leaving free them.
  cases call with
  | registerSelf => exact m.handover_registerSelf hs hm hzero trivial (hsafe rfl)
  | register pid hpid => exact m.handover_register hs hpid hzero trivial (hsafe rfl)
  | removeSelf => exact m.handover_removeSelf hs hm (hleave rfl)
  | clearDead => exact m.handover_clearDead (hsafe rfl) (.refl _)
  | setHostPid hostPid => exact m.handover_setHostPid (.refl _) hostPid
  | setStatus status => exact m.handover_setStatus (.refl _) status
  | addUsage pid dev bytes kind => exact m.handover_addUsage (.refl _) pid dev bytes kind
  | removeUsage pid dev bytes kind => exact m.handover_removeUsage (.refl _) pid dev bytes kind
  | setMonitor hostPid dev bytes =>
    have hkeeps : Keeps (fun t : Seat => Handover safe (fun _ => True) s.region t.region)
        (m.setMonitor hostPid dev bytes) :=
      Keeps.bind_except (Member.keeps_refuse _ _) fun d => Keeps.lift fun t ht =>
        m.handover_locked ht fun word => Member.keeps_observe
          (outlastsObserving_handover _ _ _) hostPid d (fun _ => rfl) (.refl _)
    exact hkeeps s (.refl _)
  | setCompute hostPid dev share =>
    have hkeeps : Keeps (fun t : Seat => Handover safe (fun _ => True) s.region t.region)
        (Member.setCompute hostPid dev share) :=
      Keeps.bind_except (Member.keeps_refuse _ _) fun d t ht =>
        Member.keeps_observe (outlastsObserving_handover _ _ _) hostPid d (fun _ => rfl) ht
    exact hkeeps s (.refl _)
  | resetObserved => exact m.handover_resetObserved (.refl _)

end GpuQuota
