import GpuQuota.Proofs.Allocation.Refusal
import GpuQuota.Proofs.Driver.Memory

/-!
# What operations come to

An operation of an allocator on a simulated device succeeds or is refused; it hands memory out or
gives some back; and it changes what is tracked and what is in use on the device. What the region
says only decides between these cases. This module lists them once, so that invariants of an
allocator and its device need not follow the operations step by step.

The module introduces:

* `Origin`, `Handout`, `AllocCall.handout` — the memory that an operation hands out.
* `Desk.Aside` — what is tracked and the driver are just these.
* `Allocator.aside_reserve` and its kind — charging leaves both alone.
* `AllocCall.Outcome` — the cases; `AllocCall.outcome` — every operation comes to one of them.
-/

namespace GpuQuota

/-! ## Memory that is handed out -/

/-- The two ways in which an allocator hands memory out. -/
inductive Origin
  /-- Memory of its own. -/
  | plain
  /-- Memory of the pool. -/
  | pooled
  deriving DecidableEq, Repr

/-- Memory that was handed out. -/
structure Handout where
  /-- Where it starts. -/
  address : Address
  /-- Where it came from. -/
  origin : Origin
  /-- What was asked for. -/
  size : UInt64
  deriving DecidableEq, Repr

/-- The entries of one origin. -/
def Holdings.of (h : Holdings) : Origin → Tracked
  | .plain => h.plain
  | .pooled => h.pooled

/-- The entries of the pool with a new one, which is charged with what the pool has grown. -/
def Tracked.pushPool (t : Tracked) (reserved size : UInt64) (address : Address) (device : Nat) :
    Tracked :=
  let (charged, t) := t.chargePool reserved size
  t.push { address, length := charged, device, kind := .data, handle := none }

namespace AllocCall

/-- What an operation hands out, if anything. -/
def handout {σ : Type} [DeviceDriver σ] (m : Member) : AllocCall → Desk σ → Option Handout
  | .allocate size, desk => (Allocator.allocate m size desk).1.toOption.map (⟨·, .plain, size⟩)
  | .allocateAs size kind, desk =>
    (Allocator.allocateAs m size kind desk).1.toOption.map (⟨·, .plain, size⟩)
  | .allocateAsync size stream, desk =>
    (Allocator.allocateAsync m size stream desk).1.toOption.map (⟨·, .pooled, size⟩)
  | .free _, _ => none
  | .freeAsync _ _, _ => none
  | .registerExternal _ _, _ => none

/-- The pointer that an operation gives back, and the way in which it does so. -/
def returns : AllocCall → Option (Address × Origin)
  | .free address => some (address, .plain)
  | .freeAsync address _ => some (address, .pooled)
  | .allocate _ => none
  | .allocateAs _ _ => none
  | .allocateAsync _ _ => none
  | .registerExternal _ _ => none

end AllocCall

/-! ## Apart from the seat -/

/-- Just this is tracked, and just this is the driver. -/
def Desk.Aside {σ : Type} (h : Holdings) (driver : σ) (desk : Desk σ) : Prop :=
  desk.holdings = h ∧ desk.driver = driver

namespace Allocator

variable {σ α β : Type} {h : Holdings} {driver : σ} {E : Desk σ → Prop}

/-- A call of the driver answers, and leaves the driver, as the driver says. -/
theorem aside_attempt {call : Call σ α} {answer : Except DriverError α} {driver' : σ}
    (heq : call driver = (answer, driver')) :
    Triple (Desk.Aside h driver) (attempt call)
      (fun result desk => result = answer ∧ desk.Aside h driver') E := by
  rintro desk ⟨rfl, rfl⟩
  exact ⟨congrArg (·.1) heq, rfl, congrArg (·.2) heq⟩

/-- If the driver does what it is asked for, the operation goes on with the result. -/
theorem aside_onDriver_ok {call : Call σ α} {a : α} {driver' : σ}
    (heq : call driver = (.ok a, driver')) :
    Triple (Desk.Aside h driver) (onDriver call)
      (fun result desk => result = a ∧ desk.Aside h driver') E := by
  refine Triple.bind (aside_attempt heq) fun answer => Triple.of_fact ?_
  rintro rfl
  exact Triple.pure fun _ hdesk => ⟨rfl, hdesk⟩

/-- A refusal of the driver ends the operation. -/
theorem aside_onDriver_error {call : Call σ α} {e : DriverError} {driver' : σ}
    (heq : call driver = (.error e, driver')) (f : α → AllocM σ β) {Q : β → Desk σ → Prop} :
    Triple (Desk.Aside h driver) (onDriver call >>= f) Q (Desk.Aside h driver') := by
  refine Triple.bind (Q := fun _ _ => False) (Triple.bind (aside_attempt heq) fun answer =>
    Triple.of_fact ?_) fun _ _ hno => hno.elim
  rintro rfl
  exact Triple.throw fun _ hdesk => hdesk

/-- A change of what is tracked is just that change. -/
theorem aside_modifyHoldings (f : Holdings → Holdings) :
    Triple (Desk.Aside h driver) (modifyHoldings f)
      (fun _ => Desk.Aside (f h) driver) E :=
  Triple.modify fun _ hdesk => ⟨congrArg f hdesk.1, hdesk.2⟩

/-- Charging works on the seat alone. -/
theorem endures_aside (m : Member) : Endures m (Desk.Aside h driver) where
  addUsage _ _ _ _ _ hdesk := hdesk
  removeUsage _ _ _ _ _ hdesk := hdesk
  clearDead _ _ hdesk := hdesk

section Charges

variable (m : Member) (dev : Nat) (bytes : UInt64) (kind : UsageKind)

/-- Looking whether a request would fit leaves what is tracked and the driver alone. -/
theorem aside_admissible :
    Triple (Desk.Aside h driver) (admissible m dev bytes) (fun _ => Desk.Aside h driver)
      (Desk.Aside h driver) :=
  Triple.of_keeps (keeps_admissible_of_clearDead (endures_aside m).clearDead dev bytes)

/-- So does charging a request. -/
theorem aside_reserve :
    Triple (Desk.Aside h driver) (reserve m dev bytes kind) (fun _ => Desk.Aside h driver)
      (Desk.Aside h driver) :=
  Triple.of_keeps ((endures_aside m).reserve dev bytes kind)

/-- So does giving the charge up. -/
theorem aside_unreserve :
    Triple (Desk.Aside h driver) (unreserve m dev bytes kind) (fun _ => Desk.Aside h driver)
      (Desk.Aside h driver) :=
  Triple.of_keeps ((endures_aside m).unreserve dev bytes kind)

/-- So does taking back the charge of an entry. -/
theorem aside_takeBack :
    Triple (Desk.Aside h driver) (onRegion (m.removeUsage m.pid dev bytes kind))
      (fun _ => Desk.Aside h driver) (Desk.Aside h driver) :=
  Triple.of_keeps ((endures_aside m).takeBack dev bytes kind)

end Charges

end Allocator

/-! ## Outcomes -/

/-- The cases that an operation of an allocator on a simulated device can come to: whether it
succeeds, what it hands out, and what is tracked and what the device is like afterwards. -/
inductive AllocCall.Outcome (h : Holdings) (d : SimulatedDevice) (call : AllocCall) :
    Bool → Option Handout → Holdings → SimulatedDevice → Prop
  /-- The operation is refused. Entries that were taken out are tracked again at another place. -/
  | refused {h' : Holdings} {d' : SimulatedDevice}
    (hplain : h'.plain.entries.Perm h.plain.entries)
    (hpooled : h'.pooled.entries.Perm h.pooled.entries)
    (hwatermark : h'.pooled.watermark = h.pooled.watermark) (hsame : d.SameMemory d') :
    Outcome h d call false none h' d'
  /-- Memory is handed out and tracked. -/
  | granted {size length : UInt64} {kind : UsageKind} {handle : Option UInt64}
    {d' : SimulatedDevice} (hcarved : d.Carved length d') (hpool : d.SamePool d') :
    Outcome h d call true (some ⟨d.nextAddress, .plain, size⟩)
      { h with plain := h.plain.push ⟨d.nextAddress, size, d.current, kind, handle⟩ } d'
  /-- Memory of the pool is handed out; what is charged of it is tracked. -/
  | grantedPooled {size : UInt64} {d' : SimulatedDevice} (hcarved : d.Carved size d')
    (hpool : d.PoolGrown size d') :
    Outcome h d call true (some ⟨d.nextAddress, .pooled, size⟩)
      { h with pooled := h.pooled.pushPool d'.poolReserved size d.nextAddress d.current } d'
  /-- The charge for memory of the pool is refused, and the pool gets it back. -/
  | unpaid {size : UInt64} {d₁ d' : SimulatedDevice} (hcarved : d.Carved size d₁)
    (hgrown : d.PoolGrown size d₁) (hreleased : d₁.Released d.nextAddress size d')
    (hshrunk : d₁.PoolShrunk size d') : Outcome h d call false none h d'
  /-- Tracked memory is freed; it may be that there is no slot to take the charge back from. -/
  | freed {ok : Bool} {address : Address} {a : Allocation} {rest : Tracked} {length : UInt64}
    {d' : SimulatedDevice} (hcall : call.returns = some (address, .plain))
    (hremove : h.plain.remove? address = some (a, rest)) (hreleased : d.Released address length d')
    (hpool : d.SamePool d') : Outcome h d call ok none { h with plain := rest } d'
  /-- Tracked memory of the pool is given back. -/
  | freedPooled {ok : Bool} {address : Address} {a : Allocation} {rest : Tracked} {length : UInt64}
    {d' : SimulatedDevice} (hcall : call.returns = some (address, .pooled))
    (hremove : h.pooled.remove? address = some (a, rest)) (hreleased : d.Released address length d')
    (hpool : d.PoolShrunk length d') :
    Outcome h d call ok none { h with pooled := rest.releasePool a.length } d'
  /-- Memory that is not tracked in this way is freed all the same. -/
  | untracked {address : Address} {length : UInt64} {d' : SimulatedDevice}
    (hcall : call.returns = some (address, .plain)) (hnone : h.plain.remove? address = none)
    (hreleased : d.Released address length d') (hpool : d.SamePool d') :
    Outcome h d call true none h d'
  /-- Memory that is not tracked as the pool's is given back to the pool all the same. -/
  | untrackedPooled {address : Address} {length : UInt64} {d' : SimulatedDevice}
    (hcall : call.returns = some (address, .pooled)) (hnone : h.pooled.remove? address = none)
    (hreleased : d.Released address length d') (hpool : d.PoolShrunk length d') :
    Outcome h d call true none h d'
  /-- Memory from elsewhere is tracked. -/
  | takenIn {a : Allocation} (hcall : call = .registerExternal a.address a.length) :
    Outcome h d call true none { h with plain := h.plain.push a } d

namespace Allocator

open AllocCall

variable {h : Holdings} {d : SimulatedDevice} {call : AllocCall}

/-- What an operation that may hand memory out comes to. -/
def Comes (h : Holdings) (d : SimulatedDevice) (call : AllocCall) (ok : Bool)
    (handout : Option Handout) (desk : Desk SimulatedDevice) : Prop :=
  Outcome h d call ok handout desk.holdings desk.driver

/-- One of the outcomes is what the operation comes to. -/
private theorem comes_of_aside {ok : Bool} {handout : Option Handout} {h' : Holdings}
    {d' : SimulatedDevice} (hout : Outcome h d call ok handout h' d')
    {desk : Desk SimulatedDevice} (hdesk : desk.Aside h' d') : Comes h d call ok handout desk := by
  obtain ⟨rfl, rfl⟩ := hdesk
  exact hout

/-- A refusal before anything has changed. -/
private theorem refused_of_aside {d' : SimulatedDevice} (hsame : d.SameMemory d')
    {desk : Desk SimulatedDevice} (hdesk : desk.Aside h d') : Comes h d call false none desk :=
  comes_of_aside (.refused (.refl _) (.refl _) rfl hsame) hdesk

section

variable (m : Member) (size : UInt64)

/-- An allocation is granted or refused. -/
theorem comes_allocateAs (kind : UsageKind) :
    Triple (Desk.Aside h d) (allocateAs m size kind)
      (fun address => Comes h d call true (some ⟨address, .plain, size⟩))
      (Comes h d call false none) := by
  refine Triple.bind (aside_onDriver_ok rfl) fun device => Triple.of_fact ?_
  rintro rfl
  refine Triple.bind ((aside_reserve m d.current size kind).mono (fun _ _ hdesk => hdesk)
    fun _ => refused_of_aside (.refl d)) fun _ => ?_
  rcases d.obtain_cases size with ⟨length, handle, d', heq, hcarved, hpool⟩ | ⟨e, d', heq, hsame⟩
  · -- The driver has the memory, and it is tracked.
    refine Triple.bind (aside_attempt heq) fun answer => Triple.of_fact ?_
    rintro rfl
    refine Triple.bind (aside_modifyHoldings _) fun _ => Triple.pure fun _ => ?_
    exact comes_of_aside (.granted hcarved hpool)
  · -- The driver has no memory, and the charge is taken back.
    refine Triple.bind (aside_attempt heq) fun answer => Triple.of_fact ?_
    rintro rfl
    refine Triple.bind ((aside_unreserve m d.current size kind).mono (fun _ _ hdesk => hdesk)
      fun _ => refused_of_aside hsame) fun _ => ?_
    exact Triple.throw fun _ => refused_of_aside hsame

/-- The memory that was taken from the pool is charged and tracked, or given back. -/
private theorem comes_payForPool (stream : Stream) {d' : SimulatedDevice}
    (hcarved : d.Carved size d') (hpool : d.PoolGrown size d') {charged : UInt64}
    {pooled : Tracked} (hcharge : h.pooled.chargePool d'.poolReserved size = (charged, pooled)) :
    Triple (Desk.Aside h d') (payForPool m d.current d.nextAddress stream charged pooled)
      (fun address => Comes h d call true (some ⟨address, .pooled, size⟩))
      (Comes h d call false none) := by
  have hpush : h.pooled.pushPool d'.poolReserved size d.nextAddress d.current =
      pooled.push ⟨d.nextAddress, charged, d.current, .data, none⟩ := by
    rw [Tracked.pushPool, hcharge]
  have htrack : Triple (Desk.Aside { h with pooled } d')
      (do
        trackPooled ⟨d.nextAddress, charged, d.current, .data, none⟩
        return d.nextAddress : AllocM SimulatedDevice Address)
      (fun address => Comes h d call true (some ⟨address, .pooled, size⟩))
      (Comes h d call false none) := by
    refine Triple.bind (aside_modifyHoldings _) fun _ => Triple.pure fun _ => ?_
    exact comes_of_aside (hpush ▸ .grantedPooled hcarved hpool)
  refine Triple.bind (aside_modifyHoldings _) fun _ => ?_
  dsimp only
  split
  next =>
    refine Triple.bind (Triple.tryCatch (aside_reserve m d.current charged .data) fun e => ?_)
      fun _ => htrack
    -- The watermark goes back to where it stood, and so does the memory.
    have hback := h.pooled.releasePool_chargePool d'.poolReserved size
    rw [hcharge] at hback
    obtain ⟨d'', heq, hreleased, hshrunk⟩ :=
      d'.freeAsync_of_lookup d.nextAddress hcarved.lookup_eq
    refine Triple.bind (aside_modifyHoldings _) fun _ => ?_
    refine Triple.bind (aside_attempt heq) fun _ => Triple.throw fun _ hdesk => ?_
    rw [hback] at hdesk
    exact comes_of_aside (.unpaid hcarved hpool hreleased hshrunk) hdesk.2
  next => exact htrack

/-- An allocation from the pool is granted, refused, or made and then not paid for. -/
theorem comes_allocateAsync (stream : Stream) :
    Triple (Desk.Aside h d) (allocateAsync m size stream)
      (fun address => Comes h d call true (some ⟨address, .pooled, size⟩))
      (Comes h d call false none) := by
  unfold allocateAsync
  refine Triple.bind (aside_onDriver_ok rfl) fun device => Triple.of_fact ?_
  rintro rfl
  refine Triple.bind ((aside_admissible m d.current size).mono (fun _ _ hdesk => hdesk)
    fun _ => refused_of_aside (.refl d)) fun _ => ?_
  rcases d.allocAsync_cases size with ⟨d', heq, hcarved, hpool⟩ | ⟨e, d', heq, hsame⟩
  · -- The pool hands memory out, and then its growth has to be paid for.
    refine Triple.bind (aside_onDriver_ok heq) fun address => Triple.of_fact ?_
    rintro rfl
    refine Triple.bind (aside_attempt rfl) fun answer => Triple.of_fact ?_
    rintro rfl
    refine Triple.get_bind fun desk hdesk => ?_
    rw [hdesk.1]
    exact (comes_payForPool m size stream hcarved hpool rfl).pre fun _ heq => heq ▸ hdesk
  · exact (aside_onDriver_error heq _).mono (fun _ _ hdesk => hdesk) fun _ => refused_of_aside hsame

/-- A release frees a tracked pointer or an untracked one, or is refused. -/
theorem comes_free (address : Address) (hcall : call.returns = some (address, .plain)) :
    Triple (Desk.Aside h d) (free m address) (fun _ => Comes h d call true none)
      (Comes h d call false none) := by
  refine Triple.get_bind fun desk hdesk => Triple.pre ?_ fun _ heq => heq ▸ hdesk
  rw [hdesk.1]
  split
  next hnone =>
    -- Without an entry the driver alone decides.
    rcases d.free_cases address with ⟨length, d', heq, hreleased, hpool⟩ | ⟨e, heq⟩
    · refine Triple.bind (aside_onDriver_ok heq) fun _ => Triple.pure fun _ hdesk => ?_
      exact comes_of_aside (.untracked hcall hnone hreleased hpool) hdesk.2
    · exact (aside_onDriver_error heq _).mono (fun _ _ hdesk => hdesk)
        fun _ => refused_of_aside (.refl d)
  next a rest hremove =>
    refine Triple.bind (aside_modifyHoldings _) fun _ => ?_
    rcases d.free_cases address with ⟨length, d', heq, hreleased, hpool⟩ | ⟨e, heq⟩
    · refine Triple.bind (aside_attempt heq) fun answer => Triple.of_fact ?_
      rintro rfl
      refine Triple.bind ((aside_takeBack m a.device a.length a.kind).mono
        (fun _ _ hdesk => hdesk) fun _ => ?_) fun _ => Triple.pure fun _ => ?_
      · exact comes_of_aside (.freed hcall hremove hreleased hpool)
      · exact comes_of_aside (.freed hcall hremove hreleased hpool)
    · -- The driver keeps the memory, and the entry is tracked again.
      refine Triple.bind (aside_attempt heq) fun answer => Triple.of_fact ?_
      rintro rfl
      have hperm := (List.perm_append_singleton a rest.entries).trans
        (Tracked.perm_remove? hremove).1.symm
      have hback : Outcome h d call false none { h with plain := rest.push a } d :=
        .refused hperm (.refl _) rfl (.refl d)
      exact Triple.bind (aside_modifyHoldings _) fun _ => Triple.throw fun _ => comes_of_aside hback

/-- A release into the pool does so with what is tracked as the pool's. -/
theorem comes_freeAsync (address : Address) (stream : Stream)
    (hcall : call.returns = some (address, .pooled)) :
    Triple (Desk.Aside h d) (freeAsync m address stream) (fun _ => Comes h d call true none)
      (Comes h d call false none) := by
  refine Triple.get_bind fun desk hdesk => Triple.pre ?_ fun _ heq => heq ▸ hdesk
  rw [hdesk.1]
  split
  next hnone =>
    -- Without an entry the driver alone decides.
    rcases d.freeAsync_cases address with ⟨length, d', heq, hreleased, hpool⟩ | ⟨e, heq⟩
    · refine Triple.bind (aside_onDriver_ok heq) fun _ => Triple.pure fun _ hdesk => ?_
      exact comes_of_aside (.untrackedPooled hcall hnone hreleased hpool) hdesk.2
    · exact (aside_onDriver_error heq _).mono (fun _ _ hdesk => hdesk)
        fun _ => refused_of_aside (.refl d)
  next a rest hremove =>
    refine Triple.bind (aside_modifyHoldings _) fun _ => ?_
    rcases d.freeAsync_cases address with ⟨length, d', heq, hreleased, hpool⟩ | ⟨e, heq⟩
    · refine Triple.bind (aside_attempt heq) fun answer => Triple.of_fact ?_
      rintro rfl
      refine Triple.bind (aside_modifyHoldings _) fun _ => ?_
      have hfreed : ∀ ok desk, desk.Aside { h with pooled := rest.releasePool a.length } d' →
          Comes h d call ok none desk :=
        fun _ _ => comes_of_aside (.freedPooled hcall hremove hreleased hpool)
      dsimp only
      split
      next =>
        exact Triple.bind ((aside_takeBack m a.device a.length a.kind).mono
          (fun _ _ hdesk => hdesk) (hfreed false)) fun _ => Triple.pure (hfreed true)
      next => exact Triple.pure (hfreed true)
    · -- Neither the entries nor the watermark have moved once the entry is tracked again.
      refine Triple.bind (aside_attempt heq) fun answer => Triple.of_fact ?_
      rintro rfl
      obtain ⟨hrest, hwatermark⟩ := Tracked.perm_remove? hremove
      have hperm := (List.perm_append_singleton a rest.entries).trans hrest.symm
      have hback : Outcome h d call false none { h with pooled := rest.push a } d :=
        .refused (.refl _) hperm hwatermark (.refl d)
      exact Triple.bind (aside_modifyHoldings _) fun _ => Triple.throw fun _ => comes_of_aside hback

/-- Memory from elsewhere is taken in or refused. -/
theorem comes_registerExternal (address : Address)
    (hcall : call = .registerExternal address size) :
    Triple (Desk.Aside h d) (registerExternal m address size) (fun _ => Comes h d call true none)
      (Comes h d call false none) := by
  refine Triple.bind (aside_onDriver_ok rfl) fun device => Triple.of_fact ?_
  rintro rfl
  refine Triple.bind ((aside_reserve m d.current size .data).mono (fun _ _ hdesk => hdesk)
    fun _ => refused_of_aside (.refl d)) fun _ => ?_
  refine (aside_modifyHoldings _).mono (fun _ _ => ?_) fun _ hdesk => hdesk
  exact comes_of_aside (.takenIn hcall)

end

end Allocator

namespace AllocCall

section

variable {h : Holdings} {d : SimulatedDevice} {call : AllocCall} {α : Type}
  {op : AllocM SimulatedDevice α} {desk : Desk SimulatedDevice} (hdesk : desk.Aside h d)

include hdesk

/-- The outcome of an operation that hands out what it returns. -/
private theorem outcome_of_granting {handout : α → Handout}
    (htriple : Triple (Desk.Aside h d) op
      (fun a => Allocator.Comes h d call true (some (handout a)))
      (Allocator.Comes h d call false none)) :
    Allocator.Comes h d call (op desk).1.isOk ((op desk).1.toOption.map handout) (op desk).2 := by
  have hrun := htriple desk hdesk
  generalize op desk = run at hrun ⊢
  obtain ⟨e | a, after⟩ := run
  · exact hrun
  · exact hrun

/-- The outcome of an operation that hands nothing out. -/
private theorem outcome_of_others
    (htriple : Triple (Desk.Aside h d) op (fun _ => Allocator.Comes h d call true none)
      (Allocator.Comes h d call false none)) :
    Allocator.Comes h d call (op desk).1.isOk none (op desk).2 := by
  have hrun := htriple desk hdesk
  generalize op desk = run at hrun ⊢
  obtain ⟨e | a, after⟩ := run
  · exact hrun
  · exact hrun

end

/-- Every operation of an allocator on a simulated device comes to one of the cases. -/
theorem outcome (m : Member) (call : AllocCall) (desk : Desk SimulatedDevice) :
    Outcome desk.holdings desk.driver call (call.succeeds m desk) (call.handout m desk)
      (call.run m desk).holdings (call.run m desk).driver := by
  -- Every call begins with the holdings and the driver as they are.
  have haside : desk.Aside desk.holdings desk.driver := ⟨rfl, rfl⟩
  cases call with
  | allocate size => exact outcome_of_granting haside (Allocator.comes_allocateAs m size .data)
  | allocateAs size kind =>
    exact outcome_of_granting haside (Allocator.comes_allocateAs m size kind)
  | allocateAsync size stream =>
    exact outcome_of_granting haside (Allocator.comes_allocateAsync m size stream)
  | free address => exact outcome_of_others haside (Allocator.comes_free m address rfl)
  | freeAsync address stream =>
    exact outcome_of_others haside (Allocator.comes_freeAsync m address stream rfl)
  | registerExternal address size =>
    exact outcome_of_others haside (Allocator.comes_registerExternal m size address rfl)

end AllocCall

end GpuQuota
