import GpuQuota.Proofs.Allocation.Conservation

/-!
# What allocators do to a seat

An allocator works on its seat by a few operations: it charges its own process, takes charges back,
and clears the slots of dead processes. Whatever those keep is kept by every operation of the
allocator, whether or not it is refused.

The module introduces:

* `Allocator.Endures` — a property of the desk that those operations keep;
  `Allocator.keeps_admissible_of_clearDead`, `Allocator.Endures.reserve` and their kind — it is kept
  by whatever looks at a request or charges it;
  `Allocator.Endures.allocateAsync`, `Allocator.Endures.freeAsync` — and by what is asked of the
  pool, if it does not depend on the driver and the entries of the pool.
* `Allocator.Bearable` — a property of the seat that those operations keep, whatever is tracked;
  `Allocator.Bearable.allocateAs` and its kind — it is kept by the operations of an allocator.
* `AllocCall.run_keeps` — and so by whatever an allocator is asked for.
-/

namespace GpuQuota

namespace Allocator

variable {σ α : Type} {m : Member} {R : Seat → Holdings → Prop} {C : Desk σ → Prop}

/-- What an operation on the seat keeps is kept when an allocator carries it out. -/
theorem keeps_onSeat {op : SeatM α}
    (hop : ∀ desk : Desk σ, Keeps (fun s => C { desk with seat := s }) op) : Keeps C (onSeat op) :=
  fun desk hdesk => hop desk desk.seat hdesk

/-- So is what an operation on the region keeps, even if the region refuses it. -/
theorem keeps_onRegion {op : RegionM α}
    (hop : ∀ desk : Desk σ, Keeps (fun s => C { desk with seat := s }) op) :
    Keeps C (onRegion op) := by
  refine Keeps.bind_except (keeps_onSeat hop) fun result => ?_
  cases result with
  | ok a => exact keeps_pure _
  | error e => exact keeps_throw _

/-- What does not look at the driver is kept when the driver is called. -/
theorem keeps_attempt (call : Call σ α) (hC : ∀ desk driver, C desk → C { desk with driver }) :
    Keeps C (attempt call) :=
  fun _ hdesk => hC _ _ hdesk

/-- So is it when the driver refuses the call. -/
theorem keeps_onDriver (call : Call σ α) (hC : ∀ desk driver, C desk → C { desk with driver }) :
    Keeps C (onDriver call) := by
  refine Keeps.bind_except (keeps_attempt call hC) fun result => ?_
  cases result with
  | ok a => exact keeps_pure _
  | error e => exact keeps_throw _

/-- What does not look at the tracked entries is kept when they change. -/
theorem keeps_modifyHoldings (hR : ∀ s t t', R s t → R s t') (f : Holdings → Holdings) :
    Keeps (fun desk : Desk σ => R desk.seat desk.holdings) (modifyHoldings f) :=
  fun _ hdesk => hR _ _ _ hdesk

/-! ## Charges -/

/-- Looking whether a request would fit changes nothing, but that dead slots may be cleared. -/
theorem keeps_admissible_of_clearDead
    (hclear : ∀ desk : Desk σ, Keeps (fun s => C { desk with seat := s }) m.clearDead)
    (dev : Nat) (size : UInt64) : Keeps C (admissible m dev size) := by
  unfold admissible
  refine Keeps.bind_except (keeps_onRegion fun _ => Member.keeps_memoryLimit dev) fun limit => ?_
  split
  next => exact keeps_pure _
  next =>
    refine Keeps.bind_except (keeps_onRegion fun _ => Member.keeps_usageSum dev) fun sum => ?_
    dsimp only
    -- Dead slots are cleared only if the request does not fit at first.
    split
    next =>
      refine Keeps.bind_except (keeps_onSeat hclear) fun cleared => ?_
      split
      next => exact keeps_throw _
      next =>
        refine Keeps.bind_except (keeps_onRegion fun _ => Member.keeps_usageSum dev) fun sum => ?_
        split
        next => exact keeps_throw _
        next => exact keeps_pure _
    next => exact keeps_pure _

/-- Looking whether a request would fit keeps what clearing dead slots keeps. -/
theorem keeps_admissible (hclear : ∀ h, Keeps (R · h) m.clearDead) (dev : Nat) (size : UInt64) :
    Keeps (fun desk : Desk σ => R desk.seat desk.holdings) (admissible m dev size) :=
  keeps_admissible_of_clearDead (fun desk => hclear desk.holdings) dev size

/-- The operations on the seat that an allocator uses keep the property of its desk. -/
structure Endures (m : Member) (C : Desk σ → Prop) : Prop where
  addUsage : ∀ (desk : Desk σ) dev bytes kind,
    Keeps (fun s => C { desk with seat := s }) (m.addUsage m.pid dev bytes kind)
  removeUsage : ∀ (desk : Desk σ) dev bytes kind,
    Keeps (fun s => C { desk with seat := s }) (m.removeUsage m.pid dev bytes kind)
  clearDead : ∀ desk : Desk σ, Keeps (fun s => C { desk with seat := s }) m.clearDead

namespace Endures

variable (h : Endures m C) (dev : Nat) (size : UInt64) (kind : UsageKind)

include h

/-- Taking a charge back keeps the property. -/
theorem takeBack : Keeps C (onRegion (m.removeUsage m.pid dev size kind)) :=
  keeps_onRegion fun desk => h.removeUsage desk dev size kind

/-- An attempt to charge keeps the property, whether the charge stays or is taken back. -/
theorem charge (limit : UInt64) : Keeps C (charge m dev size kind limit) := by
  unfold Allocator.charge
  refine Keeps.bind_except (keeps_onRegion fun t => h.addUsage t dev size kind) fun _ => ?_
  split
  next => exact keeps_pure _
  next =>
    refine Keeps.bind_except (keeps_onRegion fun _ => Member.keeps_usageSum dev) fun sum => ?_
    dsimp only
    split
    next => exact keeps_pure _
    next =>
      exact Keeps.bind_except (h.takeBack dev size kind) fun _ => keeps_pure _

/-- A reservation keeps the property through both of its attempts. -/
theorem reserve : Keeps C (reserve m dev size kind) := by
  unfold Allocator.reserve
  refine Keeps.bind_except (keeps_onRegion fun _ => Member.keeps_memoryLimit dev) fun limit => ?_
  refine Keeps.bind_except (h.charge dev size kind limit) fun others? => ?_
  cases others? with
  | none => exact keeps_pure _
  | some others =>
    -- The request was refused once, and dead slots are cleared before the second attempt.
    refine Keeps.bind_except (keeps_onSeat h.clearDead) fun cleared => ?_
    split
    next => exact keeps_throw _
    next =>
      refine Keeps.bind_except (h.charge dev size kind limit) fun others? => ?_
      cases others? with
      | none => exact keeps_pure _
      | some others => exact keeps_throw _

/-- Giving a reservation up keeps the property even where nothing was charged. -/
theorem unreserve : Keeps C (unreserve m dev size kind) :=
  Keeps.bind_except (keeps_onSeat fun desk => h.removeUsage desk dev size kind) fun _ =>
    keeps_pure _

/-! ## The pool -/

section Pool

variable [DeviceDriver σ] (hdriver : ∀ desk driver, C desk → C { desk with driver })
  (hpooled : ∀ desk pooled, C desk → C { desk with holdings := { desk.holdings with pooled } })

include hdriver hpooled

/-- Paying for what the pool has grown by keeps the property, also if it has to be undone. -/
theorem payForPool (device : Nat) (address : Address) (stream : Stream) (charged : UInt64)
    (pooled : Tracked) : Keeps C (payForPool m device address stream charged pooled) := by
  have htrack : ∀ a, Keeps C (do trackPooled a; return address : AllocM σ Address) :=
    fun _ => Keeps.bind_except (keeps_modify fun _ => hpooled _ _) fun _ => keeps_pure _
  refine Keeps.bind_except (keeps_modify fun _ => hpooled _ _) fun _ => ?_
  dsimp only
  split
  next =>
    -- The pool has grown; if that is not paid for, the memory goes back to the driver.
    refine Keeps.bind_except (Keeps.tryCatch (h.reserve device charged .data) fun e => ?_)
      fun _ => htrack _
    refine Keeps.bind_except (keeps_modify fun _ => hpooled _ _) fun _ => ?_
    exact Keeps.bind_except (keeps_attempt _ hdriver) fun _ => keeps_throw _
  next => exact htrack _

/-- An allocation from the pool keeps the property, wherever it is refused. -/
theorem allocateAsync (stream : Stream) : Keeps C (allocateAsync m size stream) := by
  unfold Allocator.allocateAsync
  refine Keeps.bind_except (keeps_onDriver _ hdriver) fun device => ?_
  refine Keeps.bind_except (keeps_admissible_of_clearDead h.clearDead device size) fun _ => ?_
  refine Keeps.bind_except (keeps_onDriver _ hdriver) fun address => ?_
  refine Keeps.bind_except (keeps_attempt _ hdriver) fun answer => ?_
  exact Keeps.bind_except keeps_get fun desk =>
    h.payForPool hdriver hpooled device address stream _ _

/-- A release into the pool keeps the property, whether or not the driver accepts it. -/
theorem freeAsync (address : Address) (stream : Stream) :
    Keeps C (freeAsync m address stream) := by
  unfold Allocator.freeAsync
  refine Keeps.bind_except keeps_get fun desk => ?_
  split
  next => exact Keeps.bind_except (keeps_onDriver _ hdriver) fun _ => keeps_pure _
  next a rest _ =>
    refine Keeps.bind_except (keeps_modify fun _ => hpooled _ _) fun _ => ?_
    refine Keeps.bind_except (keeps_attempt _ hdriver) fun result => ?_
    -- The entry is put back where the driver refuses, and its charge is taken back where it does
    -- not.
    cases result with
    | error e =>
      exact Keeps.bind_except (keeps_modify fun _ => hpooled _ _) fun _ => keeps_throw _
    | ok _ =>
      refine Keeps.bind_except (keeps_modify fun _ => hpooled _ _) fun _ => ?_
      dsimp only
      split
      next =>
        exact Keeps.bind_except (h.takeBack a.device a.length a.kind) fun _ => keeps_pure _
      next => exact keeps_pure _

end Pool

end Endures

/-- The operations on the seat that an allocator uses keep the property, whatever is tracked. -/
structure Bearable (m : Member) (R : Seat → Holdings → Prop) : Prop where
  addUsage : ∀ h dev bytes kind, Keeps (R · h) (m.addUsage m.pid dev bytes kind)
  removeUsage : ∀ h dev bytes kind, Keeps (R · h) (m.removeUsage m.pid dev bytes kind)
  clearDead : ∀ h, Keeps (R · h) m.clearDead

namespace Bearable

variable (dev : Nat) (size : UInt64) (kind : UsageKind)

section

variable (h : Bearable m R)

include h

/-- Such a property is one of the desk. -/
theorem endures : Endures m fun desk : Desk σ => R desk.seat desk.holdings where
  addUsage desk := h.addUsage desk.holdings
  removeUsage desk := h.removeUsage desk.holdings
  clearDead desk := h.clearDead desk.holdings

/-- Taking a charge back keeps such a property. -/
theorem takeBack :
    Keeps (fun desk : Desk σ => R desk.seat desk.holdings)
      (onRegion (m.removeUsage m.pid dev size kind)) :=
  h.endures.takeBack dev size kind

/-- So does a reservation. -/
theorem reserve :
    Keeps (fun desk : Desk σ => R desk.seat desk.holdings) (reserve m dev size kind) :=
  h.endures.reserve dev size kind

/-- So does giving a reservation up. -/
theorem unreserve :
    Keeps (fun desk : Desk σ => R desk.seat desk.holdings) (unreserve m dev size kind) :=
  h.endures.unreserve dev size kind

end

/-! ## Allocating and freeing -/

variable [DeviceDriver σ] (h : Bearable m R) (hR : ∀ s t t', R s t → R s t')

include h hR

/-- An allocation keeps such a property, whether or not the driver has the memory. -/
theorem allocateAs :
    Keeps (fun desk : Desk σ => R desk.seat desk.holdings) (allocateAs m size kind) := by
  refine Keeps.bind_except (keeps_onDriver _ fun _ _ h => h) fun device => ?_
  refine Keeps.bind_except (h.reserve device size kind) fun _ => ?_
  refine Keeps.bind_except (keeps_attempt _ fun _ _ h => h) fun result => ?_
  cases result with
  | error e => exact Keeps.bind_except (h.unreserve device size kind) fun _ => keeps_throw _
  | ok place => exact Keeps.bind_except (keeps_modifyHoldings hR _) fun _ => keeps_pure _

/-- So does a release, whether the pointer is tracked or not. -/
theorem free (address : Address) :
    Keeps (fun desk : Desk σ => R desk.seat desk.holdings) (free m address) := by
  unfold Allocator.free
  refine Keeps.bind_except keeps_get fun desk => ?_
  split
  next => exact Keeps.bind_except (keeps_onDriver _ fun _ _ h => h) fun _ => keeps_pure _
  next a rest _ =>
    refine Keeps.bind_except (keeps_modifyHoldings hR _) fun _ => ?_
    -- The entry is out, and goes back in if the driver does not free the memory.
    refine Keeps.bind_except (keeps_attempt _ fun _ _ h => h) fun result => ?_
    cases result with
    | error e => exact Keeps.bind_except (keeps_modifyHoldings hR _) fun _ => keeps_throw _
    | ok _ =>
      exact Keeps.bind_except (h.takeBack a.device a.length a.kind) fun _ => keeps_pure _

/-- So does an allocation from the pool. -/
theorem allocateAsync (stream : Stream) :
    Keeps (fun desk : Desk σ => R desk.seat desk.holdings) (allocateAsync m size stream) :=
  h.endures.allocateAsync size (fun _ _ hdesk => hdesk) (fun _ _ => hR _ _ _) stream

/-- So does a release into the pool. -/
theorem freeAsync (address : Address) (stream : Stream) :
    Keeps (fun desk : Desk σ => R desk.seat desk.holdings) (freeAsync m address stream) :=
  h.endures.freeAsync (fun _ _ hdesk => hdesk) (fun _ _ => hR _ _ _) address stream

/-- So does taking over memory that somebody else has allocated. -/
theorem registerExternal (address : Address) :
    Keeps (fun desk : Desk σ => R desk.seat desk.holdings) (registerExternal m address size) := by
  refine Keeps.bind_except (keeps_onDriver _ fun _ _ h => h) fun device => ?_
  exact Keeps.bind_except (h.reserve device size .data) fun _ => keeps_modifyHoldings hR _

end Bearable

end Allocator

/-- What the operations on the seat keep is kept by whatever an allocator is asked for. -/
theorem AllocCall.run_keeps {σ : Type} [DeviceDriver σ] {m : Member} {P : Seat → Prop}
    (h : Allocator.Bearable m fun s _ => P s) (call : AllocCall) (desk : Desk σ)
    (hdesk : P desk.seat) : P (call.run m desk).seat := by
  have hR : ∀ s (_ _ : Holdings), P s → P s := fun _ _ _ hs => hs
  cases call with
  | allocate size => exact h.allocateAs size .data hR desk hdesk
  | allocateAs size kind => exact h.allocateAs size kind hR desk hdesk
  | allocateAsync size stream => exact h.allocateAsync size hR stream desk hdesk
  | free address => exact h.free hR address desk hdesk
  | freeAsync address stream => exact h.freeAsync hR address stream desk hdesk
  | registerExternal address size => exact h.registerExternal size hR address desk hdesk

end GpuQuota
