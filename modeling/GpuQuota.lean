import GpuQuota.Main
import GpuQuota.Proofs.Admission.Limit
import GpuQuota.Proofs.Admission.Reserve
import GpuQuota.Proofs.Allocation.Conservation
import GpuQuota.Proofs.Lock.Exclusion
import GpuQuota.Scenario.Script
import GpuQuota.Proofs.Config.Precedence
import GpuQuota.Proofs.Allocation.Seat
import GpuQuota.Proofs.Registry.Frame
import GpuQuota.Proofs.Work
import GpuQuota.Proofs.Lock.Balance
import GpuQuota.Proofs.Allocation.InRange
import GpuQuota.Proofs.Allocation.Refusal
import GpuQuota.Proofs.Region.Layout
import GpuQuota.Proofs.Region.Agreement
import GpuQuota.Proofs.Admission.Decision
import GpuQuota.Proofs.Sequence.Untorn
import GpuQuota.Proofs.Registry.Owners
import GpuQuota.Proofs.Host.Tables
import GpuQuota.Proofs.Host.Signals
import GpuQuota.Proofs.Host.Context
import GpuQuota.Proofs.Host.Family
import GpuQuota.Proofs.Lock.Progress
import GpuQuota.Proofs.Admission.Exactness
import GpuQuota.Proofs.Driver.Memory
import GpuQuota.Proofs.Allocation.Outcome
import GpuQuota.Proofs.Allocation.Handout
import GpuQuota.Proofs.Allocation.Cleared
import GpuQuota.Proofs.Allocation.Pool
import GpuQuota.Proofs.Registry.Registration
import GpuQuota.Proofs.Registry.Lookup
import GpuQuota.Proofs.Allocation.Drift
import GpuQuota.Proofs.Admission.Figures
import GpuQuota.Proofs.Allocation.Classification
import GpuQuota.Proofs.Registry.Attribution
import GpuQuota.Proofs.Throttle.Feedback
import GpuQuota.Proofs.Throttle.Convergence
import GpuQuota.Proofs.Throttle.Bucket
import GpuQuota.Proofs.Throttle.Limiter
import GpuQuota.Proofs.Throttle.Pace
import GpuQuota.Proofs.Config.LimitValue
import GpuQuota.Proofs.Config.Assignment
import GpuQuota.Proofs.Config.Resolution
import GpuQuota.Proofs.Config.Faults
import GpuQuota.Proofs.Registry.Identity
import GpuQuota.Proofs.Throttle.Launches
