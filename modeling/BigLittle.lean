import BigLittle.Sched.LoadMax
import BigLittle.Hmp.ForceLocks
import BigLittle.Hmp.IdlePull
import BigLittle.Core.Affinity
import BigLittle.Hmp.RefBalance
import BigLittle.Hmp.PingPong
import BigLittle.Cfs.NormalPrio
import BigLittle.Hmp.Pending
import BigLittle.Hmp.ActiveBalance
import BigLittle.Core.Admission
import BigLittle.Core.CpuLoad
import BigLittle.Core.LoadAvg
import BigLittle.Core.TgTree
import BigLittle.Cfs.LeafList
import BigLittle.Bandwidth.Distribution
import BigLittle.Bandwidth.Conservation
import BigLittle.Cfs.BuddyInvariant
import BigLittle.LifeCycle.Vruntime
import BigLittle.LifeCycle.Blocked
import BigLittle.Rt.Conservation
import BigLittle.Rt.PickNext
import BigLittle.Rt.PushableInvariant
import BigLittle.Rt.CpupriInvariant
import BigLittle.Stop.Completion
import BigLittle.Stop.Barrier
import BigLittle.Mcpm.Tc2Invariant
import BigLittle.Switcher.LogicalMap
import BigLittle.Switcher.Completers
import BigLittle.Cpufreq.Rates
import BigLittle.Cpufreq.SetTarget
import BigLittle.Hmp.PullTarget
import BigLittle.Hmp.ThresholdFormula
import BigLittle.Topology.MinLoad
import BigLittle.Topology.CpuScale
import BigLittle.Hmp.PickTask
import BigLittle.Sched.Backwards
import BigLittle.Sched.CalcDelta
import BigLittle.Sched.FreqScale
import BigLittle.Hmp.Sysfs
import BigLittle.Packing.Buddy
import BigLittle.Packing.Domain
import BigLittle.Balance.Imbalance
import BigLittle.Balance.LoadBalance
