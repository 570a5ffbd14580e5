import RuntimeEnforcer.Lib.Buffer
import RuntimeEnforcer.Lib.BoundedLoop
import RuntimeEnforcer.Lib.LittleEndian
import RuntimeEnforcer.Lib.ErrLoop
import RuntimeEnforcer.Lib.RingBuffer
import RuntimeEnforcer.Lib.Capped
import RuntimeEnforcer.Lib.KeyedList
import RuntimeEnforcer.Lib.SortedMerge
import RuntimeEnforcer.Lib.GoPath
import RuntimeEnforcer.Kernels.Version
import RuntimeEnforcer.BpfManager.PolicyValues
import RuntimeEnforcer.Ebpf.StringMaps
import RuntimeEnforcer.Ebpf.DPath
import RuntimeEnforcer.BpfManager.PolicyMaps
import RuntimeEnforcer.Ebpf.Enforce
import RuntimeEnforcer.BpfManager.Events
import RuntimeEnforcer.Resolver.Types
import RuntimeEnforcer.Resolver.Ops
import RuntimeEnforcer.Resolver.Runs
import RuntimeEnforcer.Resolver.Effects
import RuntimeEnforcer.Resolver.Index
import RuntimeEnforcer.Resolver.PolicyIds
import RuntimeEnforcer.Resolver.Reconcile
import RuntimeEnforcer.Resolver.Admit
import RuntimeEnforcer.BpfManager.Cgtracker
import RuntimeEnforcer.Controller.Violations
import RuntimeEnforcer.Controller.Status
import RuntimeEnforcer.Controller.StatusSync
import RuntimeEnforcer.Controller.StatusNodes
import RuntimeEnforcer.Learning.Proposal
import RuntimeEnforcer.Learning.Runs
import RuntimeEnforcer.Podworkload.Workload
import RuntimeEnforcer.Cgroups.Parse
import RuntimeEnforcer.Nri.Plugin
import RuntimeEnforcer.Kubectlplugin.Protection
import RuntimeEnforcer.Debugger.Validate
