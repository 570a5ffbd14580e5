import Mathlib
import RuntimeEnforcer.Lib.ErrLoop
import RuntimeEnforcer.BpfManager.Events

/-
  `internal/resolver` (types.go, podentry.go, resolver.go, the types of policy.go) and the
  three BPF maps that the resolver writes through its callbacks (`internal/bpf`
  cgroup_policy.go, policy_mode_operation.go, the values operations of policy_values.go).

  A Go map is an `AList`: a list of entries with distinct keys, whose order is the order in
  which `range` visits them. The callbacks act on `BpfMaps`: `cg_to_policy_map`,
  `policy_mode_map`, and the allowed values of each policy, which `pol_str_maps_*` hold (the
  `PolicyMaps` module relates the two). `CallbackFaults` says which calls fail; a failed call
  changes nothing. The tracker update's effect on `cgtracker_map` belongs to the `Cgtracker`
  module: here it is a call that may fail.
-/

namespace RuntimeEnforcer.Resolver

open PolicyMode

abbrev CgroupID := UInt64
abbrev ContainerID := String
abbrev PodID := String
abbrev ContainerName := String
abbrev PolicyID := UInt64
abbrev NamespacedPolicyName := String

/-- `PolicyIDNone`: no policy for the cgroup. -/
def policyIDNone : PolicyID := 0

/-- `v1alpha1.PolicyLabelKey`. -/
def policyLabelKey : String := "security.rancher.io/policy"

/-! ## Pods and workload policies -/

/-- `PodMeta`; the workload name and type are not read by the resolver. -/
structure PodMeta where
  id : PodID
  «namespace» : String
  name : String
  labels : AList (fun _ : String => String)

/-- `ContainerMeta`. -/
structure ContainerMeta where
  id : ContainerID
  name : ContainerName
  cgroupID : CgroupID
  deriving DecidableEq, Repr

/-- `ContainerInput`. -/
structure ContainerInput where
  containerMeta : ContainerMeta
  cgroupPath : String

/-- `PodInput`. -/
structure PodInput where
  podMeta : PodMeta
  containers : AList (fun _ : ContainerID => ContainerInput)

/-- `podEntry`: the cached pod. -/
structure PodEntry where
  podMeta : PodMeta
  containers : AList (fun _ : ContainerID => ContainerMeta)

/-- `podEntry.policyName`: the policy label, `""` when the pod has none. -/
def PodEntry.policyName (pod : PodEntry) : String :=
  (pod.podMeta.labels.lookup policyLabelKey).getD ""

/-- `podEntry.matchPolicy`. -/
def PodEntry.matchPolicy (pod : PodEntry) (policyName policyNamespace : String) : Bool :=
  pod.policyName == policyName && pod.podMeta.«namespace» == policyNamespace

/-- `convertPodData`: a new cache entry with no container yet. -/
def convertPodData (pod : PodInput) : PodEntry := ⟨pod.podMeta, ∅⟩

/-- `WorkloadPolicySpec`: the mode, and the allowed executables of each container
    (`RulesByContainer[name].Executables.Allowed`). -/
structure WorkloadPolicySpec where
  mode : Mode
  rulesByContainer : AList (fun _ : ContainerName => List String)

/-- The parts of a `WorkloadPolicy` the resolver reads. -/
structure WorkloadPolicy where
  «namespace» : String
  name : String
  spec : WorkloadPolicySpec

/-- `WorkloadPolicy.NamespacedName`. -/
def WorkloadPolicy.namespacedName (wp : WorkloadPolicy) : NamespacedPolicyName :=
  wp.«namespace» ++ "/" ++ wp.name

/-! ## The BPF maps and the callbacks -/

/-- `CgroupPolicyOperation`. -/
inductive CgroupPolicyOperation where
  | addPolicyToCgroups
  | removePolicy
  | removeCgroups
  deriving DecidableEq, Repr

/-- `PolicyValuesOperation`. -/
inductive PolicyValuesOperation where
  | addValuesToPolicy
  | removeValuesFromPolicy
  | replaceValuesInPolicy
  deriving DecidableEq, Repr

/-- `PolicyModeOperation`. -/
inductive PolicyModeOperation where
  | updateMode
  | deleteMode
  deriving DecidableEq, Repr

/-- The errors the callbacks return. -/
inductive BpfError where
  /-- "cannot add cgroups to policy 0" -/
  | addToPolicyZero
  /-- "cgroup %d already associated with policy %d, cannot assign policy %d: overlapping
      policies" -/
  | overlappingPolicies (cgID existingPolID targetPolID : UInt64)
  /-- "cannot remove policy 0 from the map" -/
  | removePolicyZero
  /-- "policy ID must be 0, got %d" -/
  | policyIDNotZero (targetPolID : UInt64)
  /-- a failure of the kernel or of the map library -/
  | failed
  deriving DecidableEq, Repr

/-- The maps the callbacks write. -/
structure BpfMaps where
  /-- `cg_to_policy_map` -/
  cgToPolicy : CgroupID → Option PolicyID
  /-- `policy_mode_map` -/
  policyMode : PolicyID → Option Mode
  /-- the values `pol_str_maps_*` hold for each policy -/
  policyValues : PolicyID → Option (List String)

/-- No entry in any map. -/
def BpfMaps.empty : BpfMaps := ⟨fun _ => none, fun _ => none, fun _ => none⟩

/-- Which callback calls fail. -/
structure CallbackFaults where
  cgTracker : CgroupID → Bool
  cgroupPolicy : PolicyID → CgroupPolicyOperation → Bool
  binaries : PolicyID → PolicyValuesOperation → Bool
  mode : PolicyID → PolicyModeOperation → Bool

/-- Every call succeeds. -/
def CallbackFaults.none : CallbackFaults :=
  ⟨fun _ => false, fun _ _ => false, fun _ _ => false, fun _ _ => false⟩

/-- One `Update(cgID, targetPolID, UpdateNoExist)` of `addPolicyToCgroups`: a cgroup held by
    the same policy is skipped, one held by another policy stops the loop. -/
def addCgroupStep (targetPolID : PolicyID) (cgToPol : CgroupID → Option PolicyID)
    (cgID : CgroupID) : (CgroupID → Option PolicyID) × Option BpfError :=
  match cgToPol cgID with
  | none => (Function.update cgToPol cgID (some targetPolID), none)
  | some existingPolID =>
    if existingPolID = targetPolID then (cgToPol, none)
    else (cgToPol, some (.overlappingPolicies cgID existingPolID targetPolID))

/-- `addPolicyToCgroups`. -/
def addPolicyToCgroups (cgToPol : CgroupID → Option PolicyID) (targetPolID : PolicyID)
    (cgroupIDs : List CgroupID) : (CgroupID → Option PolicyID) × Option BpfError :=
  if targetPolID = 0 then (cgToPol, some .addToPolicyZero)
  else ErrLoop.forEach (addCgroupStep targetPolID) cgroupIDs cgToPol

/-- `removePolicyFromCgroups`: every cgroup held by the policy is deleted. -/
def removePolicyFromCgroups (cgToPol : CgroupID → Option PolicyID) (targetPolID : PolicyID) :
    (CgroupID → Option PolicyID) × Option BpfError :=
  if targetPolID = 0 then (cgToPol, some .removePolicyZero)
  else (fun cgID => if cgToPol cgID = some targetPolID then none else cgToPol cgID, none)

/-- `removeCgroups`: a missing key is not an error. -/
def removeCgroups (cgToPol : CgroupID → Option PolicyID) (targetPolID : PolicyID)
    (cgroupIDs : List CgroupID) : (CgroupID → Option PolicyID) × Option BpfError :=
  if targetPolID ≠ 0 then (cgToPol, some (.policyIDNotZero targetPolID))
  else (fun cgID => if cgID ∈ cgroupIDs then none else cgToPol cgID, none)

/-- `cgroupToPolicyMapUpdateFunc` (`updateCgroupPolicy`). -/
def cgroupToPolicyMapUpdate (f : CallbackFaults) (m : BpfMaps) (polID : PolicyID)
    (cgroupIDs : List CgroupID) (op : CgroupPolicyOperation) : BpfMaps × Option BpfError :=
  if f.cgroupPolicy polID op then (m, some .failed)
  else
    let r := match op with
      | .addPolicyToCgroups => addPolicyToCgroups m.cgToPolicy polID cgroupIDs
      | .removePolicy => removePolicyFromCgroups m.cgToPolicy polID
      | .removeCgroups => removeCgroups m.cgToPolicy polID cgroupIDs
    ({ m with cgToPolicy := r.1 }, r.2)

/-- `policyUpdateBinariesFunc`: `generateBPFMaps`, `removeBPFMaps` or `replaceBPFMaps`. -/
def policyUpdateBinaries (f : CallbackFaults) (m : BpfMaps) (policyID : PolicyID)
    (values : List String) (op : PolicyValuesOperation) : BpfMaps × Option BpfError :=
  if f.binaries policyID op then (m, some .failed)
  else
    match op with
    | .addValuesToPolicy | .replaceValuesInPolicy =>
      ({ m with policyValues := Function.update m.policyValues policyID (some values) }, none)
    | .removeValuesFromPolicy =>
      ({ m with policyValues := Function.update m.policyValues policyID none }, none)

/-- `policyModeUpdateFunc`: `updatePolicyMode` or `deletePolicy`. -/
def policyModeUpdate (f : CallbackFaults) (m : BpfMaps) (policyID : PolicyID) (mode : Mode)
    (op : PolicyModeOperation) : BpfMaps × Option BpfError :=
  if f.mode policyID op then (m, some .failed)
  else
    match op with
    | .updateMode => ({ m with policyMode := Function.update m.policyMode policyID (some mode) }, none)
    | .deleteMode => ({ m with policyMode := Function.update m.policyMode policyID none }, none)

/-- `cgTrackerUpdateFunc`. -/
def cgTrackerUpdate (f : CallbackFaults) (cgID : CgroupID) (_cgroupPath : String) :
    Option BpfError :=
  if f.cgTracker cgID then some .failed else none

/-! ## The resolver -/

/-- `PolicyState`. -/
inductive PolicyState where
  | unspecified
  | ready
  | error
  deriving DecidableEq, Repr

/-- The errors of the resolver's operations, with the arguments of their messages. -/
inductive ResolverError where
  /-- "containerID %s for pod %s already exists. old (name: %s,cID: %d) new (name: %s,cID: %d)" -/
  | containerExists (containerID podName oldName : String) (oldCID : CgroupID)
      (newName : String) (newCID : CgroupID)
  /-- "failed to update cgroup tracker map for pod %s, container %s: %w" -/
  | cgTrackerUpdate (podName containerName : String) (err : BpfError)
  /-- "failed to apply policy to pod: %w" -/
  | applyPolicy (err : ResolverError)
  /-- "pod '%s/%s' has policy '%s' associated, but the policy does not exist" -/
  | policyMissing (podNamespace podName policyName : String)
  /-- "failed to add policy to cgroups for pod %s, container %s, policy %s: %w" -/
  | addPolicyToCgroups (podName containerName policyName : String) (err : BpfError)
  /-- "failed to remove cgroups for pod %s, container %s, policy %s: %w" -/
  | removeCgroups (podName containerName policyName : String) (err : BpfError)
  /-- "failed to clear policy for wp %s, container %s: %w" -/
  | clearPolicy (wpKey containerName : String) (err : BpfError)
  /-- "failed to populate policy for wp %s, container %s: %w" -/
  | populatePolicy (wpKey containerName : String) (err : BpfError)
  /-- "failed to remove policy from cgroup map: %w" -/
  | removePolicyFromCgroupMap (err : BpfError)
  /-- a callback's error, returned as it is -/
  | bpf (err : BpfError)
  /-- "no pod UID associated with cgroup ID: %d" -/
  | noPodForCgroup (cgID : CgroupID)
  /-- "no pod entry associated with pod ID: %s (cgroup ID %d)" -/
  | noPodEntry (podID : PodID) (cgID : CgroupID)
  /-- "no container associated with cgroup ID: %d in pod ID: %s" -/
  | noContainer (cgID : CgroupID) (podID : PodID)
  deriving DecidableEq, Repr

/-- `PolicyStatus`; `mode` is `none` for `POLICY_MODE_UNSPECIFIED`, `message` is `none` for
    `""` and the error otherwise. -/
structure PolicyStatus where
  state : PolicyState
  mode : Option Mode
  message : Option ResolverError

/-- The zero `PolicyStatus`. -/
def PolicyStatus.unset : PolicyStatus := ⟨.unspecified, none, none⟩

/-- `wpInfo`. -/
structure WpInfo where
  polByContainer : AList (fun _ : ContainerName => PolicyID)
  status : PolicyStatus

/-- The state of a `Resolver`, with the BPF maps its callbacks write. -/
structure State where
  podCache : AList (fun _ : PodID => PodEntry)
  cgroupIDToPodID : AList (fun _ : CgroupID => PodID)
  nextPolicyID : PolicyID
  wpState : AList (fun _ : NamespacedPolicyName => WpInfo)
  bpf : BpfMaps

/-- `NewResolver`, over empty BPF maps. -/
def State.init : State := ⟨∅, ∅, 1, ∅, BpfMaps.empty⟩

end RuntimeEnforcer.Resolver
