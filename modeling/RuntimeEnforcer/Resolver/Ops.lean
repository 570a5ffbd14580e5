import RuntimeEnforcer.Resolver.Types

/-
  The operations of the resolver (`internal/resolver` nri_api.go, policy.go,
  export_views.go), each run under the resolver's lock, so one at a time.

  Go's pointers are written back by hand. `AddPodContainerFromNri` changes a cached pod in
  place, so the containers it added before an error stay in the cache, while a new pod only
  reaches the cache at the end. `ReconcileWP` inserts the policy's `wpInfo` before it syncs,
  and `removePolicyFromPod` deletes from that `wpInfo` as it goes; both changes stay when a
  later step fails. Each loop body is a definition of its own (`…Step`), run by
  `ErrLoop.forEach`, which stops at the first error.
-/

namespace RuntimeEnforcer.Resolver

open PolicyMode

/-- `maps.Copy(dst, src)`: the entries of `src` overwrite those of `dst`. -/
def mapsCopy {α : Type} {β : α → Type} [DecidableEq α] (dst src : AList β) : AList β :=
  src ∪ dst

/-- The entries of `m` whose key satisfies `p`. -/
def filterKeys {α : Type} {β : α → Type} (m : AList β) (p : α → Bool) : AList β :=
  ⟨m.entries.filter (fun e => p e.1), m.nodupKeys.sublist List.filter_sublist⟩

/-! ## The BPF entries of one policy ID (policy.go 35-75) -/

/-- `upsertPolicyIDInBPF`. -/
def upsertPolicyIDInBPF (f : CallbackFaults) (m : BpfMaps) (policyID : PolicyID)
    (allowedBinaries : List String) (mode : Mode) (valuesOp : PolicyValuesOperation) :
    BpfMaps × Option BpfError :=
  let r := policyUpdateBinaries f m policyID allowedBinaries valuesOp
  match r.2 with
  | some e => (r.1, some e)
  | none => policyModeUpdate f r.1 policyID mode .updateMode

/-- `clearPolicyIDFromBPF`; `DeleteMode` does not read the mode it is given. -/
def clearPolicyIDFromBPF (f : CallbackFaults) (m : BpfMaps) (policyID : PolicyID) :
    BpfMaps × Option BpfError :=
  let r := policyUpdateBinaries f m policyID [] .removeValuesFromPolicy
  match r.2 with
  | some e => (r.1, some e)
  | none => policyModeUpdate f r.1 policyID .monitor .deleteMode

/-! ## A policy on a pod's cgroups (policy.go 77-152) -/

/-- One container of `applyPolicyToPod`. -/
def applyContainerStep (f : CallbackFaults) (state : PodEntry)
    (applied : AList (fun _ : ContainerName => PolicyID)) (m : BpfMaps)
    (entry : Σ _ : ContainerID, ContainerMeta) : BpfMaps × Option ResolverError :=
  let container := entry.2
  match applied.lookup container.name with
  | none => (m, none)
  | some polID =>
    let r := cgroupToPolicyMapUpdate f m polID [container.cgroupID] .addPolicyToCgroups
    (r.1, r.2.map (.addPolicyToCgroups state.podMeta.name container.name state.policyName))

/-- `applyPolicyToPod`. -/
def applyPolicyToPod (f : CallbackFaults) (m : BpfMaps) (state : PodEntry)
    (applied : AList (fun _ : ContainerName => PolicyID)) : BpfMaps × Option ResolverError :=
  ErrLoop.forEach (applyContainerStep f state applied) state.containers.entries m

/-- One container of `removePolicyFromPod`: its cgroup leaves the map, its policy ID's entries
    are cleared, and its name leaves the policy's `polByContainer`. -/
def removeContainerStep (f : CallbackFaults) (wpKey : NamespacedPolicyName)
    (podEntry : PodEntry) (removed : AList (fun _ : ContainerName => PolicyID))
    (s : BpfMaps × AList (fun _ : ContainerName => PolicyID))
    (entry : Σ _ : ContainerID, ContainerMeta) :
    (BpfMaps × AList (fun _ : ContainerName => PolicyID)) × Option ResolverError :=
  let container := entry.2
  match removed.lookup container.name with
  | none => (s, none)
  | some policyID =>
    let r := cgroupToPolicyMapUpdate f s.1 policyIDNone [container.cgroupID] .removeCgroups
    match r.2 with
    | some e =>
      ((r.1, s.2), some (.removeCgroups podEntry.podMeta.name container.name podEntry.policyName e))
    | none =>
      let r' := clearPolicyIDFromBPF f r.1 policyID
      match r'.2 with
      | some e => ((r'.1, s.2), some (.clearPolicy wpKey container.name e))
      | none => ((r'.1, s.2.erase container.name), none)

/-- `removePolicyFromPod`, on the BPF maps and the policy's `polByContainer`. -/
def removePolicyFromPod (f : CallbackFaults) (m : BpfMaps) (wpKey : NamespacedPolicyName)
    (podEntry : PodEntry) (wpState removed : AList (fun _ : ContainerName => PolicyID)) :
    (BpfMaps × AList (fun _ : ContainerName => PolicyID)) × Option ResolverError :=
  ErrLoop.forEach (removeContainerStep f wpKey podEntry removed) podEntry.containers.entries
    (m, wpState)

/-- `applyPolicyToPodIfPresent`: a pod with the policy label gets its policy, which must be
    known. -/
def applyPolicyToPodIfPresent (f : CallbackFaults) (r : State) (state : PodEntry) :
    BpfMaps × Option ResolverError :=
  let policyName := state.policyName
  if policyName = "" then (r.bpf, none)
  else
    let key := state.podMeta.«namespace» ++ "/" ++ policyName
    match r.wpState.lookup key with
    | none =>
      (r.bpf, some (.policyMissing state.podMeta.«namespace» state.podMeta.name policyName))
    | some info => applyPolicyToPod f r.bpf state info.polByContainer

/-! ## NRI events (nri_api.go) -/

/-- One container of `AddPodContainerFromNri`. -/
def addContainerStep (f : CallbackFaults) (pod : PodInput) (s : State × PodEntry)
    (entry : Σ _ : ContainerID, ContainerInput) : (State × PodEntry) × Option ResolverError :=
  let containerID := entry.1
  let container := entry.2.containerMeta
  match s.2.containers.lookup containerID with
  | some info =>
    -- a container seen again, after a restart of the NRI plugin
    if info.cgroupID = container.cgroupID ∧ info.name = container.name then (s, none)
    else (s, some (.containerExists containerID pod.podMeta.name info.name info.cgroupID
      container.name container.cgroupID))
  | none =>
    let state := { s.2 with containers := s.2.containers.insert containerID container }
    let r := { s.1 with
      cgroupIDToPodID := s.1.cgroupIDToPodID.insert container.cgroupID pod.podMeta.id }
    ((r, state), (cgTrackerUpdate f container.cgroupID entry.2.cgroupPath).map
      (.cgTrackerUpdate pod.podMeta.name container.name))

/-- `AddPodContainerFromNri`. -/
def addPodContainerFromNri (f : CallbackFaults) (r : State) (pod : PodInput) :
    State × Option ResolverError :=
  let podID := pod.podMeta.id
  let cached := r.podCache.lookup podID
  let loop := ErrLoop.forEach (addContainerStep f pod) pod.containers.entries
    (r, cached.getD (convertPodData pod))
  let r := loop.1.1
  let state := loop.1.2
  match loop.2 with
  | some e =>
    -- a cached pod was changed in place; a new pod is dropped
    ({ r with podCache := if cached.isSome then r.podCache.insert podID state else r.podCache },
      some e)
  | none =>
    let r := { r with podCache := r.podCache.insert podID state }
    let applied := applyPolicyToPodIfPresent f r state
    ({ r with bpf := applied.1 }, applied.2.map .applyPolicy)

/-- `RemovePodContainerFromNri`. -/
def removePodContainerFromNri (f : CallbackFaults) (r : State) (podID : PodID)
    (containerID : ContainerID) : State × Option ResolverError :=
  match r.podCache.lookup podID with
  | none => (r, none)
  | some state =>
    match state.containers.lookup containerID with
    | none => (r, none)
    | some container =>
      let podCache :=
        if state.containers.entries.length = 1 then r.podCache.erase podID
        else r.podCache.insert podID { state with containers := state.containers.erase containerID }
      let r := { r with
        podCache := podCache
        cgroupIDToPodID := r.cgroupIDToPodID.erase container.cgroupID }
      let removed := cgroupToPolicyMapUpdate f r.bpf policyIDNone [container.cgroupID] .removeCgroups
      ({ r with bpf := removed.1 }, removed.2.map .bpf)

/-! ## Workload policies (policy.go 154-276) -/

/-- One container of `syncWorkloadPolicy`: a container the policy had keeps its ID and gets its
    values replaced, a new one gets the next ID. -/
def syncContainerStep (f : CallbackFaults) (wpKey : NamespacedPolicyName) (mode : Mode)
    (info : WpInfo) (s : State × AList (fun _ : ContainerName => PolicyID))
    (entry : Σ _ : ContainerName, List String) :
    (State × AList (fun _ : ContainerName => PolicyID)) × Option ResolverError :=
  let containerName := entry.1
  let (polID, op, r, newContainers) :=
    match info.polByContainer.lookup containerName with
    | some polID => (polID, PolicyValuesOperation.replaceValuesInPolicy, s.1, s.2)
    | none =>
      (s.1.nextPolicyID, PolicyValuesOperation.addValuesToPolicy,
        { s.1 with nextPolicyID := s.1.nextPolicyID + 1 }, s.2.insert containerName s.1.nextPolicyID)
  let u := upsertPolicyIDInBPF f r.bpf polID entry.2 mode op
  (({ r with bpf := u.1 }, newContainers), u.2.map (.populatePolicy wpKey containerName))

/-- `syncWorkloadPolicy`: the IDs it created, or its error. The caller has put the policy in
    `wpState`. -/
def syncWorkloadPolicy (f : CallbackFaults) (r : State) (wp : WorkloadPolicy) :
    State × Except ResolverError (AList (fun _ : ContainerName => PolicyID)) :=
  let wpKey := wp.namespacedName
  let info := (r.wpState.lookup wpKey).getD ⟨∅, .unset⟩
  let loop := ErrLoop.forEach (syncContainerStep f wpKey wp.spec.mode info)
    wp.spec.rulesByContainer.entries (r, ∅)
  match loop.2 with
  | some e => (loop.1.1, .error e)
  | none => (loop.1.1, .ok loop.1.2)

/-- One pod of `ReconcileWP`'s loop over the cache: a pod with the policy's label loses the
    removed containers' policies and gets the applied ones. -/
def reconcilePodStep (f : CallbackFaults) (wp : WorkloadPolicy)
    (appliedMap removedMap : AList (fun _ : ContainerName => PolicyID))
    (s : BpfMaps × AList (fun _ : ContainerName => PolicyID))
    (entry : Σ _ : PodID, PodEntry) :
    (BpfMaps × AList (fun _ : ContainerName => PolicyID)) × Option ResolverError :=
  let podEntry := entry.2
  if !podEntry.matchPolicy wp.name wp.«namespace» then (s, none)
  else
    let removed := removePolicyFromPod f s.1 wp.namespacedName podEntry s.2 removedMap
    match removed.2 with
    | some e => (removed.1, some e)
    | none =>
      let applied := applyPolicyToPod f removed.1.1 podEntry appliedMap
      ((applied.1, removed.1.2), applied.2)

/-- `setPolicyStatus` on the policy's entry. -/
def setPolicyStatus (info : WpInfo) (state : PolicyState) (mode : Mode)
    (message : Option ResolverError) : WpInfo :=
  { info with status := ⟨state, some mode, message⟩ }

/-- `ReconcileWP`. -/
def reconcileWP (f : CallbackFaults) (r : State) (wp : WorkloadPolicy) :
    State × Option ResolverError :=
  let mode := wp.spec.mode
  let wpKey := wp.namespacedName
  let info := (r.wpState.lookup wpKey).getD ⟨∅, .unset⟩
  let r := { r with wpState := r.wpState.insert wpKey info }
  let synced := syncWorkloadPolicy f r wp
  let r := synced.1
  match synced.2 with
  | .error e =>
    -- the deferred status update
    ({ r with wpState := r.wpState.insert wpKey (setPolicyStatus info .error mode (some e)) },
      some e)
  | .ok newContainers =>
    let polByContainer := mapsCopy info.polByContainer newContainers
    let inSpec := fun containerName => (wp.spec.rulesByContainer.lookup containerName).isSome
    let appliedMap := filterKeys polByContainer inSpec
    let removedMap := filterKeys polByContainer (fun c => !inSpec c)
    let loop := ErrLoop.forEach (reconcilePodStep f wp appliedMap removedMap) r.podCache.entries
      (r.bpf, polByContainer)
    let info := { info with polByContainer := loop.1.2 }
    match loop.2 with
    | some e =>
      ({ r with
          bpf := loop.1.1
          wpState := r.wpState.insert wpKey (setPolicyStatus info .error mode (some e)) },
        some e)
    | none =>
      ({ r with
          bpf := loop.1.1
          wpState := r.wpState.insert wpKey (setPolicyStatus info .ready mode none) },
        none)

/-- One container of `HandleWPDelete`: its policy ID leaves the cgroup map, then its entries
    are cleared. -/
def deletePolicyStep (f : CallbackFaults) (wpKey : NamespacedPolicyName) (m : BpfMaps)
    (entry : Σ _ : ContainerName, PolicyID) : BpfMaps × Option ResolverError :=
  let r := cgroupToPolicyMapUpdate f m entry.2 [] .removePolicy
  match r.2 with
  | some e => (r.1, some (.removePolicyFromCgroupMap e))
  | none =>
    let r' := clearPolicyIDFromBPF f r.1 entry.2
    (r'.1, r'.2.map (.clearPolicy wpKey entry.1))

/-- `HandleWPDelete`: the policy leaves `wpState` first, then its IDs leave the BPF maps. -/
def handleWPDelete (f : CallbackFaults) (r : State) (wp : WorkloadPolicy) :
    State × Option ResolverError :=
  let wpKey := wp.namespacedName
  match r.wpState.lookup wpKey with
  | none => (r, none)
  | some info =>
    let r := { r with wpState := r.wpState.erase wpKey }
    let loop := ErrLoop.forEach (deletePolicyStep f wpKey) info.polByContainer.entries r.bpf
    ({ r with bpf := loop.1 }, loop.2)

/-! ## Views (export_views.go) -/

/-- `ContainerView`. -/
structure ContainerView where
  containerMeta : ContainerMeta
  podMeta : PodMeta

/-- `GetContainerView`: the first container of the pod, in `range` order, with the cgroup. -/
def getContainerView (r : State) (cgID : CgroupID) : Except ResolverError ContainerView :=
  match r.cgroupIDToPodID.lookup cgID with
  | none => .error (.noPodForCgroup cgID)
  | some podID =>
    match r.podCache.lookup podID with
    | none => .error (.noPodEntry podID cgID)
    | some pod =>
      match pod.containers.entries.find? (fun e => e.2.cgroupID == cgID) with
      | some e => .ok ⟨⟨e.1, e.2.name, cgID⟩, pod.podMeta⟩
      | none => .error (.noContainer cgID podID)

/-- `GetPolicyStatuses`: the status of each policy of `wpState`, by its namespaced name. -/
def getPolicyStatuses (r : State) : AList (fun _ : NamespacedPolicyName => PolicyStatus) :=
  ⟨r.wpState.entries.map (.map id fun _ info => info.status),
    List.NodupKeys.map₂ _ _ r.wpState.nodupKeys⟩

end RuntimeEnforcer.Resolver
