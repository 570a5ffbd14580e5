import Mathlib
import RuntimeEnforcer.BpfManager.Events
import RuntimeEnforcer.Controller.Violations

/-
  `internal/controller/workloadpolicystatus_helpers.go` (`computeWpStatus`,
  `buildPolicyStatus`) and the status helpers of `api/v1alpha1/workloadpolicy_types.go`: the
  status the sync computes for one policy from the nodes' reports and the scraped records.

  Each node lands in one of the three totals, except a node that reports the policy
  `UNSPECIFIED`. The switch's case for it is empty, so that node is counted nowhere, the totals
  no longer add up, and the status fails as inconsistent. So `computeWpStatus` succeeds exactly
  when no node fails the loop and every node is counted (`computeWpStatus_ok_iff`), and then
  the totals add up (`computeWpStatus_totals`).

  `buildPolicyStatus` merges the scraped records into the stored ones and adds their number to
  `ViolationCount`. With the records of a single node this keeps the most recent ones
  (`mostRecent_buildPolicyStatus_of_single`). With two nodes, the newer node's record can come
  after the older one's.
-/

namespace RuntimeEnforcer.Controller

open PolicyMode

/-! ## The status and its helpers -/

/-- `NodeIssueCode`. -/
inductive NodeIssueCode where
  | none
  | podNotReady
  | missingPolicy
  | policyFailed
  | maxReached
  deriving DecidableEq, Repr

/-- `NodeIssue`. -/
structure NodeIssue where
  code : NodeIssueCode
  message : String
  deriving DecidableEq, Repr

def truncationNodeString : String := "..."
def maxNodesWithIssues : Nat := 20
def maxTransitioningNodes : Nat := 20

/-- `Phase`. -/
inductive Phase where
  | transitioning
  | failed
  | ready
  deriving DecidableEq, Repr

/-- `WorkloadPolicyStatus`; `phase` is `none` for the empty string. -/
structure WorkloadPolicyStatus where
  observedGeneration : Int
  nodesWithIssues : AList fun _ : String => NodeIssue
  totalNodes : Nat
  successfulNodes : Nat
  failedNodes : Nat
  transitioningNodes : Nat
  nodesTransitioning : List String
  phase : Option Phase
  violationCount : Nat
  violations : List Violation
  deriving DecidableEq

/-- The literal `WorkloadPolicyStatus{TotalNodes: n}`. -/
def WorkloadPolicyStatus.ofTotal (n : Nat) : WorkloadPolicyStatus :=
  ⟨0, ∅, n, 0, 0, 0, [], none, 0, []⟩

namespace WorkloadPolicyStatus

/-- `AddNodeIssue`: count the node as failed and list it, or the truncation marker once the
    list is nearly full. -/
def addNodeIssue (s : WorkloadPolicyStatus) (nodeName : String) (issue : NodeIssue) :
    WorkloadPolicyStatus :=
  let s := { s with failedNodes := s.failedNodes + 1 }
  let marker : NodeIssue := ⟨.maxReached, "Maximum number of nodes with issues reached"⟩
  if s.nodesWithIssues.entries.length < maxNodesWithIssues - 1 then
    { s with nodesWithIssues := s.nodesWithIssues.insert nodeName issue }
  else if s.nodesWithIssues.entries.length = maxNodesWithIssues - 1 then
    { s with nodesWithIssues := s.nodesWithIssues.insert truncationNodeString marker }
  else s

/-- `AddTransitioningNode`. -/
def addTransitioningNode (s : WorkloadPolicyStatus) (nodeName : String) : WorkloadPolicyStatus :=
  let s := { s with transitioningNodes := s.transitioningNodes + 1 }
  if s.nodesTransitioning.length < maxTransitioningNodes - 1 then
    { s with nodesTransitioning := s.nodesTransitioning ++ [nodeName] }
  else if s.nodesTransitioning.length = maxTransitioningNodes - 1 then
    { s with nodesTransitioning := s.nodesTransitioning ++ [truncationNodeString] }
  else s

/-- `SortTransitioningNodes`. -/
def sortTransitioningNodes (s : WorkloadPolicyStatus) : WorkloadPolicyStatus :=
  if s.nodesTransitioning.length = 0 then s
  else { s with nodesTransitioning := s.nodesTransitioning.mergeSort fun a b => decide (a ≤ b) }

/-- The nodes counted in one of the three totals. -/
def tally (s : WorkloadPolicyStatus) : Nat :=
  s.failedNodes + s.transitioningNodes + s.successfulNodes

@[simp] theorem addNodeIssue_totalNodes (s : WorkloadPolicyStatus) (n : String) (i : NodeIssue) :
    (s.addNodeIssue n i).totalNodes = s.totalNodes := by
  unfold addNodeIssue
  dsimp only
  split_ifs <;> rfl

@[simp] theorem addNodeIssue_tally (s : WorkloadPolicyStatus) (n : String) (i : NodeIssue) :
    (s.addNodeIssue n i).tally = s.tally + 1 := by
  unfold addNodeIssue tally
  dsimp only
  split_ifs <;> (dsimp only; omega)

@[simp] theorem addTransitioningNode_totalNodes (s : WorkloadPolicyStatus) (n : String) :
    (s.addTransitioningNode n).totalNodes = s.totalNodes := by
  unfold addTransitioningNode
  dsimp only
  split_ifs <;> rfl

@[simp] theorem addTransitioningNode_tally (s : WorkloadPolicyStatus) (n : String) :
    (s.addTransitioningNode n).tally = s.tally + 1 := by
  unfold addTransitioningNode tally
  dsimp only
  split_ifs <;> (dsimp only; omega)

end WorkloadPolicyStatus

/-! ## `computeWpStatus` -/

/-- `pb.PolicyState`; `other` is a value the enum does not name. -/
inductive PbPolicyState where
  | unspecified
  | ready
  | error
  | other (n : Int)
  deriving DecidableEq, Repr

/-- `pb.PolicyMode`. -/
inductive PbPolicyMode where
  | unspecified
  | monitor
  | protect
  deriving DecidableEq, Repr

/-- `pb.PolicyStatus`. -/
structure PbPolicyStatus where
  state : PbPolicyState
  mode : PbPolicyMode
  message : String
  deriving DecidableEq, Repr

/-- `nodeInfo`: the node's issue and what its `ListPoliciesStatus` returned; a nil entry of the
    map is `none`. -/
structure NodeInfo where
  issue : NodeIssue
  policies : AList fun _ : String => Option PbPolicyStatus
  deriving DecidableEq

/-- `nodesInfoMap`, in the order the loops visit it. -/
abbrev NodesInfoMap := AList fun _ : String => NodeInfo

/-- `convertToPolicyMode`; the CRD's enum leaves no other mode to panic on. -/
def convertToPolicyMode : Mode → PbPolicyMode
  | .protect => .protect
  | .monitor => .monitor

/-- The errors of `computeWpStatus`, with the arguments of their messages. -/
inductive ComputeError where
  /-- "no policies found for node '%s'" -/
  | noPolicies (nodeName : String)
  /-- "unknown policy state '%s' for node '%s'" -/
  | unknownState (state : PbPolicyState) (nodeName : String)
  /-- "inconsistent node stats, total: %d != successful(%d)+transitioning(%d)+failed(%d)" -/
  | inconsistent (total successful transitioning failed : Nat)
  deriving DecidableEq, Repr

/-- One iteration of `computeWpStatus`'s loop over the nodes. -/
def computeNode (expectedMode : PbPolicyMode) (wpNamespacedName : String)
    (status : WorkloadPolicyStatus) (nodeName : String) (nodeInfo : NodeInfo) :
    Except ComputeError WorkloadPolicyStatus :=
  if nodeInfo.issue.code ≠ .none then .ok (status.addNodeIssue nodeName nodeInfo.issue)
  else if nodeInfo.policies.entries.length = 0 then .error (.noPolicies nodeName)
  else
    match nodeInfo.policies.lookup wpNamespacedName with
    | none | some none =>
      .ok (status.addNodeIssue nodeName ⟨.missingPolicy, "policy not present on the node"⟩)
    | some (some policyStatus) =>
      match policyStatus.state with
      | .ready =>
        if policyStatus.mode = expectedMode then
          .ok { status with successfulNodes := status.successfulNodes + 1 }
        else .ok (status.addTransitioningNode nodeName)
      | .error =>
        let msg := if policyStatus.message = "" then "policy is in error state"
          else policyStatus.message
        .ok (status.addNodeIssue nodeName ⟨.policyFailed, msg⟩)
      | .unspecified => .ok status
      | .other n => .error (.unknownState (.other n) nodeName)

/-- The loop over the nodes, which returns at the first error. -/
def computeNodes (expectedMode : PbPolicyMode) (wpNamespacedName : String) :
    WorkloadPolicyStatus → List (Σ _ : String, NodeInfo) → Except ComputeError WorkloadPolicyStatus
  | status, [] => .ok status
  | status, ⟨nodeName, nodeInfo⟩ :: rest =>
    match computeNode expectedMode wpNamespacedName status nodeName nodeInfo with
    | .error e => .error e
    | .ok status => computeNodes expectedMode wpNamespacedName status rest

/-- The phase of a consistent status. -/
def phaseOf (status : WorkloadPolicyStatus) : Option Phase :=
  if status.successfulNodes = status.totalNodes then some .ready
  else if status.failedNodes > 0 then some .failed
  else if status.transitioningNodes > 0 then some .transitioning
  else status.phase

/-- `computeWpStatus`. -/
def computeWpStatus (nodesInfo : NodesInfoMap) (expectedMode : PbPolicyMode)
    (wpNamespacedName : String) : Except ComputeError WorkloadPolicyStatus :=
  match computeNodes expectedMode wpNamespacedName (.ofTotal nodesInfo.entries.length)
      nodesInfo.entries with
  | .error e => .error e
  | .ok status =>
    if status.totalNodes ≠ status.failedNodes + status.transitioningNodes + status.successfulNodes
    then
      .error (.inconsistent status.totalNodes status.successfulNodes status.transitioningNodes
        status.failedNodes)
    else
      let status := status.sortTransitioningNodes
      .ok { status with phase := phaseOf status }

/-- The node does not stop the loop: it has an issue, or it lists policies and does not report
    this one in a state the enum does not name. -/
def nodeAccepted (wpNamespacedName : String) (nodeInfo : NodeInfo) : Bool :=
  nodeInfo.issue.code ≠ .none ||
    (nodeInfo.policies.entries.length ≠ 0 &&
      (nodeInfo.policies.lookup wpNamespacedName).all fun ps =>
        ps.all fun ps => ps.state matches .unspecified | .ready | .error)

/-- The node lands in one of the three totals: all but a node that reports the policy
    `UNSPECIFIED`. -/
def nodeCounted (wpNamespacedName : String) (nodeInfo : NodeInfo) : Bool :=
  nodeInfo.issue.code ≠ .none ||
    (nodeInfo.policies.lookup wpNamespacedName).all fun ps =>
      ps.all fun ps => ps.state ≠ .unspecified

section Compute

variable {m : PbPolicyMode} {k : String}

/-- Every outcome of one iteration: a node that stops the loop, or one that adds one to the
    totals when it is counted and nothing otherwise. -/
theorem computeNode_spec (s : WorkloadPolicyStatus) (n : String) (ni : NodeInfo) :
    (nodeAccepted k ni = false ∧ ∃ e, computeNode m k s n ni = .error e) ∨
      (nodeAccepted k ni = true ∧ ∃ s', computeNode m k s n ni = .ok s' ∧
        s'.totalNodes = s.totalNodes ∧ s'.tally = s.tally + if nodeCounted k ni then 1 else 0) := by
  unfold computeNode
  by_cases hi : ni.issue.code = .none
  · by_cases hp : ni.policies.entries.length = 0
    · left
      simp [nodeAccepted, hi, hp]
    · rcases hl : ni.policies.lookup k with _ | _ | ⟨st, mode, msg⟩
      · right
        simp [nodeAccepted, nodeCounted, hi, hp, hl]
      · right
        simp [nodeAccepted, nodeCounted, hi, hp, hl]
      · cases st with
        | ready =>
          right
          by_cases hm : mode = m
          · simp [nodeAccepted, nodeCounted, hi, hp, hl, hm, WorkloadPolicyStatus.tally]
            omega
          · simp [nodeAccepted, nodeCounted, hi, hp, hl, hm]
        | error =>
          right
          simp [nodeAccepted, nodeCounted, hi, hp, hl]
        | unspecified =>
          right
          simp [nodeAccepted, nodeCounted, hi, hp, hl]
        | other m =>
          left
          simp [nodeAccepted, hi, hp, hl]
  · right
    simp [nodeAccepted, nodeCounted, hi]

theorem computeNodes_ok_iff (s : WorkloadPolicyStatus) (nodes : List (Σ _ : String, NodeInfo)) :
    (∃ s', computeNodes m k s nodes = .ok s') ↔ ∀ e ∈ nodes, nodeAccepted k e.2 := by
  induction nodes generalizing s with
  | nil => simp [computeNodes]
  | cons e nodes ih =>
    obtain ⟨n, ni⟩ := e
    rcases computeNode_spec (m := m) (k := k) s n ni with ⟨hacc, err, herr⟩ | ⟨hacc, s₁, hs₁, -⟩
    · simp [computeNodes, herr, hacc]
    · simp [computeNodes, hs₁, hacc, ih]

theorem computeNodes_tally {s s' : WorkloadPolicyStatus} {nodes : List (Σ _ : String, NodeInfo)}
    (h : computeNodes m k s nodes = .ok s') :
    s'.totalNodes = s.totalNodes ∧
      s'.tally = s.tally + nodes.countP fun e => nodeCounted k e.2 := by
  induction nodes generalizing s with
  | nil =>
    simp only [computeNodes, Except.ok.injEq] at h
    subst h
    simp
  | cons e nodes ih =>
    obtain ⟨n, ni⟩ := e
    rcases computeNode_spec (m := m) (k := k) s n ni with
      ⟨-, err, herr⟩ | ⟨-, s₁, hs₁, htot, htally⟩
    · simp [computeNodes, herr] at h
    · simp only [computeNodes, hs₁] at h
      obtain ⟨htot', htally'⟩ := ih h
      refine ⟨htot'.trans htot, ?_⟩
      rw [htally', htally, List.countP_cons]
      dsimp only
      omega

@[simp] theorem sortTransitioningNodes_totalNodes (s : WorkloadPolicyStatus) :
    s.sortTransitioningNodes.totalNodes = s.totalNodes := by
  unfold WorkloadPolicyStatus.sortTransitioningNodes
  split_ifs <;> rfl

@[simp] theorem sortTransitioningNodes_tally (s : WorkloadPolicyStatus) :
    s.sortTransitioningNodes.tally = s.tally := by
  unfold WorkloadPolicyStatus.sortTransitioningNodes
  split_ifs <;> rfl

/-- What the loop leaves, given the nodes it visits. -/
theorem computeNodes_ofTotal {nodesInfo : NodesInfoMap} {st : WorkloadPolicyStatus}
    (h : computeNodes m k (.ofTotal nodesInfo.entries.length) nodesInfo.entries = .ok st) :
    st.totalNodes = nodesInfo.entries.length ∧
      st.tally = nodesInfo.entries.countP fun e => nodeCounted k e.2 := by
  obtain ⟨htot, htally⟩ := computeNodes_tally h
  exact ⟨htot, by simpa [WorkloadPolicyStatus.tally, WorkloadPolicyStatus.ofTotal] using htally⟩

/-- `computeWpStatus` succeeds exactly when no node stops its loop and no node reports the
    policy `UNSPECIFIED`. -/
theorem computeWpStatus_ok_iff (nodesInfo : NodesInfoMap) :
    (∃ st, computeWpStatus nodesInfo m k = .ok st) ↔
      ∀ e ∈ nodesInfo.entries, nodeAccepted k e.2 ∧ nodeCounted k e.2 := by
  unfold computeWpStatus
  rcases hc : computeNodes m k (.ofTotal nodesInfo.entries.length) nodesInfo.entries with e | st
  · have hno : ¬ ∀ e ∈ nodesInfo.entries, nodeAccepted k e.2 := by
      rw [← computeNodes_ok_iff (m := m) (.ofTotal nodesInfo.entries.length)]
      simp [hc]
    simp only [reduceCtorEq, exists_false, false_iff]
    exact fun hall => hno fun e he => (hall e he).1
  · have hacc := (computeNodes_ok_iff _ _).mp ⟨st, hc⟩
    obtain ⟨htot, htally⟩ := computeNodes_ofTotal hc
    -- the totals add up exactly when every node is counted
    have hcount : st.totalNodes = st.failedNodes + st.transitioningNodes + st.successfulNodes ↔
        ∀ e ∈ nodesInfo.entries, nodeCounted k e.2 := by
      rw [← List.countP_eq_length, ← htally, htot, WorkloadPolicyStatus.tally, eq_comm]
    by_cases hcons : st.totalNodes = st.failedNodes + st.transitioningNodes + st.successfulNodes
    · simp only [hcons, ne_eq, not_true_eq_false, if_false, Except.ok.injEq, exists_eq',
        true_iff]
      exact fun e he => ⟨hacc e he, hcount.mp hcons e he⟩
    · simp only [hcons, ne_eq, not_false_eq_true, if_true, reduceCtorEq, exists_false,
        false_iff]
      exact fun hall => hcons (hcount.mpr fun e he => (hall e he).2)

/-- A computed status has a total for each node, and its three totals add up to it. -/
theorem computeWpStatus_totals {nodesInfo : NodesInfoMap} {st : WorkloadPolicyStatus}
    (h : computeWpStatus nodesInfo m k = .ok st) :
    st.totalNodes = nodesInfo.entries.length ∧ st.tally = st.totalNodes := by
  unfold computeWpStatus at h
  rcases hc : computeNodes m k (.ofTotal nodesInfo.entries.length) nodesInfo.entries with e | st₀
  · simp [hc] at h
  · obtain ⟨htot, htally⟩ := computeNodes_ofTotal hc
    rw [hc] at h
    dsimp only at h
    split_ifs at h with hcons
    cases h
    have hsum : st₀.tally = st₀.totalNodes := by
      unfold WorkloadPolicyStatus.tally
      omega
    show st₀.sortTransitioningNodes.totalNodes = _ ∧
      st₀.sortTransitioningNodes.tally = st₀.sortTransitioningNodes.totalNodes
    rw [sortTransitioningNodes_totalNodes, sortTransitioningNodes_tally]
    exact ⟨htot, hsum⟩

end Compute

/-! ## `buildPolicyStatus` -/

/-- What the status sync reads of a `WorkloadPolicy`; the spec's rules are not read. -/
structure WorkloadPolicy where
  «namespace» : String
  name : String
  generation : Int
  mode : Mode
  status : WorkloadPolicyStatus
  deriving DecidableEq

/-- `NamespacedName`. -/
def WorkloadPolicy.namespacedName (wp : WorkloadPolicy) : String :=
  wp.namespace ++ "/" ++ wp.name

/-- The error of `buildPolicyStatus`: "failed to compute status for policy %s: %w". -/
inductive BuildError where
  | compute (wpNamespacedName : String) (err : ComputeError)
  deriving DecidableEq, Repr

/-- `buildPolicyStatus`. -/
def buildPolicyStatus (wp : WorkloadPolicy) (nodesInfo : NodesInfoMap)
    (scrapedViolations : List Violation) : Except BuildError WorkloadPolicyStatus :=
  match computeWpStatus nodesInfo (convertToPolicyMode wp.mode) wp.namespacedName with
  | .error err => .error (.compute wp.namespacedName err)
  | .ok newStatus =>
    let newStatus := { newStatus with observedGeneration := wp.generation }
    .ok { newStatus with
      violations := mergeViolations wp.status.violations scrapedViolations
      violationCount := wp.status.violationCount + scrapedViolations.length }

section Build

variable {wp : WorkloadPolicy} {nodesInfo : NodesInfoMap} {sv : List Violation}

/-- A built status holds the merged records and counts every scraped one. -/
theorem buildPolicyStatus_violations {st : WorkloadPolicyStatus}
    (h : buildPolicyStatus wp nodesInfo sv = .ok st) :
    st.violations = mergeViolations wp.status.violations sv ∧
      st.violationCount = wp.status.violationCount + sv.length := by
  unfold buildPolicyStatus at h
  cases hc : computeWpStatus nodesInfo (convertToPolicyMode wp.mode) wp.namespacedName with
  | error e =>
    rw [hc] at h
    cases h
  | ok st₀ =>
    rw [hc] at h
    cases h
    exact ⟨rfl, rfl⟩

theorem newestFirst_recordsFor {vs : List PbViolationRecord}
    (h : NewestFirst PbViolationRecord.timestamp vs) (k : String) :
    NewestFirst Violation.timestamp (recordsFor k vs) :=
  List.Pairwise.map _ (fun _ _ hab => hab) (List.Pairwise.filter _ h)

/-- With the records of a single node, newest first and newer than the stored ones, the status
    holds the most recent records. -/
theorem mostRecent_buildPolicyStatus_of_single {vs : List PbViolationRecord}
    {st : WorkloadPolicyStatus}
    (hvs : NewestFirst PbViolationRecord.timestamp vs)
    (hex : NewestFirst Violation.timestamp wp.status.violations)
    (hnew : ∀ a ∈ vs, ∀ b ∈ wp.status.violations, b.timestamp ≤ a.timestamp)
    (h : buildPolicyStatus wp nodesInfo
      ((getViolationsByPolicy [some vs]).get wp.namespacedName) = .ok st) :
    MostRecent Violation.timestamp maxViolationRecords
      (recordsFor wp.namespacedName vs ++ wp.status.violations) st.violations := by
  have hget : (getViolationsByPolicy [some vs]).get wp.namespacedName =
      recordsFor wp.namespacedName vs := by
    simp [lookup_getViolationsByPolicy]
  rw [hget] at h
  rw [(buildPolicyStatus_violations h).1]
  refine mostRecent_mergeViolations hex (newestFirst_recordsFor hvs _) ?_
  intro a ha b hb
  obtain ⟨v, hv, rfl⟩ := List.mem_map.mp ha
  exact hnew v (List.mem_of_mem_filter hv) b hb

end Build

/-- Two nodes report one record each for `default/p`, the second node's newer. The controller
    visits the first node first, so the status lists the older record first: not newest first,
    and not the most recent records of the scrape, although each node's list is. -/
theorem buildPolicyStatus_orders_by_node :
    let recA : PbViolationRecord := ⟨1, "web-a", "app", "/usr/bin/curl", "node-a", "protect",
      "default/p"⟩
    let recB : PbViolationRecord := ⟨2, "web-b", "app", "/usr/bin/curl", "node-b", "protect",
      "default/p"⟩
    let ready : NodeInfo := ⟨⟨.none, ""⟩,
      (∅ : AList _).insert "default/p" (some ⟨.ready, .protect, ""⟩)⟩
    let nodesInfo : NodesInfoMap := ((∅ : NodesInfoMap).insert "node-b" ready).insert "node-a" ready
    let wp : WorkloadPolicy := ⟨"default", "p", 1, .protect, .ofTotal 2⟩
    let scraped := (getViolationsByPolicy [some [recA], some [recB]]).get wp.namespacedName
    (buildPolicyStatus wp nodesInfo scraped).toOption.map (fun st => (st.violations, st.violationCount)) =
        some ([recA.toViolation, recB.toViolation], 2) ∧
      ¬ MostRecent Violation.timestamp maxViolationRecords (scraped ++ wp.status.violations)
        [recA.toViolation, recB.toViolation] := by
  intro recA recB ready nodesInfo wp scraped
  refine ⟨by decide +kernel, fun h => ?_⟩
  have hsorted := h.newestFirst
  revert hsorted
  decide

end RuntimeEnforcer.Controller
