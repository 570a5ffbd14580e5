import Mathlib
import RuntimeEnforcer.Lib.Capped
import RuntimeEnforcer.Controller.Status

/-
  What `computeWpStatus` (`internal/controller/workloadpolicystatus_helpers.go`) reports about
  each node, when it succeeds.

  A node it accepts and counts is one of three kinds: it holds the policy `READY` in the
  expected mode (successful), `READY` in another mode (transitioning), or neither (failed)
  (`computeNode_of_counted`). `AddNodeIssue` and `AddTransitioningNode` are `Capped.push` on
  the node names (`addNodeIssue_keys`, `addTransitioningNode_nodesTransitioning`). So the
  loop's status `Tracks` the nodes it has visited (`computeNodes_tracks`). The totals count
  the three kinds, and each list holds the first 19 names of its kind and the marker once
  there are 20. `SortTransitioningNodes` then sorts that list, and the phase follows from the
  totals.
-/

namespace RuntimeEnforcer.Controller

/-! ## The three kinds of node -/

/-- The node has no issue and holds the policy `READY`, in a mode `p` accepts. -/
def readyIn (k : String) (p : PbPolicyMode → Bool) (ni : NodeInfo) : Bool :=
  ni.issue.code = .none &&
    match ni.policies.lookup k with
    | some (some ps) => ps.state = .ready && p ps.mode
    | _ => false

def nodeSuccessful (m : PbPolicyMode) (k : String) (ni : NodeInfo) : Bool :=
  readyIn k (fun mode => mode = m) ni

def nodeTransitioning (m : PbPolicyMode) (k : String) (ni : NodeInfo) : Bool :=
  readyIn k (fun mode => mode ≠ m) ni

def nodeFailed (m : PbPolicyMode) (k : String) (ni : NodeInfo) : Bool :=
  !nodeSuccessful m k ni && !nodeTransitioning m k ni

/-- The names of the nodes of kind `p`, in the order the loop visits them. -/
def namesWhere (p : NodeInfo → Bool) (nodes : List (Σ _ : String, NodeInfo)) : List String :=
  (nodes.filter fun e => p e.2).map (·.1)

@[simp] theorem namesWhere_nil (p : NodeInfo → Bool) : namesWhere p [] = [] := rfl

theorem namesWhere_append_singleton (p : NodeInfo → Bool) (done : List (Σ _ : String, NodeInfo))
    (n : String) (ni : NodeInfo) :
    namesWhere p (done ++ [⟨n, ni⟩]) = namesWhere p done ++ if p ni then [n] else [] := by
  unfold namesWhere
  rw [List.filter_append, List.map_append]
  by_cases h : p ni <;> simp [h]

theorem length_namesWhere (p : NodeInfo → Bool) (nodes : List (Σ _ : String, NodeInfo)) :
    (namesWhere p nodes).length = nodes.countP fun e => p e.2 := by
  simp [namesWhere, List.countP_eq_length_filter]

theorem mem_namesWhere {p : NodeInfo → Bool} {nodes : List (Σ _ : String, NodeInfo)} {n : String}
    (h : n ∈ namesWhere p nodes) : n ∈ nodes.map (·.1) := by
  unfold namesWhere at h
  obtain ⟨e, he, rfl⟩ := List.mem_map.mp h
  exact List.mem_map_of_mem (List.mem_of_mem_filter he)

/-- The nodes that make `computeWpStatus` fail are those with no issue that list no policy or
    hold this one in a state other than `READY` and `ERROR`. -/
theorem accepted_and_counted_iff (k : String) (ni : NodeInfo) :
    (nodeAccepted k ni ∧ nodeCounted k ni) ↔
      ¬ (ni.issue.code = .none ∧ (ni.policies.entries = [] ∨
        ∃ ps, ni.policies.lookup k = some (some ps) ∧ ps.state ≠ .ready ∧ ps.state ≠ .error)) := by
  by_cases hi : ni.issue.code = .none
  · rcases hl : ni.policies.lookup k with _ | _ | ⟨st, mode, msg⟩
    · simp [nodeAccepted, nodeCounted, hi, hl]
    · simp [nodeAccepted, nodeCounted, hi, hl]
    · cases st <;> simp [nodeAccepted, nodeCounted, hi, hl]
  · simp [nodeAccepted, nodeCounted, hi]

/-! ## The helpers on node names -/

namespace WorkloadPolicyStatus

variable (s : WorkloadPolicyStatus) (n : String)

theorem addTransitioningNode_nodesTransitioning :
    (s.addTransitioningNode n).nodesTransitioning =
      Capped.push maxTransitioningNodes truncationNodeString s.nodesTransitioning n := by
  unfold addTransitioningNode Capped.push
  dsimp only
  split_ifs <;> rfl

@[simp] theorem addTransitioningNode_successfulNodes :
    (s.addTransitioningNode n).successfulNodes = s.successfulNodes := by
  unfold addTransitioningNode
  dsimp only
  split_ifs <;> rfl

@[simp] theorem addTransitioningNode_transitioningNodes :
    (s.addTransitioningNode n).transitioningNodes = s.transitioningNodes + 1 := by
  unfold addTransitioningNode
  dsimp only
  split_ifs <;> rfl

@[simp] theorem addTransitioningNode_failedNodes :
    (s.addTransitioningNode n).failedNodes = s.failedNodes := by
  unfold addTransitioningNode
  dsimp only
  split_ifs <;> rfl

@[simp] theorem addTransitioningNode_nodesWithIssues :
    (s.addTransitioningNode n).nodesWithIssues = s.nodesWithIssues := by
  unfold addTransitioningNode
  dsimp only
  split_ifs <;> rfl

variable (i : NodeIssue)

/-- `AddNodeIssue` pushes the node onto the names, oldest first, when the name is new and the
    marker is not there while there is room for it. -/
theorem addNodeIssue_keys (hn : n ∉ s.nodesWithIssues.keys)
    (hmarker : s.nodesWithIssues.keys.length ≤ maxNodesWithIssues - 1 →
      truncationNodeString ∉ s.nodesWithIssues.keys) :
    (s.addNodeIssue n i).nodesWithIssues.keys.reverse =
      Capped.push maxNodesWithIssues truncationNodeString s.nodesWithIssues.keys.reverse n := by
  have hlen : s.nodesWithIssues.entries.length = s.nodesWithIssues.keys.reverse.length := by
    rw [List.length_reverse, AList.keys, List.keys, List.length_map]
  unfold addNodeIssue Capped.push
  dsimp only
  rw [hlen]
  split_ifs
  · rw [AList.keys_insert, List.erase_of_not_mem hn, List.reverse_cons]
  · have hm := hmarker (by rw [← List.length_reverse]; omega)
    rw [AList.keys_insert, List.erase_of_not_mem hm, List.reverse_cons]
  · rfl

@[simp] theorem addNodeIssue_successfulNodes :
    (s.addNodeIssue n i).successfulNodes = s.successfulNodes := by
  unfold addNodeIssue
  dsimp only
  split_ifs <;> rfl

@[simp] theorem addNodeIssue_transitioningNodes :
    (s.addNodeIssue n i).transitioningNodes = s.transitioningNodes := by
  unfold addNodeIssue
  dsimp only
  split_ifs <;> rfl

@[simp] theorem addNodeIssue_failedNodes :
    (s.addNodeIssue n i).failedNodes = s.failedNodes + 1 := by
  unfold addNodeIssue
  dsimp only
  split_ifs <;> rfl

@[simp] theorem addNodeIssue_nodesTransitioning :
    (s.addNodeIssue n i).nodesTransitioning = s.nodesTransitioning := by
  unfold addNodeIssue
  dsimp only
  split_ifs <;> rfl

end WorkloadPolicyStatus

/-! ## One node -/

section Nodes

variable {m : PbPolicyMode} {k : String}

/-- An iteration on a node the loop accepts and counts does what the node's kind says. -/
theorem computeNode_of_counted (s : WorkloadPolicyStatus) (n : String) {ni : NodeInfo}
    (hacc : nodeAccepted k ni) (hcnt : nodeCounted k ni) :
    (nodeSuccessful m k ni ∧
        computeNode m k s n ni = .ok { s with successfulNodes := s.successfulNodes + 1 }) ∨
      (nodeTransitioning m k ni ∧ computeNode m k s n ni = .ok (s.addTransitioningNode n)) ∨
      (nodeFailed m k ni ∧ ∃ issue, computeNode m k s n ni = .ok (s.addNodeIssue n issue)) := by
  unfold computeNode
  by_cases hi : ni.issue.code = .none
  · have hp : ni.policies.entries.length ≠ 0 := by
      intro hp
      simp [nodeAccepted, hi, hp] at hacc
    rcases hl : ni.policies.lookup k with _ | _ | ⟨st, mode, msg⟩
    · simp [nodeFailed, nodeSuccessful, nodeTransitioning, readyIn, hi, hp, hl]
    · simp [nodeFailed, nodeSuccessful, nodeTransitioning, readyIn, hi, hp, hl]
    · cases st with
      | ready =>
        by_cases hm : mode = m
        · simp [nodeSuccessful, readyIn, hi, hp, hl, hm]
        · simp [nodeTransitioning, readyIn, hi, hp, hl, hm]
      | error => simp [nodeFailed, nodeSuccessful, nodeTransitioning, readyIn, hi, hp, hl]
      | unspecified => simp [nodeCounted, hi, hl] at hcnt
      | other j => simp [nodeAccepted, hi, hl] at hacc
  · simp [nodeFailed, nodeSuccessful, nodeTransitioning, readyIn, hi]

/-! ## The loop -/

/-- What the loop has built after visiting the nodes `done`: the totals count the three
    kinds, and the two lists are the capped names of the failed and transitioning ones. -/
structure Tracks (m : PbPolicyMode) (k : String) (total : Nat) (done : List (Σ _ : String, NodeInfo))
    (s : WorkloadPolicyStatus) : Prop where
  totalNodes : s.totalNodes = total
  successful : s.successfulNodes = done.countP fun e => nodeSuccessful m k e.2
  transitioning : s.transitioningNodes = done.countP fun e => nodeTransitioning m k e.2
  failed : s.failedNodes = done.countP fun e => nodeFailed m k e.2
  issues : s.nodesWithIssues.keys.reverse =
    Capped.collect maxNodesWithIssues truncationNodeString (namesWhere (nodeFailed m k) done)
  transitioningList : s.nodesTransitioning =
    Capped.collect maxTransitioningNodes truncationNodeString (namesWhere (nodeTransitioning m k) done)

theorem tracks_ofTotal (total : Nat) : Tracks m k total [] (.ofTotal total) :=
  ⟨rfl, rfl, rfl, rfl, by rw [namesWhere_nil, Capped.collect_nil (by decide)]; rfl,
    by rw [namesWhere_nil, Capped.collect_nil (by decide)]; rfl⟩

/-- The names already listed as failed are visited ones or the marker. -/
theorem Tracks.not_mem_keys {total : Nat} {done : List (Σ _ : String, NodeInfo)}
    {s : WorkloadPolicyStatus} (h : Tracks m k total done s) {n : String}
    (hn : n ∉ done.map (·.1)) (hmarker : n ≠ truncationNodeString) :
    n ∉ s.nodesWithIssues.keys := by
  intro hmem
  rw [← List.mem_reverse, h.issues] at hmem
  rcases Capped.mem_collect hmem with hmem | rfl
  · exact hn (mem_namesWhere hmem)
  · exact hmarker rfl

/-- The marker is listed only once 20 nodes have failed, and then the list is full. -/
theorem Tracks.marker_not_mem_keys {total : Nat} {done : List (Σ _ : String, NodeInfo)}
    {s : WorkloadPolicyStatus} (h : Tracks m k total done s)
    (hdone : ∀ e ∈ done, e.1 ≠ truncationNodeString)
    (hlen : s.nodesWithIssues.keys.length ≤ maxNodesWithIssues - 1) :
    truncationNodeString ∉ s.nodesWithIssues.keys := by
  intro hmem
  rw [← List.mem_reverse, h.issues] at hmem
  have hfew : (namesWhere (nodeFailed m k) done).length < maxNodesWithIssues := by
    have hcl : (Capped.collect maxNodesWithIssues truncationNodeString
        (namesWhere (nodeFailed m k) done)).length = _ := Capped.length_collect _
    rw [← h.issues, List.length_reverse] at hcl
    split_ifs at hcl <;> omega
  obtain ⟨e, he, hname⟩ := List.mem_map.mp (mem_namesWhere (Capped.mem_of_mem_collect hfew hmem))
  exact hdone e he hname

theorem nodeTransitioning_of_nodeSuccessful {ni : NodeInfo} (h : nodeSuccessful m k ni) :
    nodeTransitioning m k ni = false := by
  unfold nodeSuccessful nodeTransitioning readyIn at *
  split <;> simp_all

/-- One node the loop accepts and counts, with a new name that is not the marker, keeps
    `Tracks`. -/
theorem Tracks.computeNode {total : Nat} {done : List (Σ _ : String, NodeInfo)}
    {s : WorkloadPolicyStatus} (h : Tracks m k total done s)
    (hdone : ∀ e ∈ done, e.1 ≠ truncationNodeString) {n : String} {ni : NodeInfo}
    (hn : n ∉ done.map (·.1)) (hmarker : n ≠ truncationNodeString)
    (hacc : nodeAccepted k ni) (hcnt : nodeCounted k ni) :
    ∃ s', computeNode m k s n ni = .ok s' ∧ Tracks m k total (done ++ [⟨n, ni⟩]) s' := by
  have hcap : 0 < maxNodesWithIssues := by decide
  rcases computeNode_of_counted (m := m) s n hacc hcnt with
    ⟨hsucc, heq⟩ | ⟨htrans, heq⟩ | ⟨hfail, issue, heq⟩
  · have htrans := nodeTransitioning_of_nodeSuccessful hsucc
    have hfail : nodeFailed m k ni = false := by simp [nodeFailed, hsucc]
    refine ⟨_, heq, h.totalNodes, ?_, ?_, ?_, ?_, ?_⟩
    · simp [List.countP_append, hsucc, h.successful]
    · simp [List.countP_append, htrans, h.transitioning]
    · simp [List.countP_append, hfail, h.failed]
    · simp [namesWhere_append_singleton, hfail, h.issues]
    · simp [namesWhere_append_singleton, htrans, h.transitioningList]
  · have hsucc : nodeSuccessful m k ni = false := by
      cases hs : nodeSuccessful m k ni
      · rfl
      · simp [nodeTransitioning_of_nodeSuccessful hs] at htrans
    have hfail : nodeFailed m k ni = false := by simp [nodeFailed, htrans]
    refine ⟨_, heq, ?_, ?_, ?_, ?_, ?_, ?_⟩
    · simp [h.totalNodes]
    · simp [List.countP_append, hsucc, h.successful]
    · simp [List.countP_append, htrans, h.transitioning]
    · simp [List.countP_append, hfail, h.failed]
    · simp [namesWhere_append_singleton, hfail, h.issues]
    · rw [WorkloadPolicyStatus.addTransitioningNode_nodesTransitioning, h.transitioningList,
        Capped.push_collect (by decide), namesWhere_append_singleton, if_pos htrans]
  · obtain ⟨hsucc, htrans⟩ : nodeSuccessful m k ni = false ∧ nodeTransitioning m k ni = false := by
      simpa [nodeFailed] using hfail
    refine ⟨_, heq, ?_, ?_, ?_, ?_, ?_, ?_⟩
    · simp [h.totalNodes]
    · simp [List.countP_append, hsucc, h.successful]
    · simp [List.countP_append, htrans, h.transitioning]
    · simp [List.countP_append, hfail, h.failed]
    · rw [WorkloadPolicyStatus.addNodeIssue_keys s n issue (h.not_mem_keys hn hmarker)
        (h.marker_not_mem_keys hdone), h.issues, Capped.push_collect hcap,
        namesWhere_append_singleton, if_pos hfail]
    · simp [namesWhere_append_singleton, htrans, h.transitioningList]

/-- The loop over nodes it accepts and counts, with distinct names none of which is the
    marker, keeps `Tracks` to the end. -/
theorem computeNodes_tracks {total : Nat} :
    ∀ {rest done : List (Σ _ : String, NodeInfo)} {s : WorkloadPolicyStatus},
      Tracks m k total done s → ((done ++ rest).map (·.1)).Nodup →
      (∀ e ∈ done ++ rest, e.1 ≠ truncationNodeString) →
      (∀ e ∈ rest, nodeAccepted k e.2 ∧ nodeCounted k e.2) →
      ∃ s', computeNodes m k s rest = .ok s' ∧ Tracks m k total (done ++ rest) s'
  | [], done, s, h, _, _, _ => ⟨s, rfl, by simpa using h⟩
  | ⟨n, ni⟩ :: rest, done, s, h, hnodup, hmarker, hall => by
    have hn : n ∉ done.map (·.1) := by
      intro hmem
      rw [List.map_append, List.nodup_append] at hnodup
      exact hnodup.2.2 n hmem n (List.mem_map_of_mem List.mem_cons_self) rfl
    have hdone : ∀ e ∈ done, e.1 ≠ truncationNodeString :=
      fun e he => hmarker e (List.mem_append_left _ he)
    obtain ⟨s₁, hs₁, h₁⟩ := h.computeNode hdone hn
      (hmarker ⟨n, ni⟩ (List.mem_append_right _ List.mem_cons_self))
      (hall ⟨n, ni⟩ List.mem_cons_self).1 (hall ⟨n, ni⟩ List.mem_cons_self).2
    have hassoc : done ++ [⟨n, ni⟩] ++ rest = done ++ ⟨n, ni⟩ :: rest := by simp
    obtain ⟨s', hs', h'⟩ := computeNodes_tracks h₁ (hassoc ▸ hnodup) (hassoc ▸ hmarker)
      (fun e he => hall e (List.mem_cons_of_mem _ he))
    refine ⟨s', ?_, hassoc ▸ h'⟩
    simp only [computeNodes, hs₁, hs']

/-! ## The status -/


/-- `SortTransitioningNodes` sorts the transitioning names and changes nothing else. -/
theorem sortTransitioningNodes_eq (s : WorkloadPolicyStatus) :
    ∃ l, s.sortTransitioningNodes = { s with nodesTransitioning := l } ∧
      l.Pairwise (· ≤ ·) ∧ l.Perm s.nodesTransitioning := by
  unfold WorkloadPolicyStatus.sortTransitioningNodes
  split_ifs with h
  · refine ⟨s.nodesTransitioning, rfl, ?_, List.Perm.refl _⟩
    rw [List.length_eq_zero_iff.mp h]
    exact List.Pairwise.nil
  · exact ⟨_, rfl, List.pairwise_mergeSort' (fun a b : String => a ≤ b) _,
      List.mergeSort_perm _ _⟩

/-- A computed status is the loop's, with its transitioning names sorted and its phase set. -/
theorem computeWpStatus_ok_eq {nodesInfo : NodesInfoMap} {st : WorkloadPolicyStatus}
    (h : computeWpStatus nodesInfo m k = .ok st) :
    ∃ s₀, computeNodes m k (.ofTotal nodesInfo.entries.length) nodesInfo.entries = .ok s₀ ∧
      s₀.totalNodes = s₀.failedNodes + s₀.transitioningNodes + s₀.successfulNodes ∧
      st = { s₀.sortTransitioningNodes with phase := phaseOf s₀.sortTransitioningNodes } := by
  unfold computeWpStatus at h
  rcases hc : computeNodes m k (.ofTotal nodesInfo.entries.length) nodesInfo.entries with e | s₀
  · simp [hc] at h
  · rw [hc] at h
    dsimp only at h
    split_ifs at h with hcons
    cases h
    exact ⟨s₀, rfl, not_not.mp hcons, rfl⟩

/-- With the totals adding up, the phase is `Ready`, `Failed` or `Transitioning`, never
    empty. -/
theorem phaseOf_of_consistent {s : WorkloadPolicyStatus}
    (h : s.totalNodes = s.failedNodes + s.transitioningNodes + s.successfulNodes) :
    phaseOf s = some (if s.successfulNodes = s.totalNodes then .ready
      else if 0 < s.failedNodes then .failed else .transitioning) := by
  unfold phaseOf
  split_ifs <;> first | rfl | omega

theorem computeWpStatus_error_iff (nodesInfo : NodesInfoMap) :
    (∃ e, computeWpStatus nodesInfo m k = .error e) ↔
      ∃ e ∈ nodesInfo.entries, e.2.issue.code = .none ∧ (e.2.policies.entries = [] ∨
        ∃ ps, e.2.policies.lookup k = some (some ps) ∧ ps.state ≠ .ready ∧ ps.state ≠ .error) := by
  have herr : (∃ e, computeWpStatus nodesInfo m k = .error e) ↔
      ¬ ∃ st, computeWpStatus nodesInfo m k = .ok st := by
    cases computeWpStatus nodesInfo m k <;> simp
  rw [herr, computeWpStatus_ok_iff]
  simp only [accepted_and_counted_iff, not_forall, not_not, exists_prop]

end Nodes

/-- `computeWpStatus` on nodes none of which is named like the truncation marker. It fails
    exactly when a node with no issue lists no policy, or holds this one in a state other
    than `READY` and `ERROR`. Otherwise it classifies every node once. The successful nodes
    hold the policy `READY` in the expected mode, the transitioning ones `READY` in another
    mode, and the failed ones are the rest; the three totals add up to the number of nodes.
    The issues name the first 19 failed nodes, and the marker iff 20 or more failed. The
    transitioning names are sorted and are the first 19 transitioning nodes, and the marker
    iff 20 or more. The phase is `Ready` when all nodes succeeded, otherwise `Failed` when
    one failed, otherwise `Transitioning`. -/
theorem computeWpStatus_classifies (nodesInfo : NodesInfoMap) (m : PbPolicyMode) (k : String)
    (hmarker : truncationNodeString ∉ nodesInfo.keys) :
    ((∃ e, computeWpStatus nodesInfo m k = .error e) ↔
      ∃ e ∈ nodesInfo.entries, e.2.issue.code = .none ∧ (e.2.policies.entries = [] ∨
        ∃ ps, e.2.policies.lookup k = some (some ps) ∧ ps.state ≠ .ready ∧ ps.state ≠ .error)) ∧
    ∀ st, computeWpStatus nodesInfo m k = .ok st →
      st.totalNodes = nodesInfo.entries.length ∧
      st.successfulNodes = nodesInfo.entries.countP (fun e => nodeSuccessful m k e.2) ∧
      st.transitioningNodes = nodesInfo.entries.countP (fun e => nodeTransitioning m k e.2) ∧
      st.failedNodes = nodesInfo.entries.countP (fun e => nodeFailed m k e.2) ∧
      st.failedNodes + st.transitioningNodes + st.successfulNodes = st.totalNodes ∧
      st.nodesWithIssues.keys.Perm
        ((namesWhere (nodeFailed m k) nodesInfo.entries).take (maxNodesWithIssues - 1) ++
          if maxNodesWithIssues ≤ st.failedNodes then [truncationNodeString] else []) ∧
      st.nodesTransitioning.Pairwise (· ≤ ·) ∧
      st.nodesTransitioning.Perm
        ((namesWhere (nodeTransitioning m k) nodesInfo.entries).take (maxTransitioningNodes - 1) ++
          if maxTransitioningNodes ≤ st.transitioningNodes then [truncationNodeString] else []) ∧
      st.phase = some (if st.successfulNodes = st.totalNodes then .ready
        else if 0 < st.failedNodes then .failed else .transitioning) := by
  refine ⟨computeWpStatus_error_iff nodesInfo, fun st hst => ?_⟩
  obtain ⟨s₀, hs₀, hcons, rfl⟩ := computeWpStatus_ok_eq hst
  have hall := (computeWpStatus_ok_iff nodesInfo).mp ⟨_, hst⟩
  have hnames : ∀ e ∈ [] ++ nodesInfo.entries, e.1 ≠ truncationNodeString := by
    rw [List.nil_append]
    exact fun e he hname => hmarker (hname ▸ List.mem_map_of_mem he)
  -- the loop tracks every node, from the literal `WorkloadPolicyStatus{TotalNodes: n}`
  have htr : ∃ s', computeNodes m k (.ofTotal nodesInfo.entries.length) nodesInfo.entries = .ok s' ∧
      Tracks m k nodesInfo.entries.length ([] ++ nodesInfo.entries) s' :=
    computeNodes_tracks (tracks_ofTotal _) nodesInfo.nodupKeys hnames hall
  obtain ⟨s₁, hs₁, htr⟩ := htr
  rw [hs₀, Except.ok.injEq] at hs₁
  subst hs₁
  rw [List.nil_append] at htr
  obtain ⟨l, hl, hsorted, hperm⟩ := sortTransitioningNodes_eq s₀
  have hphase := phaseOf_of_consistent (s := { s₀ with nodesTransitioning := l }) hcons
  rw [hl]
  refine ⟨htr.totalNodes, htr.successful, htr.transitioning, htr.failed, hcons.symm, ?_, hsorted,
    ?_, hphase⟩
  · have hkeys := htr.issues
    unfold Capped.collect at hkeys
    rw [length_namesWhere, ← htr.failed] at hkeys
    exact (List.reverse_perm _).symm.trans (hkeys ▸ List.Perm.refl _)
  · have hlist := htr.transitioningList
    unfold Capped.collect at hlist
    rw [length_namesWhere, ← htr.transitioning] at hlist
    exact hlist ▸ hperm

/-- A node `READY` in the policy's mode, one `READY` in the other mode, and one with no agent
    client. -/
def threeNodes : NodesInfoMap :=
  (((∅ : NodesInfoMap).insert "node-a"
      ⟨⟨.none, ""⟩, (∅ : AList _).insert "default/p" (some ⟨.ready, .protect, ""⟩)⟩).insert
    "node-b" ⟨⟨.none, ""⟩, (∅ : AList _).insert "default/p" (some ⟨.ready, .monitor, ""⟩)⟩).insert
    "node-c" ⟨⟨.podNotReady, "No agent client available"⟩, ∅⟩

theorem computeWpStatus_classifies_threeNodes :
    truncationNodeString ∉ threeNodes.keys ∧
      ∃ st, computeWpStatus threeNodes .protect "default/p" = .ok st ∧
        st.successfulNodes = 1 ∧ st.transitioningNodes = 1 ∧ st.failedNodes = 1 ∧
        st.phase = some .failed := by
  have hmarker : truncationNodeString ∉ threeNodes.keys := by decide
  obtain ⟨-, hst⟩ := computeWpStatus_classifies threeNodes .protect "default/p" hmarker
  have hrun : (computeWpStatus threeNodes .protect "default/p").toBool = true := by decide +kernel
  obtain ⟨st, hok⟩ : ∃ st, computeWpStatus threeNodes .protect "default/p" = .ok st := by
    cases h : computeWpStatus threeNodes .protect "default/p" with
    | error e => simp [h, Except.toBool] at hrun
    | ok st => exact ⟨st, rfl⟩
  obtain ⟨htot, hs, ht, hf, -, -, -, -, hphase⟩ := hst st hok
  have hs1 : st.successfulNodes = 1 := by rw [hs]; decide
  have ht1 : st.transitioningNodes = 1 := by rw [ht]; decide
  have hf1 : st.failedNodes = 1 := by rw [hf]; decide
  have htot3 : st.totalNodes = 3 := by rw [htot]; decide
  refine ⟨hmarker, st, hok, hs1, ht1, hf1, ?_⟩
  rw [hphase, hs1, hf1, htot3]
  decide

end RuntimeEnforcer.Controller
