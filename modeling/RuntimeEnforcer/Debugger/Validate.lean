import RuntimeEnforcer.Lib.BoundedLoop
import RuntimeEnforcer.Lib.KeyedList
import RuntimeEnforcer.Lib.SortedMerge

/-
  The pod-cache debugger of internal/debugger/validate.go: `compareCaches`, the two-pointer
  walk over a node's cluster pod views and agent pod views, each sorted by pod UID.

  On any two lists `compareCaches` is `mergeCaches`, the sorted merge of `SortedMerge` whose
  left report is `missingPodFromAgentCache`, whose right report is `unexpectedPodInAgentCache`
  and whose report for a pair is `comparePods` (`compareCaches_eq_mergeCaches`). Its `while`
  loop keeps `Scanned`: what it has reported, followed by the merge of what is left behind the
  two cursors, is the merge of both caches. Every iteration moves a cursor, so the loop breaks
  within its bound, and the three loops iterate at most once per pod. After the sorts of
  `validateCaches`, and when no two pods of a cache share a UID, it reports key after key, in
  increasing order over all the UIDs, what `cacheReport` says each UID is owed.

  `validateCaches` runs that walk on every node with both caches. It reports each node at most
  once (`nodup_validateCaches`), and it reports exactly what `nodeReport` says the node is owed
  (`mem_validateCaches`): a missing agent cache, the differences found, or an agent cache for
  a node the cluster does not have.
-/

namespace RuntimeEnforcer.Debugger

/-! ## Pod views -/

/-- `clusterContainerMeta`, without the ID it is stored under. -/
structure ClusterContainerMeta where
  name : String
  terminated : Bool

/-- `clusterPodView`: a pod as the cluster reports it. -/
structure ClusterPodView where
  id : String
  name : String
  «namespace» : String
  containers : AList fun _ : String => ClusterContainerMeta

/-- `agentv1.ContainerMeta`: the field `comparePods` reads. -/
structure ContainerMeta where
  name : String

/-- `agentPodView`: a pod as an agent's cache reports it, with the fields of its `Meta` that
    the debugger reads. -/
structure AgentPodView where
  id : String
  name : String
  «namespace» : String
  containers : AList fun _ : String => ContainerMeta

def ClusterPodView.sortKey (v : ClusterPodView) : String := v.id

def AgentPodView.sortKey (v : AgentPodView) : String := v.id

def ClusterPodView.toString (v : ClusterPodView) : String :=
  v.«namespace» ++ "/" ++ v.name ++ " (" ++ v.id ++ ")"

def AgentPodView.toString (v : AgentPodView) : String :=
  v.«namespace» ++ "/" ++ v.name ++ " (" ++ v.id ++ ")"

/-! ## Differences -/

/-- The verb %q on a string of printable characters: the string in double quotes, with its
    double quotes and backslashes escaped. -/
def quote (s : String) : String :=
  "\"" ++ String.join (s.toList.map fun c =>
    if c = '"' then "\\\"" else if c = '\\' then "\\\\" else c.toString) ++ "\""

def missingPodFromAgentCache (clusterPod : ClusterPodView) : String :=
  "pod " ++ clusterPod.toString ++ " is missing from the agent cache"

def unexpectedPodInAgentCache (agentPod : AgentPodView) : String :=
  "unexpected pod " ++ agentPod.toString ++ " found in the agent cache"

def fieldMismatch (fieldName clusterValue agentValue : String) : String :=
  quote fieldName ++ " mismatch: cluster=" ++ quote clusterValue ++ ", agent=" ++ quote agentValue

def containerNameMismatch (containerID clusterValue agentValue : String) : String :=
  "container " ++ quote containerID ++ ": " ++ fieldMismatch "name" clusterValue agentValue

/-- `comparePods`: the differences between two views of one pod, each prefixed with the
    cluster view. The two container loops range over Go maps; they follow the order of the
    entries here. -/
def comparePods (clusterPod : ClusterPodView) (cachePod : AgentPodView) : List String :=
  let podFields :=
    (if clusterPod.«namespace» ≠ cachePod.«namespace» then
      [fieldMismatch "namespace" clusterPod.«namespace» cachePod.«namespace»] else []) ++
    (if clusterPod.name ≠ cachePod.name then
      [fieldMismatch "name" clusterPod.name cachePod.name] else [])
  let clusterContainers := clusterPod.containers.entries.flatMap fun ⟨containerID, clusterContainer⟩ =>
    match cachePod.containers.lookup containerID with
    | none =>
      -- a terminated container may have ended before the agent cache started
      if clusterContainer.terminated then []
      else ["missing container " ++ quote clusterContainer.name ++ " (" ++ quote containerID ++
        ") in the agent cache"]
    | some cacheContainer =>
      if clusterContainer.name ≠ cacheContainer.name then
        [containerNameMismatch containerID clusterContainer.name cacheContainer.name]
      else []
  let agentContainers := cachePod.containers.entries.flatMap fun ⟨containerID, cacheContainer⟩ =>
    if (clusterPod.containers.lookup containerID).isSome then []
    else ["container " ++ quote cacheContainer.name ++ " (" ++ quote containerID ++
      ") is only in the agent cache"]
  (podFields ++ clusterContainers ++ agentContainers).map fun diff =>
    clusterPod.toString ++ ": " ++ diff

/-! ## compareCaches -/

/-- The locals of `compareCaches`, with `iterations` counting the iterations of its three
    loops; the source does not keep that count. -/
structure CompareState where
  clusterIdx : Nat
  agentIdx : Nat
  differences : List String
  iterations : Nat

def initState : CompareState := ⟨0, 0, [], 0⟩

/-- The switch of the main loop, on the pods under the two cursors. -/
def compareAt (clusterPod : ClusterPodView) (cachePod : AgentPodView) (st : CompareState) :
    CompareState :=
  let st := { st with iterations := st.iterations + 1 }
  if clusterPod.sortKey < cachePod.sortKey then
    { st with differences := st.differences ++ [missingPodFromAgentCache clusterPod],
              clusterIdx := st.clusterIdx + 1 }
  else if cachePod.sortKey < clusterPod.sortKey then
    { st with differences := st.differences ++ [unexpectedPodInAgentCache cachePod],
              agentIdx := st.agentIdx + 1 }
  else
    { st with differences := st.differences ++ comparePods clusterPod cachePod,
              clusterIdx := st.clusterIdx + 1, agentIdx := st.agentIdx + 1 }

/-- One iteration of the main loop; it breaks once a cursor is past the end of its cache. -/
def compareStep (clusterCache : List ClusterPodView) (agentCache : List AgentPodView)
    (st : CompareState) : Bool × CompareState :=
  match clusterCache[st.clusterIdx]?, agentCache[st.agentIdx]? with
  | some clusterPod, some cachePod => (false, compareAt clusterPod cachePod st)
  | _, _ => (true, st)

/-- The loop that reports every cluster pod from the cluster cursor on as missing. -/
def drainClusterCache (clusterCache : List ClusterPodView) (st : CompareState) : CompareState :=
  (clusterCache.drop st.clusterIdx).foldl (fun st clusterPod =>
    { st with differences := st.differences ++ [missingPodFromAgentCache clusterPod],
              clusterIdx := st.clusterIdx + 1, iterations := st.iterations + 1 }) st

/-- The loop that reports every agent pod from the agent cursor on as unexpected. -/
def drainAgentCache (agentCache : List AgentPodView) (st : CompareState) : CompareState :=
  (agentCache.drop st.agentIdx).foldl (fun st cachePod =>
    { st with differences := st.differences ++ [unexpectedPodInAgentCache cachePod],
              agentIdx := st.agentIdx + 1, iterations := st.iterations + 1 }) st

/-- The three loops of `compareCaches`; the main loop runs under a bound one above the number
    of pods, which `compareStep_breaks` shows it never reaches. -/
def compareLoops (clusterCache : List ClusterPodView) (agentCache : List AgentPodView) :
    CompareState :=
  let st := BoundedLoop.run (compareStep clusterCache agentCache)
    (clusterCache.length + agentCache.length + 1) initState
  drainAgentCache agentCache (drainClusterCache clusterCache st)

def compareCaches (clusterCache : List ClusterPodView) (agentCache : List AgentPodView) :
    List String :=
  (compareLoops clusterCache agentCache).differences

/-- The two sort.Slice calls of `validateCaches`, by a stable sort: on UIDs that no two pods
    share every sort gives this list (`SortedMerge.eq_sortBy`). -/
def sortClusterCache (clusterCache : List ClusterPodView) : List ClusterPodView :=
  SortedMerge.sortBy ClusterPodView.sortKey clusterCache

def sortAgentCache (agentCache : List AgentPodView) : List AgentPodView :=
  SortedMerge.sortBy AgentPodView.sortKey agentCache

/-! ## What compareCaches is for -/

/-- The sorted merge of the two caches by UID. -/
def mergeCaches : List ClusterPodView → List AgentPodView → List String :=
  SortedMerge.merge ClusterPodView.sortKey AgentPodView.sortKey
    (fun clusterPod => [missingPodFromAgentCache clusterPod])
    (fun cachePod => [unexpectedPodInAgentCache cachePod]) comparePods

/-- What the debugger owes for the UID `k`: one missing pod, one unexpected pod, or the
    differences between the two views of it. -/
def cacheReport (clusterCache : List ClusterPodView) (agentCache : List AgentPodView) :
    String → List String :=
  SortedMerge.reportAt ClusterPodView.sortKey AgentPodView.sortKey
    (fun clusterPod => [missingPodFromAgentCache clusterPod])
    (fun cachePod => [unexpectedPodInAgentCache cachePod]) comparePods clusterCache agentCache

/-! ## One iteration of the main loop -/

section Loop

variable {clusterCache : List ClusterPodView} {agentCache : List AgentPodView}

theorem compareAt_iterations (clusterPod : ClusterPodView) (cachePod : AgentPodView)
    (st : CompareState) : (compareAt clusterPod cachePod st).iterations = st.iterations + 1 := by
  unfold compareAt
  split_ifs <;> rfl

/-- Each cursor moves by at most one, and one of them moves. -/
theorem compareAt_cursors (clusterPod : ClusterPodView) (cachePod : AgentPodView)
    (st : CompareState) :
    st.clusterIdx ≤ (compareAt clusterPod cachePod st).clusterIdx ∧
      (compareAt clusterPod cachePod st).clusterIdx ≤ st.clusterIdx + 1 ∧
      st.agentIdx ≤ (compareAt clusterPod cachePod st).agentIdx ∧
      (compareAt clusterPod cachePod st).agentIdx ≤ st.agentIdx + 1 ∧
      st.clusterIdx + st.agentIdx <
        (compareAt clusterPod cachePod st).clusterIdx + (compareAt clusterPod cachePod st).agentIdx := by
  unfold compareAt
  split_ifs <;> dsimp only <;> omega

/-- The switch reports what the merge owes for the two pods under the cursors, and leaves the
    merge of what is left behind the cursors it moves. -/
theorem compareAt_merged {clusterPod : ClusterPodView} {cachePod : AgentPodView}
    {st : CompareState}
    (hc : clusterCache.drop st.clusterIdx = clusterPod :: clusterCache.drop (st.clusterIdx + 1))
    (ha : agentCache.drop st.agentIdx = cachePod :: agentCache.drop (st.agentIdx + 1)) :
    (compareAt clusterPod cachePod st).differences ++
        mergeCaches (clusterCache.drop (compareAt clusterPod cachePod st).clusterIdx)
          (agentCache.drop (compareAt clusterPod cachePod st).agentIdx) =
      st.differences ++ mergeCaches (clusterCache.drop st.clusterIdx) (agentCache.drop st.agentIdx) := by
  unfold compareAt
  split_ifs with hlt hgt
  · -- the cluster pod's UID comes first: it is missing from the agent cache
    dsimp only
    rw [hc, ha, mergeCaches, SortedMerge.merge_cons_cons, if_pos hlt, List.append_assoc]
  · -- the agent pod's UID comes first: it is unexpected
    dsimp only
    rw [hc, ha, mergeCaches, SortedMerge.merge_cons_cons, if_neg hlt, if_pos hgt,
      List.append_assoc]
  · -- one UID on both sides: the differences between its two views
    dsimp only
    rw [hc, ha, mergeCaches, SortedMerge.merge_cons_cons, if_neg hlt, if_neg hgt,
      List.append_assoc]

/-- An iteration that does not break has a pod under each cursor and runs the switch on
    them. -/
theorem compareStep_continue {st : CompareState}
    (hb : (compareStep clusterCache agentCache st).1 = false) :
    ∃ (hi : st.clusterIdx < clusterCache.length) (hj : st.agentIdx < agentCache.length),
      compareStep clusterCache agentCache st =
        (false, compareAt clusterCache[st.clusterIdx] agentCache[st.agentIdx] st) := by
  unfold compareStep at hb ⊢
  split at hb
  · rename_i clusterPod cachePod hc ha
    obtain ⟨hi, rfl⟩ := List.getElem?_eq_some_iff.mp hc
    obtain ⟨hj, rfl⟩ := List.getElem?_eq_some_iff.mp ha
    exact ⟨hi, hj, rfl⟩
  · cases hb

/-- An iteration that breaks leaves the state as it is, with a cursor past its cache. -/
theorem compareStep_break {st : CompareState}
    (hb : (compareStep clusterCache agentCache st).1 = true) :
    compareStep clusterCache agentCache st = (true, st) ∧
      (clusterCache.length ≤ st.clusterIdx ∨ agentCache.length ≤ st.agentIdx) := by
  unfold compareStep at hb ⊢
  split at hb
  · cases hb
  · rename_i hnot
    refine ⟨rfl, ?_⟩
    by_contra hlt
    obtain ⟨hi, hj⟩ := not_or.mp hlt
    exact hnot _ _ (List.getElem?_eq_getElem (Nat.lt_of_not_le hi))
      (List.getElem?_eq_getElem (Nat.lt_of_not_le hj))

/-- Every iteration that does not break moves a cursor towards the end of its cache. -/
theorem compareStep_progress (st : CompareState)
    (hb : (compareStep clusterCache agentCache st).1 = false) :
    (clusterCache.length - (compareStep clusterCache agentCache st).2.clusterIdx) +
        (agentCache.length - (compareStep clusterCache agentCache st).2.agentIdx) <
      (clusterCache.length - st.clusterIdx) + (agentCache.length - st.agentIdx) := by
  obtain ⟨hi, hj, heq⟩ := compareStep_continue hb
  have hcur := compareAt_cursors clusterCache[st.clusterIdx] agentCache[st.agentIdx] st
  simp only [heq]
  omega

/-- The main loop breaks within its bound. -/
theorem compareStep_breaks (clusterCache : List ClusterPodView) (agentCache : List AgentPodView) :
    BoundedLoop.breaksWithin (compareStep clusterCache agentCache)
      (clusterCache.length + agentCache.length + 1) initState = true :=
  BoundedLoop.breaksWithin_of_measure (compareStep clusterCache agentCache)
    (fun st => (clusterCache.length - st.clusterIdx) + (agentCache.length - st.agentIdx))
    compareStep_progress initState

/-! ## The loop invariant -/

/-- What the main loop keeps: the cursors stay within their caches, what it has reported
    followed by the merge of what is left behind the cursors is the merge of both caches, and
    it has iterated at most once per pod passed. -/
structure Scanned (clusterCache : List ClusterPodView) (agentCache : List AgentPodView)
    (st : CompareState) : Prop where
  cluster_le : st.clusterIdx ≤ clusterCache.length
  agent_le : st.agentIdx ≤ agentCache.length
  merged : st.differences ++
      mergeCaches (clusterCache.drop st.clusterIdx) (agentCache.drop st.agentIdx) =
    mergeCaches clusterCache agentCache
  iterations_le : st.iterations ≤ st.clusterIdx + st.agentIdx

theorem scanned_init : Scanned clusterCache agentCache initState :=
  ⟨Nat.zero_le _, Nat.zero_le _, by rw [initState, List.drop_zero, List.drop_zero, List.nil_append],
    Nat.le_refl _⟩

theorem Scanned.step {st : CompareState} (h : Scanned clusterCache agentCache st)
    (hb : (compareStep clusterCache agentCache st).1 = false) :
    Scanned clusterCache agentCache (compareStep clusterCache agentCache st).2 := by
  obtain ⟨hi, hj, heq⟩ := compareStep_continue hb
  have hcur := compareAt_cursors clusterCache[st.clusterIdx] agentCache[st.agentIdx] st
  have hit := compareAt_iterations clusterCache[st.clusterIdx] agentCache[st.agentIdx] st
  have hle := h.iterations_le
  simp only [heq]
  refine ⟨by omega, by omega, ?_, by omega⟩
  rw [compareAt_merged (List.drop_eq_getElem_cons hi) (List.drop_eq_getElem_cons hj)]
  exact h.merged

/-! ## The drains -/

theorem drainClusterCache_eq (clusterCache : List ClusterPodView) (st : CompareState) :
    drainClusterCache clusterCache st =
      { st with
        differences := st.differences ++
          (clusterCache.drop st.clusterIdx).map missingPodFromAgentCache,
        clusterIdx := st.clusterIdx + (clusterCache.drop st.clusterIdx).length,
        iterations := st.iterations + (clusterCache.drop st.clusterIdx).length } := by
  unfold drainClusterCache
  generalize clusterCache.drop st.clusterIdx = rest
  induction rest generalizing st with
  | nil => simp only [List.foldl_nil, List.map_nil, List.append_nil, List.length_nil, Nat.add_zero]
  | cons clusterPod rest ih =>
    rw [List.foldl_cons, ih]
    simp only [List.map_cons, List.length_cons, List.append_assoc, List.singleton_append]
    congr 1 <;> omega

theorem drainAgentCache_eq (agentCache : List AgentPodView) (st : CompareState) :
    drainAgentCache agentCache st =
      { st with
        differences := st.differences ++
          (agentCache.drop st.agentIdx).map unexpectedPodInAgentCache,
        agentIdx := st.agentIdx + (agentCache.drop st.agentIdx).length,
        iterations := st.iterations + (agentCache.drop st.agentIdx).length } := by
  unfold drainAgentCache
  generalize agentCache.drop st.agentIdx = rest
  induction rest generalizing st with
  | nil => simp only [List.foldl_nil, List.map_nil, List.append_nil, List.length_nil, Nat.add_zero]
  | cons cachePod rest ih =>
    rw [List.foldl_cons, ih]
    simp only [List.map_cons, List.length_cons, List.append_assoc, List.singleton_append]
    congr 1 <;> omega

/-! ## The whole walk -/

/-- After the main loop breaks the drains report the merge of what is left, which is what
    one of the two caches still holds. -/
theorem compareLoops_spec (clusterCache : List ClusterPodView) (agentCache : List AgentPodView) :
    (compareLoops clusterCache agentCache).differences = mergeCaches clusterCache agentCache ∧
      (compareLoops clusterCache agentCache).iterations ≤ clusterCache.length + agentCache.length := by
  obtain ⟨st, hst, hbrk, hrun⟩ := BoundedLoop.run_eq_of_breaksWithin _
    (Scanned clusterCache agentCache) (fun _ h hb => h.step hb) _ _ scanned_init
    (compareStep_breaks clusterCache agentCache)
  obtain ⟨hstep, hend⟩ := compareStep_break hbrk
  have hleft : clusterCache.drop st.clusterIdx = [] ∨ agentCache.drop st.agentIdx = [] := by
    rcases hend with h | h
    · exact Or.inl (List.drop_eq_nil_of_le h)
    · exact Or.inr (List.drop_eq_nil_of_le h)
  have hmerged := hst.merged
  rw [mergeCaches, SortedMerge.merge_of_nil hleft, ← List.map_eq_flatMap,
    ← List.map_eq_flatMap] at hmerged
  rw [compareLoops, hrun, hstep]
  dsimp only
  rw [drainAgentCache_eq, drainClusterCache_eq]
  dsimp only
  refine ⟨by rw [List.append_assoc]; exact hmerged, ?_⟩
  have := hst.iterations_le
  have := hst.cluster_le
  have := hst.agent_le
  simp only [List.length_drop]
  omega

theorem compareCaches_eq_mergeCaches (clusterCache : List ClusterPodView)
    (agentCache : List AgentPodView) :
    compareCaches clusterCache agentCache = mergeCaches clusterCache agentCache :=
  (compareLoops_spec clusterCache agentCache).1

theorem compareLoops_iterations_le (clusterCache : List ClusterPodView)
    (agentCache : List AgentPodView) :
    (compareLoops clusterCache agentCache).iterations ≤ clusterCache.length + agentCache.length :=
  (compareLoops_spec clusterCache agentCache).2

end Loop

/-! ## What each UID is owed -/

section Owed

variable {clusterCache : List ClusterPodView} {agentCache : List AgentPodView}

/-- After the sorts of `validateCaches` the merge reports, over all the UIDs in increasing
    order, what each UID is owed in the caches as given. -/
theorem mergeCaches_sorted (hc : (clusterCache.map ClusterPodView.sortKey).Nodup)
    (ha : (agentCache.map AgentPodView.sortKey).Nodup) :
    ∃ keys : List String, keys.Pairwise (· < ·) ∧
      (∀ k, k ∈ keys ↔ k ∈ clusterCache.map ClusterPodView.sortKey ∨
        k ∈ agentCache.map AgentPodView.sortKey) ∧
      mergeCaches (sortClusterCache clusterCache) (sortAgentCache agentCache) =
        keys.flatMap (cacheReport clusterCache agentCache) :=
  SortedMerge.merge_sorted_eq_flatMap (SortedMerge.sortBy_perm _ _).symm
    (SortedMerge.sortBy_perm _ _).symm (SortedMerge.sortBy_sorted _ _)
    (SortedMerge.sortBy_sorted _ _) hc ha

end Owed

theorem compareCaches_reports_each_uid (clusterCache : List ClusterPodView)
    (agentCache : List AgentPodView) (hc : (clusterCache.map ClusterPodView.sortKey).Nodup)
    (ha : (agentCache.map AgentPodView.sortKey).Nodup) :
    ∃ keys : List String, keys.Pairwise (· < ·) ∧
      (∀ k, k ∈ keys ↔ k ∈ clusterCache.map ClusterPodView.sortKey ∨
        k ∈ agentCache.map AgentPodView.sortKey) ∧
      compareCaches (sortClusterCache clusterCache) (sortAgentCache agentCache) =
        keys.flatMap (cacheReport clusterCache agentCache) ∧
      BoundedLoop.breaksWithin (compareStep (sortClusterCache clusterCache) (sortAgentCache agentCache))
        (clusterCache.length + agentCache.length + 1) initState = true ∧
      (compareLoops (sortClusterCache clusterCache) (sortAgentCache agentCache)).iterations ≤
        clusterCache.length + agentCache.length := by
  obtain ⟨keys, hsorted, hmem, hmerge⟩ := mergeCaches_sorted hc ha
  have hlc : (sortClusterCache clusterCache).length = clusterCache.length :=
    (SortedMerge.sortBy_perm _ _).length_eq
  have hla : (sortAgentCache agentCache).length = agentCache.length :=
    (SortedMerge.sortBy_perm _ _).length_eq
  refine ⟨keys, hsorted, hmem, ?_, ?_, ?_⟩
  · rw [compareCaches_eq_mergeCaches, hmerge]
  · rw [← hlc, ← hla]
    exact compareStep_breaks _ _
  · rw [← hlc, ← hla]
    exact compareLoops_iterations_le _ _

/-- A node whose cluster reports pods `uid-b` and `uid-a` and whose agent reports `uid-c` and
    `uid-b`. -/
def clusterPods : List ClusterPodView :=
  [⟨"uid-b", "web", "default", ∅⟩, ⟨"uid-a", "db", "default", ∅⟩]

def agentPods : List AgentPodView :=
  [⟨"uid-c", "job", "default", ∅⟩, ⟨"uid-b", "web", "default", ∅⟩]

theorem compareCaches_reports_each_uid_twoPods :
    (clusterPods.map ClusterPodView.sortKey).Nodup ∧ (agentPods.map AgentPodView.sortKey).Nodup ∧
    ∃ keys : List String, keys.Pairwise (· < ·) ∧
      (∀ k, k ∈ keys ↔ k ∈ clusterPods.map ClusterPodView.sortKey ∨
        k ∈ agentPods.map AgentPodView.sortKey) ∧
      compareCaches (sortClusterCache clusterPods) (sortAgentCache agentPods) =
        keys.flatMap (cacheReport clusterPods agentPods) ∧
      BoundedLoop.breaksWithin (compareStep (sortClusterCache clusterPods) (sortAgentCache agentPods))
        (clusterPods.length + agentPods.length + 1) initState = true ∧
      (compareLoops (sortClusterCache clusterPods) (sortAgentCache agentPods)).iterations ≤
        clusterPods.length + agentPods.length :=
  ⟨by decide, by decide, compareCaches_reports_each_uid clusterPods agentPods (by decide) (by decide)⟩

/-! ## validateCaches -/

/-- `nodeMsg`. -/
inductive NodeMsg where
  | noAgentCache
  | foundNodeDifferences
  | unexpectedAgentCache
  deriving DecidableEq, Repr

/-- What `validateCaches` prints about a node: the message, the differences and the agent
    cache it dumps. -/
structure NodeReport where
  nodeName : String
  msg : NodeMsg
  differences : List String
  agentCache : List AgentPodView

abbrev AgentCaches := AList fun _ : String => List AgentPodView

abbrev ClusterCaches := AList fun _ : String => List ClusterPodView

/-- `validateCaches`: the walk on every node of the cluster that has an agent cache, then the
    agent caches of nodes the cluster does not have. The sorts are in place, so the dump after
    differences shows the sorted agent cache. -/
def validateCaches (agentCaches : AgentCaches) (clusterCaches : ClusterCaches) : List NodeReport :=
  clusterCaches.entries.filterMap (fun ⟨nodeName, clusterCache⟩ =>
    match agentCaches.lookup nodeName with
    | none => some ⟨nodeName, .noAgentCache, [], []⟩
    | some agentCache =>
      let differences := compareCaches (sortClusterCache clusterCache) (sortAgentCache agentCache)
      if 0 < differences.length then
        some ⟨nodeName, .foundNodeDifferences, differences, sortAgentCache agentCache⟩
      else none) ++
  agentCaches.entries.filterMap fun ⟨nodeName, agentCache⟩ =>
    if (clusterCaches.lookup nodeName).isSome then none
    else some ⟨nodeName, .unexpectedAgentCache, [], agentCache⟩

/-- What `validateCaches` owes the node `n`. -/
def nodeReport (agentCaches : AgentCaches) (clusterCaches : ClusterCaches) (n : String) :
    Option NodeReport :=
  match clusterCaches.lookup n, agentCaches.lookup n with
  | some _, none => some ⟨n, .noAgentCache, [], []⟩
  | some clusterCache, some agentCache =>
    if compareCaches (sortClusterCache clusterCache) (sortAgentCache agentCache) = [] then none
    else some ⟨n, .foundNodeDifferences,
      compareCaches (sortClusterCache clusterCache) (sortAgentCache agentCache),
      sortAgentCache agentCache⟩
  | none, some agentCache => some ⟨n, .unexpectedAgentCache, [], agentCache⟩
  | none, none => none

section Nodes

variable {agentCaches : AgentCaches} {clusterCaches : ClusterCaches}

/-- A report of the first loop is owed to its node. -/
theorem nodeReport_of_cluster_entry {n : String} {clusterCache : List ClusterPodView}
    {rep : NodeReport} (hc : clusterCaches.lookup n = some clusterCache)
    (hrep : (match agentCaches.lookup n with
      | none => some ⟨n, .noAgentCache, [], []⟩
      | some agentCache =>
        if 0 < (compareCaches (sortClusterCache clusterCache) (sortAgentCache agentCache)).length
        then some ⟨n, .foundNodeDifferences,
          compareCaches (sortClusterCache clusterCache) (sortAgentCache agentCache),
          sortAgentCache agentCache⟩
        else none) = some rep) :
    rep.nodeName = n ∧ nodeReport agentCaches clusterCaches n = some rep := by
  cases ha : agentCaches.lookup n with
  | none =>
    rw [ha] at hrep
    cases hrep
    simp [nodeReport, hc, ha]
  | some agentCache =>
    rw [ha] at hrep
    dsimp only at hrep
    split_ifs at hrep with hd
    cases hrep
    have hne := List.ne_nil_of_length_pos hd
    simp [nodeReport, hc, ha, hne]

theorem mem_validateCaches (rep : NodeReport) :
    rep ∈ validateCaches agentCaches clusterCaches ↔
      nodeReport agentCaches clusterCaches rep.nodeName = some rep := by
  rw [validateCaches, List.mem_append, List.mem_filterMap, List.mem_filterMap]
  constructor
  · rintro (⟨⟨n, clusterCache⟩, hmem, hrep⟩ | ⟨⟨n, agentCache⟩, hmem, hrep⟩)
    · -- the first loop: a node of the cluster
      obtain ⟨hname, hnode⟩ := nodeReport_of_cluster_entry (AList.mem_lookup_iff.mpr hmem) hrep
      rw [hname]
      exact hnode
    · -- the second loop: an agent cache the cluster has no node for
      dsimp only at hrep
      split_ifs at hrep with hc
      cases hrep
      have hc' : clusterCaches.lookup n = none := Option.not_isSome_iff_eq_none.mp hc
      have ha : agentCaches.lookup n = some agentCache := AList.mem_lookup_iff.mpr hmem
      simp [nodeReport, hc', ha]
  · intro h
    unfold nodeReport at h
    split at h
    · rename_i clusterCache hc ha
      rw [← Option.some.inj h]
      exact Or.inl ⟨⟨_, clusterCache⟩, AList.mem_lookup_iff.mp hc, by simp [ha]⟩
    · rename_i clusterCache agentCache hc ha
      split_ifs at h with hd
      rw [← Option.some.inj h]
      refine Or.inl ⟨⟨_, clusterCache⟩, AList.mem_lookup_iff.mp hc, ?_⟩
      simp [ha, List.length_pos_iff.mpr hd]
    · rename_i agentCache hc ha
      rw [← Option.some.inj h]
      exact Or.inr ⟨⟨_, agentCache⟩, AList.mem_lookup_iff.mp ha, by simp [hc]⟩
    · cases h

/-- No node is reported twice. -/
theorem nodup_validateCaches :
    ((validateCaches agentCaches clusterCaches).map NodeReport.nodeName).Nodup := by
  rw [validateCaches, List.map_append, List.nodup_append]
  refine ⟨?_, ?_, ?_⟩
  · -- the first loop visits each node of the cluster once
    refine (KeyedList.map_filterMap_sublist ?_).nodup clusterCaches.nodupKeys
    rintro ⟨n, clusterCache⟩ hmem rep hrep
    exact (nodeReport_of_cluster_entry (AList.mem_lookup_iff.mpr hmem) hrep).1
  · refine (KeyedList.map_filterMap_sublist ?_).nodup agentCaches.nodupKeys
    rintro ⟨n, agentCache⟩ - rep hrep
    dsimp only at hrep
    split_ifs at hrep
    cases hrep
    rfl
  · -- the second loop skips the nodes of the cluster
    intro n hn₁ m hn₂ hnm
    obtain ⟨rep, hrep, rfl⟩ := List.mem_map.mp hn₁
    obtain ⟨rep', hrep', rfl⟩ := List.mem_map.mp hn₂
    obtain ⟨⟨n, clusterCache⟩, hmem, hf⟩ := List.mem_filterMap.mp hrep
    obtain ⟨⟨m, agentCache⟩, -, hg⟩ := List.mem_filterMap.mp hrep'
    have hc : clusterCaches.lookup n = some clusterCache := AList.mem_lookup_iff.mpr hmem
    have hname := (nodeReport_of_cluster_entry hc hf).1
    dsimp only at hg
    split_ifs at hg with hm
    cases hg
    have hmn : m = n := by simpa [hname] using hnm.symm
    rw [hmn, hc] at hm
    exact hm rfl

end Nodes

end RuntimeEnforcer.Debugger
