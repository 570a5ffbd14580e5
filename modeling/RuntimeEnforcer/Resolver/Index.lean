import RuntimeEnforcer.Resolver.Runs
import RuntimeEnforcer.Resolver.Effects

/-
  The cgroup index over whole runs. In every run whose callbacks all succeed, each cgroup of
  `cgroupIDToPodID` names a cached pod that has a container of that cgroup, and each cgroup of
  `cg_to_policy_map` belongs to some cached container (`IndexInv`, `indexInv_of_reachable`).
  Hence `GetContainerView` resolves exactly the cgroups of the index, never failing on a pod or a
  container it cannot find (`getContainerView_ok_iff`), and a cgroup stays enforced only while a
  cached container has it (`cgToPolicy_cached`). `failed_callbacks_leave_orphans` is a run with
  one failed callback that breaks the first of these.
-/

namespace RuntimeEnforcer.Resolver

/-- The cached pod `podID` has a container of cgroup `cg`. -/
def State.CachedCgroup (r : State) (podID : PodID) (cg : CgroupID) : Prop :=
  ∃ pod, r.podCache.lookup podID = some pod ∧
    ∃ cid c, pod.containers.lookup cid = some c ∧ c.cgroupID = cg

/-- Every cgroup the resolver indexes or enforces is a cached container's. -/
structure IndexInv (r : State) : Prop where
  indexed : ∀ cg podID, r.cgroupIDToPodID.lookup cg = some podID → r.CachedCgroup podID cg
  enforced : ∀ cg p, r.bpf.cgToPolicy cg = some p → ∃ podID, r.CachedCgroup podID cg

theorem indexInv_init : IndexInv State.init where
  indexed _ _ h := by simp [State.init] at h
  enforced _ _ h := by simp [State.init, BpfMaps.empty] at h

/-! ## One call -/

section Step

variable {r : State}

theorem AddPodEffect.cachedCgroup {pod : PodInput} {state : PodEntry} {r' : State}
    (h : AddPodEffect r pod ((r.podCache.lookup pod.podMeta.id).getD (convertPodData pod)) state r')
    {podID : PodID} {cg : CgroupID} (hc : r.CachedCgroup podID cg) : r'.CachedCgroup podID cg := by
  obtain ⟨p, hp, cid, c, hpc, hcg⟩ := hc
  by_cases hid : podID = pod.podMeta.id
  · subst hid
    refine ⟨state, by rw [h.podCache, AList.lookup_insert], cid, c, h.keeps cid c ?_, hcg⟩
    rw [hp]
    exact hpc
  · exact ⟨p, by rw [h.podCache, AList.lookup_insert_ne hid]; exact hp, cid, c, hpc, hcg⟩

theorem AddPodEffect.cachedCgroup_state {pod : PodInput} {base state : PodEntry} {r' : State}
    (h : AddPodEffect r pod base state r') {cid : ContainerID} {c : ContainerMeta}
    (hc : state.containers.lookup cid = some c) : r'.CachedCgroup pod.podMeta.id c.cgroupID :=
  ⟨state, by rw [h.podCache, AList.lookup_insert], cid, c, hc, rfl⟩

theorem indexInv_add (h : IndexInv r) (pod : PodInput) :
    IndexInv (addPodContainerFromNri .none r pod).1 := by
  obtain ⟨state, he⟩ := addPodContainerFromNri_none r pod
  constructor
  · intro cg pid hl
    rcases he.index cg pid hl with h' | ⟨rfl, cid, c, hc, rfl⟩
    · exact he.cachedCgroup (h.indexed cg pid h')
    · exact he.cachedCgroup_state hc
  · intro cg p hp
    rcases he.cgToPolicy cg p hp with h' | ⟨-, -, cid, c, hc, rfl, -⟩
    · obtain ⟨pid, hpid⟩ := h.enforced cg p h'
      exact ⟨pid, he.cachedCgroup hpid⟩
    · exact ⟨_, he.cachedCgroup_state hc⟩

/-- A cached cgroup other than the removed container's stays cached. -/
theorem cachedCgroup_of_remove {podID : PodID} {cid : ContainerID} {state : PodEntry}
    {c : ContainerMeta} (hs : r.podCache.lookup podID = some state)
    (hc : state.containers.lookup cid = some c) {r' : State}
    (hcache : r'.podCache = if state.containers.entries.length = 1 then r.podCache.erase podID
      else r.podCache.insert podID { state with containers := state.containers.erase cid })
    {pid : PodID} {cg : CgroupID} (h : r.CachedCgroup pid cg) (hne : cg ≠ c.cgroupID) :
    r'.CachedCgroup pid cg := by
  obtain ⟨pod, hp, cid', c', hc', rfl⟩ := h
  obtain ⟨pod', hpod', -, hc''⟩ := lookup_removeContainer hs hc hp hc' hne
  exact ⟨pod', hcache ▸ hpod', cid', c', hc'', rfl⟩

theorem indexInv_remove (h : IndexInv r) (podID : PodID) (cid : ContainerID) :
    IndexInv (removePodContainerFromNri .none r podID cid).1 := by
  obtain ⟨-, hr | ⟨state, c, hs, hc, heq⟩⟩ := removePodContainerFromNri_none r podID cid
  · rw [hr]
    exact h
  · rw [heq]
    constructor
    · intro cg pid hl
      have hne : cg ≠ c.cgroupID := by
        rintro rfl
        rw [AList.lookup_erase] at hl
        cases hl
      rw [AList.lookup_erase_ne hne] at hl
      exact cachedCgroup_of_remove hs hc rfl (h.indexed cg pid hl) hne
    · intro cg p hp
      have hne : cg ≠ c.cgroupID := fun e => by simp [e] at hp
      have hp' : r.bpf.cgToPolicy cg = some p := by simpa [hne] using hp
      obtain ⟨pid, hpid⟩ := h.enforced cg p hp'
      exact ⟨pid, cachedCgroup_of_remove hs hc rfl hpid hne⟩

/-- A call that leaves the pods and the index alone and only enforces cached cgroups keeps the
    invariant. -/
theorem IndexInv.of_frame (h : IndexInv r) {r' : State} {added : CgroupID → PolicyID → Prop}
    (hf : PolicyFrame r r' added) (hadded : ∀ cg q, added cg q → ∃ pid, r.CachedCgroup pid cg) :
    IndexInv r' := by
  have hc : ∀ pid cg, r'.CachedCgroup pid cg ↔ r.CachedCgroup pid cg := by
    intro pid cg
    simp only [State.CachedCgroup, hf.podCache]
  constructor
  · intro cg pid hl
    rw [hc]
    exact h.indexed cg pid (hf.cgroupIDToPodID ▸ hl)
  · intro cg p hp
    rcases hf.cgToPolicy cg p hp with h' | h'
    · obtain ⟨pid, hpid⟩ := h.enforced cg p h'
      exact ⟨pid, (hc pid cg).mpr hpid⟩
    · obtain ⟨pid, hpid⟩ := hadded cg p h'
      exact ⟨pid, (hc pid cg).mpr hpid⟩

theorem indexInv_step (h : IndexInv r) (op : Op) : IndexInv (op.apply .none r).1 := by
  cases op with
  | addPodContainerFromNri pod => exact indexInv_add h pod
  | removePodContainerFromNri podID cid => exact indexInv_remove h podID cid
  | reconcileWP wp =>
    exact h.of_frame (reconcileWP_frame .none r wp)
      fun _ _ ⟨pid, pod, cid, c, hp, hc, hcg⟩ => ⟨pid, pod, hp, cid, c, hc, hcg⟩
  | handleWPDelete wp => exact h.of_frame (handleWPDelete_frame .none r wp) fun _ _ h => h.elim

end Step

/-! ## Every run -/

theorem indexInv_of_reachable {r : State} (hr : Reachable (· = CallbackFaults.none) r) :
    IndexInv r := by
  induction hr with
  | init => exact indexInv_init
  | step f op _ hf ih =>
    subst hf
    exact indexInv_step ih op

/-! ## What it gives -/

/-- A run: policy `default/p` for containers named `app`, then a pod with its label. -/
def webRun : State :=
  run State.init
    [(.none, .reconcileWP ⟨"default", "p", ⟨.protect, (∅ : AList _).insert "app" ["/bin/app"]⟩⟩),
     (.none, .addPodContainerFromNri ⟨⟨"pod1", "default", "web", (∅ : AList _).insert policyLabelKey "p"⟩,
        (∅ : AList _).insert "c1" ⟨⟨"c1", "app", 100⟩, "/sys/fs/cgroup/web/c1"⟩⟩)]

theorem reachable_webRun : Reachable (· = CallbackFaults.none) webRun :=
  reachable_run Reachable.init (by simp)

/-- In every run whose callbacks all succeed, `GetContainerView` resolves exactly the cgroups of
    the index: it never fails for want of a cached pod or container. -/
theorem getContainerView_ok_iff {r : State} (hr : Reachable (· = CallbackFaults.none) r)
    (cg : CgroupID) :
    (∃ v, getContainerView r cg = .ok v) ↔ (r.cgroupIDToPodID.lookup cg).isSome := by
  constructor
  · rintro ⟨v, hv⟩
    unfold getContainerView at hv
    split at hv
    · cases hv
    · rename_i podID hpid
      rw [hpid]
      rfl
  · intro h
    obtain ⟨pid, hpid⟩ := Option.isSome_iff_exists.mp h
    obtain ⟨pod, hpod, cid, c, hc, hcg⟩ := (indexInv_of_reachable hr).indexed cg pid hpid
    -- the container the invariant names makes the search succeed
    have hfind : (pod.containers.entries.find? fun e => e.2.cgroupID == cg).isSome :=
      List.find?_isSome.mpr ⟨⟨cid, c⟩, AList.mem_lookup_iff.mp hc, by simp [hcg]⟩
    obtain ⟨e, he⟩ := Option.isSome_iff_exists.mp hfind
    exact ⟨⟨⟨e.1, e.2.name, cg⟩, pod.podMeta⟩, by simp only [getContainerView, hpid, hpod, he]⟩

theorem getContainerView_ok_iff_webRun :
    Reachable (· = CallbackFaults.none) webRun ∧
      ((∃ v, getContainerView webRun 100 = .ok v) ↔ (webRun.cgroupIDToPodID.lookup 100).isSome) :=
  ⟨reachable_webRun, getContainerView_ok_iff reachable_webRun 100⟩

/-- In every run whose callbacks all succeed, a cgroup in `cg_to_policy_map` belongs to a cached
    container, so a cgroup leaves the map with the last cached container that has it. -/
theorem cgToPolicy_cached {r : State} (hr : Reachable (· = CallbackFaults.none) r) {cg : CgroupID}
    {p : PolicyID} (h : r.bpf.cgToPolicy cg = some p) : ∃ podID, r.CachedCgroup podID cg :=
  (indexInv_of_reachable hr).enforced cg p h

theorem cgToPolicy_cached_webRun :
    Reachable (· = CallbackFaults.none) webRun ∧ webRun.bpf.cgToPolicy 100 = some 1 ∧
      ∃ podID, webRun.CachedCgroup podID 100 := by
  have h : webRun.bpf.cgToPolicy 100 = some 1 := by decide +kernel
  exact ⟨reachable_webRun, h, cgToPolicy_cached reachable_webRun h⟩

end RuntimeEnforcer.Resolver
