import RuntimeEnforcer.Resolver.Index

/-
  Policy IDs over whole runs. `ValidReachable` is the set of states that runs reach when every
  callback succeeds and every call is one Kubernetes and the kernel can make: namespaces and
  label values hold no '/', each container the NRI plugin reports has a cgroup of its own, and
  the ID counter has room below 2^64 for one ID per container of a spec. In every such state
  (`PolicyInv`; its step for `ReconcileWP` and the run lemma `policyInv_of_validReachable` are in
  `Resolver.Reconcile`):
  - the IDs recorded in `wpState` are nonzero, below `nextPolicyID`, and each is recorded for one
    (policy, container name) pair;
  - `policy_mode_map` and the values maps hold an entry for exactly the recorded IDs, so no ID
    leaks there and none is missing;
  - every cgroup in `cg_to_policy_map` is a cached container's, with the ID that the policy its
    pod is labelled with records for the container's name;
  and `ReconcileWP` then never fails: it marks the policy READY (`reconcileWP_ready`).
  `reconcileWP_keeps_removed_container` is such a run, so a recorded ID may belong to a name no
  longer in the spec.
-/

namespace RuntimeEnforcer.Resolver

open PolicyMode

/-! ## Records and the invariant -/

/-- The policy ID that policy `key` records for containers named `name`. -/
def State.policyOf (r : State) (key : NamespacedPolicyName) (name : ContainerName) :
    Option PolicyID :=
  (r.wpState.lookup key).bind fun info => info.polByContainer.lookup name

/-- Some policy records `p`. -/
def State.Recorded (r : State) (p : PolicyID) : Prop :=
  ∃ key name, r.policyOf key name = some p

theorem policyOf_of_wpState {r r' : State} (h : r'.wpState = r.wpState) :
    r'.policyOf = r.policyOf := by
  unfold State.policyOf
  rw [h]

theorem policyOf_of_wpState_erase {r r' : State} {key : NamespacedPolicyName}
    (h : r'.wpState = r.wpState.erase key) (k : NamespacedPolicyName) (n : ContainerName) :
    r'.policyOf k n = if k = key then none else r.policyOf k n := by
  unfold State.policyOf
  rw [h]
  split
  · rename_i hk
    rw [hk, AList.lookup_erase]
    rfl
  · rename_i hk
    rw [AList.lookup_erase_ne hk]

theorem PodEntry.policyName_congr {a b : PodEntry} (h : a.podMeta = b.podMeta) :
    a.policyName = b.policyName := by
  simp [PodEntry.policyName, h]

theorem PodEntry.policyKey_congr {a b : PodEntry} (h : a.podMeta = b.podMeta) :
    a.policyKey = b.policyKey := by
  simp [PodEntry.policyKey, PodEntry.policyName_congr h, h]

/-- A pod is reconciled with the policy its key names: keys split at their first '/', which
    neither a namespace nor a label value holds. -/
theorem matchPolicy_of_policyKey {pod : PodEntry} (hns : '/' ∉ pod.podMeta.«namespace».toList)
    (hname : '/' ∉ pod.policyName.toList) {wp : WorkloadPolicy}
    (h : pod.policyKey = wp.namespacedName) : pod.matchPolicy wp.name wp.«namespace» = true := by
  have h' := congrArg String.toList h
  simp only [PodEntry.policyKey, WorkloadPolicy.namespacedName, String.toList_append] at h'
  have hslash : ("/" : String).toList = ['/'] := rfl
  rw [hslash, List.append_assoc, List.singleton_append, List.append_assoc, List.singleton_append,
    List.append_cons_inj_of_notMem hns hname] at h'
  simp [PodEntry.matchPolicy, String.toList_inj.mp h'.1, String.toList_inj.mp h'.2.2]

theorem policyKey_of_matchPolicy {pod : PodEntry} {wp : WorkloadPolicy}
    (h : pod.matchPolicy wp.name wp.«namespace» = true) : pod.policyKey = wp.namespacedName := by
  simp only [PodEntry.matchPolicy, Bool.and_eq_true, beq_iff_eq] at h
  simp [PodEntry.policyKey, WorkloadPolicy.namespacedName, h.1, h.2]

/-- What every valid run keeps. -/
structure PolicyInv (r : State) : Prop where
  next_pos : 0 < r.nextPolicyID.toNat
  range : ∀ key name p, r.policyOf key name = some p →
    0 < p.toNat ∧ p.toNat < r.nextPolicyID.toNat
  inj : ∀ key₁ name₁ key₂ name₂ p, r.policyOf key₁ name₁ = some p →
    r.policyOf key₂ name₂ = some p → key₁ = key₂ ∧ name₁ = name₂
  mode : ∀ p, (r.bpf.policyMode p).isSome ↔ r.Recorded p
  values : ∀ p, (r.bpf.policyValues p).isSome ↔ r.Recorded p
  enforced : ∀ cg p, r.bpf.cgToPolicy cg = some p → ∃ podID pod cid c,
    r.podCache.lookup podID = some pod ∧ pod.containers.lookup cid = some c ∧
      c.cgroupID = cg ∧ r.policyOf pod.policyKey c.name = some p
  labels : ∀ podID pod, r.podCache.lookup podID = some pod →
    '/' ∉ pod.podMeta.«namespace».toList ∧ '/' ∉ pod.policyName.toList
  unique : ∀ podID₁ pod₁ cid₁ c₁ podID₂ pod₂ cid₂ c₂,
    r.podCache.lookup podID₁ = some pod₁ → pod₁.containers.lookup cid₁ = some c₁ →
    r.podCache.lookup podID₂ = some pod₂ → pod₂.containers.lookup cid₂ = some c₂ →
    c₁.cgroupID = c₂.cgroupID → podID₁ = podID₂ ∧ cid₁ = cid₂

/-- The calls the invariant is proved for. A pod's namespace and policy label hold no '/';
    each container the NRI plugin reports has a cgroup no other cached container has, and the
    pod's containers have distinct cgroups; the counter has room for one ID per container of a
    policy's spec. -/
def Op.Valid (r : State) : Op → Prop
  | .addPodContainerFromNri pod =>
    '/' ∉ pod.podMeta.«namespace».toList ∧ '/' ∉ (convertPodData pod).policyName.toList ∧
      (pod.containers.entries.map fun e => e.2.containerMeta.cgroupID).Nodup ∧
      ∀ e ∈ pod.containers.entries, ∀ podID entry cid c, r.podCache.lookup podID = some entry →
        entry.containers.lookup cid = some c → c.cgroupID = e.2.containerMeta.cgroupID →
          podID = pod.podMeta.id ∧ cid = e.1
  | .removePodContainerFromNri _ _ => True
  | .reconcileWP wp => r.nextPolicyID.toNat + wp.spec.rulesByContainer.entries.length < 2 ^ 64
  | .handleWPDelete _ => True

/-- The states of runs of valid calls whose callbacks all succeed. -/
inductive ValidReachable : State → Prop where
  | init : ValidReachable State.init
  | step {r : State} (op : Op) : ValidReachable r → op.Valid r →
      ValidReachable (op.apply .none r).1

theorem policyInv_init : PolicyInv State.init where
  next_pos := by decide
  range _ _ _ h := by simp [State.policyOf, State.init] at h
  inj _ _ _ _ _ h := by simp [State.policyOf, State.init] at h
  mode _ := by simp [State.Recorded, State.policyOf, State.init, BpfMaps.empty]
  values _ := by simp [State.Recorded, State.policyOf, State.init, BpfMaps.empty]
  enforced _ _ h := by simp [State.init, BpfMaps.empty] at h
  labels _ _ h := by simp [State.init] at h
  unique _ _ _ _ _ _ _ _ h := by simp [State.init] at h

/-! ## The pod events -/

section Pods

variable {r : State}

theorem policyInv_add (h : PolicyInv r) {pod : PodInput}
    (hv : (Op.addPodContainerFromNri pod).Valid r) :
    PolicyInv (addPodContainerFromNri .none r pod).1 := by
  obtain ⟨hns, hname, hnodup, hfree⟩ := hv
  obtain ⟨state, he⟩ := addPodContainerFromNri_none r pod
  have hpol := policyOf_of_wpState he.wpState
  have hrec : ∀ p, (addPodContainerFromNri .none r pod).1.Recorded p ↔ r.Recorded p := by
    intro p
    simp only [State.Recorded, hpol]
  refine ⟨he.nextPolicyID ▸ h.next_pos, ?_, ?_, ?_, ?_, ?_, ?_, ?_⟩
  · rw [hpol, he.nextPolicyID]
    exact h.range
  · rw [hpol]
    exact h.inj
  · intro p
    rw [he.policyMode, hrec]
    exact h.mode p
  · intro p
    rw [he.policyValues, hrec]
    exact h.values p
  · intro cg p hp
    rcases he.cgToPolicy cg p hp with h' | ⟨info, hinfo, cid, c, hc, hcg, hq⟩
    · -- an old cgroup: its pod is still cached, under the same label
      obtain ⟨pid, p0, cid, c, hp0, hc, hcg, hpo⟩ := h.enforced cg p h'
      obtain ⟨p', hp', hmeta, hkeep⟩ := he.lookup_of_cached hp0
      exact ⟨pid, p', cid, c, hp', hkeep cid c hc, hcg,
        by rw [hpol, PodEntry.policyKey_congr hmeta]; exact hpo⟩
    · refine ⟨pod.podMeta.id, state, cid, c, by rw [he.podCache, AList.lookup_insert], hc, hcg, ?_⟩
      rw [hpol]
      simp [State.policyOf, hinfo, hq]
  · intro pid p' hp'
    by_cases hid : pid = pod.podMeta.id
    · subst hid
      rw [he.podCache, AList.lookup_insert, Option.some.injEq] at hp'
      subst hp'
      rw [PodEntry.policyName_congr he.podMeta, he.podMeta]
      rcases hc : r.podCache.lookup pod.podMeta.id with _ | p0
      · exact ⟨hns, hname⟩
      · exact h.labels _ p0 hc
    · rw [he.podCache, AList.lookup_insert_ne hid] at hp'
      exact h.labels pid p' hp'
  · intro pid₁ p₁ cid₁ c₁ pid₂ p₂ cid₂ c₂ h₁ hc₁ h₂ hc₂ hcg
    rcases he.cached_cases h₁ hc₁ with ⟨q₁, hq₁, -, hqc₁⟩ | ⟨rfl, -, -, cin₁, hcin₁, rfl⟩ <;>
    rcases he.cached_cases h₂ hc₂ with ⟨q₂, hq₂, -, hqc₂⟩ | ⟨rfl, -, -, cin₂, hcin₂, rfl⟩
    · exact h.unique _ _ _ _ _ _ _ _ hq₁ hqc₁ hq₂ hqc₂ hcg
    · exact hfree _ (AList.mem_lookup_iff.mp hcin₂) _ _ _ _ hq₁ hqc₁ hcg
    · obtain ⟨h1, h2⟩ := hfree _ (AList.mem_lookup_iff.mp hcin₁) _ _ _ _ hq₂ hqc₂ hcg.symm
      exact ⟨h1.symm, h2.symm⟩
    · -- two new containers: the pod's cgroups are distinct
      have := List.inj_on_of_nodup_map hnodup (AList.mem_lookup_iff.mp hcin₁)
        (AList.mem_lookup_iff.mp hcin₂) hcg
      exact ⟨rfl, congrArg Sigma.fst this⟩

theorem policyInv_remove (h : PolicyInv r) (podID : PodID) (cid : ContainerID) :
    PolicyInv (removePodContainerFromNri .none r podID cid).1 := by
  obtain ⟨-, hr | ⟨state, c, hs, hc, heq⟩⟩ := removePodContainerFromNri_none r podID cid
  · rw [hr]
    exact h
  · rw [heq]
    refine ⟨h.next_pos, h.range, h.inj, h.mode, h.values, ?_, ?_, ?_⟩
    · intro cg p hp
      have hne : cg ≠ c.cgroupID := fun e => by simp [e] at hp
      have hp' : r.bpf.cgToPolicy cg = some p := by simpa [hne] using hp
      obtain ⟨pid, pod, cid', c', hpod, hc', rfl, hpo⟩ := h.enforced cg p hp'
      obtain ⟨pod', hpod', hmeta, hc''⟩ := lookup_removeContainer hs hc hpod hc' hne
      exact ⟨pid, pod', cid', c', hpod', hc'', rfl, by rw [PodEntry.policyKey_congr hmeta]; exact hpo⟩
    · intro pid pod' hpod'
      obtain ⟨pod, hpod, hmeta, -⟩ := lookup_of_removeContainer hs hpod'
      rw [PodEntry.policyName_congr hmeta, hmeta]
      exact h.labels pid pod hpod
    · intro pid₁ p₁ cid₁ c₁ pid₂ p₂ cid₂ c₂ h₁ hc₁ h₂ hc₂ hcg
      obtain ⟨q₁, hq₁, -, hsub₁⟩ := lookup_of_removeContainer hs h₁
      obtain ⟨q₂, hq₂, -, hsub₂⟩ := lookup_of_removeContainer hs h₂
      exact h.unique _ _ _ _ _ _ _ _ hq₁ (hsub₁ _ _ hc₁) hq₂ (hsub₂ _ _ hc₂) hcg

end Pods

/-! ## Deleting a policy -/

section Delete

variable {r : State}

/-- The records after `policy` leaves: those of the other policies, and no ID of `policy` is
    recorded elsewhere. -/
theorem recorded_of_erase (h : PolicyInv r) {r' : State} {key : NamespacedPolicyName}
    (hw : r'.wpState = r.wpState.erase key) (q : PolicyID) :
    r'.Recorded q ↔ r.Recorded q ∧ ¬∃ n, r.policyOf key n = some q := by
  constructor
  · rintro ⟨k, n, hk⟩
    rw [policyOf_of_wpState_erase hw] at hk
    split at hk
    · cases hk
    · rename_i hne
      refine ⟨⟨k, n, hk⟩, fun ⟨n', hn'⟩ => hne (h.inj _ _ _ _ _ hk hn').1⟩
  · rintro ⟨⟨k, n, hk⟩, hnot⟩
    have hne : k ≠ key := by
      rintro rfl
      exact hnot ⟨n, hk⟩
    exact ⟨k, n, by rw [policyOf_of_wpState_erase hw, if_neg hne]; exact hk⟩

theorem policyInv_delete (h : PolicyInv r) (wp : WorkloadPolicy) :
    PolicyInv (handleWPDelete .none r wp).1 := by
  rcases hinfo : r.wpState.lookup wp.namespacedName with _ | info
  · rw [show handleWPDelete .none r wp = (r, none) by simp [handleWPDelete, hinfo]]
    exact h
  · have hpo : ∀ n q, info.polByContainer.lookup n = some q ↔
        r.policyOf wp.namespacedName n = some q := by
      intro n q
      simp [State.policyOf, hinfo]
    have hnz : ∀ e ∈ info.polByContainer.entries, e.2 ≠ 0 := by
      intro e he hz
      have hpos := (h.range _ e.1 _ ((hpo _ _).mp (AList.mem_lookup_iff.mpr he))).1
      rw [hz] at hpos
      exact absurd hpos (by decide)
    have hany : ∀ q, (info.polByContainer.entries.any fun e => e.2 == q) = true ↔
        ∃ n, r.policyOf wp.namespacedName n = some q := by
      intro q
      simp only [List.any_eq_true, beq_iff_eq]
      constructor
      · rintro ⟨e, he, rfl⟩
        exact ⟨e.1, (hpo _ _).mp (AList.mem_lookup_iff.mpr he)⟩
      · rintro ⟨n, hn⟩
        exact ⟨⟨n, q⟩, AList.mem_lookup_iff.mp ((hpo _ _).mpr hn), rfl⟩
    obtain ⟨r', hr'⟩ : ∃ r', (handleWPDelete .none r wp).1 = r' := ⟨_, rfl⟩
    rw [handleWPDelete_none r wp hinfo hnz] at hr'
    rw [handleWPDelete_none r wp hinfo hnz, hr']
    have hw : r'.wpState = r.wpState.erase wp.namespacedName := by rw [← hr']
    have hpol := policyOf_of_wpState_erase hw
    refine ⟨by rw [← hr']; exact h.next_pos, ?_, ?_, ?_, ?_, ?_, ?_, ?_⟩
    · intro k n p hp
      rw [hpol] at hp
      split at hp
      · cases hp
      · rw [← hr']
        exact h.range k n p hp
    · intro k₁ n₁ k₂ n₂ p h₁ h₂
      rw [hpol] at h₁ h₂
      split at h₁
      · cases h₁
      · split at h₂
        · cases h₂
        · exact h.inj _ _ _ _ _ h₁ h₂
    · intro q
      rw [recorded_of_erase h hw, ← hany, ← h.mode q, ← hr']
      by_cases hq : (info.polByContainer.entries.any fun e => e.2 == q) = true
      · simp [hq]
      · simp [hq]
    · intro q
      rw [recorded_of_erase h hw, ← hany, ← h.values q, ← hr']
      by_cases hq : (info.polByContainer.entries.any fun e => e.2 == q) = true
      · simp [hq]
      · simp [hq]
    · intro cg p hp
      rw [← hr'] at hp
      dsimp only at hp
      split at hp
      · cases hp
      · rename_i hnot
        obtain ⟨pid, pod, cid, c, hpod, hc, hcg, hpk⟩ := h.enforced cg p hp
        refine ⟨pid, pod, cid, c, by rw [← hr']; exact hpod, hc, hcg, ?_⟩
        rw [hpol]
        split
        · -- the policy's own IDs lost all their cgroups
          rename_i hk
          rw [hk] at hpk
          obtain ⟨e, he, hpe⟩ := (hany p).mpr ⟨_, hpk⟩ |> List.any_eq_true.mp
          refine absurd (List.any_eq_true.mpr ⟨e, he, ?_⟩) hnot
          rw [beq_iff_eq.mp hpe, hp]
          exact beq_self_eq_true _
        · exact hpk
    · intro pid pod hpod
      rw [← hr'] at hpod
      exact h.labels pid pod hpod
    · intro pid₁ p₁ cid₁ c₁ pid₂ p₂ cid₂ c₂ h₁ hc₁ h₂ hc₂ hcg
      rw [← hr'] at h₁ h₂
      exact h.unique _ _ _ _ _ _ _ _ h₁ hc₁ h₂ hc₂ hcg

end Delete

end RuntimeEnforcer.Resolver
