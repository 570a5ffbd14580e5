import RuntimeEnforcer.Resolver.Effects

/-
  What a call of `AddPodContainerFromNri` that returns no error has done, whatever the callbacks
  did: the pod is cached with every container it was given, and when the pod has a policy label
  the policy is known and every container it names holds the policy's ID in
  `cg_to_policy_map`. Every call, failed or not, keeps the containers already cached. The NRI
  plugin lets a container start on these facts.
-/

namespace RuntimeEnforcer.Resolver

/-! ## Adding a policy to cgroups never moves a cgroup -/

section AddPolicy

variable {m : CgroupID → Option PolicyID} {p q : PolicyID} {x cg : CgroupID} {cgs : List CgroupID}

theorem addCgroupStep_keeps (h : m cg = some q) : (addCgroupStep p m x).1 cg = some q := by
  unfold addCgroupStep
  split
  · rename_i hx
    have hne : cg ≠ x := fun e => by rw [e, hx] at h; cases h
    show Function.update m x (some p) cg = some q
    rw [Function.update_of_ne hne]
    exact h
  · split <;> exact h

theorem addCgroupStep_of_ok (h : (addCgroupStep p m x).2 = none) : (addCgroupStep p m x).1 x = some p := by
  unfold addCgroupStep at h ⊢
  rcases hx : m x with _ | q
  · exact Function.update_self _ _ _
  · rw [hx] at h
    dsimp only at h ⊢
    by_cases hq : q = p
    · rw [if_pos hq]
      exact hx.trans (congrArg some hq)
    · rw [if_neg hq] at h
      cases h

/-- A cgroup that holds a policy keeps it, whether the call fails or not. -/
theorem addPolicyToCgroups_keeps (h : m cg = some q) : (addPolicyToCgroups m p cgs).1 cg = some q := by
  unfold addPolicyToCgroups
  split
  · exact h
  · exact ErrLoop.forEach_invariant (addCgroupStep p) (fun m' => m' cg = some q)
      (fun _ _ _ hm => addCgroupStep_keeps hm) h

/-- After a call that succeeded, every listed cgroup holds the policy. -/
theorem addPolicyToCgroups_of_ok (hok : (addPolicyToCgroups m p cgs).2 = none) (hcg : cg ∈ cgs) :
    (addPolicyToCgroups m p cgs).1 cg = some p := by
  unfold addPolicyToCgroups at hok ⊢
  split at hok
  · cases hok
  · rw [if_neg ‹_›]
    -- each listed cgroup is still to come, or holds `p`
    have hend := ErrLoop.forEach_rest_of_ok (addCgroupStep p)
      (fun rest m' => ∀ c ∈ cgs, c ∈ rest ∨ m' c = some p) ?_ (fun c hc => .inl hc) hok
    · exact (hend cg hcg).resolve_left List.not_mem_nil
    · intro y ys m' hm hy c hc
      rcases hm c hc with hc' | hc'
      · rcases List.mem_cons.mp hc' with rfl | hc'
        · exact .inr (addCgroupStep_of_ok hy)
        · exact .inl hc'
      · exact .inr (addCgroupStep_keeps hc')

variable {f : CallbackFaults} {b : BpfMaps}

theorem cgroupToPolicyMapUpdate_add_keeps (h : b.cgToPolicy cg = some q) :
    (cgroupToPolicyMapUpdate f b p cgs .addPolicyToCgroups).1.cgToPolicy cg = some q := by
  unfold cgroupToPolicyMapUpdate
  split
  · exact h
  · exact addPolicyToCgroups_keeps h

theorem cgroupToPolicyMapUpdate_add_of_ok
    (hok : (cgroupToPolicyMapUpdate f b p cgs .addPolicyToCgroups).2 = none) (hcg : cg ∈ cgs) :
    (cgroupToPolicyMapUpdate f b p cgs .addPolicyToCgroups).1.cgToPolicy cg = some p := by
  unfold cgroupToPolicyMapUpdate at hok ⊢
  split at hok
  · cases hok
  · rw [if_neg ‹_›]
    exact addPolicyToCgroups_of_ok hok hcg

end AddPolicy

/-! ## A pod's policy, once applied -/

section ApplyPolicy

variable {f : CallbackFaults} {b : BpfMaps} {state : PodEntry}
  {applied : AList (fun _ : ContainerName => PolicyID)}

/-- Every container of the pod that `applied` names holds its ID, once the loop has succeeded. -/
theorem applyPolicyToPod_of_ok (hok : (applyPolicyToPod f b state applied).2 = none)
    {cid : ContainerID} {c : ContainerMeta} {q : PolicyID} (hc : state.containers.lookup cid = some c)
    (hq : applied.lookup c.name = some q) :
    (applyPolicyToPod f b state applied).1.cgToPolicy c.cgroupID = some q := by
  let Holds := fun (b' : BpfMaps) (e : Σ _ : ContainerID, ContainerMeta) =>
    ∀ q, applied.lookup e.2.name = some q → b'.cgToPolicy e.2.cgroupID = some q
  have hend := ErrLoop.forEach_rest_of_ok (applyContainerStep f state applied)
    (fun rest b' => ∀ e ∈ state.containers.entries, e ∈ rest ∨ Holds b' e) ?_
    (fun e he => .inl he) hok
  · exact ((hend ⟨cid, c⟩ (AList.mem_lookup_iff.mp hc)).resolve_left List.not_mem_nil) q hq
  · intro y ys b' hm hy e he
    -- the step adds `y`'s cgroup at most, and a cgroup that holds an ID keeps it
    have hkeep : ∀ e, Holds b' e → Holds (applyContainerStep f state applied b' y).1 e := by
      intro e hh q' hq'
      have hold := hh q' hq'
      unfold applyContainerStep
      dsimp only
      split
      · exact hold
      · exact cgroupToPolicyMapUpdate_add_keeps hold
    rcases hm e he with he' | he'
    · rcases List.mem_cons.mp he' with rfl | he'
      · refine .inr fun q' hq' => ?_
        unfold applyContainerStep at hy ⊢
        dsimp only at hy ⊢
        rw [hq'] at hy ⊢
        dsimp only at hy ⊢
        exact cgroupToPolicyMapUpdate_add_of_ok (Option.map_eq_none_iff.mp hy)
          (List.mem_singleton_self _)
      · exact .inl he'
    · exact .inr (hkeep e he')

/-- A pod with a policy label that took its policy without error: the policy is known, and every
container it names holds its ID. -/
theorem applyPolicyToPodIfPresent_of_ok {r : State}
    (hok : (applyPolicyToPodIfPresent f r state).2 = none) (hname : state.policyName ≠ "") :
    ∃ info, r.wpState.lookup state.policyKey = some info ∧
      ∀ cid c q, state.containers.lookup cid = some c → info.polByContainer.lookup c.name = some q →
        (applyPolicyToPodIfPresent f r state).1.cgToPolicy c.cgroupID = some q := by
  unfold applyPolicyToPodIfPresent at hok ⊢
  dsimp only at hok ⊢
  rw [if_neg hname] at hok ⊢
  split at hok
  · cases hok
  · rename_i info hinfo
    exact ⟨info, hinfo, fun cid c q hc hq => applyPolicyToPod_of_ok hok hc hq⟩

end ApplyPolicy

/-! ## AddPodContainerFromNri, for any faults -/

section AddPod

variable {f : CallbackFaults} {r : State} {pod : PodInput}

/-- The resolver holds the container `cid` of the pod `podID` under the name and cgroup of `c`. -/
def State.Holds (r : State) (podID : PodID) (cid : ContainerID) (c : ContainerMeta) : Prop :=
  ∃ e, r.podCache.lookup podID = some e ∧
    ∃ c', e.containers.lookup cid = some c' ∧ c'.name = c.name ∧ c'.cgroupID = c.cgroupID

/-- A container step keeps every container of the entry, and when it succeeds the entry holds
its container, with its name and cgroup. -/
theorem addContainerStep_keeps {s : State × PodEntry} (y : Σ _ : ContainerID, ContainerInput)
    {cid : ContainerID} {c : ContainerMeta} (hc : s.2.containers.lookup cid = some c) :
    (addContainerStep f pod s y).1.2.containers.lookup cid = some c := by
  unfold addContainerStep
  dsimp only
  split
  · split <;> exact hc
  · rename_i hfresh
    have hne : cid ≠ y.1 := fun h => by rw [h, hfresh] at hc; cases hc
    show (s.2.containers.insert y.1 y.2.containerMeta).lookup cid = some c
    rw [AList.lookup_insert_ne hne]
    exact hc

theorem addContainerStep_of_ok {s : State × PodEntry} {y : Σ _ : ContainerID, ContainerInput}
    (hy : (addContainerStep f pod s y).2 = none) :
    ∃ c, (addContainerStep f pod s y).1.2.containers.lookup y.1 = some c ∧
      c.name = y.2.containerMeta.name ∧ c.cgroupID = y.2.containerMeta.cgroupID := by
  unfold addContainerStep at hy ⊢
  dsimp only at hy ⊢
  split at hy
  · -- `y` was cached already, and only with the same name and cgroup is that no error
    rename_i info hinfo
    split at hy
    · rename_i hsame
      rw [if_pos hsame]
      exact ⟨info, hinfo, hsame.2, hsame.1⟩
    · cases hy
  · exact ⟨_, AList.lookup_insert _, rfl, rfl⟩

/-- Whatever it returns, the call keeps every cached container. -/
theorem addPodContainerFromNri_keeps {pid : PodID} {p : PodEntry} (hp : r.podCache.lookup pid = some p) :
    ∃ p', (addPodContainerFromNri f r pod).1.podCache.lookup pid = some p' ∧
      ∀ cid c, p.containers.lookup cid = some c → p'.containers.lookup cid = some c := by
  have hinv := @addLoopInv_forEach r pod ((r.podCache.lookup pod.podMeta.id).getD (convertPodData pod)) f
  unfold addPodContainerFromNri
  dsimp only
  generalize ErrLoop.forEach (addContainerStep f pod) pod.containers.entries
    (r, (r.podCache.lookup pod.podMeta.id).getD (convertPodData pod)) = loop at hinv ⊢
  obtain ⟨⟨r₁, st⟩, e⟩ := loop
  have hcache : r₁.podCache = r.podCache := hinv.podCache
  by_cases hid : pid = pod.podMeta.id
  · -- the pod is cached, so both outcomes store the loop's entry, which keeps its containers
    subst hid
    have hcached : (r.podCache.lookup pod.podMeta.id).isSome = true := by rw [hp]; rfl
    refine ⟨st, ?_, fun cid c hc => hinv.keeps cid c (by rw [hp]; exact hc)⟩
    cases e <;> simp [hcached]
  · refine ⟨p, ?_, fun _ _ hc => hc⟩
    cases e
    · simp [AList.lookup_insert_ne hid, hcache, hp]
    · dsimp only
      split <;> simp [AList.lookup_insert_ne hid, hcache, hp]

theorem State.Holds.of_addPodContainerFromNri {podID : PodID} {cid : ContainerID} {c : ContainerMeta}
    (h : r.Holds podID cid c) : (addPodContainerFromNri f r pod).1.Holds podID cid c := by
  obtain ⟨e, he, c', hc', hname, hcg⟩ := h
  obtain ⟨e', he', hkeep⟩ := @addPodContainerFromNri_keeps f r pod podID e he
  exact ⟨e', he', c', hkeep cid c' hc', hname, hcg⟩

/-- A call that succeeded has cached the pod with all its containers, and with its policy, if it
has one, on their cgroups. -/
theorem addPodContainerFromNri_of_ok (hok : (addPodContainerFromNri f r pod).2 = none) :
    ∃ state, (addPodContainerFromNri f r pod).1.podCache.lookup pod.podMeta.id = some state ∧
      state.podMeta = ((r.podCache.lookup pod.podMeta.id).getD (convertPodData pod)).podMeta ∧
      (∀ cid cin, pod.containers.lookup cid = some cin →
        (addPodContainerFromNri f r pod).1.Holds pod.podMeta.id cid cin.containerMeta) ∧
      (state.policyName ≠ "" → ∃ info, r.wpState.lookup state.policyKey = some info ∧
        ∀ cid c q, state.containers.lookup cid = some c → info.polByContainer.lookup c.name = some q →
          (addPodContainerFromNri f r pod).1.bpf.cgToPolicy c.cgroupID = some q) := by
  have hinv := @addLoopInv_forEach r pod ((r.podCache.lookup pod.podMeta.id).getD (convertPodData pod)) f
  -- a loop that succeeded has met every container of the pod, and the entry holds each one met
  have hend := ErrLoop.forEach_rest_of_ok (addContainerStep f pod)
    (fun rest s => ∀ e ∈ pod.containers.entries, e ∈ rest ∨
      ∃ c, s.2.containers.lookup e.1 = some c ∧ c.name = e.2.containerMeta.name ∧
        c.cgroupID = e.2.containerMeta.cgroupID)
    (fun y ys s hm hy e he => by
      rcases hm e he with he' | ⟨c, hc, hname, hcg⟩
      · rcases List.mem_cons.mp he' with rfl | he'
        · exact .inr (addContainerStep_of_ok hy)
        · exact .inl he'
      · exact .inr ⟨c, addContainerStep_keeps y hc, hname, hcg⟩)
    (s := (r, (r.podCache.lookup pod.podMeta.id).getD (convertPodData pod))) (fun e he => .inl he)
  unfold addPodContainerFromNri at hok ⊢
  dsimp only at hok ⊢
  generalize ErrLoop.forEach (addContainerStep f pod) pod.containers.entries
    (r, (r.podCache.lookup pod.podMeta.id).getD (convertPodData pod)) = loop at hinv hend hok ⊢
  obtain ⟨⟨r₁, st⟩, e⟩ := loop
  cases e
  · dsimp only at hok hend ⊢
    have hheld := hend rfl
    refine ⟨st, AList.lookup_insert _, hinv.podMeta, ?_, ?_⟩
    · intro cid cin hcin
      obtain ⟨c, hc, hname, hcg⟩ :=
        (hheld ⟨cid, cin⟩ (AList.mem_lookup_iff.mp hcin)).resolve_left List.not_mem_nil
      exact ⟨st, AList.lookup_insert _, c, hc, hname, hcg⟩
    · intro hname
      obtain ⟨info, hinfo, hcg⟩ := applyPolicyToPodIfPresent_of_ok (Option.map_eq_none_iff.mp hok) hname
      exact ⟨info, by rwa [← hinv.wpState], hcg⟩
  · cases hok

end AddPod

end RuntimeEnforcer.Resolver
