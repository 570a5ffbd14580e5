import RuntimeEnforcer.Lib.KeyedList
import RuntimeEnforcer.Resolver.Ops

/-
  What each function of the resolver does to each part of the state, stated once so that the
  run invariants (`Index`, `PolicyIds`) never unfold one. The callbacks and the loops that only
  add to `cg_to_policy_map` are described for any faults. The loops whose effect has a closed
  form only when every call succeeds (`removePolicyFromPod`, the loop of `HandleWPDelete`,
  `syncWorkloadPolicy`) are described under `CallbackFaults.none`, where they never fail.
-/

namespace RuntimeEnforcer.Resolver

open PolicyMode

/-! ## Go maps -/

theorem lookup_filterKeys {α : Type} {β : α → Type} [DecidableEq α] (m : AList β) (p : α → Bool)
    (a : α) : (filterKeys m p).lookup a = if p a then m.lookup a else none :=
  KeyedList.dlookup_filter_key p a m.entries

theorem lookup_mapsCopy {α : Type} {β : α → Type} [DecidableEq α] (dst src : AList β) (a : α) :
    (mapsCopy dst src).lookup a = (src.lookup a).or (dst.lookup a) := by
  unfold mapsCopy
  by_cases h : a ∈ src
  · rw [AList.lookup_union_left h]
    obtain ⟨b, hb⟩ := Option.isSome_iff_exists.mp (AList.lookup_isSome.mpr h)
    rw [hb, Option.some_or]
  · rw [AList.lookup_union_right h, AList.lookup_eq_none.mpr h, Option.none_or]

/-! ## The callbacks -/

section Callbacks

variable (f : CallbackFaults) (m : BpfMaps) (p : PolicyID)

@[simp] theorem cgroupToPolicyMapUpdate_policyMode (cgs : List CgroupID)
    (op : CgroupPolicyOperation) :
    (cgroupToPolicyMapUpdate f m p cgs op).1.policyMode = m.policyMode := by
  unfold cgroupToPolicyMapUpdate
  split <;> rfl

@[simp] theorem cgroupToPolicyMapUpdate_policyValues (cgs : List CgroupID)
    (op : CgroupPolicyOperation) :
    (cgroupToPolicyMapUpdate f m p cgs op).1.policyValues = m.policyValues := by
  unfold cgroupToPolicyMapUpdate
  split <;> rfl

@[simp] theorem policyUpdateBinaries_cgToPolicy (values : List String)
    (op : PolicyValuesOperation) :
    (policyUpdateBinaries f m p values op).1.cgToPolicy = m.cgToPolicy := by
  unfold policyUpdateBinaries
  split
  · rfl
  · cases op <;> rfl

@[simp] theorem policyModeUpdate_cgToPolicy (mode : Mode) (op : PolicyModeOperation) :
    (policyModeUpdate f m p mode op).1.cgToPolicy = m.cgToPolicy := by
  unfold policyModeUpdate
  split
  · rfl
  · cases op <;> rfl

@[simp] theorem upsertPolicyIDInBPF_cgToPolicy (values : List String) (mode : Mode)
    (op : PolicyValuesOperation) :
    (upsertPolicyIDInBPF f m p values mode op).1.cgToPolicy = m.cgToPolicy := by
  unfold upsertPolicyIDInBPF
  dsimp only
  split <;> simp

@[simp] theorem clearPolicyIDFromBPF_cgToPolicy :
    (clearPolicyIDFromBPF f m p).1.cgToPolicy = m.cgToPolicy := by
  unfold clearPolicyIDFromBPF
  dsimp only
  split <;> simp

/-- With no fault, `RemovePolicy` deletes every cgroup of a nonzero policy ID. -/
theorem cgroupToPolicyMapUpdate_none_removePolicy (hp : p ≠ 0) :
    cgroupToPolicyMapUpdate .none m p [] .removePolicy =
      ({ m with cgToPolicy := fun cg => if m.cgToPolicy cg = some p then none else m.cgToPolicy cg },
        none) := by
  simp [cgroupToPolicyMapUpdate, removePolicyFromCgroups, CallbackFaults.none, hp]

end Callbacks

/-! ## Adding a policy to cgroups -/

section AddPolicy

variable {cgToPol : CgroupID → Option PolicyID} {p : PolicyID} {cgs : List CgroupID}

theorem addPolicyToCgroups_of_not_mem {cg : CgroupID} (h : cg ∉ cgs) :
    (addPolicyToCgroups cgToPol p cgs).1 cg = cgToPol cg := by
  unfold addPolicyToCgroups
  split
  · rfl
  · refine ErrLoop.forEach_invariant (addCgroupStep p)
      (fun m : CgroupID → Option PolicyID => m cg = cgToPol cg) ?_ rfl
    intro m c hc hm
    have hne : cg ≠ c := fun e => h (e ▸ hc)
    unfold addCgroupStep
    split
    · simpa [Function.update_of_ne hne] using hm
    · split <;> exact hm

/-- A cgroup the call maps to a policy was mapped so before, or is listed and gets `p`. -/
theorem addPolicyToCgroups_some {cg : CgroupID} {q : PolicyID}
    (h : (addPolicyToCgroups cgToPol p cgs).1 cg = some q) :
    cgToPol cg = some q ∨ (cg ∈ cgs ∧ q = p) := by
  unfold addPolicyToCgroups at h
  split at h
  · exact .inl h
  · refine ErrLoop.forEach_invariant (addCgroupStep p)
      (fun m : CgroupID → Option PolicyID =>
        ∀ cg q, m cg = some q → cgToPol cg = some q ∨ (cg ∈ cgs ∧ q = p))
      ?_ (fun _ _ h => .inl h) cg q h
    intro m c hc hm cg q h
    unfold addCgroupStep at h
    split at h
    · by_cases e : cg = c
      · subst e
        simp only [Function.update_self, Option.some.injEq] at h
        exact .inr ⟨hc, h.symm⟩
      · simp only [Function.update_of_ne e] at h
        exact hm cg q h
    · split at h <;> exact hm cg q h

/-- One cgroup, free or already held by `p`, takes a nonzero `p` without error. -/
theorem addPolicyToCgroups_singleton_ok {cg : CgroupID} (hp : p ≠ 0)
    (h : ∀ q, cgToPol cg = some q → q = p) : (addPolicyToCgroups cgToPol p [cg]).2 = none := by
  unfold addPolicyToCgroups
  rw [if_neg hp]
  rcases hc : cgToPol cg with _ | q
  · simp [ErrLoop.forEach, addCgroupStep, hc]
  · simp [ErrLoop.forEach, addCgroupStep, hc, h q hc]

theorem cgroupToPolicyMapUpdate_add_some {f : CallbackFaults} {m : BpfMaps} {cg : CgroupID}
    {q : PolicyID} (h : (cgroupToPolicyMapUpdate f m p cgs .addPolicyToCgroups).1.cgToPolicy cg = some q) :
    m.cgToPolicy cg = some q ∨ (cg ∈ cgs ∧ q = p) := by
  unfold cgroupToPolicyMapUpdate at h
  split at h
  · exact .inl h
  · exact addPolicyToCgroups_some h

/-- The other operations only delete cgroups. -/
theorem cgroupToPolicyMapUpdate_some_of_ne_add {f : CallbackFaults} {m : BpfMaps}
    {op : CgroupPolicyOperation} (hop : op ≠ .addPolicyToCgroups) {cg : CgroupID} {q : PolicyID}
    (h : (cgroupToPolicyMapUpdate f m p cgs op).1.cgToPolicy cg = some q) :
    m.cgToPolicy cg = some q := by
  cases op with
  | addPolicyToCgroups => exact absurd rfl hop
  | removePolicy =>
    simp only [cgroupToPolicyMapUpdate, removePolicyFromCgroups] at h
    split_ifs at h <;> simp_all
  | removeCgroups =>
    simp only [cgroupToPolicyMapUpdate, removeCgroups] at h
    split_ifs at h <;> simp_all

end AddPolicy

/-! ## A policy on a pod's cgroups -/

section ApplyPolicy

variable (f : CallbackFaults) (m : BpfMaps) (state : PodEntry)
  (applied : AList (fun _ : ContainerName => PolicyID))

theorem applyContainerStep_policyMode (m' : BpfMaps) (e : Σ _ : ContainerID, ContainerMeta) :
    (applyContainerStep f state applied m' e).1.policyMode = m'.policyMode := by
  unfold applyContainerStep
  dsimp only
  split <;> simp

theorem applyContainerStep_policyValues (m' : BpfMaps) (e : Σ _ : ContainerID, ContainerMeta) :
    (applyContainerStep f state applied m' e).1.policyValues = m'.policyValues := by
  unfold applyContainerStep
  dsimp only
  split <;> simp

@[simp] theorem applyPolicyToPod_policyMode :
    (applyPolicyToPod f m state applied).1.policyMode = m.policyMode :=
  ErrLoop.forEach_invariant _ (fun m' => m'.policyMode = m.policyMode)
    (fun m' e _ hm => (applyContainerStep_policyMode f state applied m' e).trans hm) rfl

@[simp] theorem applyPolicyToPod_policyValues :
    (applyPolicyToPod f m state applied).1.policyValues = m.policyValues :=
  ErrLoop.forEach_invariant _ (fun m' => m'.policyValues = m.policyValues)
    (fun m' e _ hm => (applyContainerStep_policyValues f state applied m' e).trans hm) rfl

/-- `applyPolicyToPod` only adds cgroups of the pod's containers, each with the ID `applied`
    gives the container's name. -/
theorem applyPolicyToPod_some {cg : CgroupID} {q : PolicyID}
    (h : (applyPolicyToPod f m state applied).1.cgToPolicy cg = some q) :
    m.cgToPolicy cg = some q ∨ ∃ cid c, state.containers.lookup cid = some c ∧
      c.cgroupID = cg ∧ applied.lookup c.name = some q := by
  refine ErrLoop.forEach_invariant (applyContainerStep f state applied)
    (fun m' : BpfMaps => ∀ cg q, m'.cgToPolicy cg = some q →
      m.cgToPolicy cg = some q ∨ ∃ cid c, state.containers.lookup cid = some c ∧
        c.cgroupID = cg ∧ applied.lookup c.name = some q) ?_ (fun _ _ h => .inl h) cg q h
  intro m' e he hm cg q h
  unfold applyContainerStep at h
  dsimp only at h
  split at h
  · exact hm cg q h
  · rename_i polID hpol
    rcases cgroupToPolicyMapUpdate_add_some h with h | ⟨hcg, rfl⟩
    · exact hm cg q h
    · refine .inr ⟨e.1, e.2, AList.mem_lookup_iff.mpr he, ?_, hpol⟩
      exact (List.mem_singleton.mp hcg).symm

/-- With no fault, a pod whose containers have distinct cgroups, each free or held by the ID
    `applied` gives it, takes its policy without error. -/
theorem applyPolicyToPod_none_ok
    (hcg : (state.containers.entries.map fun e => e.2.cgroupID).Nodup)
    (hfree : ∀ e ∈ state.containers.entries, ∀ p, applied.lookup e.2.name = some p →
      p ≠ 0 ∧ ∀ q, m.cgToPolicy e.2.cgroupID = some q → q = p) :
    (applyPolicyToPod .none m state applied).2 = none := by
  let I := fun (xs : List (Σ _ : ContainerID, ContainerMeta)) (m' : BpfMaps) =>
    (xs.map fun e => e.2.cgroupID).Nodup ∧ ∀ e ∈ xs, ∀ p, applied.lookup e.2.name = some p →
      p ≠ 0 ∧ ∀ q, m'.cgToPolicy e.2.cgroupID = some q → q = p
  refine (ErrLoop.forEach_ok_of_rest _ I ?_ (show I _ m from ⟨hcg, hfree⟩)).1
  rintro e xs m' ⟨hnd, hxs⟩
  rw [List.map_cons, List.nodup_cons] at hnd
  have hrest : ∀ e' ∈ xs, e'.2.cgroupID ≠ e.2.cgroupID :=
    fun e' he' h => hnd.1 (h ▸ List.mem_map_of_mem he')
  unfold applyContainerStep
  dsimp only
  split
  · exact ⟨rfl, hnd.2, fun e' he' => hxs e' (List.mem_cons_of_mem e he')⟩
  · rename_i p hp
    obtain ⟨hp0, hfr⟩ := hxs e List.mem_cons_self p hp
    refine ⟨?_, hnd.2, fun e' he' p' hp' => ?_⟩
    · simp [cgroupToPolicyMapUpdate, CallbackFaults.none, addPolicyToCgroups_singleton_ok hp0 hfr]
    · obtain ⟨hp'0, hfr'⟩ := hxs e' (List.mem_cons_of_mem e he') p' hp'
      refine ⟨hp'0, fun q hq => hfr' q ?_⟩
      simpa [cgroupToPolicyMapUpdate, CallbackFaults.none,
        addPolicyToCgroups_of_not_mem
        (fun h => hrest e' he' (List.mem_singleton.mp h))] using hq

/-- The key `applyPolicyToPodIfPresent` looks a pod's policy up under. -/
def PodEntry.policyKey (pod : PodEntry) : NamespacedPolicyName :=
  pod.podMeta.«namespace» ++ "/" ++ pod.policyName

@[simp] theorem applyPolicyToPodIfPresent_policyMode (r : State) :
    (applyPolicyToPodIfPresent f r state).1.policyMode = r.bpf.policyMode := by
  unfold applyPolicyToPodIfPresent
  dsimp only
  split
  · rfl
  · split <;> simp

@[simp] theorem applyPolicyToPodIfPresent_policyValues (r : State) :
    (applyPolicyToPodIfPresent f r state).1.policyValues = r.bpf.policyValues := by
  unfold applyPolicyToPodIfPresent
  dsimp only
  split
  · rfl
  · split <;> simp

/-- A pod with a policy label gets the IDs its policy records. -/
theorem applyPolicyToPodIfPresent_some (r : State) {cg : CgroupID} {q : PolicyID}
    (h : (applyPolicyToPodIfPresent f r state).1.cgToPolicy cg = some q) :
    r.bpf.cgToPolicy cg = some q ∨ ∃ info, r.wpState.lookup state.policyKey = some info ∧
      ∃ cid c, state.containers.lookup cid = some c ∧ c.cgroupID = cg ∧
        info.polByContainer.lookup c.name = some q := by
  unfold applyPolicyToPodIfPresent at h
  dsimp only at h
  split at h
  · exact .inl h
  · split at h
    · exact .inl h
    · rename_i info hinfo
      rcases applyPolicyToPod_some f r.bpf state info.polByContainer h with h | h
      · exact .inl h
      · exact .inr ⟨info, hinfo, h⟩

end ApplyPolicy

/-! ## Removing policies, with no fault -/

section RemovePolicy

variable (wpKey : NamespacedPolicyName) (podEntry : PodEntry)
  (removed : AList (fun _ : ContainerName => PolicyID))

theorem removeContainerStep_none (s : BpfMaps × AList (fun _ : ContainerName => PolicyID))
    (e : Σ _ : ContainerID, ContainerMeta) :
    removeContainerStep .none wpKey podEntry removed s e =
      match removed.lookup e.2.name with
      | none => (s, none)
      | some q =>
        (({ s.1 with
            cgToPolicy := fun cg => if cg ∈ [e.2.cgroupID] then none else s.1.cgToPolicy cg
            policyValues := Function.update s.1.policyValues q none
            policyMode := Function.update s.1.policyMode q none }, s.2.erase e.2.name), none) := by
  unfold removeContainerStep
  dsimp only
  rcases removed.lookup e.2.name with _ | q <;> rfl

/-- The names `removePolicyFromPod` erases from the policy's `polByContainer`. -/
def eraseRemoved (xs : List (Σ _ : ContainerID, ContainerMeta))
    (pbc : AList (fun _ : ContainerName => PolicyID)) : AList (fun _ : ContainerName => PolicyID) :=
  xs.foldl (fun a e => if (removed.lookup e.2.name).isSome then a.erase e.2.name else a) pbc

theorem lookup_eraseRemoved (xs : List (Σ _ : ContainerID, ContainerMeta))
    (pbc : AList (fun _ : ContainerName => PolicyID)) (n : ContainerName) :
    (eraseRemoved removed xs pbc).lookup n =
      if xs.any (fun e => e.2.name == n && (removed.lookup n).isSome) then none
      else pbc.lookup n := by
  induction xs generalizing pbc with
  | nil => rfl
  | cons e xs ih =>
    show (eraseRemoved removed xs _).lookup n = _
    rw [ih]
    by_cases hn : e.2.name = n
    · subst hn
      cases h : removed.lookup e.2.name <;> simp [h]
    · have hstep : (if (removed.lookup e.2.name).isSome then pbc.erase e.2.name else pbc).lookup n =
          pbc.lookup n := by
        split
        · exact AList.lookup_erase_ne (Ne.symm hn)
        · rfl
      rw [hstep, List.any_cons, beq_eq_false_iff_ne.mpr hn, Bool.false_and, Bool.false_or]

/-- With no fault, `removePolicyFromPod` deletes the cgroups of the pod's removed containers,
    clears their policy IDs, and erases their names. -/
theorem forEach_removeContainerStep_none :
    ∀ (xs : List (Σ _ : ContainerID, ContainerMeta)) (m : BpfMaps)
      (pbc : AList (fun _ : ContainerName => PolicyID)),
    ErrLoop.forEach (removeContainerStep .none wpKey podEntry removed) xs (m, pbc) =
      (({ cgToPolicy := fun cg =>
            if xs.any (fun e => e.2.cgroupID == cg && (removed.lookup e.2.name).isSome) then none
            else m.cgToPolicy cg
          policyMode := fun q =>
            if xs.any (fun e => removed.lookup e.2.name == some q) then none else m.policyMode q
          policyValues := fun q =>
            if xs.any (fun e => removed.lookup e.2.name == some q) then none
            else m.policyValues q }, eraseRemoved removed xs pbc), none)
  | [], m, pbc => rfl
  | e :: xs, m, pbc => by
    rw [ErrLoop.forEach_cons, removeContainerStep_none]
    rcases hq : removed.lookup e.2.name with _ | q
    · dsimp only
      rw [forEach_removeContainerStep_none xs m pbc]
      simp only [List.any_cons, hq, Option.isSome_none, Bool.and_false, Bool.false_or,
        Option.none_beq_some, eraseRemoved, List.foldl_cons, Bool.false_eq_true, ↓reduceIte]
    · dsimp only
      rw [forEach_removeContainerStep_none xs _ _]
      simp only [List.any_cons, hq, Option.isSome_some, Bool.and_true, Option.some_beq_some,
        eraseRemoved, List.foldl_cons, ↓reduceIte, Prod.mk.injEq, and_true, BpfMaps.mk.injEq]
      refine ⟨funext fun cg => ?_, funext fun q' => ?_, funext fun q' => ?_⟩
      · by_cases h : e.2.cgroupID = cg
        · simp [h]
        · have hcg : cg ∉ [e.2.cgroupID] := fun hc => h (List.mem_singleton.mp hc).symm
          rw [if_neg hcg, beq_eq_false_iff_ne.mpr h, Bool.false_or]
      all_goals
        by_cases h : q = q'
        · simp [h]
        · rw [Function.update_of_ne (Ne.symm h), beq_eq_false_iff_ne.mpr h, Bool.false_or]

theorem removePolicyFromPod_none (m : BpfMaps) (pbc : AList (fun _ : ContainerName => PolicyID)) :
    removePolicyFromPod .none m wpKey podEntry pbc removed =
      (({ cgToPolicy := fun cg =>
            if podEntry.containers.entries.any
                (fun e => e.2.cgroupID == cg && (removed.lookup e.2.name).isSome) then none
            else m.cgToPolicy cg
          policyMode := fun q =>
            if podEntry.containers.entries.any (fun e => removed.lookup e.2.name == some q) then none
            else m.policyMode q
          policyValues := fun q =>
            if podEntry.containers.entries.any (fun e => removed.lookup e.2.name == some q) then none
            else m.policyValues q }, eraseRemoved removed podEntry.containers.entries pbc), none) :=
  forEach_removeContainerStep_none wpKey podEntry removed _ m pbc

theorem deletePolicyStep_none (m : BpfMaps) (e : Σ _ : ContainerName, PolicyID) (he : e.2 ≠ 0) :
    deletePolicyStep .none wpKey m e =
      ({ cgToPolicy := fun cg => if m.cgToPolicy cg = some e.2 then none else m.cgToPolicy cg
         policyMode := Function.update m.policyMode e.2 none
         policyValues := Function.update m.policyValues e.2 none }, none) := by
  unfold deletePolicyStep
  dsimp only
  rw [cgroupToPolicyMapUpdate_none_removePolicy m e.2 he]
  rfl

/-- With no fault, the loop of `HandleWPDelete` over nonzero IDs deletes every cgroup held by
    one of them and clears each of them. -/
theorem forEach_deletePolicyStep_none :
    ∀ (xs : List (Σ _ : ContainerName, PolicyID)), (∀ e ∈ xs, e.2 ≠ 0) → ∀ m : BpfMaps,
    ErrLoop.forEach (deletePolicyStep .none wpKey) xs m =
      ({ cgToPolicy := fun cg =>
            if xs.any (fun e => m.cgToPolicy cg == some e.2) then none else m.cgToPolicy cg
         policyMode := fun q => if xs.any (fun e => e.2 == q) then none else m.policyMode q
         policyValues := fun q => if xs.any (fun e => e.2 == q) then none else m.policyValues q },
        none)
  | [], _, m => rfl
  | e :: xs, hxs, m => by
    rw [ErrLoop.forEach_cons_of_ok _ (deletePolicyStep_none wpKey m e (hxs e List.mem_cons_self)),
      forEach_deletePolicyStep_none xs (fun e' he' => hxs e' (List.mem_cons_of_mem e he')) _]
    simp only [Prod.mk.injEq, and_true, BpfMaps.mk.injEq]
    refine ⟨funext fun cg => ?_, funext fun q => ?_, funext fun q => ?_⟩
    · by_cases h : m.cgToPolicy cg = some e.2
      · simp [h]
      · rw [if_neg h, List.any_cons, beq_eq_false_iff_ne.mpr h, Bool.false_or]
    all_goals
      by_cases h : e.2 = q
      · simp [h]
      · rw [Function.update_of_ne (Ne.symm h), List.any_cons, beq_eq_false_iff_ne.mpr h,
          Bool.false_or]

/-- `HandleWPDelete` with no fault, on a policy whose IDs are nonzero: the policy leaves
    `wpState`, every cgroup held by one of its IDs is deleted, and its IDs are cleared. -/
theorem handleWPDelete_none (r : State) (wp : WorkloadPolicy) {info : WpInfo}
    (hinfo : r.wpState.lookup wp.namespacedName = some info)
    (hnz : ∀ e ∈ info.polByContainer.entries, e.2 ≠ 0) :
    handleWPDelete .none r wp =
      ({ r with
          wpState := r.wpState.erase wp.namespacedName
          bpf := {
            cgToPolicy := fun cg =>
              if info.polByContainer.entries.any (fun e => r.bpf.cgToPolicy cg == some e.2) then none
              else r.bpf.cgToPolicy cg
            policyMode := fun q =>
              if info.polByContainer.entries.any (fun e => e.2 == q) then none
              else r.bpf.policyMode q
            policyValues := fun q =>
              if info.polByContainer.entries.any (fun e => e.2 == q) then none
              else r.bpf.policyValues q } }, none) := by
  unfold handleWPDelete
  dsimp only
  rw [hinfo]
  dsimp only
  rw [forEach_deletePolicyStep_none _ _ hnz]

end RemovePolicy

/-! ## NRI events -/

section AddPod

variable (r : State) (pod : PodInput) (base : PodEntry)

/-- What the loop of `AddPodContainerFromNri` keeps, from the resolver `r` and the pod entry
    `base` it starts from: only the cgroup index changes, and the entry gains containers of
    the pod, each indexed under the pod. -/
structure AddLoopInv (s : State × PodEntry) : Prop where
  podCache : s.1.podCache = r.podCache
  nextPolicyID : s.1.nextPolicyID = r.nextPolicyID
  wpState : s.1.wpState = r.wpState
  bpf : s.1.bpf = r.bpf
  podMeta : s.2.podMeta = base.podMeta
  keeps : ∀ cid c, base.containers.lookup cid = some c → s.2.containers.lookup cid = some c
  added : ∀ cid c, s.2.containers.lookup cid = some c → base.containers.lookup cid = some c ∨
    (base.containers.lookup cid = none ∧
      ∃ cin, pod.containers.lookup cid = some cin ∧ c = cin.containerMeta)
  index : ∀ cg pid, s.1.cgroupIDToPodID.lookup cg = some pid →
    r.cgroupIDToPodID.lookup cg = some pid ∨
      (pid = pod.podMeta.id ∧ ∃ cid c, s.2.containers.lookup cid = some c ∧ c.cgroupID = cg)

theorem addLoopInv_start : AddLoopInv r pod base (r, base) :=
  ⟨rfl, rfl, rfl, rfl, rfl, fun _ _ h => h, fun _ _ h => .inl h, fun _ _ h => .inl h⟩

variable {r pod base}

theorem AddLoopInv.step {s : State × PodEntry} (h : AddLoopInv r pod base s) (f : CallbackFaults)
    {e : Σ _ : ContainerID, ContainerInput} (he : e ∈ pod.containers.entries) :
    AddLoopInv r pod base (addContainerStep f pod s e).1 := by
  unfold addContainerStep
  dsimp only
  split
  · split <;> exact h
  · rename_i hl
    have hne : ∀ cid c, s.2.containers.lookup cid = some c → cid ≠ e.1 :=
      fun cid c hc hcid => by rw [hcid, hl] at hc; cases hc
    refine ⟨h.podCache, h.nextPolicyID, h.wpState, h.bpf, h.podMeta, ?_, ?_, ?_⟩
    · intro cid c hc
      have hs := h.keeps cid c hc
      rw [AList.lookup_insert_ne (hne cid c hs)]
      exact hs
    · intro cid c hc
      by_cases hcid : cid = e.1
      · subst hcid
        rw [AList.lookup_insert, Option.some.injEq] at hc
        refine .inr ⟨?_, e.2, AList.mem_lookup_iff.mpr he, hc.symm⟩
        rcases hb : base.containers.lookup e.1 with _ | c'
        · rfl
        · rw [h.keeps _ c' hb] at hl
          cases hl
      · rw [AList.lookup_insert_ne hcid] at hc
        exact h.added cid c hc
    · intro cg pid hpid
      by_cases hcg : cg = e.2.containerMeta.cgroupID
      · subst hcg
        rw [AList.lookup_insert, Option.some.injEq] at hpid
        exact .inr ⟨hpid.symm, e.1, e.2.containerMeta, AList.lookup_insert _, rfl⟩
      · rw [AList.lookup_insert_ne hcg] at hpid
        rcases h.index cg pid hpid with h' | ⟨hp, cid, c, hc, hcg'⟩
        · exact .inl h'
        · refine .inr ⟨hp, cid, c, ?_, hcg'⟩
          rw [AList.lookup_insert_ne (hne cid c hc)]
          exact hc

theorem addLoopInv_forEach (f : CallbackFaults) :
    AddLoopInv r pod base (ErrLoop.forEach (addContainerStep f pod) pod.containers.entries (r, base)).1 :=
  ErrLoop.forEach_invariant _ (AddLoopInv r pod base) (fun _ _ he h => h.step f he)
    (addLoopInv_start r pod base)

/-- With no fault, the loop over a pod the cache does not hold never fails: its containers'
    IDs are distinct, so none is met twice. -/
theorem forEach_addContainerStep_none_ok :
    (ErrLoop.forEach (addContainerStep .none pod) pod.containers.entries
      (r, convertPodData pod)).2 = none := by
  let I := fun (xs : List (Σ _ : ContainerID, ContainerInput)) (s : State × PodEntry) =>
    (xs.map Sigma.fst).Nodup ∧ ∀ e ∈ xs, s.2.containers.lookup e.1 = none
  refine (ErrLoop.forEach_ok_of_rest _ I ?_
    (show I _ (r, convertPodData pod) from ⟨pod.containers.nodupKeys, fun _ _ => rfl⟩)).1
  rintro e xs s ⟨hnd, hfresh⟩
  rw [List.map_cons, List.nodup_cons] at hnd
  unfold addContainerStep
  dsimp only
  rw [hfresh e List.mem_cons_self]
  refine ⟨rfl, hnd.2, fun e' he' => ?_⟩
  have hne : e'.1 ≠ e.1 := fun h => hnd.1 (h ▸ List.mem_map_of_mem he')
  rw [AList.lookup_insert_ne hne]
  exact hfresh e' (List.mem_cons_of_mem e he')

end AddPod

/-- What `AddPodContainerFromNri` does when no callback fails, from the pod entry `base` it
    starts from: the pod is cached with the containers it had and the new ones, and only
    cgroups of its containers gain a policy, the ID its policy records for their name. -/
structure AddPodEffect (r : State) (pod : PodInput) (base state : PodEntry) (r' : State) :
    Prop where
  podCache : r'.podCache = r.podCache.insert pod.podMeta.id state
  podMeta : state.podMeta = base.podMeta
  keeps : ∀ cid c, base.containers.lookup cid = some c → state.containers.lookup cid = some c
  added : ∀ cid c, state.containers.lookup cid = some c → base.containers.lookup cid = some c ∨
    (base.containers.lookup cid = none ∧
      ∃ cin, pod.containers.lookup cid = some cin ∧ c = cin.containerMeta)
  index : ∀ cg pid, r'.cgroupIDToPodID.lookup cg = some pid →
    r.cgroupIDToPodID.lookup cg = some pid ∨
      (pid = pod.podMeta.id ∧ ∃ cid c, state.containers.lookup cid = some c ∧ c.cgroupID = cg)
  nextPolicyID : r'.nextPolicyID = r.nextPolicyID
  wpState : r'.wpState = r.wpState
  policyMode : r'.bpf.policyMode = r.bpf.policyMode
  policyValues : r'.bpf.policyValues = r.bpf.policyValues
  cgToPolicy : ∀ cg q, r'.bpf.cgToPolicy cg = some q → r.bpf.cgToPolicy cg = some q ∨
    ∃ info, r.wpState.lookup state.policyKey = some info ∧ ∃ cid c,
      state.containers.lookup cid = some c ∧ c.cgroupID = cg ∧
        info.polByContainer.lookup c.name = some q

theorem addPodContainerFromNri_none (r : State) (pod : PodInput) :
    ∃ state, AddPodEffect r pod ((r.podCache.lookup pod.podMeta.id).getD (convertPodData pod))
      state (addPodContainerFromNri .none r pod).1 := by
  have hinv := @addLoopInv_forEach r pod
    ((r.podCache.lookup pod.podMeta.id).getD (convertPodData pod)) CallbackFaults.none
  refine ⟨(ErrLoop.forEach (addContainerStep .none pod) pod.containers.entries
    (r, (r.podCache.lookup pod.podMeta.id).getD (convertPodData pod))).1.2, ?_⟩
  unfold addPodContainerFromNri
  dsimp only
  split
  · rename_i e herr
    -- only a cached pod can fail, and it stays cached with what the loop added
    have hcached : (r.podCache.lookup pod.podMeta.id).isSome = true := by
      rcases hc : r.podCache.lookup pod.podMeta.id with _ | _
      · rw [hc, Option.getD_none, forEach_addContainerStep_none_ok] at herr
        cases herr
      · rfl
    refine ⟨by rw [if_pos hcached, hinv.podCache], hinv.podMeta, hinv.keeps, hinv.added,
      hinv.index, hinv.nextPolicyID, hinv.wpState, by rw [hinv.bpf], by rw [hinv.bpf],
      fun cg q h => .inl (by rwa [hinv.bpf] at h)⟩
  · refine ⟨by rw [hinv.podCache], hinv.podMeta, hinv.keeps, hinv.added, hinv.index,
      hinv.nextPolicyID, hinv.wpState, by simp [hinv.bpf], by simp [hinv.bpf], ?_⟩
    intro cg q h
    rcases applyPolicyToPodIfPresent_some _ _ _ h with h | h
    · exact .inl (by rwa [hinv.bpf] at h)
    · exact .inr (by rwa [hinv.wpState] at h)

section AddPodCache

variable {r : State} {pod : PodInput} {state : PodEntry} {r' : State}
  (h : AddPodEffect r pod ((r.podCache.lookup pod.podMeta.id).getD (convertPodData pod)) state r')
include h

/-- A cached pod stays cached, with its metadata and at least its containers. -/
theorem AddPodEffect.lookup_of_cached {pid : PodID} {p : PodEntry} (hp : r.podCache.lookup pid = some p) :
    ∃ p', r'.podCache.lookup pid = some p' ∧ p'.podMeta = p.podMeta ∧
      ∀ cid c, p.containers.lookup cid = some c → p'.containers.lookup cid = some c := by
  by_cases hid : pid = pod.podMeta.id
  · subst hid
    refine ⟨state, by rw [h.podCache, AList.lookup_insert], ?_, fun cid c hc => h.keeps cid c ?_⟩
    · rw [h.podMeta, hp]
      rfl
    · rw [hp]
      exact hc
  · exact ⟨p, by rw [h.podCache, AList.lookup_insert_ne hid]; exact hp, rfl, fun _ _ hc => hc⟩

/-- A container of the new cache was cached before, in a pod with the same metadata, or is one
    of the pod's new containers. -/
theorem AddPodEffect.cached_cases {pid : PodID} {p' : PodEntry} (hp' : r'.podCache.lookup pid = some p')
    {cid : ContainerID} {c : ContainerMeta} (hc : p'.containers.lookup cid = some c) :
    (∃ p, r.podCache.lookup pid = some p ∧ p.podMeta = p'.podMeta ∧ p.containers.lookup cid = some c) ∨
      (pid = pod.podMeta.id ∧ p' = state ∧
        ((r.podCache.lookup pod.podMeta.id).getD (convertPodData pod)).containers.lookup cid = none ∧
        ∃ cin, pod.containers.lookup cid = some cin ∧ c = cin.containerMeta) := by
  by_cases hid : pid = pod.podMeta.id
  · subst hid
    rw [h.podCache, AList.lookup_insert, Option.some.injEq] at hp'
    subst hp'
    rcases h.added cid c hc with hb | hnew
    · -- an old container: the pod was cached, since a new entry has no container
      rcases hcached : r.podCache.lookup pod.podMeta.id with _ | p
      · rw [hcached] at hb
        cases hb
      · rw [hcached] at hb
        refine .inl ⟨p, rfl, ?_, hb⟩
        rw [h.podMeta, hcached]
        rfl
    · exact .inr ⟨rfl, rfl, hnew⟩
  · rw [h.podCache, AList.lookup_insert_ne hid] at hp'
    exact .inl ⟨p', hp', rfl, hc⟩

end AddPodCache

/-- `RemovePodContainerFromNri` with no fault: a missing pod or container changes nothing;
    otherwise the container leaves the cache (with its pod if it was the last), and its cgroup
    leaves the index and `cg_to_policy_map`. -/
theorem removePodContainerFromNri_none (r : State) (podID : PodID) (cid : ContainerID) :
    (removePodContainerFromNri .none r podID cid).2 = none ∧
      ((removePodContainerFromNri .none r podID cid).1 = r ∨
        ∃ state c, r.podCache.lookup podID = some state ∧ state.containers.lookup cid = some c ∧
          (removePodContainerFromNri .none r podID cid).1 = { r with
            podCache := if state.containers.entries.length = 1 then r.podCache.erase podID
              else r.podCache.insert podID { state with containers := state.containers.erase cid }
            cgroupIDToPodID := r.cgroupIDToPodID.erase c.cgroupID
            bpf := { r.bpf with
              cgToPolicy := fun cg => if cg ∈ [c.cgroupID] then none else r.bpf.cgToPolicy cg } }) := by
  unfold removePodContainerFromNri
  split
  · exact ⟨rfl, .inl rfl⟩
  · rename_i state hs
    split
    · exact ⟨rfl, .inl rfl⟩
    · rename_i c hc
      exact ⟨rfl, .inr ⟨state, c, hs, hc, rfl⟩⟩

/-- A container whose cgroup is not the removed container's stays cached, in a pod with the
    same metadata. -/
theorem lookup_removeContainer {cache : AList (fun _ : PodID => PodEntry)} {podID : PodID}
    {cid : ContainerID} {state : PodEntry} {c : ContainerMeta} (hs : cache.lookup podID = some state)
    (hc : state.containers.lookup cid = some c) {pid : PodID} {pod : PodEntry} {cid' : ContainerID}
    {c' : ContainerMeta} (hp : cache.lookup pid = some pod) (hc' : pod.containers.lookup cid' = some c')
    (hne : c'.cgroupID ≠ c.cgroupID) :
    ∃ pod', (if state.containers.entries.length = 1 then cache.erase podID
        else cache.insert podID { state with containers := state.containers.erase cid }).lookup pid =
        some pod' ∧ pod'.podMeta = pod.podMeta ∧ pod'.containers.lookup cid' = some c' := by
  by_cases hpid : pid = podID
  · subst hpid
    rw [hs, Option.some.injEq] at hp
    subst hp
    have hcid : cid' ≠ cid := by
      rintro rfl
      rw [hc, Option.some.injEq] at hc'
      exact hne (hc' ▸ rfl)
    split
    · rename_i hlen
      exact absurd (KeyedList.key_eq_of_length_eq_one hlen hc' hc) hcid
    · exact ⟨_, AList.lookup_insert _, rfl, by rw [AList.lookup_erase_ne hcid]; exact hc'⟩
  · refine ⟨pod, ?_, rfl, hc'⟩
    split
    · rw [AList.lookup_erase_ne hpid]; exact hp
    · rw [AList.lookup_insert_ne hpid]; exact hp

/-- A pod the removal leaves was cached, with the same metadata and at least its containers. -/
theorem lookup_of_removeContainer {cache : AList (fun _ : PodID => PodEntry)} {podID : PodID}
    {cid : ContainerID} {state : PodEntry} (hs : cache.lookup podID = some state) {pid : PodID}
    {pod' : PodEntry}
    (h : (if state.containers.entries.length = 1 then cache.erase podID
        else cache.insert podID { state with containers := state.containers.erase cid }).lookup pid =
        some pod') :
    ∃ pod, cache.lookup pid = some pod ∧ pod'.podMeta = pod.podMeta ∧
      ∀ cid' c, pod'.containers.lookup cid' = some c → pod.containers.lookup cid' = some c := by
  by_cases hpid : pid = podID
  · subst hpid
    split at h
    · rw [AList.lookup_erase] at h
      cases h
    · rw [AList.lookup_insert, Option.some.injEq] at h
      subst h
      refine ⟨state, hs, rfl, fun cid' c hc => ?_⟩
      by_cases hc' : cid' = cid
      · subst hc'
        rw [AList.lookup_erase] at hc
        cases hc
      · rwa [AList.lookup_erase_ne hc'] at hc
  · refine ⟨pod', ?_, rfl, fun _ _ hc => hc⟩
    split at h
    · rwa [AList.lookup_erase_ne hpid] at h
    · rwa [AList.lookup_insert_ne hpid] at h

/-! ## Workload policies: what they leave alone -/

section PolicyFrame

variable (f : CallbackFaults)

/-- What a call on a workload policy leaves alone: the pods, the cgroup index, and every cgroup
    it does not give a policy. -/
structure PolicyFrame (r r' : State) (added : CgroupID → PolicyID → Prop) : Prop where
  podCache : r'.podCache = r.podCache
  cgroupIDToPodID : r'.cgroupIDToPodID = r.cgroupIDToPodID
  cgToPolicy : ∀ cg q, r'.bpf.cgToPolicy cg = some q → r.bpf.cgToPolicy cg = some q ∨ added cg q

theorem syncContainerStep_frame (wpKey : NamespacedPolicyName) (mode : Mode) (info : WpInfo)
    (s : State × AList (fun _ : ContainerName => PolicyID)) (e : Σ _ : ContainerName, List String) :
    (syncContainerStep f wpKey mode info s e).1.1.podCache = s.1.podCache ∧
      (syncContainerStep f wpKey mode info s e).1.1.cgroupIDToPodID = s.1.cgroupIDToPodID ∧
      (syncContainerStep f wpKey mode info s e).1.1.wpState = s.1.wpState ∧
      (syncContainerStep f wpKey mode info s e).1.1.bpf.cgToPolicy = s.1.bpf.cgToPolicy := by
  unfold syncContainerStep
  dsimp only
  rcases info.polByContainer.lookup e.1 with _ | polID <;> simp

theorem syncWorkloadPolicy_frame (r : State) (wp : WorkloadPolicy) :
    (syncWorkloadPolicy f r wp).1.podCache = r.podCache ∧
      (syncWorkloadPolicy f r wp).1.cgroupIDToPodID = r.cgroupIDToPodID ∧
      (syncWorkloadPolicy f r wp).1.wpState = r.wpState ∧
      (syncWorkloadPolicy f r wp).1.bpf.cgToPolicy = r.bpf.cgToPolicy := by
  have h := @ErrLoop.forEach_invariant _ _ _
    (syncContainerStep f wp.namespacedName wp.spec.mode
      ((r.wpState.lookup wp.namespacedName).getD ⟨∅, .unset⟩))
    (fun s : State × AList (fun _ : ContainerName => PolicyID) =>
      s.1.podCache = r.podCache ∧ s.1.cgroupIDToPodID = r.cgroupIDToPodID ∧
        s.1.wpState = r.wpState ∧ s.1.bpf.cgToPolicy = r.bpf.cgToPolicy)
    wp.spec.rulesByContainer.entries
    (fun s e _ hs => by
      obtain ⟨h1, h2, h3, h4⟩ := syncContainerStep_frame f _ _ _ s e
      exact ⟨h1.trans hs.1, h2.trans hs.2.1, h3.trans hs.2.2.1, h4.trans hs.2.2.2⟩)
    (r, ∅) ⟨rfl, rfl, rfl, rfl⟩
  unfold syncWorkloadPolicy
  dsimp only
  split <;> exact h

theorem removePolicyFromPod_some (m : BpfMaps) (wpKey : NamespacedPolicyName)
    (podEntry : PodEntry) (pbc removed : AList (fun _ : ContainerName => PolicyID))
    {cg : CgroupID} {q : PolicyID}
    (h : (removePolicyFromPod f m wpKey podEntry pbc removed).1.1.cgToPolicy cg = some q) :
    m.cgToPolicy cg = some q := by
  refine ErrLoop.forEach_invariant (removeContainerStep f wpKey podEntry removed)
    (fun s : BpfMaps × AList (fun _ : ContainerName => PolicyID) =>
      ∀ cg q, s.1.cgToPolicy cg = some q → m.cgToPolicy cg = some q) ?_ (fun _ _ h => h) cg q h
  intro s e _ hs cg q h
  unfold removeContainerStep at h
  dsimp only at h
  split at h
  · exact hs cg q h
  · split at h
    · exact hs cg q (cgroupToPolicyMapUpdate_some_of_ne_add (by decide) h)
    · split at h <;>
      · rw [clearPolicyIDFromBPF_cgToPolicy] at h
        exact hs cg q (cgroupToPolicyMapUpdate_some_of_ne_add (by decide) h)

/-- One pod of `ReconcileWP`'s loop gives a policy only to cgroups of its containers. -/
theorem reconcilePodStep_some (wp : WorkloadPolicy)
    (appliedMap removedMap : AList (fun _ : ContainerName => PolicyID))
    (s : BpfMaps × AList (fun _ : ContainerName => PolicyID)) (e : Σ _ : PodID, PodEntry)
    {cg : CgroupID} {q : PolicyID}
    (h : (reconcilePodStep f wp appliedMap removedMap s e).1.1.cgToPolicy cg = some q) :
    s.1.cgToPolicy cg = some q ∨ ∃ cid c, e.2.containers.lookup cid = some c ∧
      c.cgroupID = cg ∧ appliedMap.lookup c.name = some q := by
  unfold reconcilePodStep at h
  dsimp only at h
  split at h
  · exact .inl h
  · split at h
    · exact .inl (removePolicyFromPod_some f _ _ _ _ _ h)
    · rcases applyPolicyToPod_some f _ _ _ h with h | h
      · exact .inl (removePolicyFromPod_some f _ _ _ _ _ h)
      · exact .inr h

/-- `ReconcileWP`'s loop over the cache gives a policy only to cgroups of cached containers. -/
theorem forEach_reconcilePodStep_some (wp : WorkloadPolicy)
    (appliedMap removedMap : AList (fun _ : ContainerName => PolicyID))
    (cache : AList (fun _ : PodID => PodEntry)) (m : BpfMaps)
    (pbc : AList (fun _ : ContainerName => PolicyID)) {cg : CgroupID} {q : PolicyID}
    (h : (ErrLoop.forEach (reconcilePodStep f wp appliedMap removedMap) cache.entries
      (m, pbc)).1.1.cgToPolicy cg = some q) :
    m.cgToPolicy cg = some q ∨ ∃ podID pod cid c, cache.lookup podID = some pod ∧
      pod.containers.lookup cid = some c ∧ c.cgroupID = cg := by
  refine ErrLoop.forEach_invariant (reconcilePodStep f wp appliedMap removedMap)
    (fun s : BpfMaps × AList (fun _ : ContainerName => PolicyID) => ∀ cg q,
      s.1.cgToPolicy cg = some q → m.cgToPolicy cg = some q ∨ ∃ podID pod cid c,
        cache.lookup podID = some pod ∧ pod.containers.lookup cid = some c ∧ c.cgroupID = cg)
    ?_ (fun _ _ h => .inl h) cg q h
  intro s e he hs cg q h
  rcases reconcilePodStep_some f _ _ _ s e h with h | ⟨cid, c, hc, hcg, -⟩
  · exact hs cg q h
  · exact .inr ⟨e.1, e.2, cid, c, AList.mem_lookup_iff.mpr he, hc, hcg⟩

/-- `ReconcileWP` gives a policy only to cgroups of cached containers. -/
theorem reconcileWP_frame (r : State) (wp : WorkloadPolicy) :
    PolicyFrame r (reconcileWP f r wp).1 (fun cg _ => ∃ podID pod cid c,
      r.podCache.lookup podID = some pod ∧ pod.containers.lookup cid = some c ∧ c.cgroupID = cg) := by
  obtain ⟨hcache, hindex, -, hcg⟩ := syncWorkloadPolicy_frame f
    { r with wpState := (r.wpState.insert wp.namespacedName
      ((r.wpState.lookup wp.namespacedName).getD ⟨∅, .unset⟩)) } wp
  unfold reconcileWP
  dsimp only
  split
  · exact ⟨hcache, hindex, fun cg q h => .inl (by rwa [hcg] at h)⟩
  · split <;> refine ⟨hcache, hindex, fun cg q h => ?_⟩ <;>
    · rcases forEach_reconcilePodStep_some f _ _ _ _ _ _ h with h | h
      · exact .inl (by rwa [hcg] at h)
      · exact .inr (by rwa [hcache] at h)

/-- `HandleWPDelete` only deletes cgroups. -/
theorem handleWPDelete_frame (r : State) (wp : WorkloadPolicy) :
    PolicyFrame r (handleWPDelete f r wp).1 (fun _ _ => False) := by
  unfold handleWPDelete
  dsimp only
  split
  · exact ⟨rfl, rfl, fun _ _ h => .inl h⟩
  · rename_i info _
    refine ⟨rfl, rfl, fun cg q h => .inl ?_⟩
    refine ErrLoop.forEach_invariant (deletePolicyStep f wp.namespacedName)
      (fun m : BpfMaps => ∀ cg q, m.cgToPolicy cg = some q → r.bpf.cgToPolicy cg = some q) ?_
      (fun _ _ h => h) cg q h
    intro m e _ hm cg q h
    unfold deletePolicyStep at h
    dsimp only at h
    split at h
    · exact hm cg q (cgroupToPolicyMapUpdate_some_of_ne_add (by decide) h)
    · rw [clearPolicyIDFromBPF_cgToPolicy] at h
      exact hm cg q (cgroupToPolicyMapUpdate_some_of_ne_add (by decide) h)

end PolicyFrame

/-! ## Allocating policy IDs, with no fault -/

section Sync

theorem toNat_add_one_of_lt {x : UInt64} (h : x.toNat + 1 < 2 ^ 64) : (x + 1).toNat = x.toNat + 1 := by
  rw [UInt64.toNat_add, UInt64.toNat_one, Nat.mod_eq_of_lt h]

theorem syncContainerStep_none (wpKey : NamespacedPolicyName) (mode : Mode) (info : WpInfo)
    (s : State × AList (fun _ : ContainerName => PolicyID)) (e : Σ _ : ContainerName, List String) :
    syncContainerStep .none wpKey mode info s e =
      match info.polByContainer.lookup e.1 with
      | some polID =>
        (({ s.1 with bpf := { s.1.bpf with
            policyValues := Function.update s.1.bpf.policyValues polID (some e.2)
            policyMode := Function.update s.1.bpf.policyMode polID (some mode) } }, s.2), none)
      | none =>
        (({ s.1 with
            nextPolicyID := s.1.nextPolicyID + 1
            bpf := { s.1.bpf with
              policyValues := Function.update s.1.bpf.policyValues s.1.nextPolicyID (some e.2)
              policyMode := Function.update s.1.bpf.policyMode s.1.nextPolicyID (some mode) } },
          s.2.insert e.1 s.1.nextPolicyID), none) := by
  unfold syncContainerStep
  dsimp only
  rcases info.polByContainer.lookup e.1 with _ | polID <;> rfl

variable (r : State) (info : WpInfo) (total : Nat)

/-- What the loop of `syncWorkloadPolicy` keeps, from `r`, over a spec of `total` containers
    with `xs` still to visit: the IDs it created go to names the policy did not have, are
    distinct and come from the counter, which has room for the rest; every policy ID with a
    mode or values had them before or was just created. -/
structure SyncLoopInv (xs : List (Σ _ : ContainerName, List String))
    (s : State × AList (fun _ : ContainerName => PolicyID)) : Prop where
  nodup : (xs.map Sigma.fst).Nodup
  unvisited : ∀ n, (s.2.lookup n).isSome → n ∉ xs.map Sigma.fst
  fresh : ∀ n q, s.2.lookup n = some q → info.polByContainer.lookup n = none ∧
    r.nextPolicyID.toNat ≤ q.toNat ∧ q.toNat < s.1.nextPolicyID.toNat
  inj : ∀ n₁ n₂ q, s.2.lookup n₁ = some q → s.2.lookup n₂ = some q → n₁ = n₂
  counter : r.nextPolicyID.toNat ≤ s.1.nextPolicyID.toNat ∧
    s.1.nextPolicyID.toNat + xs.length ≤ r.nextPolicyID.toNat + total
  mode : ∀ q, (s.1.bpf.policyMode q).isSome ↔
    (r.bpf.policyMode q).isSome ∨ ∃ n, s.2.lookup n = some q
  values : ∀ q, (s.1.bpf.policyValues q).isSome ↔
    (r.bpf.policyValues q).isSome ∨ ∃ n, s.2.lookup n = some q

variable {r info total}

/-- One container of the loop keeps `SyncLoopInv`, when the IDs the policy had already have a
    mode and values and the counter has room for the whole spec. -/
theorem SyncLoopInv.step (hroom : r.nextPolicyID.toNat + total < 2 ^ 64)
    (hinfo : ∀ n q, info.polByContainer.lookup n = some q →
      (r.bpf.policyMode q).isSome ∧ (r.bpf.policyValues q).isSome)
    (wpKey : NamespacedPolicyName) (mode : Mode) {e : Σ _ : ContainerName, List String}
    {xs : List (Σ _ : ContainerName, List String)} {s : State × AList (fun _ : ContainerName => PolicyID)}
    (h : SyncLoopInv r info total (e :: xs) s) :
    (syncContainerStep .none wpKey mode info s e).2 = none ∧
      SyncLoopInv r info total xs (syncContainerStep .none wpKey mode info s e).1 := by
  obtain ⟨hnd, hunv, hfresh, hinj, ⟨hlo, hhi⟩, hmode, hvalues⟩ := h
  rw [List.map_cons, List.nodup_cons] at hnd
  have hlen : (e :: xs).length = xs.length + 1 := rfl
  rw [syncContainerStep_none]
  rcases hpol : info.polByContainer.lookup e.1 with _ | polID
  · -- a new container: it takes the counter's ID
    have hnext := toNat_add_one_of_lt (x := s.1.nextPolicyID) (by omega)
    have hnew : ∀ n, s.2.lookup n ≠ none → n ≠ e.1 := fun n hn he =>
      hunv n (Option.isSome_iff_ne_none.mpr hn) (he ▸ List.mem_cons_self)
    have hnotnew : s.2.lookup e.1 = none := by
      by_contra hc
      exact hnew e.1 hc rfl
    refine ⟨rfl, hnd.2, ?_, ?_, ?_, ⟨?_, ?_⟩, ?_, ?_⟩
    · intro n hn hmem
      by_cases hne : n = e.1
      · exact hnd.1 (hne ▸ hmem)
      · rw [AList.lookup_insert_ne hne] at hn
        exact hunv n hn (List.mem_cons_of_mem _ hmem)
    · intro n q hq
      dsimp only
      by_cases hne : n = e.1
      · subst hne
        rw [AList.lookup_insert, Option.some.injEq] at hq
        subst hq
        exact ⟨hpol, hlo, by omega⟩
      · rw [AList.lookup_insert_ne hne] at hq
        obtain ⟨h1, h2, h3⟩ := hfresh n q hq
        exact ⟨h1, h2, by omega⟩
    · intro n₁ n₂ q h₁ h₂
      by_cases he₁ : n₁ = e.1 <;> by_cases he₂ : n₂ = e.1
      · rw [he₁, he₂]
      · subst he₁
        rw [AList.lookup_insert, Option.some.injEq] at h₁
        rw [AList.lookup_insert_ne he₂] at h₂
        have := (hfresh n₂ q h₂).2.2
        rw [← h₁] at this
        omega
      · subst he₂
        rw [AList.lookup_insert, Option.some.injEq] at h₂
        rw [AList.lookup_insert_ne he₁] at h₁
        have := (hfresh n₁ q h₁).2.2
        rw [← h₂] at this
        omega
      · rw [AList.lookup_insert_ne he₁] at h₁
        rw [AList.lookup_insert_ne he₂] at h₂
        exact hinj n₁ n₂ q h₁ h₂
    · dsimp only
      omega
    · dsimp only
      omega
    all_goals
      intro q
      dsimp only
      by_cases hq : q = s.1.nextPolicyID
      · subst hq
        simp only [Function.update_self, Option.isSome_some, true_iff]
        exact .inr ⟨e.1, AList.lookup_insert _⟩
      · rw [Function.update_of_ne hq]
        first | rw [hmode q] | rw [hvalues q]
        -- the names created before `e` keep their IDs; `e`'s is the counter, not `q`
        have hrest : (∃ n, s.2.lookup n = some q) ↔
            ∃ n, (s.2.insert e.1 s.1.nextPolicyID).lookup n = some q := by
          constructor
          · rintro ⟨n, hn⟩
            have hne : n ≠ e.1 := hnew n (by rw [hn]; exact Option.some_ne_none q)
            exact ⟨n, by rw [AList.lookup_insert_ne hne]; exact hn⟩
          · rintro ⟨n, hn⟩
            by_cases hne : n = e.1
            · subst hne
              rw [AList.lookup_insert, Option.some.injEq] at hn
              exact absurd hn.symm hq
            · exact ⟨n, by rwa [AList.lookup_insert_ne hne] at hn⟩
        rw [hrest]
  · -- a container the policy had: its ID gets the new values and mode
    refine ⟨rfl, hnd.2, fun n hn hmem => hunv n hn (List.mem_cons_of_mem _ hmem), hfresh, hinj,
      ⟨hlo, by dsimp only; omega⟩, ?_, ?_⟩
    all_goals
      intro q
      dsimp only
      by_cases hq : q = polID
      · subst hq
        simp only [Function.update_self, Option.isSome_some, true_iff]
        first | exact .inl (hinfo e.1 q hpol).1 | exact .inl (hinfo e.1 q hpol).2
      · rw [Function.update_of_ne hq]
        first | exact hmode q | exact hvalues q

/-- `syncWorkloadPolicy` with no fault, when the counter has room for the spec and the policy's
    IDs already have a mode and values: it succeeds, and its loop's invariant holds at the end. -/
theorem syncWorkloadPolicy_none (r : State) (wp : WorkloadPolicy)
    (hroom : r.nextPolicyID.toNat + wp.spec.rulesByContainer.entries.length < 2 ^ 64)
    (hinfo : ∀ n q,
      ((r.wpState.lookup wp.namespacedName).getD ⟨∅, .unset⟩).polByContainer.lookup n = some q →
        (r.bpf.policyMode q).isSome ∧ (r.bpf.policyValues q).isSome) :
    ∃ new, (syncWorkloadPolicy .none r wp).2 = .ok new ∧
      SyncLoopInv r ((r.wpState.lookup wp.namespacedName).getD ⟨∅, .unset⟩)
        wp.spec.rulesByContainer.entries.length [] ((syncWorkloadPolicy .none r wp).1, new) := by
  have hstart : SyncLoopInv r ((r.wpState.lookup wp.namespacedName).getD ⟨∅, .unset⟩)
      wp.spec.rulesByContainer.entries.length wp.spec.rulesByContainer.entries (r, ∅) :=
    ⟨wp.spec.rulesByContainer.nodupKeys, fun _ h => by simp at h, fun _ _ h => by simp at h,
      fun _ _ _ h => by simp at h, ⟨le_refl _, le_refl _⟩, fun _ => by simp, fun _ => by simp⟩
  obtain ⟨hok, hinv⟩ := ErrLoop.forEach_ok_of_rest _ _
    (fun _ _ _ h => h.step hroom hinfo wp.namespacedName wp.spec.mode) hstart
  unfold syncWorkloadPolicy
  dsimp only
  rw [hok]
  exact ⟨_, rfl, hinv⟩

end Sync

end RuntimeEnforcer.Resolver
