import RuntimeEnforcer.Resolver.PolicyIds

/-
  `ReconcileWP` over a state of a valid run. The call first syncs the policy's IDs, creating one
  for each container name new to the spec, then walks the pod cache: each pod with the policy's
  label loses the cgroups and IDs of its containers outside the spec and takes the IDs of those
  in it. `ReconcileLoopInv` is what that walk keeps: the policy's record shrinks only by names
  outside the spec, the BPF maps hold modes and values for exactly the records, and an enforced
  cgroup of a container outside the spec belongs to a pod still to be visited. With it,
  `reconcileWP_ready` shows that the call succeeds, marks the policy READY and keeps
  `PolicyInv`; `policyInv_of_validReachable` then carries `PolicyInv` over whole runs.
-/

namespace RuntimeEnforcer.Resolver

open PolicyMode

/-! ## Records with one policy's replaced -/

/-- The records of `r`, with `key`'s record replaced by `pbc`. -/
def State.policyOfWith (r : State) (key : NamespacedPolicyName)
    (pbc : AList (fun _ : ContainerName => PolicyID)) (k : NamespacedPolicyName)
    (n : ContainerName) : Option PolicyID :=
  if k = key then pbc.lookup n else r.policyOf k n

/-- `pbc` can stand for `key`'s record in `r`: every ID recorded is nonzero, below `next`, and
    recorded for one (policy, container name) pair. -/
structure RecordsWith (r : State) (key : NamespacedPolicyName)
    (pbc : AList (fun _ : ContainerName => PolicyID)) (next : Nat) : Prop where
  range : ∀ k n p, r.policyOfWith key pbc k n = some p → 0 < p.toNat ∧ p.toNat < next
  inj : ∀ k₁ n₁ k₂ n₂ p, r.policyOfWith key pbc k₁ n₁ = some p →
    r.policyOfWith key pbc k₂ n₂ = some p → k₁ = k₂ ∧ n₁ = n₂

section Records

variable {r : State} {key k : NamespacedPolicyName} {n : ContainerName}
  {pbc pbc' : AList (fun _ : ContainerName => PolicyID)}

@[simp] theorem policyOfWith_self : r.policyOfWith key pbc key n = pbc.lookup n := if_pos rfl

theorem policyOfWith_ne (hk : k ≠ key) : r.policyOfWith key pbc k n = r.policyOf k n :=
  if_neg hk

theorem policyOfWith_mono (hsub : ∀ n q, pbc'.lookup n = some q → pbc.lookup n = some q)
    {q : PolicyID} (h : r.policyOfWith key pbc' k n = some q) :
    r.policyOfWith key pbc k n = some q := by
  unfold State.policyOfWith at h ⊢
  split
  · exact hsub n q (by rwa [if_pos ‹k = key›] at h)
  · rwa [if_neg ‹¬k = key›] at h

/-- The policy's old record with the IDs `syncWorkloadPolicy` created for names it lacked. -/
theorem policyOfWith_mapsCopy {info new : AList (fun _ : ContainerName => PolicyID)}
    (hinfo : ∀ n, info.lookup n = r.policyOf key n)
    (hfresh : ∀ n q, new.lookup n = some q → info.lookup n = none) (k n) (q : PolicyID) :
    r.policyOfWith key (mapsCopy info new) k n = some q ↔
      r.policyOf k n = some q ∨ k = key ∧ new.lookup n = some q := by
  by_cases hk : k = key
  · subst hk
    rw [policyOfWith_self, lookup_mapsCopy, ← hinfo]
    rcases hn : new.lookup n with _ | q'
    · simp
    · simp [hfresh n q' hn]
  · simp [policyOfWith_ne hk, hk]

end Records

/-! ## Syncing the policy's IDs -/

section Sync

variable {r : State} {key : NamespacedPolicyName} {info : WpInfo}
  {new : AList (fun _ : ContainerName => PolicyID)}

/-- The IDs a sync creates start at the counter, above every recorded one, so the old and new
    records together are valid. -/
theorem recordsWith_of_sync (h : PolicyInv r)
    (hinfo : ∀ n, info.polByContainer.lookup n = r.policyOf key n) {total : Nat} {r₂ : State}
    (hs : SyncLoopInv { r with wpState := r.wpState.insert key info } info total [] (r₂, new)) :
    RecordsWith r key (mapsCopy info.polByContainer new) r₂.nextPolicyID.toNat := by
  have hcls := policyOfWith_mapsCopy hinfo fun n q hq => (hs.fresh n q hq).1
  have hnew : ∀ n q, new.lookup n = some q →
      r.nextPolicyID.toNat ≤ q.toNat ∧ q.toNat < r₂.nextPolicyID.toNat :=
    fun n q hq => (hs.fresh n q hq).2
  have hlo : r.nextPolicyID.toNat ≤ r₂.nextPolicyID.toNat := hs.counter.1
  constructor
  · intro k n p hp
    rcases (hcls k n p).mp hp with hp | ⟨-, hp⟩
    · have := h.range k n p hp
      omega
    · have := hnew n p hp
      have := h.next_pos
      omega
  · intro k₁ n₁ k₂ n₂ p h₁ h₂
    rcases (hcls k₁ n₁ p).mp h₁ with hp₁ | ⟨rfl, hp₁⟩ <;>
    rcases (hcls k₂ n₂ p).mp h₂ with hp₂ | ⟨rfl, hp₂⟩
    · exact h.inj _ _ _ _ _ hp₁ hp₂
    · -- an old ID is below the counter the new ones start at
      have := (h.range _ _ _ hp₁).2
      have := hnew _ _ hp₂
      omega
    · have := (h.range _ _ _ hp₂).2
      have := hnew _ _ hp₁
      omega
    · exact ⟨rfl, hs.inj _ _ _ hp₁ hp₂⟩

/-- A BPF map that held the recorded IDs and gained the new ones holds the records of the
    policy's old and new IDs together. -/
theorem recorded_of_sync (hinfo : ∀ n, info.polByContainer.lookup n = r.policyOf key n)
    (hfresh : ∀ n q, new.lookup n = some q → info.polByContainer.lookup n = none)
    {P P₂ : PolicyID → Prop} (hP : ∀ q, P q ↔ r.Recorded q)
    (hP₂ : ∀ q, P₂ q ↔ P q ∨ ∃ n, new.lookup n = some q) (q : PolicyID) :
    P₂ q ↔ ∃ k n, r.policyOfWith key (mapsCopy info.polByContainer new) k n = some q := by
  simp only [hP₂, hP, State.Recorded, policyOfWith_mapsCopy hinfo hfresh]
  constructor
  · rintro (⟨k, n, hk⟩ | ⟨n, hn⟩)
    · exact ⟨k, n, .inl hk⟩
    · exact ⟨key, n, .inr ⟨rfl, hn⟩⟩
  · rintro ⟨k, n, hk | ⟨-, hn⟩⟩
    · exact .inl ⟨k, n, hk⟩
    · exact .inr ⟨n, hn⟩

end Sync

/-! ## Removing a pod's containers outside the spec -/

section Remove

variable {r : State} {key : NamespacedPolicyName} {next : Nat}
  {pbc s₂ removed : AList (fun _ : ContainerName => PolicyID)}

theorem isSome_ite_none {β : Type} {c : Bool} {o : Option β} :
    (if c = true then none else o).isSome = true ↔ c = false ∧ o.isSome = true := by
  cases c <;> simp

/-- An ID a pod's removal clears is recorded nowhere else: the removed names are the policy's
    own, and its IDs are recorded once. -/
theorem removed_unique (hrec : RecordsWith r key pbc next)
    (hrem : ∀ n q, removed.lookup n = some q → pbc.lookup n = some q)
    {xs : List (Σ _ : ContainerID, ContainerMeta)} {q : PolicyID}
    (hany : xs.any (fun e => removed.lookup e.2.name == some q) = true) {k n}
    (hk : r.policyOfWith key pbc k n = some q) :
    k = key ∧ (xs.any fun e => e.2.name == n && (removed.lookup n).isSome) = true := by
  obtain ⟨e, he, hq⟩ := List.any_eq_true.mp hany
  have hpe : r.policyOfWith key pbc key e.2.name = some q := by
    rw [policyOfWith_self]
    exact hrem _ _ (beq_iff_eq.mp hq)
  obtain ⟨rfl, rfl⟩ := hrec.inj _ _ _ _ _ hk hpe
  refine ⟨rfl, List.any_eq_true.mpr ⟨e, he, ?_⟩⟩
  simp [beq_iff_eq.mp hq]

/-- After a pod's removal, a record stands if it stood and its ID was not cleared. -/
theorem policyOfWith_eraseRemoved (hrec : RecordsWith r key pbc next)
    (hsub : ∀ n q, s₂.lookup n = some q → pbc.lookup n = some q)
    (hrem : ∀ n q, removed.lookup n = some q → pbc.lookup n = some q)
    (xs : List (Σ _ : ContainerID, ContainerMeta)) (k n) (q : PolicyID) :
    r.policyOfWith key (eraseRemoved removed xs s₂) k n = some q ↔
      r.policyOfWith key s₂ k n = some q ∧
        xs.any (fun e => removed.lookup e.2.name == some q) = false := by
  by_cases hk : k = key
  · subst hk
    rw [policyOfWith_self, policyOfWith_self, lookup_eraseRemoved]
    split
    · -- a name the pod runs outside the spec: erased, and its ID cleared
      rename_i hn
      obtain ⟨e, he, hen⟩ := List.any_eq_true.mp hn
      simp only [Bool.and_eq_true, beq_iff_eq, Option.isSome_iff_exists] at hen
      obtain ⟨rfl, q', hq'⟩ := hen
      simp only [reduceCtorEq, false_iff, not_and, Bool.not_eq_false]
      intro hs
      have := (hrem _ _ hq').symm.trans (hsub _ _ hs)
      rw [Option.some.injEq] at this
      exact List.any_eq_true.mpr ⟨e, he, by rw [hq', this]; exact beq_self_eq_true _⟩
    · rename_i hn
      refine ⟨fun hs => ⟨hs, ?_⟩, fun h => h.1⟩
      by_contra hany
      have hpw : r.policyOfWith k pbc k n = some q := by
        rw [policyOfWith_self]
        exact hsub _ _ hs
      exact hn (removed_unique hrec hrem (Bool.not_eq_false _ ▸ hany) hpw).2
  · rw [policyOfWith_ne hk, policyOfWith_ne hk]
    refine ⟨fun hp => ⟨hp, ?_⟩, fun h => h.1⟩
    by_contra hany
    have hpw : r.policyOfWith key pbc k n = some q := by
      rw [policyOfWith_ne hk]
      exact hp
    exact hk (removed_unique hrec hrem (Bool.not_eq_false _ ▸ hany) hpw).1

/-- A BPF map cleared of a pod's removed IDs holds the records left. -/
theorem isSome_eraseRemoved {β : Type} (hrec : RecordsWith r key pbc next)
    (hsub : ∀ n q, s₂.lookup n = some q → pbc.lookup n = some q)
    (hrem : ∀ n q, removed.lookup n = some q → pbc.lookup n = some q)
    (xs : List (Σ _ : ContainerID, ContainerMeta)) {g : PolicyID → Option β}
    (hg : ∀ q, (g q).isSome ↔ ∃ k n, r.policyOfWith key s₂ k n = some q) (q : PolicyID) :
    (if xs.any (fun e => removed.lookup e.2.name == some q) then none else g q).isSome ↔
      ∃ k n, r.policyOfWith key (eraseRemoved removed xs s₂) k n = some q := by
  simp only [isSome_ite_none, hg, policyOfWith_eraseRemoved hrec hsub hrem]
  constructor
  · rintro ⟨hany, k, n, hk⟩
    exact ⟨k, n, hk, hany⟩
  · rintro ⟨k, n, hk, hany⟩
    exact ⟨hany, k, n, hk⟩

theorem removePolicyFromPod_none_ok {m : BpfMaps} {pod : PodEntry} :
    (removePolicyFromPod .none m key pod s₂ removed).2 = none := by
  rw [removePolicyFromPod_none]

/-- The cgroups a pod's removal keeps are those of no removed container. -/
theorem cgToPolicy_of_removePolicyFromPod {m : BpfMaps} {pod : PodEntry} {cg : CgroupID}
    {q : PolicyID}
    (h : (removePolicyFromPod .none m key pod s₂ removed).1.1.cgToPolicy cg = some q) :
    m.cgToPolicy cg = some q ∧
      ∀ e ∈ pod.containers.entries, e.2.cgroupID = cg → removed.lookup e.2.name = none := by
  rw [removePolicyFromPod_none] at h
  dsimp only at h
  split at h
  · cases h
  · rename_i hnot
    refine ⟨h, fun e he hcg => ?_⟩
    rcases hr : removed.lookup e.2.name with _ | p
    · rfl
    · exact absurd (List.any_eq_true.mpr ⟨e, he, by simp [hcg, hr]⟩) hnot

end Remove

/-! ## The loop over the pod cache -/

section Loop

/-- Two cached containers with one cgroup are one. -/
theorem PolicyInv.same_container {r : State} (h : PolicyInv r) {podID₁ podID₂ : PodID}
    {pod₁ pod₂ : PodEntry} {cid₁ cid₂ : ContainerID} {c₁ c₂ : ContainerMeta}
    (h₁ : r.podCache.lookup podID₁ = some pod₁) (hc₁ : pod₁.containers.lookup cid₁ = some c₁)
    (h₂ : r.podCache.lookup podID₂ = some pod₂) (hc₂ : pod₂.containers.lookup cid₂ = some c₂)
    (hcg : c₁.cgroupID = c₂.cgroupID) :
    podID₁ = podID₂ ∧ pod₁ = pod₂ ∧ cid₁ = cid₂ ∧ c₁ = c₂ := by
  obtain ⟨rfl, rfl⟩ := h.unique _ _ _ _ _ _ _ _ h₁ hc₁ h₂ hc₂ hcg
  rw [h₁, Option.some.injEq] at h₂
  subst h₂
  rw [hc₁, Option.some.injEq] at hc₂
  exact ⟨rfl, rfl, rfl, hc₂⟩

theorem PolicyInv.cgroups_nodup {r : State} (h : PolicyInv r) {podID : PodID} {pod : PodEntry}
    (hpod : r.podCache.lookup podID = some pod) :
    (pod.containers.entries.map fun e => e.2.cgroupID).Nodup := by
  refine List.Nodup.map_on ?_ pod.containers.nodupKeys.nodup
  intro a ha b hb hab
  obtain ⟨-, -, hid, -⟩ := h.same_container hpod (AList.mem_lookup_iff.mpr ha) hpod
    (AList.mem_lookup_iff.mpr hb) hab
  exact pod.containers.nodupKeys.eq_of_fst_eq ha hb hid

variable (r : State) (wp : WorkloadPolicy) (pbc : AList (fun _ : ContainerName => PolicyID))
  (inSpec : ContainerName → Bool)

/-- What the loop of `ReconcileWP` over the cache keeps, from `r`, with the policy's synced
    record `pbc`, the names `inSpec` of its spec and the pods `rest` still to visit. The record
    `s.2` is `pbc` less some names outside the spec; the BPF maps hold modes and values for
    exactly the records; an enforced cgroup is a cached container's, with the ID its pod's
    policy records in `pbc`, and, if outside the spec, of a pod still to be visited. -/
structure ReconcileLoopInv (rest : List (Σ _ : PodID, PodEntry))
    (s : BpfMaps × AList (fun _ : ContainerName => PolicyID)) : Prop where
  cached : ∀ x ∈ rest, r.podCache.lookup x.1 = some x.2
  sub : ∀ n q, s.2.lookup n = some q → pbc.lookup n = some q
  applied : ∀ n q, inSpec n = true → pbc.lookup n = some q → s.2.lookup n = some q
  mode : ∀ q, (s.1.policyMode q).isSome ↔ ∃ k n, r.policyOfWith wp.namespacedName s.2 k n = some q
  values : ∀ q,
    (s.1.policyValues q).isSome ↔ ∃ k n, r.policyOfWith wp.namespacedName s.2 k n = some q
  enforced : ∀ cg q, s.1.cgToPolicy cg = some q → ∃ podID pod cid c,
    r.podCache.lookup podID = some pod ∧ pod.containers.lookup cid = some c ∧ c.cgroupID = cg ∧
      r.policyOfWith wp.namespacedName pbc pod.policyKey c.name = some q ∧
      (pod.policyKey = wp.namespacedName → inSpec c.name = false → ⟨podID, pod⟩ ∈ rest)

variable {r wp pbc}

theorem reconcileLoopInv_start (h : PolicyInv r) {m : BpfMaps}
    (hcg : m.cgToPolicy = r.bpf.cgToPolicy)
    (hext : ∀ k n q, r.policyOf k n = some q → r.policyOfWith wp.namespacedName pbc k n = some q)
    (hmode : ∀ q, (m.policyMode q).isSome ↔ ∃ k n, r.policyOfWith wp.namespacedName pbc k n = some q)
    (hvalues :
      ∀ q, (m.policyValues q).isSome ↔ ∃ k n, r.policyOfWith wp.namespacedName pbc k n = some q) :
    ReconcileLoopInv r wp pbc inSpec r.podCache.entries (m, pbc) where
  cached _ hx := AList.mem_lookup_iff.mpr hx
  sub _ _ hs := hs
  applied _ _ _ hs := hs
  mode := hmode
  values := hvalues
  enforced cg q hq := by
    obtain ⟨podID, pod, cid, c, hpod, hc, hcgc, hpo⟩ := h.enforced cg q (hcg ▸ hq)
    exact ⟨podID, pod, cid, c, hpod, hc, hcgc, hext _ _ _ hpo,
      fun _ _ => AList.mem_lookup_iff.mp hpod⟩

variable {inSpec} {x : Σ _ : PodID, PodEntry} {rest : List (Σ _ : PodID, PodEntry)}
  {s : BpfMaps × AList (fun _ : ContainerName => PolicyID)}

/-- A cgroup that survives the removal of the pod being visited is not one of its containers
    outside the spec, so its witness no longer needs that pod. -/
theorem ReconcileLoopInv.enforced_kept (hl : ReconcileLoopInv r wp pbc inSpec (x :: rest) s)
    {cg : CgroupID} {q : PolicyID} (hq : s.1.cgToPolicy cg = some q)
    (hkept : ∀ e ∈ x.2.containers.entries, e.2.cgroupID = cg →
      (filterKeys pbc fun c => !inSpec c).lookup e.2.name = none) :
    ∃ podID pod cid c, r.podCache.lookup podID = some pod ∧ pod.containers.lookup cid = some c ∧
      c.cgroupID = cg ∧ r.policyOfWith wp.namespacedName pbc pod.policyKey c.name = some q ∧
      (pod.policyKey = wp.namespacedName → inSpec c.name = false → ⟨podID, pod⟩ ∈ rest) := by
  obtain ⟨podID, pod, cid, c, hpod, hc, hcg, hpo, hrest⟩ := hl.enforced cg q hq
  refine ⟨podID, pod, cid, c, hpod, hc, hcg, hpo, fun hk hin => ?_⟩
  rcases List.mem_cons.mp (hrest hk hin) with hx | hy
  · have hmem : ⟨cid, c⟩ ∈ x.2.containers.entries := by
      rw [← hx]
      exact AList.mem_lookup_iff.mp hc
    have hnone := hkept _ hmem hcg
    rw [hk, policyOfWith_self] at hpo
    simp [lookup_filterKeys, hin, hpo] at hnone
  · exact hy

/-- The cgroups of the pod being visited are free for its policy's IDs: a cgroup that holds an
    ID holds the one the pod's policy records for the container. -/
theorem ReconcileLoopInv.free (h : PolicyInv r) {next : Nat}
    (hrec : RecordsWith r wp.namespacedName pbc next)
    (hl : ReconcileLoopInv r wp pbc inSpec (x :: rest) s)
    (hx : r.podCache.lookup x.1 = some x.2) (hpk : x.2.policyKey = wp.namespacedName)
    {m : BpfMaps} (hm : ∀ cg q, m.cgToPolicy cg = some q → s.1.cgToPolicy cg = some q) :
    ∀ e ∈ x.2.containers.entries, ∀ p, (filterKeys pbc inSpec).lookup e.2.name = some p →
      p ≠ 0 ∧ ∀ q, m.cgToPolicy e.2.cgroupID = some q → q = p := by
  intro e he p hp
  rw [lookup_filterKeys] at hp
  split at hp
  · have hpw : r.policyOfWith wp.namespacedName pbc wp.namespacedName e.2.name = some p := by
      rw [policyOfWith_self]
      exact hp
    refine ⟨fun h0 => ?_, fun q hq => ?_⟩
    · have := (hrec.range _ _ _ hpw).1
      rw [h0] at this
      exact absurd this (by decide)
    · obtain ⟨podID, pod, cid, c, hpod, hc, hcg, hpo, -⟩ := hl.enforced _ q (hm _ q hq)
      obtain ⟨-, rfl, -, rfl⟩ := h.same_container hpod hc hx (AList.mem_lookup_iff.mpr he) hcg
      rw [hpk, policyOfWith_self, hp] at hpo
      exact (Option.some.inj hpo).symm
  · cases hp

/-- One pod of the loop keeps `ReconcileLoopInv` and succeeds. -/
theorem ReconcileLoopInv.step (h : PolicyInv r) {next : Nat}
    (hrec : RecordsWith r wp.namespacedName pbc next)
    (hl : ReconcileLoopInv r wp pbc inSpec (x :: rest) s) :
    (reconcilePodStep .none wp (filterKeys pbc inSpec) (filterKeys pbc fun c => !inSpec c) s x).2 =
        none ∧
      ReconcileLoopInv r wp pbc inSpec rest
        (reconcilePodStep .none wp (filterKeys pbc inSpec) (filterKeys pbc fun c => !inSpec c)
          s x).1 := by
  have hx : r.podCache.lookup x.1 = some x.2 := hl.cached x List.mem_cons_self
  have hcached : ∀ y ∈ rest, r.podCache.lookup y.1 = some y.2 :=
    fun y hy => hl.cached y (List.mem_cons_of_mem x hy)
  have hrem : ∀ n q, (filterKeys pbc fun c => !inSpec c).lookup n = some q →
      pbc.lookup n = some q := by
    intro n q hq
    rw [lookup_filterKeys] at hq
    split at hq
    · exact hq
    · cases hq
  unfold reconcilePodStep
  dsimp only
  by_cases hm : x.2.matchPolicy wp.name wp.«namespace» = true
  · -- a pod with the policy's label: its removed containers go, then it takes the policy
    have hpk := policyKey_of_matchPolicy hm
    have hkept : ∀ cg q,
        (removePolicyFromPod .none s.1 wp.namespacedName x.2 s.2
          (filterKeys pbc fun c => !inSpec c)).1.1.cgToPolicy cg = some q →
        s.1.cgToPolicy cg = some q ∧ ∀ e ∈ x.2.containers.entries, e.2.cgroupID = cg →
          (filterKeys pbc fun c => !inSpec c).lookup e.2.name = none :=
      fun _ _ hq => cgToPolicy_of_removePolicyFromPod hq
    have hok := applyPolicyToPod_none_ok
      (removePolicyFromPod .none s.1 wp.namespacedName x.2 s.2
        (filterKeys pbc fun c => !inSpec c)).1.1 x.2 (filterKeys pbc inSpec)
      (h.cgroups_nodup hx) (hl.free h hrec hx hpk fun cg q hq => (hkept cg q hq).1)
    rw [if_neg (by simp [hm]), removePolicyFromPod_none_ok]
    dsimp only
    refine ⟨hok, hcached, ?_, ?_, ?_, ?_, ?_⟩
    · intro n q hn
      rw [removePolicyFromPod_none] at hn
      dsimp only at hn
      rw [lookup_eraseRemoved] at hn
      split at hn
      · cases hn
      · exact hl.sub n q hn
    · intro n q hin hp
      rw [removePolicyFromPod_none]
      dsimp only
      rw [lookup_eraseRemoved, if_neg]
      · exact hl.applied n q hin hp
      · simp [lookup_filterKeys, hin]
    · intro q
      rw [removePolicyFromPod_none]
      dsimp only
      rw [applyPolicyToPod_policyMode]
      exact isSome_eraseRemoved hrec hl.sub hrem _ hl.mode q
    · intro q
      rw [removePolicyFromPod_none]
      dsimp only
      rw [applyPolicyToPod_policyValues]
      exact isSome_eraseRemoved hrec hl.sub hrem _ hl.values q
    · intro cg q hq
      rcases applyPolicyToPod_some _ _ _ _ hq with hq | ⟨cid, c, hc, hcg, hp⟩
      · obtain ⟨hq, hk⟩ := hkept cg q hq
        exact hl.enforced_kept hq hk
      · -- a container of the pod in the spec, with the ID the policy records for it
        rw [lookup_filterKeys] at hp
        split at hp
        · rename_i hin
          refine ⟨x.1, x.2, cid, c, hx, hc, hcg, by rw [hpk, policyOfWith_self]; exact hp,
            fun _ hout => ?_⟩
          rw [hin] at hout
          cases hout
        · cases hp
  · -- a pod without the label is left alone, and no cgroup outside the spec is its
    rw [if_pos (by simpa using hm)]
    refine ⟨rfl, hcached, hl.sub, hl.applied, hl.mode, hl.values, fun cg q hq => ?_⟩
    obtain ⟨podID, pod, cid, c, hpod, hc, hcg, hpo, hrest⟩ := hl.enforced cg q hq
    refine ⟨podID, pod, cid, c, hpod, hc, hcg, hpo, fun hk hin => ?_⟩
    rcases List.mem_cons.mp (hrest hk hin) with hx' | hy
    · rw [← hx'] at hm
      exact absurd (matchPolicy_of_policyKey (h.labels _ _ hpod).1 (h.labels _ _ hpod).2 hk) hm
    · exact hy

/-- At the end of the loop, a state whose records are `s.2` for the policy and whose BPF maps
    are `s.1` keeps `PolicyInv`. -/
theorem ReconcileLoopInv.policyInv (h : PolicyInv r) {next : PolicyID}
    (hrec : RecordsWith r wp.namespacedName pbc next.toNat)
    (hnext : r.nextPolicyID.toNat ≤ next.toNat) (hl : ReconcileLoopInv r wp pbc inSpec [] s)
    {r' : State} (hpol : ∀ k n, r'.policyOf k n = r.policyOfWith wp.namespacedName s.2 k n)
    (hcache : r'.podCache = r.podCache) (hbpf : r'.bpf = s.1) (hnext' : r'.nextPolicyID = next) :
    PolicyInv r' := by
  have hsub : ∀ k n q, r'.policyOf k n = some q →
      r.policyOfWith wp.namespacedName pbc k n = some q :=
    fun k n q hq => policyOfWith_mono hl.sub (by rw [← hpol]; exact hq)
  refine ⟨?_, ?_, ?_, ?_, ?_, ?_, ?_, ?_⟩
  · have := h.next_pos
    rw [hnext']
    omega
  · intro k n p hp
    rw [hnext']
    exact hrec.range k n p (hsub k n p hp)
  · intro k₁ n₁ k₂ n₂ p h₁ h₂
    exact hrec.inj k₁ n₁ k₂ n₂ p (hsub _ _ _ h₁) (hsub _ _ _ h₂)
  · intro q
    rw [hbpf, hl.mode q]
    simp only [State.Recorded, hpol]
  · intro q
    rw [hbpf, hl.values q]
    simp only [State.Recorded, hpol]
  · intro cg q hq
    rw [hbpf] at hq
    obtain ⟨podID, pod, cid, c, hpod, hc, hcg, hpo, hrest⟩ := hl.enforced cg q hq
    refine ⟨podID, pod, cid, c, hcache ▸ hpod, hc, hcg, ?_⟩
    rw [hpol]
    by_cases hk : pod.policyKey = wp.namespacedName
    · -- no pod is left to visit, so the container's name is in the spec and kept its ID
      have hin : inSpec c.name = true := by
        cases hc' : inSpec c.name
        · simpa using hrest hk hc'
        · rfl
      rw [hk, policyOfWith_self] at hpo ⊢
      exact hl.applied _ _ hin hpo
    · rw [policyOfWith_ne hk] at hpo ⊢
      exact hpo
  · rw [hcache]
    exact h.labels
  · rw [hcache]
    exact h.unique

end Loop

/-! ## `ReconcileWP` and whole runs -/

section Runs

variable {r : State}

theorem reconcileWP_policyInv (h : PolicyInv r) (wp : WorkloadPolicy)
    (hroom : r.nextPolicyID.toNat + wp.spec.rulesByContainer.entries.length < 2 ^ 64) :
    (reconcileWP .none r wp).2 = none ∧
      ((reconcileWP .none r wp).1.wpState.lookup wp.namespacedName).map WpInfo.status =
        some ⟨.ready, some wp.spec.mode, none⟩ ∧
      PolicyInv (reconcileWP .none r wp).1 := by
  have hinfo : ∀ n,
      ((r.wpState.lookup wp.namespacedName).getD ⟨∅, .unset⟩).polByContainer.lookup n =
        r.policyOf wp.namespacedName n := by
    intro n
    rcases hw : r.wpState.lookup wp.namespacedName with _ | info <;> simp [State.policyOf, hw]
  obtain ⟨new, hok, hs⟩ := syncWorkloadPolicy_none { r with wpState :=
      (r.wpState.insert wp.namespacedName ((r.wpState.lookup wp.namespacedName).getD ⟨∅, .unset⟩)) }
    wp hroom (by
      intro n q hq
      simp only [AList.lookup_insert, Option.getD_some, hinfo] at hq
      exact ⟨(h.mode q).mpr ⟨_, n, hq⟩, (h.values q).mpr ⟨_, n, hq⟩⟩)
  obtain ⟨hcache, -, hwp, hcg⟩ := syncWorkloadPolicy_frame .none { r with wpState :=
      (r.wpState.insert wp.namespacedName ((r.wpState.lookup wp.namespacedName).getD ⟨∅, .unset⟩)) }
    wp
  simp only [AList.lookup_insert, Option.getD_some] at hs
  have hfresh := fun n q hq => (hs.fresh n q hq).1
  have hrec := recordsWith_of_sync h hinfo hs
  have hstart := reconcileLoopInv_start (fun c => (wp.spec.rulesByContainer.lookup c).isSome) h hcg
    (fun k n q hq => (policyOfWith_mapsCopy hinfo hfresh k n q).mpr (.inl hq))
    (recorded_of_sync hinfo hfresh h.mode hs.mode) (recorded_of_sync hinfo hfresh h.values hs.values)
  obtain ⟨hlok, hl⟩ := ErrLoop.forEach_ok_of_rest _ _ (fun _ _ _ hl => hl.step h hrec) hstart
  unfold reconcileWP
  dsimp only
  rw [hok]
  dsimp only
  rw [hcache, hlok]
  dsimp only
  refine ⟨rfl, by simp [setPolicyStatus], hl.policyInv h hrec hs.counter.1 (fun k n => ?_) rfl rfl rfl⟩
  -- the policy's entry is inserted twice, the second time with the loop's record
  simp only [State.policyOf, hwp, AList.insert_insert]
  by_cases hk : k = wp.namespacedName
  · subst hk
    simp [setPolicyStatus]
  · simp [policyOfWith_ne hk, State.policyOf, AList.lookup_insert_ne hk]

theorem policyInv_step (h : PolicyInv r) (op : Op) (hv : op.Valid r) :
    PolicyInv (op.apply .none r).1 := by
  cases op with
  | addPodContainerFromNri pod => exact policyInv_add h hv
  | removePodContainerFromNri podID cid => exact policyInv_remove h podID cid
  | reconcileWP wp => exact (reconcileWP_policyInv h wp hv).2.2
  | handleWPDelete wp => exact policyInv_delete h wp

theorem policyInv_of_validReachable (hr : ValidReachable r) : PolicyInv r := by
  induction hr with
  | init => exact policyInv_init
  | step op _ hv ih => exact policyInv_step ih op hv

/-- `webRun` is a valid run: the counter has room for the policy's one container, and the pod's
    namespace and label hold no '/' and its cgroup is new. -/
theorem validReachable_webRun : ValidReachable webRun := by
  unfold webRun
  simp only [run]
  refine .step _ (.step _ .init (by simp only [Op.Valid]; decide)) ⟨by decide, by decide, by decide, ?_⟩
  intro _ _ podID entry cid c h
  simp only [Op.apply] at h
  rw [(reconcileWP_frame .none State.init _).podCache] at h
  simp [State.init] at h

theorem lookup_getPolicyStatuses (r : State) (key : NamespacedPolicyName) :
    (getPolicyStatuses r).lookup key = (r.wpState.lookup key).map WpInfo.status :=
  List.dlookup_map₂ key

/-- In every valid run, `ReconcileWP` of a spec the ID counter has room for succeeds, and
    `GetPolicyStatuses` then reports the policy READY in its mode. -/
theorem reconcileWP_ready (hr : ValidReachable r) (wp : WorkloadPolicy)
    (hroom : r.nextPolicyID.toNat + wp.spec.rulesByContainer.entries.length < 2 ^ 64) :
    (reconcileWP .none r wp).2 = none ∧
      (getPolicyStatuses (reconcileWP .none r wp).1).lookup wp.namespacedName =
        some ⟨.ready, some wp.spec.mode, none⟩ := by
  obtain ⟨hok, hstatus, -⟩ := reconcileWP_policyInv (policyInv_of_validReachable hr) wp hroom
  rw [lookup_getPolicyStatuses]
  exact ⟨hok, hstatus⟩

theorem reconcileWP_ready_webRun :
    let wp : WorkloadPolicy := ⟨"default", "p", ⟨.monitor,
      ((∅ : AList _).insert "sidecar" ["/bin/sh"]).insert "app" ["/bin/app"]⟩⟩
    ValidReachable webRun ∧
      webRun.nextPolicyID.toNat + wp.spec.rulesByContainer.entries.length < 2 ^ 64 ∧
      (reconcileWP .none webRun wp).2 = none ∧
      (getPolicyStatuses (reconcileWP .none webRun wp).1).lookup wp.namespacedName =
        some ⟨.ready, some wp.spec.mode, none⟩ := by
  intro wp
  have hroom : webRun.nextPolicyID.toNat + wp.spec.rulesByContainer.entries.length < 2 ^ 64 := by
    decide +kernel
  exact ⟨validReachable_webRun, hroom, reconcileWP_ready validReachable_webRun wp hroom⟩

/-- In every valid run, a recorded policy ID is nonzero, below the counter, and recorded for
    one (policy, container name) pair only. -/
theorem policyID_recorded_once (hr : ValidReachable r) {key : NamespacedPolicyName}
    {name : ContainerName} {p : PolicyID} (h : r.policyOf key name = some p) :
    0 < p.toNat ∧ p.toNat < r.nextPolicyID.toNat ∧
      ∀ key' name', r.policyOf key' name' = some p → key' = key ∧ name' = name := by
  have hi := policyInv_of_validReachable hr
  obtain ⟨hpos, hlt⟩ := hi.range key name p h
  exact ⟨hpos, hlt, fun key' name' h' => hi.inj key' name' key name p h' h⟩

theorem policyID_recorded_once_webRun :
    ValidReachable webRun ∧ webRun.policyOf "default/p" "app" = some 1 ∧
      0 < (1 : PolicyID).toNat ∧ (1 : PolicyID).toNat < webRun.nextPolicyID.toNat := by
  have h : webRun.policyOf "default/p" "app" = some 1 := by decide +kernel
  obtain ⟨hpos, hlt, -⟩ := policyID_recorded_once validReachable_webRun h
  exact ⟨validReachable_webRun, h, hpos, hlt⟩

/-- In every valid run, `policy_mode_map` and the values maps have an entry for a policy ID
    exactly when some policy records it: none is leaked, none is missing. -/
theorem bpf_entries_recorded (hr : ValidReachable r) (p : PolicyID) :
    ((r.bpf.policyMode p).isSome ↔ r.Recorded p) ∧ ((r.bpf.policyValues p).isSome ↔ r.Recorded p) :=
  ⟨(policyInv_of_validReachable hr).mode p, (policyInv_of_validReachable hr).values p⟩

theorem bpf_entries_recorded_webRun :
    ValidReachable webRun ∧ ((webRun.bpf.policyMode 1).isSome ↔ webRun.Recorded 1) :=
  ⟨validReachable_webRun, (bpf_entries_recorded validReachable_webRun 1).1⟩

/-- In every valid run, a cgroup in `cg_to_policy_map` is a cached container's, and holds the ID
    that the policy its pod is labelled with records for the container's name. -/
theorem cgToPolicy_policyOf (hr : ValidReachable r) {cg : CgroupID} {p : PolicyID}
    (h : r.bpf.cgToPolicy cg = some p) :
    ∃ podID pod cid c, r.podCache.lookup podID = some pod ∧ pod.containers.lookup cid = some c ∧
      c.cgroupID = cg ∧ r.policyOf pod.policyKey c.name = some p :=
  (policyInv_of_validReachable hr).enforced cg p h

theorem cgToPolicy_policyOf_webRun :
    ValidReachable webRun ∧ webRun.bpf.cgToPolicy 100 = some 1 ∧
      ∃ podID pod cid c, webRun.podCache.lookup podID = some pod ∧
        pod.containers.lookup cid = some c ∧ c.cgroupID = 100 ∧
        webRun.policyOf pod.policyKey c.name = some 1 := by
  have h : webRun.bpf.cgToPolicy 100 = some 1 := by decide +kernel
  exact ⟨validReachable_webRun, h, cgToPolicy_policyOf validReachable_webRun h⟩

end Runs

end RuntimeEnforcer.Resolver
