import Mathlib
import RuntimeEnforcer.Lib.KeyedList
import RuntimeEnforcer.Lib.SortedMerge
import RuntimeEnforcer.Podworkload.Workload
import RuntimeEnforcer.Controller.Status

/-
  `buildWorkloadProtectionRows` of the kubectl plugin
  (`internal/kubectlplugin/policy_show_protection.go`): the table of workloads and the policies
  protecting them.

  Each labelled pod gives its workload's row under the key (namespace, workload name). The
  first pod with a key wins, and later pods with that key are skipped, whatever their kind or
  policy. The rows are then sorted by their `Workload` string. Go iterates `rowsByKey` in no
  fixed order and `slices.SortFunc` is not stable. The model iterates in insertion order and
  sorts with a stable merge sort, and the two agree when no two rows share a `Workload`
  string.

  `addPodRows_lookup` says what the loop builds: each key's row is that of the first pod with
  the key. So every labelled pod's key has a row (`buildWorkloadProtectionRows_represents`).
  When pods that share a key agree on its row, the table is the same for every order of the
  pods and of the policies (`buildWorkloadProtectionRows_perm`). Without that agreement it is
  not: a Deployment and a DaemonSet of the same name give one row, the first pod's
  (`buildWorkloadProtectionRows_depends_on_order`).
-/

namespace RuntimeEnforcer.Kubectlplugin

open Podworkload Controller PolicyMode

def unknownMode : List Char := "Unknown".toList
def missingStatus : List Char := "Missing".toList
def policyLabelKey : String := "security.rancher.io/policy"

/-- What `buildWorkloadProtectionRows` reads of a Pod. -/
structure Pod where
  «namespace» : List Char
  name : List Char
  labels : Labels

/-- `workloadProtectionRow`. -/
structure WorkloadProtectionRow where
  workload : List Char
  kind : List Char
  policy : List Char
  mode : List Char
  status : List Char
  deriving DecidableEq, Repr

/-- A `types.NamespacedName`. -/
abbrev Key := List Char × List Char

/-- `NamespacedName.String()`. -/
def Key.toString (k : Key) : List Char := k.1 ++ '/' :: k.2

/-- `modeToUpper`; the CRD's enum leaves no other mode to panic on. -/
def modeToUpper : Mode → List Char
  | .monitor => "Monitor".toList
  | .protect => "Protect".toList

/-- `string(policy.Status.Phase)`. -/
def phaseString : Option Phase → List Char
  | none => []
  | some .transitioning => "Transitioning".toList
  | some .failed => "Failed".toList
  | some .ready => "Ready".toList

/-- `policyByNamespacedName`: a later policy with the same namespaced name replaces an earlier
    one. -/
def policyByNamespacedName (workloadPolicies : List WorkloadPolicy) :
    AList fun _ : Key => WorkloadPolicy :=
  workloadPolicies.foldl (fun m policy => m.insert (policy.namespace.toList, policy.name.toList) policy) ∅

/-- The row of a workload protected, or not, by the policy named `policyName`. -/
def protectionRow (policies : AList fun _ : Key => WorkloadPolicy) (key : Key) (kind : Kind)
    (policyName : List Char) : WorkloadProtectionRow :=
  match policies.lookup (key.1, policyName) with
  | some policy =>
    ⟨key.toString, kind.toString, policyName, modeToUpper policy.mode, phaseString policy.status.phase⟩
  | none => ⟨key.toString, kind.toString, policyName, unknownMode, missingStatus⟩

/-- One iteration of the loop over the pods; `none` is a panic of `GetTruncatedWorkloadInfo`. -/
def addPodRow (policies : AList fun _ : Key => WorkloadPolicy)
    (rowsByKey : AList fun _ : Key => WorkloadProtectionRow) (pod : Pod) :
    Option (AList fun _ : Key => WorkloadProtectionRow) :=
  let policyName := (pod.labels.lookup policyLabelKey).getD []
  if policyName = [] then some rowsByKey
  else
    match getTruncatedWorkloadInfo pod.name pod.labels with
    | none => none
    | some (workloadName, workloadKind, _) =>
      let workloadNamespacedName : Key := (pod.namespace, workloadName)
      if (rowsByKey.lookup workloadNamespacedName).isSome then some rowsByKey
      else
        some (rowsByKey.insert workloadNamespacedName
          (protectionRow policies workloadNamespacedName workloadKind policyName))

/-- The loop over the pods. -/
def addPodRows (policies : AList fun _ : Key => WorkloadPolicy) :
    AList (fun _ : Key => WorkloadProtectionRow) → List Pod →
      Option (AList fun _ : Key => WorkloadProtectionRow)
  | rowsByKey, [] => some rowsByKey
  | rowsByKey, pod :: pods => (addPodRow policies rowsByKey pod).bind (addPodRows policies · pods)

/-- `buildWorkloadProtectionRows`. -/
def buildWorkloadProtectionRows (pods : List Pod) (workloadPolicies : List WorkloadPolicy) :
    Option (List WorkloadProtectionRow) :=
  (addPodRows (policyByNamespacedName workloadPolicies) ∅ pods).map fun rowsByKey =>
    (rowsByKey.entries.map (·.2)).mergeSort fun a b => decide (a.workload ≤ b.workload)

/-! ## What each pod stands for -/

/-- The workload key, kind and policy name of a pod with a policy label, when
    `GetTruncatedWorkloadInfo` parses it. -/
def podWorkload (pod : Pod) : Option (Key × Kind × List Char) :=
  let policyName := (pod.labels.lookup policyLabelKey).getD []
  if policyName = [] then none
  else (getTruncatedWorkloadInfo pod.name pod.labels).map fun r => ((pod.namespace, r.1), r.2.1, policyName)

/-- The row a pod stands for, under its workload's key. -/
def podRow (policies : AList fun _ : Key => WorkloadPolicy) (pod : Pod) :
    Option (Σ _ : Key, WorkloadProtectionRow) :=
  (podWorkload pod).map fun w => ⟨w.1, protectionRow policies w.1 w.2.1 w.2.2⟩

/-- `GetTruncatedWorkloadInfo` does not panic on the pod, if it has a policy label. -/
def Parses (pod : Pod) : Prop :=
  (pod.labels.lookup policyLabelKey).getD [] ≠ [] → (getTruncatedWorkloadInfo pod.name pod.labels).isSome

section Loop

variable (policies : AList fun _ : Key => WorkloadPolicy)

/-- A pod that parses adds its row, unless its key has one already. -/
theorem addPodRow_eq (rowsByKey : AList fun _ : Key => WorkloadProtectionRow) {pod : Pod}
    (h : Parses pod) :
    addPodRow policies rowsByKey pod = some (match podRow policies pod with
      | none => rowsByKey
      | some e => if (rowsByKey.lookup e.1).isSome then rowsByKey else rowsByKey.insert e.1 e.2) := by
  unfold addPodRow podRow podWorkload Parses at *
  dsimp only at h ⊢
  split_ifs with hlabel
  · rfl
  · rcases hinfo : getTruncatedWorkloadInfo pod.name pod.labels with _ | ⟨workloadName, kind, flag⟩
    · simp [hinfo] at h
      exact absurd h hlabel
    · simp only [Option.map_some]
      split_ifs <;> rfl

/-- After one pod, each key's row is the one it had, or else the pod's. -/
theorem lookup_addPodRow {rowsByKey rowsByKey' : AList fun _ : Key => WorkloadProtectionRow}
    {pod : Pod} (h : Parses pod) (hrow : addPodRow policies rowsByKey pod = some rowsByKey')
    (k : Key) :
    rowsByKey'.lookup k = (rowsByKey.lookup k).or ((podRow policies pod).toList.dlookup k) := by
  rw [addPodRow_eq policies rowsByKey h, Option.some.injEq] at hrow
  subst hrow
  rcases hp : podRow policies pod with _ | ⟨k₀, row⟩
  · simp
  · dsimp only
    by_cases hk : k = k₀
    · subst hk
      split_ifs with hsome
      · obtain ⟨r, hr⟩ := Option.isSome_iff_exists.mp hsome
        simp [hr]
      · simp [Option.not_isSome_iff_eq_none.mp hsome]
    · have hnil : List.dlookup k [(⟨k₀, row⟩ : Σ _ : Key, WorkloadProtectionRow)] = none := by
        rw [List.dlookup_cons_ne _ _ hk, List.dlookup_nil]
      split_ifs <;> simp [AList.lookup_insert_ne hk, hnil]

/-- The loop gives each key the row of the first pod with the key. -/
theorem addPodRows_lookup :
    ∀ {pods : List Pod} (rowsByKey : AList fun _ : Key => WorkloadProtectionRow),
      (∀ pod ∈ pods, Parses pod) →
      ∃ rowsByKey', addPodRows policies rowsByKey pods = some rowsByKey' ∧
        ∀ k, rowsByKey'.lookup k =
          (rowsByKey.lookup k).or ((pods.filterMap (podRow policies)).dlookup k)
  | [], rowsByKey, _ => ⟨rowsByKey, rfl, fun k => by simp⟩
  | pod :: pods, rowsByKey, hparse => by
    have hpod := hparse pod List.mem_cons_self
    obtain ⟨rowsByKey₁, hrow₁⟩ : ∃ r, addPodRow policies rowsByKey pod = some r :=
      ⟨_, addPodRow_eq policies rowsByKey hpod⟩
    obtain ⟨rowsByKey', hrows, hlookup⟩ :=
      addPodRows_lookup rowsByKey₁ fun q hq => hparse q (List.mem_cons_of_mem _ hq)
    refine ⟨rowsByKey', by simp only [addPodRows, hrow₁, Option.bind_some, hrows], fun k => ?_⟩
    -- the pod's row comes before those of the pods after it
    have hsplit : (pod :: pods).filterMap (podRow policies) =
        (podRow policies pod).toList ++ pods.filterMap (podRow policies) := by
      rw [List.filterMap_cons]
      cases podRow policies pod <;> rfl
    rw [hlookup, lookup_addPodRow policies hpod hrow₁, hsplit, List.dlookup_append, Option.or_assoc]

end Loop

/-! ## The rows -/

theorem protectionRow_workload (policies : AList fun _ : Key => WorkloadPolicy) (key : Key)
    (kind : Kind) (policyName : List Char) :
    (protectionRow policies key kind policyName).workload = key.toString := by
  unfold protectionRow
  split <;> rfl

theorem podWorkload_namespace {pod : Pod} {w : Key × Kind × List Char} (h : podWorkload pod = some w) :
    w.1.1 = pod.namespace := by
  unfold podWorkload at h
  dsimp only at h
  split_ifs at h
  obtain ⟨r, -, rfl⟩ := Option.map_eq_some_iff.mp h
  rfl

theorem podRow_eq_some {policies : AList fun _ : Key => WorkloadPolicy} {pod : Pod}
    {e : Σ _ : Key, WorkloadProtectionRow} (h : podRow policies pod = some e) :
    ∃ w, podWorkload pod = some w ∧ e = ⟨w.1, protectionRow policies w.1 w.2.1 w.2.2⟩ := by
  obtain ⟨w, hw, rfl⟩ := Option.map_eq_some_iff.mp h
  exact ⟨w, hw, rfl⟩

/-- A `Workload` string names one key, for namespaces without a `/`. -/
theorem Key.toString_inj {k k' : Key} (h : '/' ∉ k.1) (h' : '/' ∉ k'.1)
    (heq : k.toString = k'.toString) : k = k' := by
  have hns : ∀ ns rest : List Char, '/' ∉ ns → (ns ++ '/' :: rest).takeWhile (· ≠ '/') = ns := by
    intro ns rest hns
    rw [List.takeWhile_append_of_pos (fun c hc => by
      have : c ≠ '/' := fun hc' => hns (hc' ▸ hc)
      simpa using this)]
    simp
  have h1 : k.1 = k'.1 := by
    have := congrArg (List.takeWhile (· ≠ '/')) heq
    rwa [Key.toString, Key.toString, hns _ _ h, hns _ _ h'] at this
  have h2 : k.2 = k'.2 := by
    unfold Key.toString at heq
    rw [h1] at heq
    exact List.cons_injective (List.append_cancel_left heq)
  exact Prod.ext h1 h2

/-- What an entry of the loop's map is: a pod's row, under a key in the pod's namespace. -/
theorem entry_of_lookup {policies : AList fun _ : Key => WorkloadPolicy} {pods : List Pod}
    {rowsByKey : AList fun _ : Key => WorkloadProtectionRow}
    (hlookup : ∀ k, rowsByKey.lookup k = (pods.filterMap (podRow policies)).dlookup k)
    {e : Σ _ : Key, WorkloadProtectionRow} (he : e ∈ rowsByKey.entries) :
    ∃ pod ∈ pods, ∃ w, podWorkload pod = some w ∧ e = ⟨w.1, protectionRow policies w.1 w.2.1 w.2.2⟩ := by
  have hmem : e.2 ∈ (pods.filterMap (podRow policies)).dlookup e.1 := by
    rw [← hlookup]
    exact AList.mem_lookup_iff.mpr he
  obtain ⟨pod, hpod, hrow⟩ := List.mem_filterMap.mp (List.of_mem_dlookup hmem)
  obtain ⟨w, hw, heq⟩ := podRow_eq_some hrow
  exact ⟨pod, hpod, w, hw, heq⟩

/-! ## What the table shows -/

/-- Every labelled pod that parses has its workload's row in the table. When the pods of that
    workload agree on its kind and policy, the row is the pod's. -/
theorem buildWorkloadProtectionRows_represents {pods : List Pod}
    {workloadPolicies : List WorkloadPolicy} (hparse : ∀ pod ∈ pods, Parses pod) :
    ∃ rows, buildWorkloadProtectionRows pods workloadPolicies = some rows ∧
      ∀ pod ∈ pods, ∀ w, podWorkload pod = some w →
        (∃ row ∈ rows, row.workload = w.1.toString) ∧
        ((∀ q ∈ pods, ∀ w', podWorkload q = some w' → w'.1 = w.1 → w' = w) →
          protectionRow (policyByNamespacedName workloadPolicies) w.1 w.2.1 w.2.2 ∈ rows) := by
  obtain ⟨rowsByKey, hrows, hlookup⟩ :=
    addPodRows_lookup (policyByNamespacedName workloadPolicies) ∅ hparse
  simp only [AList.lookup_empty, Option.none_or] at hlookup
  refine ⟨_, by rw [buildWorkloadProtectionRows, hrows, Option.map_some], fun pod hpod w hw => ?_⟩
  -- the pod's key has the row of the first pod with that key
  have hin : (⟨w.1, protectionRow (policyByNamespacedName workloadPolicies) w.1 w.2.1 w.2.2⟩ :
      Σ _ : Key, WorkloadProtectionRow) ∈ pods.filterMap (podRow (policyByNamespacedName workloadPolicies)) :=
    List.mem_filterMap.mpr ⟨pod, hpod, by rw [podRow, hw, Option.map_some]⟩
  obtain ⟨row, hrow⟩ := Option.isSome_iff_exists.mp (List.dlookup_isSome.mpr (List.mem_keys_of_mem hin))
  have hentry : (⟨w.1, row⟩ : Σ _ : Key, WorkloadProtectionRow) ∈ rowsByKey.entries :=
    AList.mem_lookup_iff.mp (by rw [hlookup, hrow]; rfl)
  have hmem : row ∈ (rowsByKey.entries.map (·.2)).mergeSort fun a b => decide (a.workload ≤ b.workload) :=
    List.mem_mergeSort.mpr (List.mem_map_of_mem hentry)
  obtain ⟨q, hq, w', hw', heq⟩ := entry_of_lookup hlookup hentry
  have hkey : w'.1 = w.1 := (congrArg Sigma.fst heq).symm
  have hrow' : row = protectionRow (policyByNamespacedName workloadPolicies) w'.1 w'.2.1 w'.2.2 :=
    congrArg Sigma.snd heq
  refine ⟨⟨row, hmem, by rw [hrow', protectionRow_workload, hkey]⟩, fun hagree => ?_⟩
  rw [hagree q hq w' hw' hkey] at hrow'
  exact hrow' ▸ hmem

/-- The policies a namespaced name finds do not depend on their order, when no two share a
    namespaced name. -/
theorem lookup_policyByNamespacedName (workloadPolicies : List WorkloadPolicy) (k : Key) :
    (policyByNamespacedName workloadPolicies).lookup k =
      workloadPolicies.reverse.find? fun p => (p.namespace.toList, p.name.toList) = k := by
  induction workloadPolicies using List.reverseRecOn with
  | nil => rfl
  | append_singleton l p ih =>
    have hfold : policyByNamespacedName (l ++ [p]) =
        (policyByNamespacedName l).insert (p.namespace.toList, p.name.toList) p := by
      simp only [policyByNamespacedName, List.foldl_append, List.foldl_cons, List.foldl_nil]
    rw [hfold, List.reverse_append, List.reverse_singleton, List.singleton_append, List.find?_cons]
    by_cases hk : (p.namespace.toList, p.name.toList) = k
    · subst hk
      simp
    · rw [AList.lookup_insert_ne (Ne.symm hk), ih]
      simp [hk]

theorem lookup_policyByNamespacedName_perm {wps wps' : List WorkloadPolicy} (h : wps.Perm wps')
    (hnames : (wps.map fun p => (p.namespace.toList, p.name.toList)).Nodup) (k : Key) :
    (policyByNamespacedName wps).lookup k = (policyByNamespacedName wps').lookup k := by
  rw [lookup_policyByNamespacedName, lookup_policyByNamespacedName]
  apply List.find?_eq_find?_of_perm ((List.reverse_perm wps).trans (h.trans (List.reverse_perm wps').symm))
  intro x hx y hy
  simp only [Set.mem_ofPred_eq, List.mem_reverse, decide_eq_true_eq] at hx hy
  exact List.inj_on_of_nodup_map hnames hx.1 hy.1 (hx.2.trans hy.2.symm)

theorem podRow_congr {policies policies' : AList fun _ : Key => WorkloadPolicy}
    (h : ∀ k, policies.lookup k = policies'.lookup k) : podRow policies = podRow policies' := by
  funext pod
  simp only [podRow, protectionRow, h]

/-- The table does not depend on the order of the pods or of the policies, when no two
    policies share a namespaced name, no namespace holds a `/`, and labelled pods that share a
    namespace and a workload name agree on its kind and policy. -/
theorem buildWorkloadProtectionRows_perm {pods pods' : List Pod}
    {workloadPolicies workloadPolicies' : List WorkloadPolicy} (hpods : pods.Perm pods')
    (hpolicies : workloadPolicies.Perm workloadPolicies')
    (hparse : ∀ pod ∈ pods, Parses pod) (hslash : ∀ pod ∈ pods, '/' ∉ pod.namespace)
    (hnames : (workloadPolicies.map fun p => (p.namespace.toList, p.name.toList)).Nodup)
    (hagree : ∀ p ∈ pods, ∀ q ∈ pods, ∀ w w', podWorkload p = some w → podWorkload q = some w' →
      w.1 = w'.1 → w = w') :
    buildWorkloadProtectionRows pods workloadPolicies =
      buildWorkloadProtectionRows pods' workloadPolicies' := by
  have hrowsEq : podRow (policyByNamespacedName workloadPolicies') =
      podRow (policyByNamespacedName workloadPolicies) :=
    podRow_congr fun k => (lookup_policyByNamespacedName_perm hpolicies hnames k).symm
  obtain ⟨m, hm, hml⟩ := addPodRows_lookup (policyByNamespacedName workloadPolicies) ∅ hparse
  obtain ⟨m', hm', hml'⟩ := addPodRows_lookup (policyByNamespacedName workloadPolicies') ∅
    fun pod h => hparse pod (hpods.mem_iff.mpr h)
  simp only [AList.lookup_empty, Option.none_or] at hml hml'
  rw [hrowsEq] at hml'
  -- pods that share a key give the same row
  have hrowsAgree : KeyedList.Agree (pods.filterMap (podRow (policyByNamespacedName workloadPolicies))) := by
    intro e he e' he' hk
    obtain ⟨p, hp, hpe⟩ := List.mem_filterMap.mp he
    obtain ⟨q, hq, hqe⟩ := List.mem_filterMap.mp he'
    obtain ⟨w, hw, rfl⟩ := podRow_eq_some hpe
    obtain ⟨w', hw', rfl⟩ := podRow_eq_some hqe
    rw [hagree p hp q hq w w' hw hw' hk]
  have hsame : ∀ k, m.lookup k = m'.lookup k := fun k => by
    rw [hml, hml']
    exact KeyedList.dlookup_eq_of_perm (hpods.filterMap _) hrowsAgree k
  have hentries : m.entries.Perm m'.entries :=
    List.lookup_ext m.nodupKeys m'.nodupKeys fun x y => by
      show y ∈ m.lookup x ↔ y ∈ m'.lookup x
      rw [hsame]
  -- a row's `Workload` string tells it apart from the other rows
  have hkey : ∀ a ∈ m.entries.map (·.2), ∀ b ∈ m.entries.map (·.2), a.workload = b.workload → a = b := by
    intro a ha b hb hab
    obtain ⟨ea, hea, rfl⟩ := List.mem_map.mp ha
    obtain ⟨eb, heb, rfl⟩ := List.mem_map.mp hb
    obtain ⟨p, hp, w, hw, rfl⟩ := entry_of_lookup hml hea
    obtain ⟨q, hq, w', hw', rfl⟩ := entry_of_lookup hml heb
    dsimp only at hab ⊢
    rw [protectionRow_workload, protectionRow_workload] at hab
    have hk := Key.toString_inj (podWorkload_namespace hw ▸ hslash p hp)
      (podWorkload_namespace hw' ▸ hslash q hq) hab
    rw [hagree p hp q hq w w' hw hw' hk]
  have hsorted : ∀ l : List WorkloadProtectionRow,
      (l.mergeSort fun a b => decide (a.workload ≤ b.workload)).Pairwise
        fun a b => a.workload ≤ b.workload :=
    SortedMerge.sortBy_sorted WorkloadProtectionRow.workload
  rw [buildWorkloadProtectionRows, buildWorkloadProtectionRows, hm, hm', Option.map_some, Option.map_some]
  congr 1
  have hperm : ((m.entries.map (·.2)).mergeSort fun a b => decide (a.workload ≤ b.workload)).Perm
      ((m'.entries.map (·.2)).mergeSort fun a b => decide (a.workload ≤ b.workload)) :=
    ((List.mergeSort_perm _ _).trans (hentries.map (·.2))).trans (List.mergeSort_perm _ _).symm
  exact KeyedList.eq_of_perm_of_sorted_key WorkloadProtectionRow.workload hperm (hsorted _) (hsorted _)
    fun a ha b hb => hkey a (List.mem_mergeSort.mp ha) b (List.mem_mergeSort.mp hb)

/-! ## One order against another -/

/-- A Deployment `web` under policy `p1`'s label. -/
def webDeploymentPod : Pod :=
  ⟨"default".toList, "web-6d4b9f7c8-q8fcg".toList,
    ((∅ : Labels).insert podTemplateHashLabel "6d4b9f7c8".toList).insert policyLabelKey "p1".toList⟩

/-- A DaemonSet `web`, in the same namespace, under policy `p2`'s label. -/
def webDaemonSetPod : Pod :=
  ⟨"default".toList, "web-x7k2p".toList,
    ((∅ : Labels).insert daemonsetLabel "5f8d9c7b6".toList).insert policyLabelKey "p2".toList⟩

/-- The two pods in either order give one row, the first pod's: the table depends on the order
    of the pods, and one of the two workloads has no row. -/
theorem buildWorkloadProtectionRows_depends_on_order :
    buildWorkloadProtectionRows [webDeploymentPod, webDaemonSetPod] [] =
        some [⟨"default/web".toList, "Deployment".toList, "p1".toList, unknownMode, missingStatus⟩] ∧
      buildWorkloadProtectionRows [webDaemonSetPod, webDeploymentPod] [] =
        some [⟨"default/web".toList, "DaemonSet".toList, "p2".toList, unknownMode, missingStatus⟩] := by
  decide +kernel

end RuntimeEnforcer.Kubectlplugin
