import Mathlib

/-
  `api/v1alpha1/workloadpolicyproposal_types.go` and the function that
  `LearningReconciler.reconcile` (`internal/eventhandler/learning_controller.go`) passes to
  `CreateOrUpdate`: what one learning write does to a `WorkloadPolicyProposal`.

  `mutate` leaves a proposal alone when it is approved or full. Otherwise it does what
  `AddProcess` does to the rules (`mutate_cases`). So a learning write keeps every
  (container, executable) pair and adds at most the event's (`allows_mutate`). It keeps each
  `Allowed` list duplicate-free (`allowedNodup_mutate`), and it takes the total past
  `PolicyProposalMaxExecutables` only if it was past it already (`getExecutablesLength_mutate`).
-/

namespace RuntimeEnforcer.Learning

def policyProposalMaxExecutables : Nat := 100
def approvalLabelKey : String := "security.rancher.io/policy-ready"

/-- `metav1.OwnerReference`: the fields learning sets. -/
structure OwnerReference where
  kind : String
  name : String
  deriving DecidableEq, Repr

/-- `WorkloadPolicyProposal`: its labels, its owner references, and each container's `Allowed`
    executables. -/
structure Proposal where
  labels : AList fun _ : String => String
  ownerReferences : List OwnerReference
  rulesByContainer : AList fun _ : String => List String

/-- Equality of proposals decided on the entries of their maps, so that it evaluates: the
    instance `AList` has goes through a rewrite. -/
instance : DecidableEq Proposal := fun p q =>
  decidable_of_iff (p.labels.entries = q.labels.entries ∧ p.ownerReferences = q.ownerReferences ∧
      p.rulesByContainer.entries = q.rulesByContainer.entries) (by
    obtain ⟨l₁, o₁, r₁⟩ := p
    obtain ⟨l₂, o₂, r₂⟩ := q
    rw [Proposal.mk.injEq, AList.ext_iff, AList.ext_iff])

/-- The object `reconcile` builds before `CreateOrUpdate`: a name and a namespace only. -/
def Proposal.empty : Proposal := ⟨∅, [], ∅⟩

namespace Proposal

/-- `getExecutablesLength`. -/
def getExecutablesLength (p : Proposal) : Nat :=
  (p.rulesByContainer.entries.map fun e => e.2.length).sum

/-- `IsFull`. -/
def isFull (p : Proposal) : Bool :=
  decide (policyProposalMaxExecutables ≤ p.getExecutablesLength)

/-- `AddProcess`. -/
def addProcess (p : Proposal) (containerName executable : String) : Proposal :=
  match p.rulesByContainer.lookup containerName with
  | none => { p with rulesByContainer := p.rulesByContainer.insert containerName [executable] }
  | some allowed =>
    if allowed.contains executable then p
    else { p with rulesByContainer := p.rulesByContainer.insert containerName (allowed ++ [executable]) }

/-- The proposal lets `executable` run in `containerName`. -/
def allows (p : Proposal) (containerName executable : String) : Bool :=
  (p.rulesByContainer.lookup containerName).any fun allowed => allowed.contains executable

/-- No `Allowed` list names an executable twice. -/
def AllowedNodup (p : Proposal) : Prop :=
  ∀ c allowed, p.rulesByContainer.lookup c = some allowed → allowed.Nodup

end Proposal

/-- `eventscraper.KubeProcessInfo`: the fields learning reads. -/
structure KubeProcessInfo where
  «namespace» : String
  workload : String
  workloadKind : String
  containerName : String
  executablePath : String
  policyName : String
  deriving DecidableEq, Repr

/-- The function `reconcile` passes to `CreateOrUpdate`, with the default `OwnerRefEnricher`. -/
def mutate (req : KubeProcessInfo) (p : Proposal) : Proposal :=
  if (p.labels.lookup approvalLabelKey).getD "" = "true" then p
  else if p.isFull then p
  else
    let p := p.addProcess req.containerName req.executablePath
    if p.ownerReferences.length ≠ 0 then p
    else { p with ownerReferences := [⟨req.workloadKind, req.workload⟩] }

/-! ## Sizes after an insert -/

/-- Inserting into a map replaces the old value's size by the new one's. -/
theorem sum_insert_entries {β : Type} (f : β → Nat) (s : AList fun _ : String => β) (a : String)
    (b : β) :
    ((s.insert a b).entries.map fun e => f e.2).sum + ((s.lookup a).map f).getD 0 =
      (s.entries.map fun e => f e.2).sum + f b := by
  rw [AList.entries_insert, List.map_cons, List.sum_cons]
  by_cases ha : a ∈ s.entries.keys
  · obtain ⟨old, l₁, l₂, hl₁, hs, hk⟩ := List.exists_of_kerase ha
    have hlook : s.lookup a = some old := by
      rw [AList.lookup, hs, List.dlookup_append, List.dlookup_eq_none.mpr hl₁, Option.none_or,
        List.dlookup_cons_eq]
    rw [hk, hlook, hs]
    simp only [List.map_append, List.map_cons, List.sum_append, List.sum_cons, Option.map_some,
      Option.getD_some]
    omega
  · have hnone : s.lookup a = none := AList.lookup_eq_none.mpr ha
    rw [List.kerase_of_notMem_keys ha, hnone]
    simp only [Option.map_none, Option.getD_none]
    omega

/-! ## `AddProcess` -/

namespace Proposal

variable {p : Proposal} {c e : String}

theorem getExecutablesLength_addProcess (p : Proposal) (c e : String) :
    (p.addProcess c e).getExecutablesLength ≤ p.getExecutablesLength + 1 := by
  have hsum := sum_insert_entries List.length p.rulesByContainer c
  unfold addProcess getExecutablesLength
  rcases hl : p.rulesByContainer.lookup c with _ | allowed
  · have h := hsum [e]
    rw [hl] at h
    simp only [Option.map_none, Option.getD_none, List.length_singleton] at h
    dsimp only
    omega
  · dsimp only
    split_ifs
    · omega
    · have h := hsum (allowed ++ [e])
      rw [hl] at h
      simp only [Option.map_some, Option.getD_some, List.length_append,
        List.length_singleton] at h
      dsimp only
      omega

theorem allows_addProcess {c' e' : String} :
    (p.addProcess c e).allows c' e' ↔ p.allows c' e' ∨ (c' = c ∧ e' = e) := by
  unfold addProcess allows
  by_cases hc : c' = c
  · subst hc
    rcases hl : p.rulesByContainer.lookup c' with _ | allowed
    · simp
    · dsimp only
      split_ifs with he
      · simp only [hl, Option.any_some, true_and]
        constructor
        · exact Or.inl
        · rintro (h | rfl)
          · exact h
          · exact he
      · simp
  · rcases hl : p.rulesByContainer.lookup c with _ | allowed
    · simp [AList.lookup_insert_ne hc, hc]
    · dsimp only
      split_ifs
      · simp [hc]
      · simp [AList.lookup_insert_ne hc, hc]

theorem allowedNodup_addProcess (h : p.AllowedNodup) (c e : String) :
    (p.addProcess c e).AllowedNodup := by
  unfold addProcess
  intro c' allowed' hc'
  rcases hl : p.rulesByContainer.lookup c with _ | allowed
  · rw [hl] at hc'
    by_cases hcc : c' = c
    · subst hcc
      simp only [AList.lookup_insert, Option.some.injEq] at hc'
      rw [← hc']
      exact List.nodup_singleton e
    · rw [AList.lookup_insert_ne hcc] at hc'
      exact h c' allowed' hc'
  · rw [hl] at hc'
    dsimp only at hc'
    split_ifs at hc' with he
    · exact h c' allowed' hc'
    · by_cases hcc : c' = c
      · subst hcc
        simp only [AList.lookup_insert, Option.some.injEq] at hc'
        rw [← hc', List.nodup_append]
        refine ⟨h c' allowed hl, List.nodup_singleton e, ?_⟩
        intro x hx y hy hxy
        rw [List.mem_singleton] at hy
        subst hy hxy
        exact he (List.contains_iff_mem.mpr hx)
      · rw [AList.lookup_insert_ne hcc] at hc'
        exact h c' allowed' hc'

end Proposal

/-! ## The mutate function -/

section Mutate

variable {req : KubeProcessInfo} {p : Proposal}

/-- A learning write changes nothing, or it changes the rules as `AddProcess` does on a proposal
    that is not full. -/
theorem mutate_cases (req : KubeProcessInfo) (p : Proposal) :
    mutate req p = p ∨
      (p.isFull = false ∧ (mutate req p).rulesByContainer =
        (p.addProcess req.containerName req.executablePath).rulesByContainer) := by
  unfold mutate
  dsimp only
  split_ifs with happ hfull hown
  · exact Or.inl rfl
  · exact Or.inl rfl
  · exact Or.inr ⟨by simpa using hfull, rfl⟩
  · exact Or.inr ⟨by simpa using hfull, rfl⟩

theorem getExecutablesLength_mutate :
    (mutate req p).getExecutablesLength ≤
      max policyProposalMaxExecutables p.getExecutablesLength := by
  rcases mutate_cases req p with h | ⟨hfull, hrules⟩
  · rw [h]
    exact le_max_right _ _
  · have hlt : p.getExecutablesLength < policyProposalMaxExecutables := by
      simpa [Proposal.isFull] using hfull
    have hle := p.getExecutablesLength_addProcess req.containerName req.executablePath
    have heq : (mutate req p).getExecutablesLength =
        (p.addProcess req.containerName req.executablePath).getExecutablesLength := by
      unfold Proposal.getExecutablesLength
      rw [hrules]
    omega

theorem allows_mutate {c e : String} (h : (mutate req p).allows c e) :
    p.allows c e ∨ (c = req.containerName ∧ e = req.executablePath) := by
  rcases mutate_cases req p with hm | ⟨-, hrules⟩
  · rw [hm] at h
    exact Or.inl h
  · have h' : (p.addProcess req.containerName req.executablePath).allows c e := by
      unfold Proposal.allows at h ⊢
      rwa [← hrules]
    exact Proposal.allows_addProcess.mp h'

theorem allows_mutate_of_allows {c e : String} (h : p.allows c e) : (mutate req p).allows c e := by
  rcases mutate_cases req p with hm | ⟨-, hrules⟩
  · rwa [hm]
  · unfold Proposal.allows
    rw [hrules]
    exact Proposal.allows_addProcess.mpr (Or.inl h)

theorem allowedNodup_mutate (h : p.AllowedNodup) : (mutate req p).AllowedNodup := by
  rcases mutate_cases req p with hm | ⟨-, hrules⟩
  · rwa [hm]
  · intro c allowed hc
    rw [hrules] at hc
    exact Proposal.allowedNodup_addProcess h req.containerName req.executablePath c allowed hc

end Mutate

end RuntimeEnforcer.Learning
