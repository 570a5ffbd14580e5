import Mathlib
import RuntimeEnforcer.Learning.Proposal

/-
  Learning agents on any number of nodes racing on one workload's `WorkloadPolicyProposal`
  (`LearningReconciler.Reconcile`, `internal/eventhandler/learning_controller.go`).

  The API server holds the proposal with a resourceVersion. An agent's `CreateOrUpdate` reads
  it (`Get`) and applies `mutate` to what it read, `Proposal.empty` when there was nothing. It
  writes the result back with `Create` when it read nothing, or with `Update` when `mutate`
  changed the object. `Create` fails with AlreadyExists once an object exists, and `Update`
  fails with Conflict once the version moved on. `Reconcile` requeues both, and a retry is a
  new read. Every write gets a fresh version, so a write that succeeds applies `mutate` to the
  object it replaces (`step_write_cases`, `Inv.snapshot`).

  `learning_proposal_safe` follows from that and from `Proposal`'s facts on `mutate`. In every
  reachable state the total stays within `max PolicyProposalMaxExecutables` of the initial
  total. Every pair comes from an event or from the initial proposal. No later version drops a
  pair. Each `Allowed` list is duplicate-free when the initial proposal's were.
  `learning_keeps_duplicates` shows a proposal whose lists start with a duplicate.
-/

namespace RuntimeEnforcer.Learning

/-! ## `Reconcile`'s answer to an error -/

/-- The errors `CreateOrUpdate` returns, by the API server's status code. -/
inductive ApiError where
  /-- 409, an `Update` of a stale version. -/
  | conflict
  /-- 409, a `Create` after another agent's. -/
  | alreadyExists
  /-- 422, rejected by the webhook. -/
  | unprocessableEntity
  /-- 410, the owner workload is gone. -/
  | gone
  | forbidden
  | internalServerError
  | other (code : Nat)
  /-- An error that carries no API status. -/
  | noStatus
  deriving DecidableEq, Repr

def maxConflictRetries : Nat := 15

/-- `handleAdmissionError`: `none` where it gives up on the request. -/
def handleAdmissionError : ApiError → Option ApiError
  | .unprocessableEntity => none
  | .gone => none
  | err => some err

/-- What `Reconcile` returns for the error of `reconcile`. -/
inductive ReconcileResult where
  | done
  /-- `RequeueAfter`, from the conflict rate limiter. -/
  | requeueAfter
  /-- The error, for controller-runtime to retry. -/
  | error (err : ApiError)
  /-- A `TerminalError`: the request is dropped. -/
  | terminal (err : ApiError)
  deriving DecidableEq, Repr

/-- `Reconcile`, given `reconcile`'s error and the rate limiter's `NumRequeues`. -/
def reconcileResult (err : Option ApiError) (numRequeues : Nat) : ReconcileResult :=
  match err with
  | none => .done
  | some err =>
    if !(err = .conflict || err = .alreadyExists) then .error err
    else if numRequeues > maxConflictRetries then .terminal err
    else .requeueAfter

/-! ## Agents and the API server -/

/-- What an agent's `CreateOrUpdate` holds between its read and its write. -/
inductive AgentState where
  | idle
  | read (req : KubeProcessInfo) (snapshot : Option (Proposal × Nat))
  deriving DecidableEq

/-- The proposal with its version, the next version the API server gives, and the agents. -/
structure Sys where
  obj : Option (Proposal × Nat)
  nextVersion : Nat
  agents : Nat → AgentState

/-- The events that interleave. -/
inductive Event where
  /-- An agent starts `reconcile` on an event and `CreateOrUpdate` reads the proposal. -/
  | get (agent : Nat) (req : KubeProcessInfo)
  /-- The agent applies `mutate` and writes. -/
  | write (agent : Nat)

/-- `reconcile` goes on to `CreateOrUpdate`: not a standalone pod, and no policy bound yet. -/
def learns (req : KubeProcessInfo) : Bool :=
  req.workloadKind != "Pod" && req.policyName == ""

/-- One event; `none` when it cannot happen. -/
def step (s : Sys) : Event → Option Sys
  | .get agent req =>
    if s.agents agent = .idle && learns req then
      some { s with agents := Function.update s.agents agent (.read req s.obj) }
    else none
  | .write agent =>
    match s.agents agent with
    | .idle => none
    | .read req snapshot =>
      let s' := { s with agents := Function.update s.agents agent .idle }
      match snapshot with
      | none =>
        match s.obj with
        | none =>
          some { s' with
            obj := some (mutate req .empty, s.nextVersion)
            nextVersion := s.nextVersion + 1 }
        -- AlreadyExists
        | some _ => some s'
      | some (p, rv) =>
        -- `CreateOrUpdate` writes nothing when `mutate` changed nothing
        if mutate req p = p then some s'
        else
          match s.obj with
          | some (_, rv') =>
            if rv' = rv then
              some { s' with
                obj := some (mutate req p, s.nextVersion)
                nextVersion := s.nextVersion + 1 }
            -- Conflict
            else some s'
          | none => some s'

/-- The events of `E` and any writes. -/
def Event.Within (E : KubeProcessInfo → Prop) : Event → Prop
  | .get _ req => E req
  | .write _ => True

/-- Where runs start: the initial proposal, if any, at version 0, and every agent idle. -/
structure Initial (init : Option Proposal) (s : Sys) : Prop where
  obj : s.obj = init.map fun p => (p, 0)
  nextVersion : s.nextVersion = 1
  idle : ∀ a, s.agents a = .idle

/-- Every interleaving of learning on events of `E` from the initial proposal `init`. -/
inductive Reachable (E : KubeProcessInfo → Prop) (init : Option Proposal) : Sys → Prop where
  | init {s : Sys} : Initial init s → Reachable E init s
  | step {s s' : Sys} (e : Event) : Reachable E init s → e.Within E → step s e = some s' →
      Reachable E init s'

/-- One step on an event of `E`. -/
def Step (E : KubeProcessInfo → Prop) (s s' : Sys) : Prop :=
  ∃ e : Event, e.Within E ∧ step s e = some s'

/-! ## What a step does -/

section Steps

variable {s s' : Sys}

theorem step_get_cases {a : Nat} {req : KubeProcessInfo} (hs : step s (.get a req) = some s') :
    s.agents a = .idle ∧ s' = { s with agents := Function.update s.agents a (.read req s.obj) } := by
  simp only [step] at hs
  split_ifs at hs with h
  simp only [Bool.and_eq_true, decide_eq_true_eq] at h
  exact ⟨h.1, (Option.some.inj hs).symm⟩

/-- A write leaves the proposal as it is, or writes `mutate` of what it read under a fresh
    version: of nothing when the server holds nothing, or of a version the server still holds. -/
theorem step_write_cases {a : Nat} (hs : step s (.write a) = some s') :
    ∃ req snapshot, s.agents a = .read req snapshot ∧
      s'.agents = Function.update s.agents a .idle ∧
      ((s'.obj = s.obj ∧ s'.nextVersion = s.nextVersion) ∨
        (s'.nextVersion = s.nextVersion + 1 ∧
          ((snapshot = none ∧ s.obj = none ∧ s'.obj = some (mutate req .empty, s.nextVersion)) ∨
            ∃ p rv q, snapshot = some (p, rv) ∧ s.obj = some (q, rv) ∧
              s'.obj = some (mutate req p, s.nextVersion)))) := by
  simp only [step] at hs
  split at hs
  · cases hs
  · rename_i req snapshot hagent
    refine ⟨req, snapshot, hagent, ?_⟩
    split at hs
    · split at hs
      · rename_i hobj
        obtain rfl := Option.some.inj hs
        exact ⟨rfl, Or.inr ⟨rfl, Or.inl ⟨rfl, hobj, rfl⟩⟩⟩
      · obtain rfl := Option.some.inj hs
        exact ⟨rfl, Or.inl ⟨rfl, rfl⟩⟩
    · rename_i p rv
      split_ifs at hs with hsame
      · obtain rfl := Option.some.inj hs
        exact ⟨rfl, Or.inl ⟨rfl, rfl⟩⟩
      · split at hs
        · rename_i q rv' hobj
          split_ifs at hs with hrv
          · obtain rfl := Option.some.inj hs
            subst hrv
            exact ⟨rfl, Or.inr ⟨rfl, Or.inr ⟨p, rv', q, rfl, hobj, rfl⟩⟩⟩
          · obtain rfl := Option.some.inj hs
            exact ⟨rfl, Or.inl ⟨rfl, rfl⟩⟩
        · obtain rfl := Option.some.inj hs
          exact ⟨rfl, Or.inl ⟨rfl, rfl⟩⟩

end Steps

/-! ## The invariant -/

/-- The initial proposal's total, zero for none. -/
def initLength (init : Option Proposal) : Nat :=
  (init.map Proposal.getExecutablesLength).getD 0

/-- Every pair of `q` was in the initial proposal or comes from an event of `E`. -/
def Sourced (E : KubeProcessInfo → Prop) (init : Option Proposal) (q : Proposal) : Prop :=
  ∀ c x, q.allows c x →
    (init.any fun p => p.allows c x) ∨ ∃ req, E req ∧ req.containerName = c ∧ req.executablePath = x

/-- What every reachable state keeps. Versions are fresh, and an agent's snapshot is the object
    whenever the server still holds its version. The proposal stays bounded and sourced, and
    duplicate-free when the initial one was. -/
structure Inv (E : KubeProcessInfo → Prop) (init : Option Proposal) (s : Sys) : Prop where
  version_lt : ∀ q rv, s.obj = some (q, rv) → rv < s.nextVersion
  snapshot : ∀ a req q rv, s.agents a = .read req (some (q, rv)) →
    rv < s.nextVersion ∧ ∀ q', s.obj = some (q', rv) → q' = q
  req_mem : ∀ a req snapshot, s.agents a = .read req snapshot → E req
  bounded : ∀ q rv, s.obj = some (q, rv) →
    q.getExecutablesLength ≤ max policyProposalMaxExecutables (initLength init)
  sourced : ∀ q rv, s.obj = some (q, rv) → Sourced E init q
  nodup : (∀ p, init = some p → p.AllowedNodup) → ∀ q rv, s.obj = some (q, rv) → q.AllowedNodup

section Inv

variable {E : KubeProcessInfo → Prop} {init : Option Proposal} {s s' : Sys}

theorem inv_initial (h : Initial init s) : Inv E init s := by
  have hobj : ∀ q rv, s.obj = some (q, rv) → init = some q ∧ rv = 0 := by
    intro q rv hq
    rw [h.obj] at hq
    cases init with
    | none => cases hq
    | some p =>
      obtain ⟨rfl, rfl⟩ := Prod.mk.inj (Option.some.inj hq)
      exact ⟨rfl, rfl⟩
  refine ⟨?_, ?_, ?_, ?_, ?_, ?_⟩
  · intro q rv hq
    rw [(hobj q rv hq).2, h.nextVersion]
    exact Nat.one_pos
  · intro a req q rv ha
    rw [h.idle a] at ha
    cases ha
  · intro a req snapshot ha
    rw [h.idle a] at ha
    cases ha
  · intro q rv hq
    rw [(hobj q rv hq).1]
    exact le_max_right _ _
  · intro q rv hq c x hx
    rw [(hobj q rv hq).1]
    exact Or.inl hx
  · intro hinit q rv hq
    exact hinit q (hobj q rv hq).1

theorem inv_get (h : Inv E init s) {a : Nat} {req : KubeProcessInfo} (hreq : E req)
    (hs : step s (.get a req) = some s') : Inv E init s' := by
  obtain ⟨hidle, rfl⟩ := step_get_cases hs
  refine ⟨h.version_lt, ?_, ?_, h.bounded, h.sourced, h.nodup⟩
  · intro b req' q rv hb
    dsimp only at hb ⊢
    by_cases hab : b = a
    · subst hab
      simp only [Function.update_self, AgentState.read.injEq] at hb
      obtain ⟨-, hobj⟩ := hb
      refine ⟨h.version_lt q rv hobj, fun q' hq' => ?_⟩
      rw [hobj] at hq'
      exact (Prod.mk.inj (Option.some.inj hq')).1.symm
    · rw [Function.update_of_ne hab] at hb
      exact h.snapshot b req' q rv hb
  · intro b req' snapshot hb
    dsimp only at hb
    by_cases hab : b = a
    · subst hab
      simp only [Function.update_self, AgentState.read.injEq] at hb
      exact hb.1 ▸ hreq
    · rw [Function.update_of_ne hab] at hb
      exact h.req_mem b req' snapshot hb

/-- The object a write replaces is the one the agent read. -/
theorem base_of_write (h : Inv E init s) {a : Nat} {req : KubeProcessInfo} {p q : Proposal}
    {rv : Nat} (ha : s.agents a = .read req (some (p, rv))) (hobj : s.obj = some (q, rv)) :
    q = p :=
  (h.snapshot a req p rv ha).2 q hobj

/-- What a written proposal keeps from the one `mutate` was applied to. -/
theorem written_ok {req : KubeProcessInfo} (hreq : E req) {base : Proposal}
    (hbound : base.getExecutablesLength ≤ max policyProposalMaxExecutables (initLength init))
    (hsrc : Sourced E init base)
    (hnd : (∀ p, init = some p → p.AllowedNodup) → base.AllowedNodup) :
    (mutate req base).getExecutablesLength ≤ max policyProposalMaxExecutables (initLength init) ∧
      Sourced E init (mutate req base) ∧
      ((∀ p, init = some p → p.AllowedNodup) → (mutate req base).AllowedNodup) := by
  refine ⟨?_, ?_, fun hinit => allowedNodup_mutate (hnd hinit)⟩
  · calc (mutate req base).getExecutablesLength
        ≤ max policyProposalMaxExecutables base.getExecutablesLength := getExecutablesLength_mutate
      _ ≤ max policyProposalMaxExecutables (initLength init) := max_le (le_max_left _ _) hbound
  · intro c x hx
    rcases allows_mutate hx with hbase | ⟨rfl, rfl⟩
    · exact hsrc c x hbase
    · exact Or.inr ⟨req, hreq, rfl, rfl⟩

theorem empty_ok :
    Proposal.empty.getExecutablesLength ≤ max policyProposalMaxExecutables (initLength init) ∧
      Sourced E init Proposal.empty ∧ Proposal.empty.AllowedNodup := by
  refine ⟨Nat.zero_le _, ?_, ?_⟩
  · intro c x hx
    simp [Proposal.allows, Proposal.empty] at hx
  · intro c allowed hc
    simp [Proposal.empty] at hc

theorem inv_write (h : Inv E init s) {a : Nat} (hs : step s (.write a) = some s') :
    Inv E init s' := by
  obtain ⟨req, snapshot, ha, hagents, hcase⟩ := step_write_cases hs
  have hreq := h.req_mem a req snapshot ha
  -- every other agent's snapshot is older than the version a write gives
  have hothers : ∀ b req' q rv, s'.agents b = .read req' (some (q, rv)) →
      s.agents b = .read req' (some (q, rv)) := by
    intro b req' q rv hb
    by_cases hab : b = a
    · subst hab
      rw [hagents, Function.update_self] at hb
      cases hb
    · rwa [hagents, Function.update_of_ne hab] at hb
  have hreq' : ∀ b req' snapshot', s'.agents b = .read req' snapshot' → E req' := by
    intro b req' snapshot' hb
    by_cases hab : b = a
    · subst hab
      rw [hagents, Function.update_self] at hb
      cases hb
    · rw [hagents, Function.update_of_ne hab] at hb
      exact h.req_mem b req' snapshot' hb
  rcases hcase with ⟨hobj, hnext⟩ | ⟨hnext, hwrite⟩
  · refine ⟨?_, ?_, hreq', ?_, ?_, ?_⟩
    · intro q rv hq
      rw [hnext]
      exact h.version_lt q rv (hobj ▸ hq)
    · intro b req' q rv hb
      rw [hnext, hobj]
      exact h.snapshot b req' q rv (hothers b req' q rv hb)
    · intro q rv hq
      exact h.bounded q rv (hobj ▸ hq)
    · intro q rv hq
      exact h.sourced q rv (hobj ▸ hq)
    · intro hinit q rv hq
      exact h.nodup hinit q rv (hobj ▸ hq)
  · -- the written proposal and the facts it keeps
    obtain ⟨base, hobj', hbound, hsrc, hnd⟩ : ∃ base, s'.obj = some (mutate req base, s.nextVersion) ∧
        base.getExecutablesLength ≤ max policyProposalMaxExecutables (initLength init) ∧
        Sourced E init base ∧ ((∀ p, init = some p → p.AllowedNodup) → base.AllowedNodup) := by
      rcases hwrite with ⟨-, -, hobj'⟩ | ⟨p, rv, q, rfl, hobj, hobj'⟩
      · obtain ⟨hb, hs, hn⟩ : Proposal.empty.getExecutablesLength ≤
            max policyProposalMaxExecutables (initLength init) ∧ Sourced E init Proposal.empty ∧
            Proposal.empty.AllowedNodup := empty_ok
        exact ⟨.empty, hobj', hb, hs, fun _ => hn⟩
      · have hqp := base_of_write h ha hobj
        subst hqp
        exact ⟨q, hobj', h.bounded q rv hobj, h.sourced q rv hobj, fun hi => h.nodup hi q rv hobj⟩
    obtain ⟨hb', hs', hn'⟩ := written_ok hreq hbound hsrc hnd
    have hnew : ∀ q rv, s'.obj = some (q, rv) → q = mutate req base ∧ rv = s.nextVersion := by
      intro q rv hq
      rw [hobj'] at hq
      obtain ⟨h1, h2⟩ := Prod.mk.inj (Option.some.inj hq)
      exact ⟨h1.symm, h2.symm⟩
    refine ⟨?_, ?_, hreq', ?_, ?_, ?_⟩
    · intro q rv hq
      rw [(hnew q rv hq).2, hnext]
      exact Nat.lt_succ_self _
    · intro b req' q rv hb
      have hold := h.snapshot b req' q rv (hothers b req' q rv hb)
      refine ⟨by omega, fun q' hq' => ?_⟩
      have := (hnew q' rv hq').2
      omega
    · intro q rv hq
      rw [(hnew q rv hq).1]
      exact hb'
    · intro q rv hq
      rw [(hnew q rv hq).1]
      exact hs'
    · intro hinit q rv hq
      rw [(hnew q rv hq).1]
      exact hn' hinit

theorem inv_step (h : Inv E init s) {e : Event} (he : e.Within E) (hs : step s e = some s') :
    Inv E init s' := by
  cases e with
  | get a req => exact inv_get h he hs
  | write a => exact inv_write h hs

theorem inv_of_reachable (h : Reachable E init s) : Inv E init s := by
  induction h with
  | init hi => exact inv_initial hi
  | step e _ he hs ih => exact inv_step ih he hs

/-- No step drops a pair from the proposal. -/
theorem allows_step (h : Inv E init s) {e : Event} (hs : step s e = some s') {q : Proposal}
    {rv : Nat} (hq : s.obj = some (q, rv)) :
    ∃ q' rv', s'.obj = some (q', rv') ∧ ∀ c x, q.allows c x → q'.allows c x := by
  cases e with
  | get a req =>
    obtain ⟨-, rfl⟩ := step_get_cases hs
    exact ⟨q, rv, hq, fun _ _ hx => hx⟩
  | write a =>
    obtain ⟨req, snapshot, ha, -, hcase⟩ := step_write_cases hs
    rcases hcase with ⟨hobj, -⟩ | ⟨-, ⟨-, hnone, -⟩ | ⟨p, rv₀, q₀, rfl, hobj, hobj'⟩⟩
    · exact ⟨q, rv, hobj ▸ hq, fun _ _ hx => hx⟩
    · rw [hnone] at hq
      cases hq
    · rw [hq] at hobj
      obtain ⟨rfl, rfl⟩ := Prod.mk.inj (Option.some.inj hobj)
      have hqp := base_of_write h ha hq
      subst hqp
      exact ⟨mutate req q, s.nextVersion, hobj', fun _ _ hx => allows_mutate_of_allows hx⟩

/-- Along any steps from a state with the invariant, no later version drops a pair. -/
theorem allows_steps (hss : Relation.ReflTransGen (Step E) s s') :
    Inv E init s → ∀ {q rv}, s.obj = some (q, rv) →
      ∃ q' rv', s'.obj = some (q', rv') ∧ ∀ c x, q.allows c x → q'.allows c x := by
  -- from the first step on, carrying the invariant to the state after it
  induction hss using Relation.ReflTransGen.head_induction_on with
  | refl =>
    intro _ q rv hq
    exact ⟨q, rv, hq, fun _ _ hx => hx⟩
  | head hstep _ ih =>
    intro h q rv hq
    obtain ⟨e, he, hs⟩ := hstep
    obtain ⟨q₁, rv₁, hq₁, hsub⟩ := allows_step h hs hq
    obtain ⟨q', rv', hq', hsub'⟩ := ih (inv_step h he hs) hq₁
    exact ⟨q', rv', hq', fun c x hx => hsub' c x (hsub c x hx)⟩

end Inv

/-- Concurrent learning on one workload's proposal. In every reachable state the total stays
    within `max PolicyProposalMaxExecutables` of the initial one, every pair came from an event
    or was there initially, and the lists are duplicate-free when the initial proposal's were.
    No later version written by learning drops a pair. -/
theorem learning_proposal_safe {E : KubeProcessInfo → Prop} {init : Option Proposal} {s : Sys}
    (h : Reachable E init s) :
    (∀ q rv, s.obj = some (q, rv) →
      ((∀ p, init = some p → p.AllowedNodup) → q.AllowedNodup) ∧
        q.getExecutablesLength ≤ max policyProposalMaxExecutables (initLength init) ∧
        Sourced E init q) ∧
    ∀ s', Relation.ReflTransGen (Step E) s s' → ∀ q rv, s.obj = some (q, rv) →
      ∃ q' rv', s'.obj = some (q', rv') ∧ ∀ c x, q.allows c x → q'.allows c x := by
  have hinv := inv_of_reachable h
  refine ⟨fun q rv hq => ⟨fun hinit => hinv.nodup hinit q rv hq, hinv.bounded q rv hq,
    hinv.sourced q rv hq⟩, ?_⟩
  intro s' hss q rv hq
  exact allows_steps hss hinv hq

/-! ## Runs -/

/-- The events of a list in order; `none` if one of them cannot happen. -/
def run : Sys → List Event → Option Sys
  | s, [] => some s
  | s, e :: es => (step s e).bind (run · es)

theorem reachable_run {E : KubeProcessInfo → Prop} {init : Option Proposal} {s s' : Sys}
    {es : List Event} (hs : Reachable E init s) (hes : ∀ e ∈ es, e.Within E)
    (h : run s es = some s') : Reachable E init s' := by
  induction es generalizing s with
  | nil =>
    cases h
    exact hs
  | cons e es ih =>
    simp only [run] at h
    cases hstep : step s e with
    | none => simp [hstep] at h
    | some s₁ =>
      rw [hstep, Option.bind_some] at h
      exact ih (Reachable.step e hs (hes e List.mem_cons_self) hstep)
        (fun e' he' => hes e' (List.mem_cons_of_mem e he')) h

/-- The start of a run from the proposal `init`. -/
def learnStart (init : Option Proposal) : Sys :=
  ⟨init.map fun p => (p, 0), 1, fun _ => .idle⟩

theorem initial_learnStart (init : Option Proposal) : Initial init (learnStart init) :=
  ⟨rfl, rfl, fun _ => rfl⟩

/-- An exec of `/bin/ls` in container `app` of deployment `web`. -/
def lsEvent : KubeProcessInfo := ⟨"default", "web", "Deployment", "app", "/bin/ls", ""⟩

/-- A proposal that allows `/bin/sh` twice in container `app`. -/
def dupProposal : Proposal := ⟨∅, [], (∅ : AList _).insert "app" ["/bin/sh", "/bin/sh"]⟩

/-- From a proposal with a duplicate, an agent learns `/bin/ls`: its write, version 1, keeps the
    duplicate. -/
theorem learning_keeps_duplicates :
    ∃ s, Reachable (· = lsEvent) (some dupProposal) s ∧ ∃ q, s.obj = some (q, 1) ∧
      q.rulesByContainer.lookup "app" = some ["/bin/sh", "/bin/sh", "/bin/ls"] ∧
      ¬ q.AllowedNodup := by
  have hrun : (run (learnStart (some dupProposal)) [.get 0 lsEvent, .write 0]).map
      (fun s => s.obj.map fun o => (o.1.rulesByContainer.lookup "app", o.2)) =
      some (some (some ["/bin/sh", "/bin/sh", "/bin/ls"], 1)) := by
    decide +kernel
  obtain ⟨s, hs, hmap⟩ := Option.map_eq_some_iff.mp hrun
  obtain ⟨⟨q, rv⟩, hobj, hq⟩ := Option.map_eq_some_iff.mp hmap
  obtain ⟨hlook, rfl⟩ := Prod.mk.inj hq
  have hreach := reachable_run (E := (· = lsEvent)) (Reachable.init (initial_learnStart (some dupProposal)))
    (fun e he => by
      simp only [List.mem_cons, List.not_mem_nil, or_false] at he
      rcases he with rfl | rfl
      · rfl
      · trivial) hs
  refine ⟨s, hreach, q, hobj, hlook, fun hnd => ?_⟩
  have := hnd "app" _ hlook
  revert this
  decide

/-- An exec of `/bin/cat` in the same container. -/
def catEvent : KubeProcessInfo := ⟨"default", "web", "Deployment", "app", "/bin/cat", ""⟩

/-- A proposal that allows `/bin/sh` in container `app`. -/
def shProposal : Proposal := ⟨∅, [], (∅ : AList _).insert "app" ["/bin/sh"]⟩

/-- Two agents race from a proposal that allows `/bin/sh`. Both read version 0; the first writes
    `/bin/ls` as version 1, the second's write of `/bin/cat` conflicts, and its retry reads
    version 1 and writes version 2. -/
theorem learning_proposal_safe_race :
    ∃ s, Reachable (fun req => req = lsEvent ∨ req = catEvent) (some shProposal) s ∧
      (s.obj.map fun o => (o.1.rulesByContainer.lookup "app", o.2)) =
        some (some ["/bin/sh", "/bin/ls", "/bin/cat"], 2) ∧
      ∀ q rv, s.obj = some (q, rv) →
        ((∀ p, some shProposal = some p → p.AllowedNodup) → q.AllowedNodup) ∧
          q.getExecutablesLength ≤ max policyProposalMaxExecutables (initLength (some shProposal)) ∧
          Sourced (fun req => req = lsEvent ∨ req = catEvent) (some shProposal) q := by
  have hrun : (run (learnStart (some shProposal))
      [.get 0 lsEvent, .get 1 catEvent, .write 0, .write 1, .get 1 catEvent, .write 1]).map
      (fun s => s.obj.map fun o => (o.1.rulesByContainer.lookup "app", o.2)) =
      some (some (some ["/bin/sh", "/bin/ls", "/bin/cat"], 2)) := by
    decide +kernel
  obtain ⟨s, hs, hmap⟩ := Option.map_eq_some_iff.mp hrun
  have hreach := reachable_run (E := fun req => req = lsEvent ∨ req = catEvent)
    (Reachable.init (initial_learnStart (some shProposal)))
    (fun e he => by
      simp only [List.mem_cons, List.not_mem_nil, or_false] at he
      rcases he with rfl | rfl | rfl | rfl | rfl | rfl
      · exact Or.inl rfl
      · exact Or.inr rfl
      · trivial
      · trivial
      · exact Or.inr rfl
      · trivial) hs
  exact ⟨s, hreach, hmap, (learning_proposal_safe hreach).1⟩

end RuntimeEnforcer.Learning
