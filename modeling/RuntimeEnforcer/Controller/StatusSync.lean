import Mathlib
import RuntimeEnforcer.Controller.Status

/-
  `WorkloadPolicyStatusSync.sync` (`internal/controller/workloadpolicystatus_sync.go`) run
  against the agents' buffers, with `EventScraper.reportViolation` recording on any agent
  between any two of its steps.

  A sync lists the policies, takes the nodes' reports, and drains the agents' buffers one node
  at a time. Then it builds and writes each listed policy's status. Any call can fail. A
  `ScrapeViolations` can fail before the agent drained its buffer or after. `buildPolicyStatus`
  fails on the nodes' reports as `Status` says, and `Status().Update` can fail.

  The state carries three ghost counters by namespaced policy name: records recorded, records
  overwritten in a full buffer (those `Record` signals by returning true), and records lost. A
  record is lost when the sync drained it and then did not write it: a scrape that failed after
  the drain, a status that failed to build or to update, or a policy not in the sync's list.
  `violations_accounted` is the exact account over every run. A policy's `ViolationCount`, its
  records still in the buffers, those the running sync holds, the lost ones and the overwritten
  ones add up to the recorded ones. So records are lost at those failures and nowhere else.
  `failed_update_loses_violations` is a run where one record ends up in no count and no buffer.
-/

namespace RuntimeEnforcer.Controller

/-- The namespaced name a record is filed under: the `PolicyName` `ScrapeViolations` sends. -/
def ViolationRecord.policyKey (rec : ViolationRecord) : String := rec.toProto.policyName

/-- The records of `l` filed under `k`. -/
def countFor (k : String) (l : List ViolationRecord) : Nat :=
  l.countP fun rec => rec.policyKey = k

@[simp] theorem countFor_nil (k : String) : countFor k [] = 0 := rfl

/-- Where `sync` is. -/
inductive SyncPhase where
  | idle
  /-- In `getViolationsByPolicy`'s loop: the listed policies, the nodes' reports, the nodes
      still to scrape, and the records scraped so far. -/
  | scraping (wpList : List WorkloadPolicy) (nodesInfo : NodesInfoMap) (pending : List String)
      (acc : ViolationsByPolicy)
  /-- In the loop over the listed policies, with those still to process. -/
  | processing (wpList : List WorkloadPolicy) (nodesInfo : NodesInfoMap)
      (violationsByPolicy : ViolationsByPolicy)
  deriving DecidableEq

/-- The agents' buffers, the API server's policies by namespaced name, the sync, and the ghost
    counters. -/
structure Sys where
  buffers : String → Buffer
  wps : AList fun _ : String => WorkloadPolicy
  phase : SyncPhase
  recorded : String → Nat
  overwritten : String → Nat
  lost : String → Nat

/-- How a node's `ScrapeViolations` ended. -/
inductive ScrapeOutcome where
  | ok
  /-- A nil client, or a call that failed before the agent drained its buffer. -/
  | failedBeforeDrain
  /-- A call whose answer was lost after the agent drained its buffer. -/
  | failedAfterDrain

/-- The events that interleave. -/
inductive Event where
  /-- `reportViolation` on the agent of `node`. -/
  | record (node : String) (rec : ViolationRecord)
  /-- A sync starts: `List`, `UpdatePool` with the agents it reaches, and their reports. -/
  | list (clients : List String) (nodesInfo : NodesInfoMap)
  /-- The next node of `getViolationsByPolicy`, or the end of its loop. -/
  | scrape (outcome : ScrapeOutcome)
  /-- `processWorkloadPolicy` for the next listed policy, with whether `Status().Update`
      succeeds, or the end of the sync. -/
  | process (updateOk : Bool)

/-- `f` with one more for each record of `l` under its policy. -/
def bump (f : String → Nat) (l : List ViolationRecord) : String → Nat :=
  fun k => f k + countFor k l

/-- `f` with `n` more under `k`. -/
def bumpAt (f : String → Nat) (k : String) (n : Nat) : String → Nat :=
  fun k' => if k' = k then f k' + n else f k'

/-- One event on the agents `nodes`; `none` when it cannot happen. -/
def step (nodes : List String) (s : Sys) : Event → Option Sys
  | .record node rec =>
    if nodes.contains node then
      some { s with
        buffers := Function.update s.buffers node ((s.buffers node).record rec).1
        recorded := bump s.recorded [rec]
        overwritten := bump s.overwritten
          ((rec :: (s.buffers node).recent).drop maxBufferEntries) }
    else none
  | .list clients nodesInfo =>
    match s.phase with
    | .idle =>
      if clients.all nodes.contains then
        -- "No WorkloadPolicies found, retrying later"
        if s.wps.entries.length = 0 then some s
        else some { s with phase := .scraping (s.wps.entries.map (·.2)) nodesInfo clients ∅ }
      else none
    | _ => none
  | .scrape outcome =>
    match s.phase with
    | .scraping wpList nodesInfo (n :: rest) acc =>
      match outcome with
      | .ok =>
        some { s with
          buffers := Function.update s.buffers n (scrapeViolations (s.buffers n)).2
          phase := .scraping wpList nodesInfo rest
            (addNodeViolations acc (scrapeViolations (s.buffers n)).1) }
      | .failedBeforeDrain => some { s with phase := .scraping wpList nodesInfo rest acc }
      | .failedAfterDrain =>
        some { s with
          buffers := Function.update s.buffers n (scrapeViolations (s.buffers n)).2
          phase := .scraping wpList nodesInfo rest acc
          lost := bump s.lost (s.buffers n).recent }
    | .scraping wpList nodesInfo [] acc =>
      -- the records of a policy not in the list are not looked up
      some { s with
        phase := .processing wpList nodesInfo acc
        lost := fun k =>
          s.lost k + if (wpList.map (·.namespacedName)).contains k then 0 else (acc.get k).length }
    | _ => none
  | .process updateOk =>
    match s.phase with
    | .processing (wp :: rest) nodesInfo vbp =>
      let scraped := vbp.get wp.namespacedName
      match buildPolicyStatus wp nodesInfo scraped with
      | .ok status =>
        if updateOk then
          some { s with
            wps := s.wps.insert wp.namespacedName { wp with status := status }
            phase := .processing rest nodesInfo vbp }
        else
          some { s with
            phase := .processing rest nodesInfo vbp
            lost := bumpAt s.lost wp.namespacedName scraped.length }
      | .error _ =>
        some { s with
          phase := .processing rest nodesInfo vbp
          lost := bumpAt s.lost wp.namespacedName scraped.length }
    | .processing [] _ _ => some { s with phase := .idle }
    | _ => none

/-! ## The account -/

/-- The `ViolationCount` of the policy `k`, zero for no policy. -/
def count (wps : AList fun _ : String => WorkloadPolicy) (k : String) : Nat :=
  ((wps.lookup k).map fun wp => wp.status.violationCount).getD 0

/-- The records under `k` in the agents' buffers. -/
def buffered (nodes : List String) (buffers : String → Buffer) (k : String) : Nat :=
  ∑ n ∈ nodes.toFinset, countFor k (buffers n).recent

/-- The records under `k` the running sync holds and will still write. -/
def SyncPhase.inFlight : SyncPhase → String → Nat
  | .idle, _ => 0
  | .scraping _ _ _ acc, k => (acc.get k).length
  | .processing rest _ vbp, k =>
    if (rest.map (·.namespacedName)).contains k then (vbp.get k).length else 0

/-- The policies the sync listed, as the API server holds them, each once. -/
def Listed (s : Sys) (wpList : List WorkloadPolicy) : Prop :=
  (wpList.map (·.namespacedName)).Nodup ∧ ∀ wp ∈ wpList, s.wps.lookup wp.namespacedName = some wp

/-- What each phase of the sync keeps. -/
def PhaseOk (nodes : List String) (s : Sys) : SyncPhase → Prop
  | .idle => True
  | .scraping wpList _ pending _ => Listed s wpList ∧ ∀ n ∈ pending, n ∈ nodes
  | .processing rest _ _ => Listed s rest

/-- The invariant: the API server files each policy under its name, the sync's phase is
    consistent, and every recorded record is accounted for. -/
structure Inv (nodes : List String) (s : Sys) : Prop where
  keys : ∀ k wp, s.wps.lookup k = some wp → wp.namespacedName = k
  phase : PhaseOk nodes s s.phase
  accounted : ∀ k, count s.wps k + buffered nodes s.buffers k + s.phase.inFlight k + s.lost k +
    s.overwritten k = s.recorded k

/-- Where runs start: the sync idle, the buffers empty, and the ghost counters at the counts. -/
structure Initial (s : Sys) : Prop where
  idle : s.phase = .idle
  empty : ∀ n, (s.buffers n).recent = []
  keys : ∀ k wp, s.wps.lookup k = some wp → wp.namespacedName = k
  recorded : ∀ k, s.recorded k = count s.wps k
  overwritten : ∀ k, s.overwritten k = 0
  lost : ∀ k, s.lost k = 0

/-- Every interleaving of events on the agents `nodes` from an initial state. -/
inductive Reachable (nodes : List String) : Sys → Prop where
  | init {s : Sys} : Initial s → Reachable nodes s
  | step {s s' : Sys} (e : Event) : Reachable nodes s → step nodes s e = some s' →
      Reachable nodes s'

/-! ## One event -/

section Account

variable {nodes : List String}

theorem buffered_update (buffers : String → Buffer) {n : String} (hn : n ∈ nodes) (b : Buffer)
    (k : String) :
    buffered nodes (Function.update buffers n b) k + countFor k (buffers n).recent =
      buffered nodes buffers k + countFor k b.recent := by
  unfold buffered
  have hmem : n ∈ nodes.toFinset := List.mem_toFinset.mpr hn
  have hrest : ∑ x ∈ nodes.toFinset.erase n, countFor k (Function.update buffers n b x).recent =
      ∑ x ∈ nodes.toFinset.erase n, countFor k (buffers x).recent :=
    Finset.sum_congr rfl fun x hx => by rw [Function.update_of_ne (Finset.ne_of_mem_erase hx)]
  rw [← Finset.add_sum_erase _ _ hmem, ← Finset.add_sum_erase _ _ hmem, Function.update_self,
    hrest]
  omega

/-- A record written over a full buffer is counted as overwritten. -/
theorem countFor_record (b : Buffer) (rec : ViolationRecord) (k : String) :
    countFor k [rec] + countFor k b.recent =
      countFor k ((b.record rec).1.recent) +
        countFor k ((rec :: b.recent).drop maxBufferEntries) := by
  have h := RingBuffer.countP_write b rec fun r => decide (r.policyKey = k)
  rw [List.countP_cons] at h
  unfold countFor
  rw [record_fst, ← h, List.countP_singleton]
  omega

theorem length_recordsFor_toProto (k : String) (l : List ViolationRecord) :
    (recordsFor k (l.map ViolationRecord.toProto)).length = countFor k l := by
  simp only [recordsFor, countFor, List.countP_eq_length_filter, ViolationRecord.policyKey,
    List.filter_map, List.length_map, Function.comp_def]
  rfl

theorem count_insert (wps : AList fun _ : String => WorkloadPolicy) (wp : WorkloadPolicy)
    (k : String) :
    count (wps.insert wp.namespacedName wp) k =
      if k = wp.namespacedName then wp.status.violationCount else count wps k := by
  unfold count
  by_cases hk : k = wp.namespacedName
  · subst hk
    simp
  · simp [AList.lookup_insert_ne hk, hk]

theorem inFlight_processing_cons {wp : WorkloadPolicy} {rest : List WorkloadPolicy}
    (hnd : ((wp :: rest).map (·.namespacedName)).Nodup) (ni : NodesInfoMap)
    (vbp : ViolationsByPolicy) (k : String) :
    (SyncPhase.processing (wp :: rest) ni vbp).inFlight k =
      (SyncPhase.processing rest ni vbp).inFlight k +
        if k = wp.namespacedName then (vbp.get k).length else 0 := by
  rw [List.map_cons, List.nodup_cons] at hnd
  unfold SyncPhase.inFlight
  by_cases hk : k = wp.namespacedName
  · subst hk
    simp [hnd.1]
  · simp [hk]

theorem listed_entries (s : Sys) (hkeys : ∀ k wp, s.wps.lookup k = some wp → wp.namespacedName = k) :
    Listed s (s.wps.entries.map (·.2)) := by
  have hname : ∀ e ∈ s.wps.entries, e.2.namespacedName = e.1 :=
    fun e he => hkeys e.1 e.2 (AList.mem_lookup_iff.mpr he)
  refine ⟨?_, ?_⟩
  · have hmap : (s.wps.entries.map (·.2)).map (·.namespacedName) = s.wps.entries.map (·.1) := by
      rw [List.map_map]
      exact List.map_congr_left fun e he => hname e he
    rw [hmap]
    exact s.wps.nodupKeys
  · intro wp hwp
    obtain ⟨e, he, rfl⟩ := List.mem_map.mp hwp
    rw [hname e he]
    exact AList.mem_lookup_iff.mpr he

end Account

/-! ## Every event keeps the account -/

section Steps

variable {nodes : List String} {s : Sys}

theorem inv_record (h : Inv nodes s) {node : String} (hn : node ∈ nodes) (rec : ViolationRecord) :
    Inv nodes { s with
      buffers := Function.update s.buffers node ((s.buffers node).record rec).1
      recorded := bump s.recorded [rec]
      overwritten := bump s.overwritten
        ((rec :: (s.buffers node).recent).drop maxBufferEntries) } := by
  refine ⟨h.keys, h.phase, fun k => ?_⟩
  have ha := h.accounted k
  have hb := buffered_update s.buffers hn ((s.buffers node).record rec).1 k
  have hc := countFor_record (s.buffers node) rec k
  unfold bump
  dsimp only
  omega

theorem inv_list (h : Inv nodes s) (hidle : s.phase = .idle) {clients : List String}
    (hc : ∀ n ∈ clients, n ∈ nodes) (nodesInfo : NodesInfoMap) :
    Inv nodes { s with phase := .scraping (s.wps.entries.map (·.2)) nodesInfo clients ∅ } := by
  refine ⟨h.keys, ⟨listed_entries s h.keys, hc⟩, fun k => ?_⟩
  have ha := h.accounted k
  rw [hidle] at ha
  simpa [SyncPhase.inFlight, ViolationsByPolicy.get] using ha

section Scraping

variable {wpList : List WorkloadPolicy} {nodesInfo : NodesInfoMap} {n : String}
  {rest : List String} {acc : ViolationsByPolicy}

theorem inv_scrape_ok (h : Inv nodes s) (hp : s.phase = .scraping wpList nodesInfo (n :: rest) acc) :
    Inv nodes { s with
      buffers := Function.update s.buffers n (scrapeViolations (s.buffers n)).2
      phase := .scraping wpList nodesInfo rest
        (addNodeViolations acc (scrapeViolations (s.buffers n)).1) } := by
  have hph := h.phase
  rw [hp] at hph
  obtain ⟨hlisted, hpending⟩ := hph
  have hn : n ∈ nodes := hpending n List.mem_cons_self
  refine ⟨h.keys, ⟨hlisted, fun x hx => hpending x (List.mem_cons_of_mem n hx)⟩, fun k => ?_⟩
  have ha := h.accounted k
  rw [hp] at ha
  have hb := buffered_update s.buffers hn (scrapeViolations (s.buffers n)).2 k
  have hflight : ((addNodeViolations acc (scrapeViolations (s.buffers n)).1).get k).length =
      (acc.get k).length + countFor k (s.buffers n).recent := by
    rw [get_addNodeViolations, List.length_append, scrapeViolations_fst,
      length_recordsFor_toProto]
  rw [scrapeViolations_snd_recent, countFor_nil] at hb
  simp only [SyncPhase.inFlight] at ha ⊢
  rw [hflight]
  omega

theorem inv_scrape_failedBeforeDrain (h : Inv nodes s)
    (hp : s.phase = .scraping wpList nodesInfo (n :: rest) acc) :
    Inv nodes { s with phase := .scraping wpList nodesInfo rest acc } := by
  have hph := h.phase
  rw [hp] at hph
  obtain ⟨hlisted, hpending⟩ := hph
  refine ⟨h.keys, ⟨hlisted, fun x hx => hpending x (List.mem_cons_of_mem n hx)⟩, fun k => ?_⟩
  have ha := h.accounted k
  rw [hp] at ha
  exact ha

theorem inv_scrape_failedAfterDrain (h : Inv nodes s)
    (hp : s.phase = .scraping wpList nodesInfo (n :: rest) acc) :
    Inv nodes { s with
      buffers := Function.update s.buffers n (scrapeViolations (s.buffers n)).2
      phase := .scraping wpList nodesInfo rest acc
      lost := bump s.lost (s.buffers n).recent } := by
  have hph := h.phase
  rw [hp] at hph
  obtain ⟨hlisted, hpending⟩ := hph
  have hn : n ∈ nodes := hpending n List.mem_cons_self
  refine ⟨h.keys, ⟨hlisted, fun x hx => hpending x (List.mem_cons_of_mem n hx)⟩, fun k => ?_⟩
  have ha := h.accounted k
  rw [hp] at ha
  have hb := buffered_update s.buffers hn (scrapeViolations (s.buffers n)).2 k
  rw [scrapeViolations_snd_recent, countFor_nil] at hb
  unfold bump
  simp only [SyncPhase.inFlight] at ha ⊢
  omega

theorem inv_scrape_exit (h : Inv nodes s) (hp : s.phase = .scraping wpList nodesInfo [] acc) :
    Inv nodes { s with
      phase := .processing wpList nodesInfo acc
      lost := fun k =>
        s.lost k + if (wpList.map (·.namespacedName)).contains k then 0
          else (acc.get k).length } := by
  have hph := h.phase
  rw [hp] at hph
  refine ⟨h.keys, hph.1, fun k => ?_⟩
  have ha := h.accounted k
  rw [hp] at ha
  simp only [SyncPhase.inFlight] at ha ⊢
  split_ifs <;> omega

end Scraping

section Processing

variable {wp : WorkloadPolicy} {rest : List WorkloadPolicy} {nodesInfo : NodesInfoMap}
  {vbp : ViolationsByPolicy}

theorem inv_process_updated (h : Inv nodes s) (hp : s.phase = .processing (wp :: rest) nodesInfo vbp)
    {status : WorkloadPolicyStatus}
    (hb : buildPolicyStatus wp nodesInfo (vbp.get wp.namespacedName) = .ok status) :
    Inv nodes { s with
      wps := s.wps.insert wp.namespacedName { wp with status := status }
      phase := .processing rest nodesInfo vbp } := by
  have hph := h.phase
  rw [hp] at hph
  obtain ⟨hnd, hcur⟩ := hph
  have hwp : s.wps.lookup wp.namespacedName = some wp := hcur wp List.mem_cons_self
  have hfresh : ∀ w ∈ rest, w.namespacedName ≠ wp.namespacedName := by
    intro w hw heq
    rw [List.map_cons, List.nodup_cons] at hnd
    exact hnd.1 (heq ▸ List.mem_map_of_mem hw)
  refine ⟨?_, ⟨(List.nodup_cons.mp hnd).2, ?_⟩, fun k => ?_⟩
  · intro k w hk
    by_cases hkw : k = wp.namespacedName
    · subst hkw
      simp only [AList.lookup_insert, Option.some.injEq] at hk
      rw [← hk]
      rfl
    · rw [AList.lookup_insert_ne hkw] at hk
      exact h.keys k w hk
  · intro w hw
    rw [AList.lookup_insert_ne (hfresh w hw)]
    exact hcur w (List.mem_cons_of_mem wp hw)
  · have ha := h.accounted k
    rw [hp, inFlight_processing_cons hnd] at ha
    have hcount : count (s.wps.insert wp.namespacedName { wp with status := status }) k =
        if k = wp.namespacedName then status.violationCount else count s.wps k :=
      count_insert s.wps { wp with status := status } k
    have hviol := (buildPolicyStatus_violations hb).2
    dsimp only
    rw [hcount]
    by_cases hk : k = wp.namespacedName
    · subst hk
      have hold : count s.wps wp.namespacedName = wp.status.violationCount := by
        simp [count, hwp]
      simp only [if_true] at ha ⊢
      rw [hviol]
      omega
    · simp only [hk, if_false] at ha ⊢
      omega

theorem inv_process_lost (h : Inv nodes s) (hp : s.phase = .processing (wp :: rest) nodesInfo vbp) :
    Inv nodes { s with
      phase := .processing rest nodesInfo vbp
      lost := bumpAt s.lost wp.namespacedName (vbp.get wp.namespacedName).length } := by
  have hph := h.phase
  rw [hp] at hph
  obtain ⟨hnd, hcur⟩ := hph
  refine ⟨h.keys, ⟨(List.nodup_cons.mp hnd).2, fun w hw => hcur w (List.mem_cons_of_mem wp hw)⟩,
    fun k => ?_⟩
  have ha := h.accounted k
  rw [hp, inFlight_processing_cons hnd] at ha
  unfold bumpAt
  dsimp only
  by_cases hk : k = wp.namespacedName
  · subst hk
    simp only [if_true] at ha ⊢
    omega
  · simp only [hk, if_false] at ha ⊢
    omega

theorem inv_process_exit (h : Inv nodes s) (hp : s.phase = .processing [] nodesInfo vbp) :
    Inv nodes { s with phase := .idle } := by
  refine ⟨h.keys, trivial, fun k => ?_⟩
  have ha := h.accounted k
  rw [hp] at ha
  simpa [SyncPhase.inFlight] using ha

end Processing

theorem inv_step {e : Event} {s' : Sys} (h : Inv nodes s) (hs : step nodes s e = some s') :
    Inv nodes s' := by
  cases e with
  | record node r =>
    simp only [step] at hs
    split_ifs at hs with hn
    cases hs
    exact inv_record h (List.contains_iff_mem.mp hn) r
  | list clients nodesInfo =>
    simp only [step] at hs
    split at hs
    · rename_i hidle
      split_ifs at hs with hc hempty
      · cases hs
        exact h
      · cases hs
        exact inv_list h hidle (by simpa using hc) nodesInfo
    · cases hs
  | scrape outcome =>
    simp only [step] at hs
    split at hs
    · rename_i hp
      cases outcome
      · cases hs
        exact inv_scrape_ok h hp
      · cases hs
        exact inv_scrape_failedBeforeDrain h hp
      · cases hs
        exact inv_scrape_failedAfterDrain h hp
    · rename_i hp
      cases hs
      exact inv_scrape_exit h hp
    · cases hs
  | process updateOk =>
    simp only [step] at hs
    split at hs
    · rename_i hp
      split at hs
      · rename_i hb
        split_ifs at hs
        · cases hs
          exact inv_process_updated h hp hb
        · cases hs
          exact inv_process_lost h hp
      · cases hs
        exact inv_process_lost h hp
    · rename_i hp
      cases hs
      exact inv_process_exit h hp
    · cases hs

theorem inv_initial (h : Initial s) : Inv nodes s := by
  refine ⟨h.keys, by rw [h.idle]; trivial, fun k => ?_⟩
  have hbuf : buffered nodes s.buffers k = 0 := by
    simp [buffered, h.empty]
  rw [h.idle, hbuf, h.lost, h.overwritten, h.recorded]
  simp [SyncPhase.inFlight]

end Steps

theorem inv_of_reachable {nodes : List String} {s : Sys} (h : Reachable nodes s) : Inv nodes s := by
  induction h with
  | init hi => exact inv_initial hi
  | step _ _ hs ih => exact inv_step ih hs

/-- Every record recorded for a policy is, at every point of every run, in exactly one place:
    the policy's `ViolationCount`, an agent's buffer, the running sync, the records lost to a
    failure, or those overwritten in a full buffer. -/
theorem violations_accounted {nodes : List String} {s : Sys} (h : Reachable nodes s)
    (k : String) :
    count s.wps k + buffered nodes s.buffers k + s.phase.inFlight k + s.lost k +
      s.overwritten k = s.recorded k :=
  (inv_of_reachable h).accounted k

/-! ## A record lost to a failed update -/

/-- The events of a list in order; `none` if one of them cannot happen. -/
def run (nodes : List String) : Sys → List Event → Option Sys
  | s, [] => some s
  | s, e :: es => (step nodes s e).bind (run nodes · es)

theorem reachable_run {nodes : List String} {s s' : Sys} {es : List Event}
    (hs : Reachable nodes s) (h : run nodes s es = some s') : Reachable nodes s' := by
  induction es generalizing s with
  | nil =>
    cases h
    exact hs
  | cons e es ih =>
    simp only [run] at h
    cases hstep : step nodes s e with
    | none => simp [hstep] at h
    | some s₁ =>
      rw [hstep, Option.bind_some] at h
      exact ih (Reachable.step e hs hstep) h

/-- A fact about the state a run ends in, read off the run. -/
theorem run_fact {nodes : List String} {s₀ s : Sys} {es : List Event} {β : Type}
    (hrun : run nodes s₀ es = some s) (g : Sys → β) {v : β}
    (hv : (run nodes s₀ es).map g = some v) : g s = v := by
  rw [hrun] at hv
  exact Option.some.inj hv

/-- The policy `default/p`, stored with no violation. -/
def lossPolicy : WorkloadPolicy := ⟨"default", "p", 1, .protect, .ofTotal 1⟩

/-- One agent, `node-a`, with an empty buffer; the API server holds `default/p`. -/
def lossStart : Sys :=
  ⟨fun _ => newBuffer, (∅ : AList _).insert lossPolicy.namespacedName lossPolicy, .idle,
    fun _ => 0, fun _ => 0, fun _ => 0⟩

/-- A violation of `default/p` on `node-a`; then a sync that lists the policy, drains
    `node-a`, and fails to update the policy's status. -/
def lossEvents : List Event :=
  let r : ViolationRecord := ⟨5, "p", "default", "web", "app", "/usr/bin/curl", "node-a", "protect"⟩
  let ready : NodeInfo := ⟨⟨.none, ""⟩,
    (∅ : AList _).insert "default/p" (some ⟨.ready, .protect, ""⟩)⟩
  [.record "node-a" r, .list ["node-a"] ((∅ : NodesInfoMap).insert "node-a" ready), .scrape .ok,
    .scrape .ok, .process false, .process true]

theorem initial_lossStart : Initial lossStart := by
  refine ⟨rfl, fun _ => RingBuffer.recent_of_pos_eq_zero rfl, ?_, ?_, fun _ => rfl, fun _ => rfl⟩
  · intro k w hk
    by_cases hkw : k = lossPolicy.namespacedName
    · subst hkw
      simp only [lossStart, AList.lookup_insert, Option.some.injEq] at hk
      rw [← hk]
    · simp only [lossStart] at hk
      rw [AList.lookup_insert_ne hkw, AList.lookup_empty] at hk
      cases hk
  · intro k
    by_cases hkw : k = lossPolicy.namespacedName
    · subst hkw
      simp only [lossStart, count, AList.lookup_insert]
      rfl
    · simp only [lossStart, count]
      rw [AList.lookup_insert_ne hkw, AList.lookup_empty]
      rfl

theorem exists_run_lossEvents : ∃ s, run ["node-a"] lossStart lossEvents = some s :=
  Option.isSome_iff_exists.mp (by decide +kernel)

/-- After the run, the sync is over and the record is in no count and no buffer, and was not
    overwritten: the count and the buffers hold one record less than was recorded. -/
theorem failed_update_loses_violations :
    ∃ s, run ["node-a"] lossStart lossEvents = some s ∧ Reachable ["node-a"] s ∧
      s.phase = .idle ∧ count s.wps "default/p" = 0 ∧
      buffered ["node-a"] s.buffers "default/p" = 0 ∧ s.recorded "default/p" = 1 ∧
      s.overwritten "default/p" = 0 := by
  obtain ⟨s, hrun⟩ := exists_run_lossEvents
  refine ⟨s, hrun, reachable_run (Reachable.init initial_lossStart) hrun, ?_, ?_, ?_, ?_, ?_⟩
  · exact run_fact hrun (fun s => s.phase) (by decide +kernel)
  · exact run_fact hrun (fun s => count s.wps "default/p") (by decide +kernel)
  · exact run_fact hrun (fun s => buffered ["node-a"] s.buffers "default/p") (by decide +kernel)
  · exact run_fact hrun (fun s => s.recorded "default/p") (by decide +kernel)
  · exact run_fact hrun (fun s => s.overwritten "default/p") (by decide +kernel)

/-- The account at the end of that run, where the record is the one lost. -/
theorem violations_accounted_lossEvents :
    ∃ s, Reachable ["node-a"] s ∧ s.lost "default/p" = 1 ∧
      count s.wps "default/p" + buffered ["node-a"] s.buffers "default/p" +
        s.phase.inFlight "default/p" + s.lost "default/p" + s.overwritten "default/p" =
        s.recorded "default/p" := by
  obtain ⟨s, hrun⟩ := exists_run_lossEvents
  have hreach := reachable_run (Reachable.init initial_lossStart) hrun
  exact ⟨s, hreach, run_fact hrun (fun s => s.lost "default/p") (by decide +kernel),
    violations_accounted hreach "default/p"⟩

end RuntimeEnforcer.Controller
