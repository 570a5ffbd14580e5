import RuntimeEnforcer.Resolver.Ops

/-
  Runs of the resolver: its four entry points in any order, each with the faults of its
  callbacks. `Reachable allowed` is the set of states some run reaches from `State.init` when
  the faults of every call satisfy `allowed`; `allowed := (· = CallbackFaults.none)` is a run in
  which every callback succeeds.

  Two traces show what such runs reach. A container removed from a policy's spec while no
  cached pod runs it stays in the policy's `polByContainer`, and a pod that starts it later is
  enforced with the removed container's old policy. A tracker update that fails on a new pod
  leaves its cgroup in `cgroupIDToPodID` without the pod, and a values update that fails in
  `syncWorkloadPolicy` leaves the IDs created before it in the BPF maps, recorded nowhere.
-/

namespace RuntimeEnforcer.Resolver

open PolicyMode

/-- The resolver's entry points. -/
inductive Op where
  | addPodContainerFromNri (pod : PodInput)
  | removePodContainerFromNri (podID : PodID) (containerID : ContainerID)
  | reconcileWP (wp : WorkloadPolicy)
  | handleWPDelete (wp : WorkloadPolicy)

/-- One call of an entry point: the state after it and its error. -/
def Op.apply (f : CallbackFaults) (r : State) : Op → State × Option ResolverError
  | .addPodContainerFromNri pod => Resolver.addPodContainerFromNri f r pod
  | .removePodContainerFromNri podID containerID =>
    Resolver.removePodContainerFromNri f r podID containerID
  | .reconcileWP wp => Resolver.reconcileWP f r wp
  | .handleWPDelete wp => Resolver.handleWPDelete f r wp

/-- The states that runs whose faults satisfy `allowed` reach, whatever each call returned. -/
inductive Reachable (allowed : CallbackFaults → Prop) : State → Prop where
  | init : Reachable allowed State.init
  | step {r : State} (f : CallbackFaults) (op : Op) :
      Reachable allowed r → allowed f → Reachable allowed (op.apply f r).1

/-- The calls of a list, in order. -/
def run : State → List (CallbackFaults × Op) → State
  | r, [] => r
  | r, (f, op) :: ops => run (op.apply f r).1 ops

theorem reachable_run {allowed : CallbackFaults → Prop} {r : State}
    {ops : List (CallbackFaults × Op)} (hr : Reachable allowed r)
    (hops : ∀ p ∈ ops, allowed p.1) : Reachable allowed (run r ops) := by
  induction ops generalizing r with
  | nil => exact hr
  | cons p ops ih =>
    obtain ⟨f, op⟩ := p
    have hf : allowed f := hops (f, op) List.mem_cons_self
    exact ih (Reachable.step f op hr hf) fun q hq => hops q (List.mem_cons_of_mem _ hq)

/-! ## A container removed from a spec with no pod running it -/

/-- Policy `default/p` names containers `a` and `b`, then only `a`; then a pod with the policy's
    label starts a container named `b`. Every callback succeeds, and the container is enforced
    with policy 2, which `b` had before the update, in protect mode and with its old values. -/
theorem reconcileWP_keeps_removed_container :
    let wpAB : WorkloadPolicy := ⟨"default", "p",
      ⟨.protect, ((∅ : AList _).insert "b" ["/bin/b"]).insert "a" ["/bin/a"]⟩⟩
    let wpA : WorkloadPolicy := ⟨"default", "p", ⟨.protect, (∅ : AList _).insert "a" ["/bin/a"]⟩⟩
    let pod : PodInput := ⟨⟨"pod1", "default", "web", (∅ : AList _).insert policyLabelKey "p"⟩,
      (∅ : AList _).insert "c1" ⟨⟨"c1", "b", 100⟩, "/sys/fs/cgroup/web/c1"⟩⟩
    let s := run State.init [(.none, .reconcileWP wpAB), (.none, .reconcileWP wpA),
      (.none, .addPodContainerFromNri pod)]
    Reachable (· = CallbackFaults.none) s ∧ wpA.spec.rulesByContainer.lookup "b" = none ∧
      (s.podCache.lookup "pod1").map (fun e => (e.policyName, e.containers.lookup "c1")) =
        some ("p", some ⟨"c1", "b", 100⟩) ∧
      s.bpf.cgToPolicy 100 = some 2 ∧ s.bpf.policyMode 2 = some .protect ∧
      s.bpf.policyValues 2 = some ["/bin/b"] := by
  refine ⟨reachable_run Reachable.init (by simp), ?_⟩
  decide +kernel

/-! ## Failed callbacks -/

/-- A new pod whose tracker update fails: its cgroup maps to a pod the cache does not hold, and
    `GetContainerView` cannot resolve it. A policy whose second container's values update fails:
    the first container's policy ID keeps its mode and values, recorded in no `polByContainer`,
    and deleting the policy leaves them in place. -/
theorem failed_callbacks_leave_orphans :
    let pod : PodInput := ⟨⟨"pod1", "default", "web", ∅⟩,
      (∅ : AList _).insert "c1" ⟨⟨"c1", "app", 100⟩, "/sys/fs/cgroup/web/c1"⟩⟩
    let added := addPodContainerFromNri { CallbackFaults.none with cgTracker := fun _ => true }
      State.init pod
    let wp : WorkloadPolicy := ⟨"default", "p",
      ⟨.protect, ((∅ : AList _).insert "b" ["/bin/b"]).insert "a" ["/bin/a"]⟩⟩
    let synced := reconcileWP
      { CallbackFaults.none with binaries := fun policyID _ => policyID = 2 } State.init wp
    let deleted := handleWPDelete .none synced.1 wp
    Reachable (fun _ => True) added.1 ∧ added.2 = some (.cgTrackerUpdate "web" "app" .failed) ∧
      added.1.cgroupIDToPodID.lookup 100 = some "pod1" ∧ added.1.podCache.lookup "pod1" = none ∧
      getContainerView added.1 100 = .error (.noPodEntry "pod1" 100) ∧
      Reachable (fun _ => True) deleted.1 ∧
      synced.2 = some (.populatePolicy "default/p" "b" .failed) ∧
      (synced.1.wpState.entries.all fun e => e.2.polByContainer.entries.all (·.2 ≠ 1)) ∧
      deleted.2 = none ∧ deleted.1.wpState.lookup "default/p" = none ∧
      deleted.1.bpf.policyMode 1 = some .protect ∧ deleted.1.bpf.policyValues 1 = some ["/bin/a"] := by
  refine ⟨Reachable.step _ (.addPodContainerFromNri _) Reachable.init trivial, ?_, ?_, ?_, rfl,
    Reachable.step _ (.handleWPDelete _)
      (Reachable.step _ (.reconcileWP _) Reachable.init trivial) trivial, ?_⟩ <;>
  decide +kernel

end RuntimeEnforcer.Resolver
