import RuntimeEnforcer.Resolver.Admit
import RuntimeEnforcer.Resolver.Index
import RuntimeEnforcer.Cgroups.Parse

/-
  The NRI plugin (internal/nri): how containerd's pod and container events reach the resolver.
  `synchronize` first resolves the cgroup of every container the runtime reports, grouping them
  by sandbox, and only then adds each pod that has containers; `startContainer` adds one
  container before the runtime may start it, and refuses the start when that fails unless the
  plugin fails open; `removeContainer` drops a container. `cgroupFromContainer` is the plugin's
  cgroup resolution: the runtime's cgroups path, parsed, under the cgroup root.

  What the plugin guarantees: a container it lets start is cached with its cgroup, and holds its
  pod's policy (`startContainer_admits`); after a synchronization every reported container of a
  reported pod is cached (`synchronize_caches`); a cgroup that cannot be resolved stops the
  synchronization before any pod reaches the resolver (`synchronize_unresolved`). Each event is a
  run of resolver calls, so the resolver's run invariants hold along every run of events.
-/

namespace RuntimeEnforcer.Nri

open Resolver

/-! ## The NRI objects -/

/-- api.PodSandbox, the fields the plugin reads. -/
structure PodSandbox where
  id : String
  uid : PodID
  name : String
  «namespace» : String
  labels : AList (fun _ : String => String)

/-- api.LinuxContainer, the field the plugin reads. -/
structure LinuxContainer where
  cgroupsPath : String

/-- api.Container, the fields the plugin reads. -/
structure Container where
  id : ContainerID
  name : ContainerName
  podSandboxId : String
  linux : Option LinuxContainer

/-- The protobuf getters, which give "" on a nil container. -/
def Container.getId : Option Container → ContainerID
  | none => ""
  | some c => c.id

def Container.getName : Option Container → ContainerName
  | none => ""
  | some c => c.name

def Container.getPodSandboxId : Option Container → String
  | none => ""
  | some c => c.podSandboxId

/-- podSandboxToPodMeta; the workload name and kind are not read by the resolver. -/
def podSandboxToPodMeta (pod : PodSandbox) : PodMeta :=
  ⟨pod.uid, pod.«namespace», pod.name, pod.labels⟩

/-! ## cgroupFromContainer -/

/-- The container's cgroup: its cgroups path parsed, under the cgroup root `cgRoot`, and the ID
`getCgroupIDFromPath` (name_to_handle_at) finds there. -/
def cgroupFromContainer (cgRoot : List Char) (getCgroupIDFromPath : List Char → Except String CgroupID) :
    Option Container → Except String (CgroupID × String)
  | none => .error "received empty container" -- safety check, this should never happen
  | some container =>
    match container.linux with
    | none =>
      .error ("received container '" ++ container.name ++ "(" ++ container.id ++ ")' without Linux info")
    | some linux =>
      match Cgroups.parseCgroupsPath linux.cgroupsPath.toList with
      | .error err =>
        .error ("failed to parse cgroup path '" ++ linux.cgroupsPath ++ "' for container '" ++
          container.name ++ "(" ++ container.id ++ ")': " ++ String.ofList err)
      | .ok parsedPath =>
        let path := GoPath.join [cgRoot, parsedPath]
        match getCgroupIDFromPath path with
        | .error err =>
          .error ("failed to get cgroup ID from path '" ++ String.ofList path ++ "' for container '" ++
            container.name ++ "(" ++ container.id ++ ")': " ++ err)
        | .ok cgroupID => .ok (cgroupID, String.ofList path)

/-- A container whose runtime reports a systemd "slice:prefix:name" cgroups path gets the ID found
at the cgroup root, then the slice's units, then the container's scope: the path has no element
more or less. -/
theorem cgroupFromContainer_systemd {root : List (List Char)} (hroot : root ≠ [])
    (hplain : ∀ e ∈ root, GoPath.Plain e ∧ e ≠ [])
    {getCgroupIDFromPath : List Char → Except String CgroupID} {container : Container}
    {linux : LinuxContainer} (hlinux : container.linux = some linux) {sl : Cgroups.Slice}
    {rt id : List Char} (hpath : linux.cgroupsPath.toList = sl.name ++ ':' :: (rt ++ ':' :: id))
    (hname : ':' ∉ sl.name) (hrt : ':' ∉ rt) (hid : ':' ∉ id)
    (hslash : '/' ∉ linux.cgroupsPath.toList) {cgroupID : CgroupID}
    (hfound : getCgroupIDFromPath
      (GoPath.rootedPath (root ++ sl.units ++ [Cgroups.scopeOf rt id])) = .ok cgroupID) :
    cgroupFromContainer (GoPath.rootedPath root) getCgroupIDFromPath (some container) =
      .ok (cgroupID, String.ofList (GoPath.rootedPath (root ++ sl.units ++ [Cgroups.scopeOf rt id]))) := by
  have hparse := Cgroups.parseCgroupsPath_triple sl hname hrt hid (hpath ▸ hslash)
  have hscope := @Cgroups.plain_scopeOf rt id (fun h => hslash (by simp [hpath, h]))
    (fun h => hslash (by simp [hpath, h]))
  -- every element is plain and nonempty; the one empty element the join adds is dropped
  have hall : ∀ e ∈ root ++ sl.units ++ [Cgroups.scopeOf rt id], GoPath.Plain e ∧ e ≠ [] := by
    intro e he
    rcases List.mem_append.mp he with he | he
    · rcases List.mem_append.mp he with he | he
      · exact hplain e he
      · exact Cgroups.Slice.plain_of_mem_units he
    · rw [List.mem_singleton.mp he]
      exact hscope
  have hmem : ∀ e ∈ sl.units ++ [Cgroups.scopeOf rt id], e ∈ root ++ sl.units ++ [Cgroups.scopeOf rt id] :=
    fun e he => by simp only [List.mem_append] at he ⊢; tauto
  have hkeep : ∀ l : List (List Char), (∀ e ∈ l, e ≠ []) → l.filter (· ≠ []) = l :=
    fun l hl => List.filter_eq_self.mpr fun e he => by simpa using hl e he
  have hfilter : (root ++ [] :: (sl.units ++ [Cgroups.scopeOf rt id])).filter (· ≠ []) =
      root ++ sl.units ++ [Cgroups.scopeOf rt id] := by
    rw [List.filter_append, List.filter_cons_of_neg (by simp), hkeep root fun e he => (hplain e he).2,
      hkeep _ fun e he => (hall e (hmem e he)).2, List.append_assoc]
  have hjoin : GoPath.join [GoPath.rootedPath root, GoPath.rootedPath (sl.units ++ [Cgroups.scopeOf rt id])] =
      GoPath.rootedPath (root ++ sl.units ++ [Cgroups.scopeOf rt id]) := by
    have hinter : GoPath.rootedPath (sl.units ++ [Cgroups.scopeOf rt id]) =
        ['/'].intercalate ([] :: (sl.units ++ [Cgroups.scopeOf rt id])) :=
      GoPath.rootedPath_eq_intercalate
    rw [hinter, GoPath.join_rootedPath hroot (by simp), hfilter]
    · intro e he
      rcases List.mem_append.mp he with he | he
      · exact (hplain e he).1
      · rcases List.mem_cons.mp he with rfl | he
        · decide
        · exact (hall e (hmem e he)).1
    · rw [hfilter]
      simp
  dsimp only [cgroupFromContainer]
  rw [hlinux]
  dsimp only
  rw [hpath, hparse]
  dsimp only
  rw [hjoin, hfound]

/-- The cgroup v2 root of a node, and a container of a besteffort pod as containerd reports it
under the systemd cgroup driver. -/
def sysfsRoot : List (List Char) := ["sys".toList, "fs".toList, "cgroup".toList]

def appContainer : Container :=
  ⟨"c1", "app", "sb1", some ⟨"kubepods-besteffort-pod83b090de.slice:cri-containerd:18b2adc8"⟩⟩

theorem cgroupFromContainer_systemd_app :
    (∀ e ∈ sysfsRoot, GoPath.Plain e ∧ e ≠ []) ∧
      cgroupFromContainer (GoPath.rootedPath sysfsRoot) (fun _ => .ok 100) (some appContainer) =
        .ok (100, String.ofList (GoPath.rootedPath (sysfsRoot ++ Cgroups.besteffortPodSlice.units ++
          [Cgroups.scopeOf "cri-containerd".toList "18b2adc8".toList]))) := by
  have hplain : ∀ e ∈ sysfsRoot, GoPath.Plain e ∧ e ≠ [] := by
    intro e he
    simp only [sysfsRoot, List.mem_cons, List.not_mem_nil, or_false] at he
    rcases he with rfl | rfl | rfl <;> decide
  exact ⟨hplain, cgroupFromContainer_systemd (by simp [sysfsRoot]) hplain rfl (by decide +kernel)
    (by decide +kernel) (by decide) (by decide) (by decide +kernel) rfl⟩

/-! ## The plugin -/

/-- The containers of each sandbox, by container ID. -/
abbrev Sandboxes := AList (fun _ : String => AList (fun _ : ContainerID => ContainerInput))

/-- The plugin: how it resolves cgroups, whether it fails open, the resolver it feeds and its
last unrecoverable error. -/
structure Plugin where
  resolver : State
  lastErr : Option String
  failOpen : Bool
  resolveCgroupID : Option Container → Except String (CgroupID × String)

inductive SyncError where
  /-- retry.Unrecoverable: the handler stops retrying -/
  | unrecoverable (err : String)
  /-- "NRI pod/container sync not ready yet, will retry: %w" -/
  | notReady (err : ResolverError)

/-- One container of the first loop of Synchronize: its cgroup, stored under its sandbox. -/
def collectContainer (resolveCgroupID : Option Container → Except String (CgroupID × String))
    (tmpSandboxes : Sandboxes) (container : Option Container) : Except String Sandboxes :=
  match resolveCgroupID container with
  | .error err => .error err
  | .ok (cgroupID, cgroupPath) =>
    let sandbox := Container.getPodSandboxId container
    let containers := (tmpSandboxes.lookup sandbox).getD ∅
    .ok (tmpSandboxes.insert sandbox (containers.insert (Container.getId container)
      ⟨⟨Container.getId container, Container.getName container, cgroupID⟩, cgroupPath⟩))

/-- One pod of the second loop of Synchronize. -/
def syncPod (f : CallbackFaults) (tmpSandboxes : Sandboxes) (r : State) :
    Option PodSandbox → State × Option ResolverError
  | none => (r, none) -- safety check, this should never happen
  | some pod =>
    match tmpSandboxes.lookup pod.id with
    -- no containers found for pod: a new sandbox, or a terminating one
    | none => (r, none)
    | some containers => addPodContainerFromNri f r ⟨podSandboxToPodMeta pod, containers⟩

def synchronize (f : CallbackFaults) (p : Plugin) (pods : List (Option PodSandbox))
    (containers : List (Option Container)) : Plugin × Option SyncError :=
  match containers.foldlM (collectContainer p.resolveCgroupID) ∅ with
  | .error err =>
    let lastErr := "failed to synchronize NRI plugin: " ++ err
    ({ p with lastErr := some lastErr }, some (.unrecoverable lastErr))
  | .ok tmpSandboxes =>
    let synced := ErrLoop.forEach (syncPod f tmpSandboxes) pods p.resolver
    ({ p with resolver := synced.1 }, synced.2.map .notReady)

def preventedStart (pod : PodSandbox) (container : Container) : String :=
  "runtime-enforcer has prevented the container '" ++ pod.name ++ "/" ++ container.name ++
    "' from starting. To change this behavior, set agent.nriFailopen=true in the helm chart"

/-- handleError of StartContainer: the start goes on when the plugin fails open. -/
def handleError (p : Plugin) (pod : PodSandbox) (container : Container) : Option String :=
  if p.failOpen then none else some (preventedStart pod container)

/-- The pod input of a starting container; it is not running yet, so it has no nested cgroup. -/
def startInput (pod : PodSandbox) (container : Container) (cgroupID : CgroupID) : PodInput :=
  ⟨podSandboxToPodMeta pod,
    (∅ : AList _).insert container.id ⟨⟨container.id, container.name, cgroupID⟩, ""⟩⟩

def startContainer (f : CallbackFaults) (p : Plugin) (pod : PodSandbox) (container : Container) :
    Plugin × Option String :=
  match p.resolveCgroupID (some container) with
  | .error _ => (p, handleError p pod container)
  | .ok (cgroupID, _) =>
    let added := addPodContainerFromNri f p.resolver (startInput pod container cgroupID)
    ({ p with resolver := added.1 },
      match added.2 with
      | some _ => handleError p pod container
      | none => none)

/-- RemoveContainer: the error is only logged. -/
def removeContainer (f : CallbackFaults) (p : Plugin) (pod : PodSandbox) (container : Container) :
    Plugin × Option String :=
  ({ p with resolver := (removePodContainerFromNri f p.resolver pod.uid container.id).1 }, none)

/-- The events containerd sends the plugin. -/
inductive Event where
  | synchronize (pods : List (Option PodSandbox)) (containers : List (Option Container))
  | startContainer (pod : PodSandbox) (container : Container)
  | removeContainer (pod : PodSandbox) (container : Container)

/-- The plugin after an event. -/
def Event.apply (f : CallbackFaults) (p : Plugin) : Event → Plugin
  | .synchronize pods containers => (Nri.synchronize f p pods containers).1
  | .startContainer pod container => (Nri.startContainer f p pod container).1
  | .removeContainer pod container => (Nri.removeContainer f p pod container).1

/-- A node where policy default/p holds containers named app, before any pod: the plugin, which
does not fail open, resolves cgroups below the cgroup v2 root, where the ID of every path is 100. -/
def policyRun : State :=
  run State.init
    [(.none, .reconcileWP ⟨"default", "p", ⟨.protect, (∅ : AList _).insert "app" ["/bin/app"]⟩⟩)]

def webPlugin : Plugin :=
  ⟨policyRun, none, false, cgroupFromContainer (GoPath.rootedPath sysfsRoot) fun _ => .ok 100⟩

/-- The sandbox of appContainer, labelled with policy p. -/
def webSandbox : PodSandbox :=
  ⟨"sb1", "pod1", "web", "default", (∅ : AList _).insert policyLabelKey "p"⟩

/-! ## The first loop of Synchronize -/

section Collect

variable {resolve : Option Container → Except String (CgroupID × String)}

/-- The containers collected for `sandbox` hold `v` under `cid`. -/
def Sandboxes.Holds (tmp : Sandboxes) (sandbox : String) (cid : ContainerID) (v : ContainerInput) :
    Prop :=
  ∃ m, tmp.lookup sandbox = some m ∧ m.lookup cid = some v

/-- Collecting a container of another ID keeps what was collected. -/
theorem collectContainer_keeps {tmp tmp' : Sandboxes} {x : Option Container}
    (h : collectContainer resolve tmp x = .ok tmp') {sandbox : String} {cid : ContainerID}
    {v : ContainerInput} (hx : Container.getId x ≠ cid) (hv : tmp.Holds sandbox cid v) :
    tmp'.Holds sandbox cid v := by
  obtain ⟨m, hm, hcid⟩ := hv
  unfold collectContainer at h
  split at h
  · cases h
  · rw [← Except.ok.inj h]
    by_cases hsb : sandbox = Container.getPodSandboxId x
    · subst hsb
      refine ⟨_, AList.lookup_insert _, ?_⟩
      rw [AList.lookup_insert_ne (Ne.symm hx), hm, Option.getD_some]
      exact hcid
    · exact ⟨m, by rw [AList.lookup_insert_ne hsb]; exact hm, hcid⟩

theorem collectContainer_ok {tmp tmp' : Sandboxes} {c : Container}
    (h : collectContainer resolve tmp (some c) = .ok tmp') :
    ∃ cgroupID cgroupPath, resolve (some c) = .ok (cgroupID, cgroupPath) ∧
      tmp'.Holds c.podSandboxId c.id ⟨⟨c.id, c.name, cgroupID⟩, cgroupPath⟩ := by
  unfold collectContainer at h
  split at h
  · cases h
  · rename_i cgroupID cgroupPath hres
    refine ⟨cgroupID, cgroupPath, hres, ?_⟩
    rw [← Except.ok.inj h]
    exact ⟨_, AList.lookup_insert _, AList.lookup_insert _⟩

/-- A collection that succeeded holds every container, with the cgroup resolved for it, when the
container IDs are distinct. -/
theorem collect_ok {cs : List (Option Container)} (hnd : (cs.map Container.getId).Nodup) :
    ∀ {tmp tmp' : Sandboxes}, cs.foldlM (collectContainer resolve) tmp = .ok tmp' →
      ∀ c, some c ∈ cs → ∃ cgroupID cgroupPath, resolve (some c) = .ok (cgroupID, cgroupPath) ∧
        tmp'.Holds c.podSandboxId c.id ⟨⟨c.id, c.name, cgroupID⟩, cgroupPath⟩ := by
  induction cs with
  | nil => exact fun _ c hc => absurd hc List.not_mem_nil
  | cons x xs ih =>
    intro tmp tmp' hfold c hc
    rw [List.map_cons, List.nodup_cons] at hnd
    rw [List.foldlM_cons, ErrLoop.bind_eq_ok] at hfold
    obtain ⟨tmp₁, hstep, hrest⟩ := hfold
    rcases List.mem_cons.mp hc with rfl | hc'
    · -- collected here; no later container has its ID, so it stays
      obtain ⟨cgroupID, cgroupPath, hres, hholds⟩ := collectContainer_ok hstep
      refine ⟨cgroupID, cgroupPath, hres, ?_⟩
      exact ErrLoop.foldlM_invariant (collectContainer resolve)
        (fun t => t.Holds c.podSandboxId c.id ⟨⟨c.id, c.name, cgroupID⟩, cgroupPath⟩)
        (fun t y t' hy ht hstep' =>
          collectContainer_keeps hstep'
            (fun h => hnd.1 (show c.id ∈ xs.map Container.getId from h ▸ List.mem_map_of_mem hy)) ht)
        hholds hrest
    · exact ih hnd.2 hrest c hc'

end Collect

/-! ## The second loop of Synchronize -/

section Pods

variable {f : CallbackFaults} {tmp : Sandboxes}

/-- The resolver holds every container collected for the sandbox of the pod. -/
def Synced (tmp : Sandboxes) (r : State) : Option PodSandbox → Prop
  | none => True
  | some pod => ∀ m, tmp.lookup pod.id = some m → ∀ cid cin, m.lookup cid = some cin →
      r.Holds pod.uid cid cin.containerMeta

theorem holds_syncPod {r : State} {podID : PodID} {cid : ContainerID} {c : ContainerMeta}
    (h : r.Holds podID cid c) (x : Option PodSandbox) : (syncPod f tmp r x).1.Holds podID cid c := by
  unfold syncPod
  split
  · exact h
  · split
    · exact h
    · exact h.of_addPodContainerFromNri

theorem synced_syncPod {r : State} {x : Option PodSandbox} (hok : (syncPod f tmp r x).2 = none) :
    Synced tmp (syncPod f tmp r x).1 x := by
  rcases x with _ | pod
  · trivial
  · rcases hm : tmp.lookup pod.id with _ | m
    · intro m' hm'
      rw [hm] at hm'
      cases hm'
    · simp only [syncPod, hm] at hok ⊢
      obtain ⟨-, -, -, hheld, -⟩ := addPodContainerFromNri_of_ok hok
      intro m' hm' cid cin hcin
      rw [hm, Option.some.injEq] at hm'
      subst hm'
      exact hheld cid cin hcin

theorem Synced.syncPod {r : State} {x : Option PodSandbox} (h : Synced tmp r x) (y : Option PodSandbox) :
    Synced tmp (Nri.syncPod f tmp r y).1 x := by
  rcases x with _ | pod
  · trivial
  · exact fun m hm cid cin hcin => holds_syncPod (h m hm cid cin hcin) y

end Pods

/-! ## What Synchronize guarantees -/

section Synchronize

variable {f : CallbackFaults} {p : Plugin} {pods : List (Option PodSandbox)}
  {containers : List (Option Container)}

/-- After a synchronization that succeeded, every container the runtime reported, with distinct
IDs, is cached under each reported pod of its sandbox, with the cgroup resolved for it. -/
theorem synchronize_caches (hok : (synchronize f p pods containers).2 = none)
    (hnd : (containers.map Container.getId).Nodup) {pod : PodSandbox} (hpod : some pod ∈ pods)
    {c : Container} (hc : some c ∈ containers) (hsb : c.podSandboxId = pod.id) :
    ∃ cgroupID cgroupPath, p.resolveCgroupID (some c) = .ok (cgroupID, cgroupPath) ∧
      (synchronize f p pods containers).1.resolver.Holds pod.uid c.id ⟨c.id, c.name, cgroupID⟩ := by
  unfold synchronize at hok ⊢
  rcases htmp : containers.foldlM (collectContainer p.resolveCgroupID) ∅ with err | tmp
  · rw [htmp] at hok
    cases hok
  rw [htmp] at hok
  dsimp only at hok ⊢
  obtain ⟨cgroupID, cgroupPath, hres, m, hm, hcid⟩ := collect_ok hnd htmp c hc
  refine ⟨cgroupID, cgroupPath, hres, ?_⟩
  -- each pod is still to come or synced; at the end of a loop that succeeded, all are synced
  have hend := ErrLoop.forEach_rest_of_ok (syncPod f tmp)
    (fun rest r => ∀ x ∈ pods, x ∈ rest ∨ Synced tmp r x) ?_ (fun x hx => .inl hx)
    (Option.map_eq_none_iff.mp hok)
  · exact (hend (some pod) hpod).resolve_left List.not_mem_nil m (hsb ▸ hm) c.id _ hcid
  · intro y ys r hrest hy x hx
    rcases hrest x hx with hx' | hx'
    · rcases List.mem_cons.mp hx' with rfl | hx'
      · exact .inr (synced_syncPod hy)
      · exact .inl hx'
    · exact .inr (hx'.syncPod y)

theorem synchronize_caches_web :
    (synchronize .none webPlugin [some webSandbox] [some appContainer]).2 = none ∧
      ∃ cgroupID cgroupPath, webPlugin.resolveCgroupID (some appContainer) = .ok (cgroupID, cgroupPath) ∧
        (synchronize .none webPlugin [some webSandbox] [some appContainer]).1.resolver.Holds
          webSandbox.uid appContainer.id ⟨appContainer.id, appContainer.name, cgroupID⟩ := by
  have hok : (synchronize .none webPlugin [some webSandbox] [some appContainer]).2 = none := by
    decide +kernel
  exact ⟨hok, synchronize_caches hok (by decide) (List.mem_singleton_self _)
    (List.mem_singleton_self _) rfl⟩

/-- A container whose cgroup cannot be resolved stops the synchronization before any pod reaches
the resolver, with an error the handler does not retry, kept as the plugin's last error. -/
theorem synchronize_unresolved {c : Option Container} (hc : c ∈ containers) {err : String}
    (herr : p.resolveCgroupID c = .error err) :
    (synchronize f p pods containers).1.resolver = p.resolver ∧
      ∃ e, (synchronize f p pods containers).1.lastErr = some e ∧
        (synchronize f p pods containers).2 = some (.unrecoverable e) := by
  obtain ⟨e, he⟩ := ErrLoop.foldlM_error (collectContainer p.resolveCgroupID) hc
    (fun _ => ⟨err, by rw [collectContainer, herr]⟩) ∅
  unfold synchronize
  rw [he]
  exact ⟨rfl, _, rfl, rfl⟩

/-- A container that containerd reports without its Linux part. -/
def bareContainer : Container := ⟨"c2", "app", "sb1", none⟩

theorem synchronize_unresolved_bare :
    webPlugin.resolveCgroupID (some bareContainer) = .error "received container 'app(c2)' without Linux info" ∧
      (synchronize .none webPlugin [some webSandbox] [some appContainer, some bareContainer]).1.resolver =
        webPlugin.resolver ∧
      ∃ e, (synchronize .none webPlugin [some webSandbox] [some appContainer, some bareContainer]).1.lastErr = some e ∧
        (synchronize .none webPlugin [some webSandbox] [some appContainer, some bareContainer]).2 =
          some (.unrecoverable e) := by
  have herr : webPlugin.resolveCgroupID (some bareContainer) =
      .error "received container 'app(c2)' without Linux info" := by decide
  exact ⟨herr, synchronize_unresolved (by simp) herr⟩

end Synchronize

/-! ## What StartContainer guarantees -/

section Start

variable {f : CallbackFaults} {p : Plugin} {pod : PodSandbox} {container : Container}

/-- A plugin that does not fail open lets a container start only once the resolver caches it in
its pod with its cgroup, and, when the pod has a policy label, the policy is known and its ID for
the container's name is on the container's cgroup. -/
theorem startContainer_admits (hclosed : p.failOpen = false)
    (hok : (startContainer f p pod container).2 = none) :
    ∃ cgroupID path, p.resolveCgroupID (some container) = .ok (cgroupID, path) ∧
      ∃ state, (startContainer f p pod container).1.resolver.podCache.lookup pod.uid = some state ∧
        (∃ c, state.containers.lookup container.id = some c ∧ c.name = container.name ∧
          c.cgroupID = cgroupID) ∧
        (state.policyName ≠ "" → ∃ info, p.resolver.wpState.lookup state.policyKey = some info ∧
          ∀ q, info.polByContainer.lookup container.name = some q →
            (startContainer f p pod container).1.resolver.bpf.cgToPolicy cgroupID = some q) := by
  have hrefuse : handleError p pod container ≠ none := by simp [handleError, hclosed]
  unfold startContainer at hok ⊢
  rcases hres : p.resolveCgroupID (some container) with err | ⟨cgroupID, path⟩
  · rw [hres] at hok
    exact absurd hok hrefuse
  rw [hres] at hok
  dsimp only at hok ⊢
  rcases hadd : (addPodContainerFromNri f p.resolver (startInput pod container cgroupID)).2 with _ | e
  · obtain ⟨state, hstate, -, hheld, hpol⟩ := addPodContainerFromNri_of_ok hadd
    obtain ⟨e, he, c, hc, hname, hcg⟩ :=
      hheld container.id ⟨⟨container.id, container.name, cgroupID⟩, ""⟩ (AList.lookup_insert _)
    -- the entry that holds the container is the pod's entry
    have hstate' : e = state := Option.some.inj (he.symm.trans hstate)
    subst hstate'
    refine ⟨cgroupID, path, rfl, e, hstate, ⟨c, hc, hname, hcg⟩, fun hlabel => ?_⟩
    obtain ⟨info, hinfo, hon⟩ := hpol hlabel
    refine ⟨info, hinfo, fun q hq => ?_⟩
    have hcg' : c.cgroupID = cgroupID := hcg
    have hheld := hon container.id c q hc (hname ▸ hq)
    rwa [hcg'] at hheld
  · rw [hadd] at hok
    exact absurd hok hrefuse

theorem startContainer_admits_web :
    webPlugin.failOpen = false ∧ (startContainer .none webPlugin webSandbox appContainer).2 = none ∧
      ∃ cgroupID path, webPlugin.resolveCgroupID (some appContainer) = .ok (cgroupID, path) ∧
        ∃ state, (startContainer .none webPlugin webSandbox appContainer).1.resolver.podCache.lookup
            webSandbox.uid = some state ∧
          (∃ c, state.containers.lookup appContainer.id = some c ∧ c.name = appContainer.name ∧
            c.cgroupID = cgroupID) ∧
          (state.policyName ≠ "" → ∃ info, webPlugin.resolver.wpState.lookup state.policyKey = some info ∧
            ∀ q, info.polByContainer.lookup appContainer.name = some q →
              (startContainer .none webPlugin webSandbox appContainer).1.resolver.bpf.cgToPolicy cgroupID =
                some q) := by
  have hok : (startContainer .none webPlugin webSandbox appContainer).2 = none := by decide +kernel
  exact ⟨rfl, hok, startContainer_admits rfl hok⟩

end Start

/-! ## Runs of events -/

/-- The plugin as it starts, with an empty resolver. -/
def Plugin.init (failOpen : Bool)
    (resolveCgroupID : Option Container → Except String (CgroupID × String)) : Plugin :=
  ⟨State.init, none, failOpen, resolveCgroupID⟩

/-- The plugins that runs of events reach, with callbacks `allowed` admits. -/
inductive Plugin.Reachable (allowed : CallbackFaults → Prop) : Plugin → Prop where
  | init (failOpen : Bool) (resolveCgroupID : Option Container → Except String (CgroupID × String)) :
      Plugin.Reachable allowed (Plugin.init failOpen resolveCgroupID)
  | step {p : Plugin} (f : CallbackFaults) (ev : Event) :
      Plugin.Reachable allowed p → allowed f → Plugin.Reachable allowed (ev.apply f p)

section Runs

variable {allowed : CallbackFaults → Prop} {f : CallbackFaults}

theorem reachable_syncPod (hf : allowed f) {tmp : Sandboxes} {r : State}
    (hr : Resolver.Reachable allowed r) (x : Option PodSandbox) :
    Resolver.Reachable allowed (syncPod f tmp r x).1 := by
  unfold syncPod
  split
  · exact hr
  · split
    · exact hr
    · exact Reachable.step f (.addPodContainerFromNri _) hr hf

/-- Each event is a run of resolver calls. -/
theorem reachable_apply (hf : allowed f) {p : Plugin} (hr : Resolver.Reachable allowed p.resolver)
    (ev : Event) : Resolver.Reachable allowed (ev.apply f p).resolver := by
  cases ev with
  | synchronize pods containers =>
    show Resolver.Reachable allowed (synchronize f p pods containers).1.resolver
    unfold synchronize
    split
    · exact hr
    · exact ErrLoop.forEach_invariant _ (Resolver.Reachable allowed)
        (fun r x _ h => reachable_syncPod hf h x) hr
  | startContainer pod container =>
    show Resolver.Reachable allowed (startContainer f p pod container).1.resolver
    unfold startContainer
    split
    · exact hr
    · exact Reachable.step f (.addPodContainerFromNri _) hr hf
  | removeContainer pod container =>
    exact Reachable.step f (.removePodContainerFromNri _ _) hr hf

theorem Plugin.Reachable.resolver {p : Plugin} (h : Plugin.Reachable allowed p) :
    Resolver.Reachable allowed p.resolver := by
  induction h with
  | init => exact Resolver.Reachable.init
  | step f ev _ hf ih => exact reachable_apply hf ih ev

end Runs

/-- Along every run of NRI events whose callbacks succeed, every cgroup the resolver indexes or
enforces belongs to a cached container. -/
theorem plugin_indexInv {p : Plugin} (h : Plugin.Reachable (· = CallbackFaults.none) p) :
    IndexInv p.resolver :=
  indexInv_of_reachable h.resolver

/-- The plugin after synchronizing a node with one running container, then starting a second. -/
def webEvents : Plugin :=
  (Event.startContainer webSandbox ⟨"c3", "sidecar", "sb1",
      some ⟨"kubepods-besteffort-pod83b090de.slice:cri-containerd:c3"⟩⟩).apply .none
    ((Event.synchronize [some webSandbox] [some appContainer]).apply .none
      (Plugin.init false webPlugin.resolveCgroupID))

theorem plugin_indexInv_webEvents :
    Plugin.Reachable (· = CallbackFaults.none) webEvents ∧ IndexInv webEvents.resolver := by
  have h : Plugin.Reachable (· = CallbackFaults.none) webEvents :=
    .step .none _ (.step .none _ (.init _ _) rfl) rfl
  exact ⟨h, plugin_indexInv h⟩

end RuntimeEnforcer.Nri
