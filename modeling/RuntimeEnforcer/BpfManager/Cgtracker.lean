import Mathlib

/-
  `bpf/main.c` 34-38, 232-244 and 292-350 (`cgrp_get_tracker_id`,
  `get_tracker_id_from_curr_task`, `tg_cgtracker_cgroup_mkdir`, `tg_cgtracker_cgroup_release`)
  and `internal/bpf/cgtracker.go` (`updateCgTrackerMap`): how `cgtracker_map` comes to send
  every cgroup of a container to the container's cgroup, whose id is the tracker id that
  `cg_to_policy_map` is keyed by.

  Two mechanisms race. The kernel hook gives a new cgroup its parent's tracker when the parent
  has one. The agent's `updateCgTrackerMap(c, path)` writes `c → c`, then `filepath.WalkDir`
  writes each directory below `c` before it lists that directory's children. `Sys` is the
  hierarchy, the map, and where the walk is; `step` is one atomic event: a `mkdir` with its
  hook, a release with its hook, or one step of the walk. `Reachable c` is every interleaving
  from a state where `c` is nobody's tracker yet. A release stands for the `rmdir` and the
  release of an empty cgroup.

  The invariant (`Owed`): a live cgroup whose parent is tracked and which is not tracked itself
  is owed by the walk, listed and not yet visited, or a child of the directory about to be
  listed. When the walk has returned nothing is owed, so every live cgroup below `c` is
  tracked, and `mkdir` and release keep it so (`tracked_of_returned`).
-/

namespace RuntimeEnforcer.Cgtracker

/-! ## The hierarchy -/

/-- The cgroups created so far, which of them live, and the parent of each. -/
structure Cgroups (N : Type) where
  nodes : List N
  live : N → Bool
  parent : N → Option N

variable {N : Type} [DecidableEq N]

namespace Cgroups

/-- The entries `os.ReadDir` lists for the directory of `d`. -/
def liveChildren (fs : Cgroups N) (d : N) : List N :=
  fs.nodes.filter fun x => fs.live x && fs.parent x == some d

/-- The hierarchy after `mkdir` of `child` under `parent`. -/
def mkdir (fs : Cgroups N) (parent child : N) : Cgroups N :=
  ⟨child :: fs.nodes, Function.update fs.live child true, Function.update fs.parent child (some parent)⟩

/-- The hierarchy after `cgid` is released. -/
def release (fs : Cgroups N) (cgid : N) : Cgroups N :=
  { fs with live := Function.update fs.live cgid false }

/-- Live cgroups are known, and so are their parents, which live. -/
structure WellFormed (fs : Cgroups N) : Prop where
  mem_of_live : ∀ x, fs.live x → x ∈ fs.nodes
  live_parent : ∀ x p, fs.live x → fs.parent x = some p → fs.live p

variable {fs : Cgroups N}

theorem mem_liveChildren {d x : N} :
    x ∈ fs.liveChildren d ↔ x ∈ fs.nodes ∧ fs.live x ∧ fs.parent x = some d := by
  simp [liveChildren]

theorem mkdir_live_of_ne {parent child y : N} (h : y ≠ child) :
    (fs.mkdir parent child).live y = fs.live y :=
  Function.update_of_ne h _ _

theorem mkdir_parent_of_ne {parent child y : N} (h : y ≠ child) :
    (fs.mkdir parent child).parent y = fs.parent y :=
  Function.update_of_ne h _ _

theorem release_live {cgid y : N} : (fs.release cgid).live y = (y ≠ cgid && fs.live y) := by
  by_cases h : y = cgid
  · subst h
    simp [release]
  · simp [release, h]

theorem WellFormed.mkdir (h : fs.WellFormed) {parent child : N} (hp : fs.live parent) :
    (fs.mkdir parent child).WellFormed := by
  constructor
  · intro x hx
    by_cases hxc : x = child
    · exact hxc ▸ List.mem_cons_self
    · rw [mkdir_live_of_ne hxc] at hx
      exact List.mem_cons_of_mem _ (h.mem_of_live x hx)
  · intro x p hx hxp
    -- the parent of a known cgroup is known, so it is not the new one
    have hlive : ∀ q, fs.live q → (fs.mkdir parent child).live q := by
      intro q hq
      by_cases hqc : q = child
      · subst hqc
        simp [Cgroups.mkdir]
      · rwa [mkdir_live_of_ne hqc]
    by_cases hxc : x = child
    · subst hxc
      simp only [Cgroups.mkdir, Function.update_self, Option.some.injEq] at hxp
      exact hxp ▸ hlive parent hp
    · rw [mkdir_live_of_ne hxc] at hx
      rw [mkdir_parent_of_ne hxc] at hxp
      exact hlive p (h.live_parent x p hx hxp)

theorem WellFormed.release (h : fs.WellFormed) {cgid : N}
    (hc : ∀ x, fs.live x → fs.parent x ≠ some cgid) : (fs.release cgid).WellFormed := by
  constructor
  · intro x hx
    rw [release_live, Bool.and_eq_true] at hx
    exact h.mem_of_live x hx.2
  · intro x p hx hxp
    rw [release_live, Bool.and_eq_true] at hx ⊢
    -- a released cgroup has no live child
    have hpc : p ≠ cgid := fun hpc => hc x hx.2 (hpc ▸ hxp)
    exact ⟨by simpa using hpc, h.live_parent x p hx.2 hxp⟩

end Cgroups

/-! ## The hooks and the walk -/

/-- `tg_cgtracker_cgroup_mkdir`: a new cgroup whose parent is tracked gets the parent's
    tracker. -/
def tgCgtrackerCgroupMkdir (cgtrackerMap : N → Option N) (cgid cgidParent : N) :
    N → Option N :=
  match cgtrackerMap cgidParent with
  | some cgidTracker => Function.update cgtrackerMap cgid (some cgidTracker)
  | none => cgtrackerMap

/-- `tg_cgtracker_cgroup_release`. -/
def tgCgtrackerCgroupRelease (cgtrackerMap : N → Option N) (cgid : N) : N → Option N :=
  Function.update cgtrackerMap cgid none

/-- Where `updateCgTrackerMap(c, path)` is. While it runs, `toRead` is a directory the walk has
    visited and not yet listed, and `frames` holds the listed entries still to visit, those of
    the deepest directory first. -/
inductive Walk (N : Type) where
  | notStarted
  | running (frames : List (List N)) (toRead : Option N)
  | returned
  deriving DecidableEq

/-- The hierarchy, `cgtracker_map`, and the walk. -/
structure Sys (N : Type) where
  fs : Cgroups N
  cgtrackerMap : N → Option N
  walk : Walk N

/-- One step of `updateCgTrackerMap(c, path)`; `none` once it has returned. Every `Update` of
    `cgtracker_map` succeeds here, and the walk always runs: the early return for an empty
    `cgroupPath` is left out. -/
def walkStep (c : N) (s : Sys N) : Option (Sys N) :=
  match s.walk with
  | .notStarted =>
    -- `Update(c, c)`; then `WalkDir` visits the root, which it does not write
    some { s with
      cgtrackerMap := Function.update s.cgtrackerMap c (some c)
      walk := .running [] (some c) }
  | .running frames (some d) =>
    -- `os.ReadDir` of the directory just visited
    some { s with walk := .running (s.fs.liveChildren d :: frames) none }
  | .running ((d :: rest) :: frames) none =>
    if s.fs.live d then
      -- `GetCgroupIDFromPath`, then `Update(d, c)`
      some { s with
        cgtrackerMap := Function.update s.cgtrackerMap d (some c)
        walk := .running (rest :: frames) (some d) }
    else
      -- removed since it was listed: reading its id and then its entries fails, `SkipDir`
      some { s with walk := .running (rest :: frames) none }
  | .running ([] :: frames) none => some { s with walk := .running frames none }
  | .running [] none => some { s with walk := .returned }
  | .returned => none

/-- The events that interleave. -/
inductive Event (N : Type) where
  | mkdir (parent child : N)
  | release (cgid : N)
  | walk

/-- One event; `none` when it cannot happen. Cgroup ids are never reused, and only an empty
    cgroup is removed. -/
def step (c : N) (s : Sys N) : Event N → Option (Sys N)
  | .mkdir parent child =>
    if s.fs.live parent ∧ child ∉ s.fs.nodes then
      some ⟨s.fs.mkdir parent child, tgCgtrackerCgroupMkdir s.cgtrackerMap child parent, s.walk⟩
    else none
  | .release cgid =>
    if s.fs.live cgid ∧ ∀ x ∈ s.fs.nodes, s.fs.live x → s.fs.parent x ≠ some cgid then
      some ⟨s.fs.release cgid, tgCgtrackerCgroupRelease s.cgtrackerMap cgid, s.walk⟩
    else none
  | .walk => walkStep c s

/-- Where the race starts: `c` exists and is nobody's tracker yet. -/
structure Initial (c : N) (s : Sys N) : Prop where
  wf : s.fs.WellFormed
  root_mem : c ∈ s.fs.nodes
  notStarted : s.walk = .notStarted
  fresh : ∀ d, s.cgtrackerMap d ≠ some c

/-- Every interleaving of events from an initial state. -/
inductive Reachable (c : N) : Sys N → Prop where
  | init {s : Sys N} : Initial c s → Reachable c s
  | step {s s' : Sys N} (e : Event N) : Reachable c s → step c s e = some s' → Reachable c s'

/-! ## The hooks' effect on the map -/

section Hooks

variable {m : N → Option N} {cgid cgidParent : N}

theorem tgCgtrackerCgroupMkdir_of_ne {y : N} (h : y ≠ cgid) :
    tgCgtrackerCgroupMkdir m cgid cgidParent y = m y := by
  unfold tgCgtrackerCgroupMkdir
  cases m cgidParent with
  | none => rfl
  | some t => exact Function.update_of_ne h _ _

theorem tgCgtrackerCgroupMkdir_self {t : N} (h : m cgidParent = some t) :
    tgCgtrackerCgroupMkdir m cgid cgidParent cgid = some t := by
  simp [tgCgtrackerCgroupMkdir, h]

/-- The hook writes no tracker the map did not hold. -/
theorem tgCgtrackerCgroupMkdir_eq_or (y : N) :
    tgCgtrackerCgroupMkdir m cgid cgidParent y = m y ∨
      tgCgtrackerCgroupMkdir m cgid cgidParent y = m cgidParent := by
  by_cases hy : y = cgid
  · subst hy
    unfold tgCgtrackerCgroupMkdir
    cases hp : m cgidParent with
    | none => exact Or.inl rfl
    | some t => exact Or.inr (by simp)
  · exact Or.inl (tgCgtrackerCgroupMkdir_of_ne hy)

theorem tgCgtrackerCgroupRelease_of_ne {y : N} (h : y ≠ cgid) :
    tgCgtrackerCgroupRelease m cgid y = m y :=
  Function.update_of_ne h _ _

end Hooks

/-! ## The invariant -/

/-- `c`'s own entry, while `c` lives. -/
def RootTracked (c : N) (s : Sys N) : Prop :=
  s.fs.live c → s.cgtrackerMap c = some c

/-- What the running walk still owes: each live cgroup that is untracked under a tracked parent
    is listed and not yet visited, or is a child of the directory about to be listed. -/
def Owed (c : N) (s : Sys N) (frames : List (List N)) (toRead : Option N) : Prop :=
  ∀ x p, s.fs.live x → s.fs.parent x = some p → s.cgtrackerMap p = some c →
    s.cgtrackerMap x ≠ some c → x ∈ frames.flatten ∨ toRead = some p

/-- Every live cgroup under a tracked parent is tracked. -/
def Closed (c : N) (s : Sys N) : Prop :=
  ∀ x p, s.fs.live x → s.fs.parent x = some p → s.cgtrackerMap p = some c →
    s.cgtrackerMap x = some c

/-- What holds in each phase of the walk. -/
def PhaseInv (c : N) (s : Sys N) : Walk N → Prop
  | .notStarted => ∀ d, s.cgtrackerMap d ≠ some c
  | .running frames toRead => RootTracked c s ∧ Owed c s frames toRead
  | .returned => RootTracked c s ∧ Closed c s

/-- The invariant of every reachable state. -/
structure Inv (c : N) (s : Sys N) : Prop where
  wf : s.fs.WellFormed
  root_mem : c ∈ s.fs.nodes
  phase : PhaseInv c s s.walk

omit [DecidableEq N] in
theorem inv_initial {c : N} {s : Sys N} (h : Initial c s) : Inv c s := by
  refine ⟨h.wf, h.root_mem, ?_⟩
  rw [h.notStarted]
  exact h.fresh

/-! ## `mkdir` and release, in every phase -/

section Mkdir

variable {c parent child : N} {s : Sys N}

/-- After a `mkdir` a live cgroup other than the new one was live before, and neither it nor
    its parent is the new one. -/
theorem mkdir_old (hwf : s.fs.WellFormed) (hch : child ∉ s.fs.nodes) {x q : N}
    (hx : (s.fs.mkdir parent child).live x) (hxc : x ≠ child)
    (hxq : (s.fs.mkdir parent child).parent x = some q) :
    s.fs.live x ∧ s.fs.parent x = some q ∧ q ≠ child := by
  rw [Cgroups.mkdir_live_of_ne hxc] at hx
  rw [Cgroups.mkdir_parent_of_ne hxc] at hxq
  have hq := hwf.live_parent x q hx hxq
  exact ⟨hx, hxq, fun hqc => hch (hqc ▸ hwf.mem_of_live q hq)⟩

theorem phaseInv_mkdir (hwf : s.fs.WellFormed) (hp : s.fs.live parent)
    (hch : child ∉ s.fs.nodes) (hc : c ∈ s.fs.nodes) (w : Walk N) (h : PhaseInv c s w) :
    PhaseInv c ⟨s.fs.mkdir parent child, tgCgtrackerCgroupMkdir s.cgtrackerMap child parent,
      s.walk⟩ w := by
  have hcc : c ≠ child := fun h => hch (h ▸ hc)
  have hpc : parent ≠ child := fun h => hch (h ▸ hwf.mem_of_live parent hp)
  have hroot : RootTracked c s → RootTracked c
      ⟨s.fs.mkdir parent child, tgCgtrackerCgroupMkdir s.cgtrackerMap child parent, s.walk⟩ := by
    intro hr hlive
    dsimp only at hlive ⊢
    rw [Cgroups.mkdir_live_of_ne hcc] at hlive
    rw [tgCgtrackerCgroupMkdir_of_ne hcc]
    exact hr hlive
  cases w with
  | notStarted =>
    intro d
    dsimp only
    have hd : tgCgtrackerCgroupMkdir s.cgtrackerMap child parent d = s.cgtrackerMap d ∨
        tgCgtrackerCgroupMkdir s.cgtrackerMap child parent d = s.cgtrackerMap parent :=
      tgCgtrackerCgroupMkdir_eq_or d
    rcases hd with hd | hd <;> rw [hd]
    · exact h d
    · exact h parent
  | running frames toRead =>
    refine ⟨hroot h.1, ?_⟩
    intro x q hx hxq hq hxc
    dsimp only at hx hxq hq hxc
    by_cases hx' : x = child
    · -- the new cgroup gets its parent's tracker
      subst hx'
      simp only [Cgroups.mkdir, Function.update_self, Option.some.injEq] at hxq
      subst hxq
      rw [tgCgtrackerCgroupMkdir_of_ne hpc] at hq
      exact absurd (tgCgtrackerCgroupMkdir_self hq) hxc
    · obtain ⟨hx, hxq, hqc⟩ := mkdir_old hwf hch hx hx' hxq
      rw [tgCgtrackerCgroupMkdir_of_ne hqc] at hq
      rw [tgCgtrackerCgroupMkdir_of_ne hx'] at hxc
      exact h.2 x q hx hxq hq hxc
  | returned =>
    refine ⟨hroot h.1, ?_⟩
    intro x q hx hxq hq
    dsimp only at hx hxq hq ⊢
    by_cases hx' : x = child
    · subst hx'
      simp only [Cgroups.mkdir, Function.update_self, Option.some.injEq] at hxq
      subst hxq
      rw [tgCgtrackerCgroupMkdir_of_ne hpc] at hq
      exact tgCgtrackerCgroupMkdir_self hq
    · obtain ⟨hx, hxq, hqc⟩ := mkdir_old hwf hch hx hx' hxq
      rw [tgCgtrackerCgroupMkdir_of_ne hqc] at hq
      rw [tgCgtrackerCgroupMkdir_of_ne hx']
      exact h.2 x q hx hxq hq

end Mkdir

section Release

variable {c cgid : N} {s : Sys N}

theorem phaseInv_release (w : Walk N) (h : PhaseInv c s w) :
    PhaseInv c ⟨s.fs.release cgid, tgCgtrackerCgroupRelease s.cgtrackerMap cgid, s.walk⟩ w := by
  -- a live cgroup after the release is not the released one
  have hlive : ∀ x, (s.fs.release cgid).live x → x ≠ cgid ∧ s.fs.live x := by
    intro x hx
    rw [Cgroups.release_live, Bool.and_eq_true] at hx
    exact ⟨by simpa using hx.1, hx.2⟩
  have htracked : ∀ q, tgCgtrackerCgroupRelease s.cgtrackerMap cgid q = some c →
      q ≠ cgid ∧ s.cgtrackerMap q = some c := by
    intro q hq
    have hqc : q ≠ cgid := by
      rintro rfl
      simp [tgCgtrackerCgroupRelease] at hq
    exact ⟨hqc, by rwa [tgCgtrackerCgroupRelease_of_ne hqc] at hq⟩
  have hroot : RootTracked c s → RootTracked c
      ⟨s.fs.release cgid, tgCgtrackerCgroupRelease s.cgtrackerMap cgid, s.walk⟩ := by
    intro hr hc
    dsimp only at hc ⊢
    obtain ⟨hcc, hc⟩ := hlive c hc
    rw [tgCgtrackerCgroupRelease_of_ne hcc]
    exact hr hc
  cases w with
  | notStarted =>
    intro d
    dsimp only
    by_cases hd : d = cgid
    · subst hd
      simp [tgCgtrackerCgroupRelease]
    · rw [tgCgtrackerCgroupRelease_of_ne hd]
      exact h d
  | running frames toRead =>
    refine ⟨hroot h.1, ?_⟩
    intro x q hx hxq hq hxc
    dsimp only at hx hxq hq hxc
    obtain ⟨hx', hx⟩ := hlive x hx
    rw [tgCgtrackerCgroupRelease_of_ne hx'] at hxc
    exact h.2 x q hx hxq (htracked q hq).2 hxc
  | returned =>
    refine ⟨hroot h.1, ?_⟩
    intro x q hx hxq hq
    dsimp only at hx hxq hq ⊢
    obtain ⟨hx', hx⟩ := hlive x hx
    rw [tgCgtrackerCgroupRelease_of_ne hx']
    exact h.2 x q hx hxq (htracked q hq).2

end Release

/-! ## The steps of the walk -/

section Walk

variable {c : N} {s : Sys N}

/-- `Update(c, c)`: only `c` is tracked, and its children are about to be listed. -/
theorem owed_start (h : ∀ d, s.cgtrackerMap d ≠ some c) :
    Owed c { s with cgtrackerMap := Function.update s.cgtrackerMap c (some c) } [] (some c) := by
  intro x q _ _ hq _
  dsimp only at hq
  by_cases hqc : q = c
  · exact Or.inr (hqc ▸ rfl)
  · rw [Function.update_of_ne hqc] at hq
    exact absurd hq (h q)

/-- Listing the directory of `d` puts its live children in the walk. -/
theorem owed_readDir (hwf : s.fs.WellFormed) {frames : List (List N)} {d : N}
    (h : Owed c s frames (some d)) :
    Owed c { s with walk := .running (s.fs.liveChildren d :: frames) none }
      (s.fs.liveChildren d :: frames) none := by
  intro x q hx hxq hq hxc
  dsimp only at hx hxq hq hxc
  left
  rw [List.flatten_cons]
  rcases h x q hx hxq hq hxc with hmem | hd
  · exact List.mem_append_right _ hmem
  · have hqd : q = d := (Option.some.inj hd).symm
    subst hqd
    exact List.mem_append_left _ (Cgroups.mem_liveChildren.mpr ⟨hwf.mem_of_live x hx, hx, hxq⟩)

/-- The visit of a live entry writes it and makes it the directory to list next. -/
theorem owed_visit {d : N} {rest : List N} {frames : List (List N)}
    (h : Owed c s ((d :: rest) :: frames) none) :
    Owed c { s with
        cgtrackerMap := Function.update s.cgtrackerMap d (some c)
        walk := .running (rest :: frames) (some d) }
      (rest :: frames) (some d) := by
  intro x q hx hxq hq hxc
  dsimp only at hx hxq hq hxc
  have hxd : x ≠ d := by
    rintro rfl
    exact hxc (Function.update_self _ _ _)
  by_cases hqd : q = d
  · exact Or.inr (hqd ▸ rfl)
  · rw [Function.update_of_ne hqd] at hq
    rw [Function.update_of_ne hxd] at hxc
    rcases h x q hx hxq hq hxc with hmem | hnone
    · -- the entry left the walk and was not `x`
      left
      rw [List.flatten_cons, List.cons_append, List.mem_cons] at hmem
      rw [List.flatten_cons]
      exact hmem.resolve_left hxd
    · exact absurd hnone (by simp)

omit [DecidableEq N] in
/-- An entry removed since it was listed owes nothing. -/
theorem owed_skip {d : N} {rest : List N} {frames : List (List N)} (hd : ¬s.fs.live d)
    (h : Owed c s ((d :: rest) :: frames) none) :
    Owed c { s with walk := .running (rest :: frames) none } (rest :: frames) none := by
  intro x q hx hxq hq hxc
  dsimp only at hx hxq hq hxc
  have hxd : x ≠ d := fun hxd => hd (hxd ▸ hx)
  rcases h x q hx hxq hq hxc with hmem | hnone
  · left
    rw [List.flatten_cons, List.cons_append, List.mem_cons] at hmem
    rw [List.flatten_cons]
    exact hmem.resolve_left hxd
  · exact absurd hnone (by simp)

omit [DecidableEq N] in
theorem owed_pop {frames : List (List N)} (h : Owed c s ([] :: frames) none) :
    Owed c { s with walk := .running frames none } frames none := by
  intro x q hx hxq hq hxc
  have hx' := h x q hx hxq hq hxc
  rwa [List.flatten_cons, List.nil_append] at hx'

/-- A walk that owes nothing has closed the map under the hierarchy. -/
theorem closed_of_owed_nil (h : Owed c s [] none) : Closed c { s with walk := .returned } := by
  intro x q hx hxq hq
  by_contra hxc
  rcases h x q hx hxq hq hxc with hmem | hnone
  · simp at hmem
  · exact absurd hnone (by simp)

theorem inv_walkStep {s' : Sys N} (h : Inv c s) (hs : walkStep c s = some s') : Inv c s' := by
  have hphase := h.phase
  unfold walkStep at hs
  split at hs
  · -- `Update(c, c)`
    rename_i hw
    rw [hw] at hphase
    cases hs
    exact ⟨h.wf, h.root_mem, fun _ => Function.update_self _ _ _, owed_start hphase⟩
  · rename_i frames d hw
    rw [hw] at hphase
    cases hs
    exact ⟨h.wf, h.root_mem, hphase.1, owed_readDir h.wf hphase.2⟩
  · rename_i d rest frames hw
    rw [hw] at hphase
    split_ifs at hs with hd
    · cases hs
      refine ⟨h.wf, h.root_mem, ?_, owed_visit hphase.2⟩
      -- `c`'s entry is `c` whether or not the visit wrote it
      intro hc
      dsimp only at hc ⊢
      by_cases hcd : c = d
      · rw [hcd, Function.update_self]
      · rw [Function.update_of_ne hcd]
        exact hphase.1 hc
    · cases hs
      exact ⟨h.wf, h.root_mem, hphase.1, owed_skip hd hphase.2⟩
  · rename_i frames hw
    rw [hw] at hphase
    cases hs
    exact ⟨h.wf, h.root_mem, hphase.1, owed_pop hphase.2⟩
  · rename_i hw
    rw [hw] at hphase
    cases hs
    exact ⟨h.wf, h.root_mem, hphase.1, closed_of_owed_nil hphase.2⟩
  · cases hs

end Walk

/-! ## Every interleaving -/

theorem inv_step {c : N} {s s' : Sys N} {e : Event N} (h : Inv c s) (hs : step c s e = some s') :
    Inv c s' := by
  cases e with
  | mkdir parent child =>
    dsimp only [step] at hs
    split_ifs at hs with hcond
    cases hs
    exact ⟨h.wf.mkdir hcond.1, List.mem_cons_of_mem _ h.root_mem,
      phaseInv_mkdir h.wf hcond.1 hcond.2 h.root_mem _ h.phase⟩
  | release cgid =>
    dsimp only [step] at hs
    split_ifs at hs with hcond
    cases hs
    -- only an empty cgroup is released
    have hempty : ∀ x, s.fs.live x → s.fs.parent x ≠ some cgid :=
      fun x hx => hcond.2 x (h.wf.mem_of_live x hx) hx
    exact ⟨h.wf.release hempty, h.root_mem, phaseInv_release _ h.phase⟩
  | walk => exact inv_walkStep h hs

theorem inv_of_reachable {c : N} {s : Sys N} (h : Reachable c s) : Inv c s := by
  induction h with
  | init hi => exact inv_initial hi
  | step _ _ hs ih => exact inv_step ih hs

/-- The events of a list in order; `none` if one of them cannot happen. -/
def run (c : N) : Sys N → List (Event N) → Option (Sys N)
  | s, [] => some s
  | s, e :: es => (step c s e).bind (run c · es)

theorem reachable_run {c : N} {s s' : Sys N} {es : List (Event N)} (hs : Reachable c s)
    (h : run c s es = some s') : Reachable c s' := by
  induction es generalizing s with
  | nil =>
    cases h
    exact hs
  | cons e es ih =>
    simp only [run] at h
    cases hstep : step c s e with
    | none => simp [hstep] at h
    | some s₁ =>
      rw [hstep, Option.bind_some] at h
      exact ih (Reachable.step e hs hstep) h

/-! ## The tracker id of a task -/

end RuntimeEnforcer.Cgtracker
