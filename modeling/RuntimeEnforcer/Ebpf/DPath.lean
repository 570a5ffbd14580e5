import RuntimeEnforcer.Lib.Buffer
import RuntimeEnforcer.Lib.BoundedLoop
import RuntimeEnforcer.BpfManager.PolicyValues

/-
  `bpf/d_path_resolution.h`: the path of the executed file, rebuilt by walking its dentries
  up to the task's root.

  The kernel objects are given by `FsWorld`: each dentry's parent, name and hash state, and
  each mount's root, parent and mount point. A `struct vfsmount` is embedded in its
  `struct mount` and `container_of` moves between the two, so one id `M` stands for both. The
  kernel reads (`bpf_core_read`, `bpf_probe_read_kernel`) are taken to succeed.

  `bpf_d_path_approx` writes the path backwards from offset `2 * MAX_PATH_LEN` of the event's
  buffer with a `u32` offset (`UInt32` here), masking every access with `SAFE_PATH_ACCESS`, and
  stops after at most `PATH_ITERATIONS` or `FALLBACK_PATH_ITERATIONS` calls of `path_read`.
  `walk` is the same walk without the buffer: the components met from the file up to the
  root. `bpfDPathApprox_of_resolvedPath` is the refinement: when the walk stops within the
  loop's bound and the path fits in the first two segments, the function returns the offset
  of the path and the buffer holds it there, with nothing else changed.
-/

namespace RuntimeEnforcer.Ebpf

open Buffer

def maxPathLen : Nat := 4096
def maxComponentLen : Nat := 256
def fallbackPathIterations : Nat := 512
def pathIterations : Nat := 2048

/-- `DELETED_STRING` without its terminator. -/
def deletedString : Bytes := " (deleted)".toList.map Char.toUInt8

/-- `SAFE_PATH_LEN(x)`. -/
def safePathLen (x : Nat) : Nat := x &&& (maxPathLen - 1)

/-- `SAFE_PATH_ACCESS(x)`. -/
def safePathAccess (x : Nat) : Nat := x &&& (maxPathLen * 2 - 1)

/-- `SAFE_COMPONENT_ACCESS(x)`. -/
def safeComponentAccess (x : Nat) : Nat := x &&& (maxComponentLen - 1)

/-- The fields of the kernel's dentries and mounts that the walk reads. -/
structure FsWorld (D M : Type) where
  /-- `dentry->d_parent` -/
  dParent : D → D
  /-- `dentry->d_name`: `len` bytes at `name` -/
  dName : D → Bytes
  /-- `dentry->d_hash.pprev == NULL` -/
  dUnhashed : D → Bool
  /-- `vfsmnt->mnt_root` -/
  mntRoot : M → D
  /-- `mnt->mnt_parent` -/
  mntParent : M → M
  /-- `mnt->mnt_mountpoint` -/
  mntMountpoint : M → D

/-- `struct path`: a dentry in a mount. -/
structure Path (D M : Type) where
  dentry : D
  mnt : M
  deriving DecidableEq

variable {D M : Type} [DecidableEq D] [DecidableEq M]

/-- `IS_ROOT(dentry)`. -/
def isRoot (w : FsWorld D M) (dentry : D) : Bool :=
  dentry = w.dParent dentry

/-- `d_unlinked(dentry)`. -/
def dUnlinked (w : FsWorld D M) (dentry : D) : Bool :=
  w.dUnhashed dentry && !isRoot w dentry

/-- `struct path_read_data`; `mnt` is both `vfsmnt` and `mnt`, `bptr` the buffer. -/
structure PathReadData (D M : Type) where
  rootDentry : D
  rootMnt : M
  dentry : D
  mnt : M
  bptr : Nat → UInt8
  currOff : UInt32
  resolved : Bool

/-- `copy_name` (d_path_resolution.h 54-65): move `buflen` back over `/` and the name, then
    write both there. -/
def copyName (buf : Nat → UInt8) (buflen : UInt32) (name : Bytes) : (Nat → UInt8) × UInt32 :=
  let len : UInt32 := UInt32.ofNat name.length
  let buflen := buflen - (len + 1)
  let buf := write buf (safePathAccess buflen.toNat) ['/'.toUInt8]
  (write buf (safePathAccess (buflen + 1).toNat) (name.take (safeComponentAccess len.toNat)),
    buflen)

/-- `path_read` (d_path_resolution.h 67-99); `true` is its `return 1`. -/
def pathRead (w : FsWorld D M) (data : PathReadData D M) : Bool × PathReadData D M :=
  if data.dentry = data.rootDentry ∧ data.mnt = data.rootMnt then
    (true, { data with resolved := true })
  else if data.dentry = w.mntRoot data.mnt ∨ isRoot w data.dentry then
    let mParent := w.mntParent data.mnt
    -- global root
    if data.mnt = mParent then (true, { data with resolved := true })
    else (false, { data with dentry := w.mntMountpoint data.mnt, mnt := mParent })
  else
    let r := copyName data.bptr data.currOff (w.dName data.dentry)
    (false, { data with bptr := r.1, currOff := r.2, dentry := w.dParent data.dentry })

/-- `bpf_d_path_approx` (d_path_resolution.h 123-200) for the file at `path`, in a task whose
    root is `root`; `hasIterNum` is `bpf_ksym_exists(bpf_iter_num_new)`. The result is the
    returned offset and the buffer. -/
def bpfDPathApprox (w : FsWorld D M) (root path : Path D M) (hasIterNum : Bool)
    (buf : Nat → UInt8) : UInt32 × (Nat → UInt8) :=
  let unlinked := dUnlinked w path.dentry
  let off : UInt32 :=
    if unlinked then UInt32.ofNat (maxPathLen * 2 - deletedString.length)
    else UInt32.ofNat (maxPathLen * 2)
  let buf := if unlinked then write buf (safePathAccess off.toNat) deletedString else buf
  let data : PathReadData D M := ⟨root.dentry, root.mnt, path.dentry, path.mnt, buf, off, false⟩
  let data := BoundedLoop.run (pathRead w)
    (if hasIterNum then pathIterations else fallbackPathIterations) data
  -- memfd files: nothing was written, so the name of the last dentry is the path
  let data :=
    if data.currOff.toNat = maxPathLen * 2 then
      let r := copyName data.bptr data.currOff (w.dName data.dentry)
      { data with bptr := r.1, currOff := r.2 }
    else data
  (if data.resolved then data.currOff else 0, data.bptr)

/-! ## The walk without the buffer -/

/-- The walk of `path_read` from `pos` towards `root` in at most `n` moves: the components
    met, the root's side first, and the dentry the walk stops at; `none` when it does not stop
    within `n` moves. -/
def walk (w : FsWorld D M) (root : Path D M) : Nat → Path D M → Option (List Bytes × D)
  | 0, _ => none
  | n + 1, pos =>
    if pos.dentry = root.dentry ∧ pos.mnt = root.mnt then some ([], pos.dentry)
    else if pos.dentry = w.mntRoot pos.mnt ∨ isRoot w pos.dentry then
      if pos.mnt = w.mntParent pos.mnt then some ([], pos.dentry)
      else walk w root n ⟨w.mntMountpoint pos.mnt, w.mntParent pos.mnt⟩
    else (walk w root n ⟨w.dParent pos.dentry, pos.mnt⟩).map
      fun r => (r.1 ++ [w.dName pos.dentry], r.2)

/-- `/` and a component, for each component. -/
def pathString (names : List Bytes) : Bytes :=
  (names.map ('/'.toUInt8 :: ·)).flatten

/-- The path `bpf_d_path_approx` is meant to produce for the file at `path`, if the walk stops
    within `n` moves: the components, ` (deleted)` for an unlinked file, and for a file with
    no component (a memfd) `/` and the name of the dentry the walk stopped at. -/
def resolvedPath (w : FsWorld D M) (root : Path D M) (n : Nat) (path : Path D M) :
    Option Bytes :=
  (walk w root n path).map fun r =>
    if r.1 = [] ∧ dUnlinked w path.dentry = false then '/'.toUInt8 :: w.dName r.2
    else pathString r.1 ++ if dUnlinked w path.dentry then deletedString else []

/-- The bound of the loop on the kernel `hasIterNum` says. -/
def pathBudget (hasIterNum : Bool) : Nat :=
  if hasIterNum then pathIterations else fallbackPathIterations

/-! ## The masks and `copy_name` -/

theorem safePathAccess_eq (x : Nat) : safePathAccess x = x % (maxPathLen * 2) := by
  unfold safePathAccess maxPathLen
  exact Nat.and_two_pow_sub_one_eq_mod x 13

theorem safePathAccess_of_lt {x : Nat} (h : x < maxPathLen * 2) : safePathAccess x = x := by
  rw [safePathAccess_eq, Nat.mod_eq_of_lt h]

theorem safePathLen_of_lt {x : Nat} (h : x < maxPathLen) : safePathLen x = x := by
  unfold safePathLen maxPathLen at *
  rw [show (4096 - 1 : Nat) = 2 ^ 12 - 1 from rfl, Nat.and_two_pow_sub_one_eq_mod,
    Nat.mod_eq_of_lt h]

theorem safeComponentAccess_of_lt {x : Nat} (h : x < maxComponentLen) :
    safeComponentAccess x = x := by
  unfold safeComponentAccess maxComponentLen at *
  rw [show (256 - 1 : Nat) = 2 ^ 8 - 1 from rfl, Nat.and_two_pow_sub_one_eq_mod,
    Nat.mod_eq_of_lt h]

/-- `copy_name` when the component fits below `buflen`: `/` and the name end where the path
    written so far starts. -/
theorem copyName_eq (buf : Nat → UInt8) {o : UInt32} {name : Bytes}
    (ho : o.toNat ≤ maxPathLen * 2) (hn : name.length < maxComponentLen)
    (hl : name.length + 1 ≤ o.toNat) :
    (copyName buf o name).1 = write buf (o.toNat - (name.length + 1)) ('/'.toUInt8 :: name) ∧
      (copyName buf o name).2.toNat = o.toNat - (name.length + 1) := by
  unfold maxPathLen maxComponentLen at *
  have hlen : (UInt32.ofNat name.length).toNat = name.length := by
    simp only [UInt32.toNat_ofNat']
    omega
  have h1 : (UInt32.ofNat name.length + 1).toNat = name.length + 1 := by
    simp only [UInt32.toNat_add, hlen, UInt32.reduceToNat]
    omega
  have hsub : (o - (UInt32.ofNat name.length + 1)).toNat = o.toNat - (name.length + 1) := by
    rw [UInt32.toNat_sub_of_le _ _ (by rw [UInt32.le_iff_toNat_le, h1]; exact hl), h1]
  have hsucc : (o - (UInt32.ofNat name.length + 1) + 1).toNat =
      o.toNat - (name.length + 1) + 1 := by
    simp only [UInt32.toNat_add, hsub, UInt32.reduceToNat]
    omega
  refine ⟨?_, hsub⟩
  simp only [copyName, hsub, hsucc, hlen, safeComponentAccess_of_lt hn, List.take_length]
  rw [safePathAccess_of_lt (by unfold maxPathLen; omega)]
  -- the name starts right after the `/`, unless it is empty and the mask wraps its offset
  by_cases hz : name = []
  · subst hz
    simp
  · have hpos : name.length ≠ 0 := fun h => hz (List.length_eq_zero_iff.mp h)
    rw [safePathAccess_of_lt (by unfold maxPathLen; omega),
      show o.toNat - (name.length + 1) + 1 = o.toNat - (name.length + 1) + [('/'.toUInt8)].length
        by simp, ← write_append]
    rfl

/-! ## One call of `path_read` -/

section Step

variable {w : FsWorld D M} {data : PathReadData D M}

theorem pathRead_of_root (h : data.dentry = data.rootDentry ∧ data.mnt = data.rootMnt) :
    pathRead w data = (true, { data with resolved := true }) := by
  unfold pathRead
  rw [if_pos h]

theorem pathRead_of_globalRoot (h0 : ¬(data.dentry = data.rootDentry ∧ data.mnt = data.rootMnt))
    (h1 : data.dentry = w.mntRoot data.mnt ∨ isRoot w data.dentry = true)
    (h2 : data.mnt = w.mntParent data.mnt) :
    pathRead w data = (true, { data with resolved := true }) := by
  unfold pathRead
  rw [if_neg h0, if_pos h1]
  dsimp only
  rw [if_pos h2]

theorem pathRead_of_cross (h0 : ¬(data.dentry = data.rootDentry ∧ data.mnt = data.rootMnt))
    (h1 : data.dentry = w.mntRoot data.mnt ∨ isRoot w data.dentry = true)
    (h2 : data.mnt ≠ w.mntParent data.mnt) :
    pathRead w data =
      (false, { data with dentry := w.mntMountpoint data.mnt, mnt := w.mntParent data.mnt }) := by
  unfold pathRead
  rw [if_neg h0, if_pos h1]
  dsimp only
  rw [if_neg h2]

theorem pathRead_of_name (h0 : ¬(data.dentry = data.rootDentry ∧ data.mnt = data.rootMnt))
    (h1 : ¬(data.dentry = w.mntRoot data.mnt ∨ isRoot w data.dentry = true)) :
    pathRead w data =
      (false,
        { data with
          bptr := (copyName data.bptr data.currOff (w.dName data.dentry)).1
          currOff := (copyName data.bptr data.currOff (w.dName data.dentry)).2
          dentry := w.dParent data.dentry }) := by
  unfold pathRead
  rw [if_neg h0, if_neg h1]

end Step

@[simp] theorem pathString_nil : pathString [] = [] := rfl

theorem pathString_append_singleton (names : List Bytes) (name : Bytes) :
    pathString (names ++ [name]) = pathString names ++ ('/'.toUInt8 :: name) := by
  simp [pathString]

theorem length_pathString (names : List Bytes) :
    (pathString names).length = (names.map fun name => name.length + 1).sum := by
  simp [pathString, List.length_flatten, Function.comp_def]

/-! ## The loop refines the walk -/

/-- Run lemma of `bpf_d_path_approx`'s loop: from a state at some position, when the walk
    from there stops within the loop's bound and its components fit below `currOff`, the loop
    ends resolved at the walk's last dentry, with the components written right below the old
    offset and nothing else changed. -/
theorem run_pathRead_of_walk (w : FsWorld D M) (hw : ∀ d, (w.dName d).length < maxComponentLen) :
    ∀ (n : Nat) (data : PathReadData D M) (names : List Bytes) (last : D),
      walk w ⟨data.rootDentry, data.rootMnt⟩ n ⟨data.dentry, data.mnt⟩ = some (names, last) →
      data.currOff.toNat ≤ maxPathLen * 2 → (pathString names).length ≤ data.currOff.toNat →
      (BoundedLoop.run (pathRead w) n data).resolved = true ∧
      (BoundedLoop.run (pathRead w) n data).dentry = last ∧
      (BoundedLoop.run (pathRead w) n data).currOff.toNat =
        data.currOff.toNat - (pathString names).length ∧
      (BoundedLoop.run (pathRead w) n data).bptr =
        write data.bptr (data.currOff.toNat - (pathString names).length) (pathString names)
  | 0, _, _, _, h, _, _ => by cases h
  | n + 1, data, names, last, h, ho, hl => by
    unfold walk at h
    dsimp only at h
    by_cases h0 : data.dentry = data.rootDentry ∧ data.mnt = data.rootMnt
    · -- at the task's root
      rw [if_pos h0] at h
      cases h
      rw [BoundedLoop.run_succ_of_break _ (by rw [pathRead_of_root h0]), pathRead_of_root h0]
      simp
    rw [if_neg h0] at h
    by_cases h1 : data.dentry = w.mntRoot data.mnt ∨ isRoot w data.dentry = true
    · rw [if_pos h1] at h
      by_cases h2 : data.mnt = w.mntParent data.mnt
      · -- at the global root
        rw [if_pos h2] at h
        cases h
        rw [BoundedLoop.run_succ_of_break _ (by rw [pathRead_of_globalRoot h0 h1 h2]),
          pathRead_of_globalRoot h0 h1 h2]
        simp
      · -- at the root of a mount: on to its mount point, nothing written
        rw [if_neg h2] at h
        rw [BoundedLoop.run_succ_of_continue _ (by rw [pathRead_of_cross h0 h1 h2]),
          pathRead_of_cross h0 h1 h2]
        exact run_pathRead_of_walk w hw n _ names last h ho hl
    · -- a component: `/` and its name go right below the offset
      rw [if_neg h1] at h
      obtain ⟨⟨names', last'⟩, hwalk, heq⟩ := Option.map_eq_some_iff.mp h
      simp only [Prod.mk.injEq] at heq
      obtain ⟨rfl, rfl⟩ := heq
      have hlen : (pathString (names' ++ [w.dName data.dentry])).length =
          (pathString names').length + ((w.dName data.dentry).length + 1) := by
        rw [pathString_append_singleton, List.length_append, List.length_cons]
      obtain ⟨hbuf, hoff⟩ := copyName_eq data.bptr ho (hw data.dentry) (by omega)
      rw [BoundedLoop.run_succ_of_continue _ (by rw [pathRead_of_name h0 h1]),
        pathRead_of_name h0 h1]
      obtain ⟨hr, hd, hc, hb⟩ := run_pathRead_of_walk w hw n
        { data with
          bptr := (copyName data.bptr data.currOff (w.dName data.dentry)).1
          currOff := (copyName data.bptr data.currOff (w.dName data.dentry)).2
          dentry := w.dParent data.dentry }
        names' last' hwalk (by rw [hoff]; omega) (by rw [hoff]; omega)
      refine ⟨hr, hd, ?_, ?_⟩
      · rw [hc]
        dsimp only
        omega
      · rw [hb]
        dsimp only
        rw [hbuf, hoff]
        -- the components of the parents end where this component starts
        have e : data.currOff.toNat - ((w.dName data.dentry).length + 1) =
            data.currOff.toNat - ((w.dName data.dentry).length + 1) -
              (pathString names').length + (pathString names').length := by
          omega
        rw [e, Nat.add_sub_cancel, write_prepend, ← pathString_append_singleton]
        congr 1
        omega

theorem deletedString_length : deletedString.length = 10 := rfl

theorem bpfDPathApprox_of_resolvedPath (w : FsWorld D M)
    (hw : ∀ d, (w.dName d).length < maxComponentLen) (root path : Path D M) (hasIterNum : Bool)
    (buf : Nat → UInt8) {p : Bytes}
    (h : resolvedPath w root (pathBudget hasIterNum) path = some p)
    (hp : p.length ≤ maxPathLen * 2) :
    bpfDPathApprox w root path hasIterNum buf =
      (UInt32.ofNat (maxPathLen * 2 - p.length), write buf (maxPathLen * 2 - p.length) p) := by
  obtain ⟨⟨names, last⟩, hwalk, rfl⟩ := Option.map_eq_some_iff.mp h
  have hk := hw last
  unfold maxComponentLen at hk
  unfold bpfDPathApprox
  rw [show (if hasIterNum = true then pathIterations else fallbackPathIterations) =
    pathBudget hasIterNum from rfl]
  cases hu : dUnlinked w path.dentry
  · -- the walk starts at offset `2 * MAX_PATH_LEN`
    have h8 : (UInt32.ofNat (maxPathLen * 2)).toNat = maxPathLen * 2 := rfl
    have hloop := run_pathRead_of_walk w hw (pathBudget hasIterNum)
      ⟨root.dentry, root.mnt, path.dentry, path.mnt, buf, UInt32.ofNat (maxPathLen * 2), false⟩
      names last hwalk (le_of_eq h8)
    simp only [hu, Bool.false_eq_true, if_false, and_true, List.append_nil] at hp ⊢
    generalize BoundedLoop.run (pathRead w) (pathBudget hasIterNum) _ = r at hloop ⊢
    dsimp only at hloop
    rw [h8] at hloop
    by_cases hn : names = []
    · -- a memfd: the name of the last dentry is copied after the loop
      subst hn
      obtain ⟨hr, hd, hc, hb⟩ := hloop (by simp)
      simp only [pathString_nil, List.length_nil, Nat.sub_zero, write_nil] at hc hb
      obtain ⟨hbuf, hoff⟩ := copyName_eq r.bptr (le_of_eq hc) (hw r.dentry)
        (by rw [hc, hd]; unfold maxPathLen; omega)
      rw [hb, hd, hc] at hbuf
      rw [hb, hd, hc] at hoff
      rw [if_pos hc]
      dsimp only
      rw [hr, if_pos rfl, Prod.mk.injEq, if_pos rfl, hb, hd, hbuf, List.length_cons]
      refine ⟨?_, rfl⟩
      rw [← UInt32.toNat_inj, hoff, UInt32.toNat_ofNat']
      unfold maxPathLen
      omega
    · rw [if_neg hn] at hp ⊢
      obtain ⟨hr, hd, hc, hb⟩ := hloop hp
      have hpos : 0 < (pathString names).length := by
        obtain ⟨n, ns, rfl⟩ := List.exists_cons_of_ne_nil hn
        simp [pathString]
      have hne : r.currOff.toNat ≠ maxPathLen * 2 := by
        rw [hc]
        omega
      rw [if_neg hne, hr, if_pos rfl, Prod.mk.injEq]
      refine ⟨?_, hb⟩
      rw [← UInt32.toNat_inj, hc, UInt32.toNat_ofNat']
      unfold maxPathLen at *
      omega
  · -- an unlinked file: ` (deleted)` first, then the walk from 10 bytes lower
    have h8 : (UInt32.ofNat (maxPathLen * 2 - deletedString.length)).toNat = maxPathLen * 2 - 10 :=
      rfl
    simp only [hu, if_true, Bool.true_eq_false, and_false, if_false] at hp ⊢
    rw [List.length_append, deletedString_length] at hp
    have hloop := run_pathRead_of_walk w hw (pathBudget hasIterNum)
      ⟨root.dentry, root.mnt, path.dentry, path.mnt,
        write buf (safePathAccess (UInt32.ofNat (maxPathLen * 2 - deletedString.length)).toNat)
          deletedString,
        UInt32.ofNat (maxPathLen * 2 - deletedString.length), false⟩
      names last hwalk (by rw [h8]; omega) (by rw [h8]; omega)
    generalize BoundedLoop.run (pathRead w) (pathBudget hasIterNum) _ = r at hloop ⊢
    obtain ⟨hr, hd, hc, hb⟩ := hloop
    dsimp only at hc hb
    rw [h8] at hc hb
    rw [safePathAccess_of_lt (by unfold maxPathLen; omega)] at hb
    have hne : r.currOff.toNat ≠ maxPathLen * 2 := by
      rw [hc]
      unfold maxPathLen
      omega
    rw [if_neg hne, hr, if_pos rfl, Prod.mk.injEq]
    refine ⟨?_, ?_⟩
    · rw [← UInt32.toNat_inj, hc, UInt32.toNat_ofNat', List.length_append,
        deletedString_length]
      unfold maxPathLen at *
      omega
    · -- the components end where ` (deleted)` starts
      have e : maxPathLen * 2 - 10 =
          maxPathLen * 2 - 10 - (pathString names).length + (pathString names).length := by
        omega
      rw [hb, e, Nat.add_sub_cancel, write_prepend]
      congr 1
      rw [List.length_append, deletedString_length]
      omega

/-- Every component a walk meets is the name of a dentry. -/
theorem walk_names_mem {w : FsWorld D M} {root : Path D M} :
    ∀ {n : Nat} {pos : Path D M} {names : List Bytes} {last : D},
      walk w root n pos = some (names, last) → ∀ name ∈ names, ∃ d, name = w.dName d
  | 0, _, _, _, h => by cases h
  | n + 1, pos, names, last, h => by
    intro name hname
    unfold walk at h
    split_ifs at h with h0 h1 h2
    · cases h
      cases hname
    · cases h
      cases hname
    · exact walk_names_mem h name hname
    · obtain ⟨⟨names', last'⟩, hwalk, heq⟩ := Option.map_eq_some_iff.mp h
      simp only [Prod.mk.injEq] at heq
      obtain ⟨rfl, rfl⟩ := heq
      rcases List.mem_append.mp hname with hname | hname
      · exact walk_names_mem hwalk name hname
      · exact ⟨pos.dentry, List.mem_singleton.mp hname⟩

/-! ## Directory chains -/

/-- One mount whose dentries form the chain `n → n - 1 → … → 0`, where dentry `0` is the root
    and dentry `d` is named `name d`. -/
def chainWorld (name : Nat → Bytes) : FsWorld Nat Unit :=
  ⟨fun d => d - 1, name, fun _ => false, fun _ => 0, fun _ => (), fun _ => 0⟩

/-- The walk from depth `n` of a chain takes one move per component: it stops within `fuel`
    moves exactly when `n < fuel`. -/
theorem walk_chainWorld (name : Nat → Bytes) :
    ∀ (n fuel : Nat), walk (chainWorld name) ⟨0, ()⟩ fuel ⟨n, ()⟩ =
      if n < fuel then some ((List.range n).map (fun i => name (i + 1)), 0) else none
  | _, 0 => by simp [walk]
  | 0, fuel + 1 => by simp [walk]
  | n + 1, fuel + 1 => by
    have hroot : ¬((n + 1 : Nat) = 0 ∧ () = ()) := by simp
    have htop : ¬((n + 1 : Nat) = (chainWorld name).mntRoot () ∨
        isRoot (chainWorld name) (n + 1) = true) := by
      simp [chainWorld, isRoot]
    rw [walk, if_neg hroot, if_neg htop]
    -- the parent of `n + 1` is `n`
    show Option.map _ (walk (chainWorld name) ⟨0, ()⟩ fuel ⟨n, ()⟩) = _
    rw [walk_chainWorld name n fuel]
    by_cases hn : n < fuel
    · rw [if_pos hn, if_pos (by omega), Option.map_some, List.range_succ, List.map_append]
      rfl
    · rw [if_neg hn, if_neg (by omega), Option.map_none]

/-- A chain of `n ≥ 1` directories resolves, within more than `n` moves, to its names. -/
theorem resolvedPath_chainWorld (name : Nat → Bytes) {n fuel : Nat} (h1 : 1 ≤ n)
    (h : n < fuel) :
    resolvedPath (chainWorld name) ⟨0, ()⟩ fuel ⟨n, ()⟩ =
      some (pathString ((List.range n).map fun i => name (i + 1))) := by
  have hu : dUnlinked (chainWorld name) n = false := rfl
  have hne : (List.range n).map (fun i => name (i + 1)) ≠ [] := by
    rw [ne_eq, List.map_eq_nil_iff, List.range_eq_nil]
    omega
  unfold resolvedPath
  rw [walk_chainWorld, if_pos h, Option.map_some]
  dsimp only
  rw [hu, if_neg (fun h' => hne h'.1), if_neg Bool.false_ne_true, List.append_nil]

/-- `n` directories named `dir`, and the file `last` below them. -/
theorem resolvedPath_chainWorld_dirs (dir last : Bytes) {n fuel : Nat} (h : n + 1 < fuel) :
    resolvedPath (chainWorld fun d => if d = n + 1 then last else dir) ⟨0, ()⟩ fuel ⟨n + 1, ()⟩ =
      some (pathString (List.replicate n dir) ++ '/'.toUInt8 :: last) := by
  have hdirs : (List.range n).map (fun i => if i + 1 = n + 1 then last else dir) =
      List.replicate n dir := by
    apply List.eq_replicate_iff.mpr
    refine ⟨by simp, ?_⟩
    intro b hb
    obtain ⟨i, hi, rfl⟩ := List.mem_map.mp hb
    exact if_neg (by have := List.mem_range.mp hi; omega)
  rw [resolvedPath_chainWorld _ (by omega) h, List.range_succ, List.map_append, hdirs,
    List.map_singleton, if_pos rfl, pathString_append_singleton]

end RuntimeEnforcer.Ebpf
