import RuntimeEnforcer.Ebpf.DPath
import RuntimeEnforcer.Ebpf.StringMaps
import RuntimeEnforcer.Lib.LittleEndian
import RuntimeEnforcer.BpfManager.PolicyMaps

/-
  `bpf/main.c` 366-645: the exec hook `enforce_cgroup_policy`.

  The hook runs on `security_bprm_creds_for_exec`. It finds the policy of the task's cgroup,
  resolves the executed file's path into the per-CPU `process_evt` buffer with
  `bpf_d_path_approx`, and looks the path up in the policy's string maps. A path the maps do
  not hold is reported on `ringbuf_monitoring`, and denied with `-EPERM` unless the policy is
  in monitor mode. A cgroup without a policy reports every exec on `ringbuf_execve` when
  learning is enabled.

  `HookEnv` holds the maps and the load-time configuration, `ExecCtx` what the hook reads
  about the exec; `ringbufOk` says whether `bpf_ringbuf_output` finds room. The per-CPU buffer
  is an input and an output: it keeps what earlier events wrote. A record written to a ring
  buffer is the first `19 + SAFE_PATH_LEN(path_len)` bytes of the struct, laid out as C lays out
  `{u64, u16, u8, char[]}`.

  On a resolved path of at most 4096 bytes the lookup agrees with membership in the installed
  values, but for the lengths 121 to 144, as long as the buffer's third segment is zero. Nothing
  keeps it zero: a path over 8192 bytes wraps `copy_name`'s offset, whose masked writes land in
  that segment. A path over 4096 bytes is looked up by its first 4096.
-/

namespace RuntimeEnforcer.Ebpf

open Buffer BpfManager

def policyModeMonitor : UInt8 := 1
def policyModeProtect : UInt8 := 2

/-- `EPERM`. -/
def ePerm : Int := 1

/-- `enum log_event_code` (debug.h). -/
inductive LogCode where
  | failToLookupEvtMap
  | missingFileStruct
  | failToResolvePath
  | emptyPath
  | failToCopyExecPath
  | dropExecEvent
  | pathLenTooLong
  | policyModeMissing
  | dropViolation
  | failToResolveCgroupId
  | failToResolveParentCgroupId
  deriving DecidableEq, Repr

/-- The code and the two arguments of a `struct log_evt`. -/
structure LogEvt where
  code : LogCode
  arg1 : UInt64
  arg2 : UInt64
  deriving DecidableEq, Repr

/-- `emit_log_event`, `emit_log_event_1`, `emit_log_event_2`. -/
def logEvent (code : LogCode) (arg1 arg2 : UInt64) : LogEvt := ⟨code, arg1, arg2⟩

/-- `struct process_evt`. -/
structure ProcessEvt where
  cgTrackerId : UInt64
  pathLen : UInt16
  mode : UInt8
  path : Nat → UInt8

/-- The maps and the load-time configuration the hook reads. -/
structure HookEnv where
  /-- `cg_to_policy_map` -/
  cgToPolicy : UInt64 → Option UInt64
  /-- `policy_mode_map` -/
  policyMode : UInt64 → Option UInt8
  /-- `pol_str_maps_0` to `pol_str_maps_10` -/
  polStrMaps : PolStrMaps
  /-- `load_time_config.learning_enabled` -/
  learningEnabled : Bool
  /-- `LINUX_KERNEL_VERSION` -/
  kernelVersion : Nat
  /-- `bpf_ksym_exists(bpf_iter_num_new)` -/
  hasIterNum : Bool

/-- What the hook reads about one exec. -/
structure ExecCtx (D M : Type) where
  world : FsWorld D M
  /-- `current->fs->root` -/
  root : Path D M
  /-- `bprm->file->f_path`, `none` for a `NULL` file -/
  file : Option (Path D M)
  /-- `get_tracker_id_from_curr_task()` -/
  cgTrackerId : UInt64

/-- One run of the hook: the return value, the per-CPU buffer after it, the records written to
    `ringbuf_execve` and `ringbuf_monitoring`, and the log events. -/
structure HookResult where
  ret : Int
  evt : ProcessEvt
  execve : List Bytes
  monitoring : List Bytes
  logs : List LogEvt

variable {D M : Type} [DecidableEq D] [DecidableEq M]

/-- `populate_evt_with_path` (main.c 389-409): the offset of the path, 0 on failure. -/
def populateEvtWithPath (ctx : ExecCtx D M) (hasIterNum : Bool) (evt : ProcessEvt) :
    UInt32 × ProcessEvt × List LogEvt :=
  match ctx.file with
  | none => (0, evt, [logEvent .missingFileStruct 0 0])
  | some pathArg =>
    let r := bpfDPathApprox ctx.world ctx.root pathArg hasIterNum evt.path
    let evt := { evt with path := r.2 }
    let currentOffset := r.1
    if currentOffset = 0 then (0, evt, [logEvent .failToResolvePath 0 0])
    else if currentOffset.toNat = maxPathLen * 2 then (0, evt, [logEvent .emptyPath 0 0])
    else
      -- `MAX_PATH_LEN * 2 - current_offset` in `u32`, stored in the `u16` field
      (currentOffset,
        { evt with pathLen := (UInt32.ofNat (maxPathLen * 2) - currentOffset).toUInt16 }, [])

/-- The `bpf_probe_read_kernel` that copies the path, and its terminator, from `offset` to the
    start of the buffer. -/
def copyPathToStart (evt : ProcessEvt) (offset : UInt32) : ProcessEvt :=
  { evt with
    path := write evt.path 0
      (read evt.path (safePathAccess offset.toNat) (safePathLen (evt.pathLen.toNat + 1))) }

section CopyFrame

variable (evt : ProcessEvt) (offset : UInt32)

@[simp] theorem copyPathToStart_cgTrackerId :
    (copyPathToStart evt offset).cgTrackerId = evt.cgTrackerId := rfl

@[simp] theorem copyPathToStart_pathLen : (copyPathToStart evt offset).pathLen = evt.pathLen := rfl

@[simp] theorem copyPathToStart_mode : (copyPathToStart evt offset).mode = evt.mode := rfl

end CopyFrame

/-- The first 11 bytes of a `struct process_evt`: `cg_tracker_id`, `path_len`, `mode`. -/
def evtHeader (evt : ProcessEvt) : Bytes :=
  LittleEndian.encode 8 evt.cgTrackerId.toNat ++ LittleEndian.encode 2 evt.pathLen.toNat ++
    [evt.mode]

/-- The record of `bpf_ringbuf_output(_, evt, 19 + SAFE_PATH_LEN(evt->path_len), 0)`: the
    header, then `path` up to the same size. -/
def eventRecord (evt : ProcessEvt) : Bytes :=
  evtHeader evt ++ read evt.path 0 (8 + safePathLen evt.pathLen.toNat)

/-- `enforce_cgroup_policy` (main.c 497-645). -/
def enforceCgroupPolicy (env : HookEnv) (ctx : ExecCtx D M) (ringbufOk : Bool)
    (evt : ProcessEvt) : HookResult :=
  if ctx.cgTrackerId = 0 then ⟨0, evt, [], [], []⟩
  else
    match env.cgToPolicy ctx.cgTrackerId with
    | none =>
      if !env.learningEnabled then ⟨0, evt, [], [], []⟩
      else
        -- a cgroup without a policy: the exec goes to the learning ring buffer
        let levt := { evt with cgTrackerId := ctx.cgTrackerId, mode := 0 }
        let r := populateEvtWithPath ctx env.hasIterNum levt
        let levt := r.2.1
        if r.1 = 0 then ⟨0, levt, [], [], r.2.2⟩
        else
          let levt := copyPathToStart levt r.1
          if ringbufOk then ⟨0, levt, [eventRecord levt], [], r.2.2⟩
          else ⟨0, levt, [], [], r.2.2 ++ [logEvent .dropExecEvent 0 0]⟩
    | some policyId =>
      let evt := { evt with cgTrackerId := ctx.cgTrackerId }
      let r := populateEvtWithPath ctx env.hasIterNum evt
      let evt := r.2.1
      let currentOffset := r.1
      if currentOffset = 0 then ⟨0, evt, [], [], r.2.2⟩
      -- kernels before 5.11 have no string map keys above 512 bytes
      else if env.kernelVersion < Kernels.kernelVersion 5 11 0 ∧ stringMapsSize7 < evt.pathLen.toNat
      then ⟨0, evt, [], [], r.2.2 ++ [logEvent .pathLenTooLong 0 0]⟩
      else if stringMapMatch env.polStrMaps policyId evt.path evt.pathLen.toNat
          (safePathAccess currentOffset.toNat) then ⟨0, evt, [], [], r.2.2⟩
      else
        let evt := copyPathToStart evt currentOffset
        match env.policyMode policyId with
        | none => ⟨0, evt, [], [], r.2.2 ++ [logEvent .policyModeMissing policyId 0]⟩
        | some mode =>
          let evt := { evt with mode := mode }
          let logs := if ringbufOk then r.2.2
            else r.2.2 ++ [logEvent .dropViolation policyId mode.toUInt64]
          ⟨if mode = policyModeMonitor then 0 else -ePerm, evt,
            [], if ringbufOk then [eventRecord evt] else [], logs⟩

/-! ## The string-map lookup -/

/-- The lookup when `string_map_index` picks map `j`. -/
theorem stringMapMatch_of_index {maps : PolStrMaps} {policyId : UInt64} {path : Nat → UInt8}
    {len currentOffset j : Nat} (hj : j ≤ 10) (h : stringMapIndex (stringPaddedLen len) = j) :
    stringMapMatch maps policyId path len currentOffset =
      (maps j policyId).any fun stringMap =>
        decide (read path currentOffset (stringMapsSize j) ∈ stringMap) := by
  have hget : getPolicyStringMap maps (j : Int) policyId = maps j policyId := by
    unfold getPolicyStringMap
    rw [if_pos ⟨by omega, by omega⟩, Int.toNat_natCast]
  unfold stringMapMatch
  dsimp only
  rw [h, hget, Int.toNat_natCast]
  cases maps j policyId <;> rfl

/-- The key read at the path's offset: the path, then the zeroed third segment. -/
theorem read_eq_pad_of_segment {path : Nat → UInt8} {p : Bytes} {n : Nat}
    (hh : Holds path (maxPathLen * 2 - p.length) p)
    (hz : ∀ i, maxPathLen * 2 ≤ i → i < maxPathLen * 3 → path i = 0)
    (hn : p.length ≤ n) (hn' : n ≤ maxPathLen) :
    read path (maxPathLen * 2 - p.length) n = pad n p :=
  read_eq_pad hn hh fun i hi hi' => hz _ (by omega) (by unfold maxPathLen at *; omega)

section Lookup

variable {st : PolStrMaps} {policyID : UInt64} {values : List Bytes}

/-- Installed values that are zero-free and fit their maps: the values the agent accepts. -/
def WellFormedValues (values : List Bytes) : Prop :=
  ∀ v ∈ values, ZeroFree v ∧ 1 ≤ v.length ∧ v.length ≤ maxStringMapsSize

/-- A zero-free string padded to the key size of map `j` is a key of policy `policyID`'s inner
    map `j` exactly when it is one of the values and goes to map `j`. -/
theorem lookup_iff (hI : Installs st policyID values) (hV : WellFormedValues values)
    {j : Nat} (hj : j < stringMapsNumSubMaps) {p : Bytes} (hp : ZeroFree p)
    (hpj : p.length ≤ stringMapsSizes.getD j 0) :
    ((st j policyID).any fun stringMap =>
      decide (pad (stringMapsSizes.getD j 0) p ∈ stringMap)) = true ↔
      p ∈ values ∧ stringIdx p.length = j := by
  obtain ⟨hnone, hkeys⟩ := hI j hj
  cases he : st j policyID with
  | none =>
    simp only [Option.any_none, Bool.false_eq_true, false_iff, not_and]
    exact fun hv => (hnone.mp he) p hv
  | some inner =>
    simp only [Option.any_some, decide_eq_true_eq]
    rw [hkeys inner he]
    constructor
    · rintro ⟨v, hv, hvj, hpad⟩
      obtain ⟨hz, h1, h2⟩ := hV v hv
      -- `v` fits its own map, which is map `j`
      have hvj' : v.length ≤ stringMapsSizes.getD j 0 := by
        rw [← hvj, ← stringPaddedLen_eq h1 h2]
        exact le_stringPaddedLen h2
      have hpv : p = v := pad_inj hp hz hpj hvj' hpad
      subst hpv
      exact ⟨hv, hvj⟩
    · rintro ⟨hv, hpj'⟩
      exact ⟨p, hv, hpj', rfl⟩

/-- The lookup of `enforce_cgroup_policy` for a zero-free path `p` of at most 4096 bytes, held
    at offset `8192 - |p|` of a buffer whose third segment is zero: it finds a match exactly
    when `p` is an installed value, except for the lengths 121 to 144, where it never does. -/
theorem stringMapMatch_iff (hI : Installs st policyID values) (hV : WellFormedValues values)
    {path : Nat → UInt8} {p : Bytes} (hp : ZeroFree p) (h1 : 1 ≤ p.length)
    (h2 : p.length ≤ maxPathLen) (hh : Holds path (maxPathLen * 2 - p.length) p)
    (hz : ∀ i, maxPathLen * 2 ≤ i → i < maxPathLen * 3 → path i = 0) :
    stringMapMatch st policyID path p.length (maxPathLen * 2 - p.length) = true ↔
      p ∈ values ∧ ¬(121 ≤ p.length ∧ p.length ≤ 144) := by
  have h2' : p.length ≤ maxStringMapsSize := h2
  have hidx := stringMapIndex_stringPaddedLen h1 h2'
  have hlt := stringIdx_lt p.length
  have hfive := stringIdx_eq_five_iff h1
  unfold stringMapsNumSubMaps at hlt
  -- the map the kernel picks, and the key size it reads with
  obtain ⟨j, hj, hji, hjp, hjs⟩ : ∃ j, j < stringMapsNumSubMaps ∧
      stringMapIndex (stringPaddedLen p.length) = j ∧ p.length ≤ stringMapsSizes.getD j 0 ∧
      (stringIdx p.length = j ↔ ¬(121 ≤ p.length ∧ p.length ≤ 144)) := by
    split_ifs at hidx with ha hb
    · -- 121 to 143 bytes: map 10, which holds the values of 2049 to 4096 bytes
      have h5 : stringIdx p.length = 5 := hfive.mpr ⟨ha.1, by omega⟩
      refine ⟨10, by decide, hidx, show p.length ≤ 4096 from h2, ?_⟩
      rw [h5]
      constructor
      · intro h
        omega
      · intro h
        exact absurd ⟨ha.1, by omega⟩ h
    · -- 144 bytes: map 6, which holds the values of 145 to 256 bytes
      have h5 : stringIdx p.length = 5 := hfive.mpr ⟨by omega, by omega⟩
      refine ⟨6, by decide, hidx, show p.length ≤ 256 by omega, ?_⟩
      rw [h5]
      constructor
      · intro h
        omega
      · intro h
        exact absurd ⟨by omega, by omega⟩ h
    · refine ⟨stringIdx p.length, stringIdx_lt _, hidx, ?_, ?_⟩
      · rw [← stringPaddedLen_eq h1 h2']
        exact le_stringPaddedLen h2'
      · simp only [true_iff]
        omega
  rw [stringMapMatch_of_index (by unfold stringMapsNumSubMaps at hj; omega) hji,
    stringMapsSize_eq hj,
    read_eq_pad_of_segment hh hz hjp (getD_stringMapsSizes_le hj), lookup_iff hI hV hj hp hjp, hjs]

/-- The lookup for a path of more than 4096 bytes: `string_padded_len` sends it to map 10, whose
    key is the first 4096 bytes, so it matches exactly when that prefix is a value. -/
theorem stringMapMatch_of_long (hI : Installs st policyID values) (hV : WellFormedValues values)
    {path : Nat → UInt8} {p : Bytes} {o : Nat} (hp : ZeroFree p) (hlong : maxPathLen < p.length)
    (hh : Holds path o p) :
    stringMapMatch st policyID path p.length o = true ↔ p.take maxPathLen ∈ values := by
  have hidx : stringMapIndex (stringPaddedLen p.length) = ((10 : Nat) : Int) := by
    have hpad : stringPaddedLen p.length = stringMapsSize10 := by
      unfold maxPathLen at hlong
      unfold stringPaddedLen
      rw [if_neg, if_neg, if_neg, if_neg, if_neg] <;>
        simp only [stringMapsSize5, stringMapsSize6, stringMapsSize7, stringMapsSize8,
          stringMapsSize9, stringMapsKeyIncSize] <;> omega
    rw [hpad]
    rfl
  have hj : 10 < stringMapsNumSubMaps := by decide
  have h10 : stringMapsSizes.getD 10 0 = maxPathLen := rfl
  have htake : (p.take maxPathLen).length = maxPathLen := by
    rw [List.length_take]
    omega
  -- the key is the path's first 4096 bytes, which fill it with no padding
  have hkey : read path o (stringMapsSize 10) = pad (stringMapsSizes.getD 10 0) (p.take maxPathLen) := by
    rw [stringMapsSize_eq hj, h10, pad_of_length_eq htake]
    calc read path o maxPathLen = (read path o p.length).take maxPathLen :=
          (take_read path o hlong.le).symm
      _ = p.take maxPathLen := by rw [hh]
  have hzt : ZeroFree (p.take maxPathLen) := fun x hx => hp x (List.mem_of_mem_take hx)
  rw [stringMapMatch_of_index (by omega) hidx, hkey,
    lookup_iff hI hV hj hzt (by rw [h10, htake]), htake]
  -- the agent stores a value of 4096 bytes in map 10 too
  have hidx' : stringIdx maxPathLen = 10 := rfl
  rw [hidx', and_iff_left rfl]

end Lookup

/-- An allowed path of 121 bytes is denied: after `generateBPFMaps` installs `/` followed by
    120 `a` on a 6.1 kernel, the exec of that very file in a protected cgroup returns
    `-EPERM`. The agent stores the path in map 5 (key size 144); the hook pads it to 144, which
    `string_map_index` sends to map 10. -/
theorem enforceCgroupPolicy_denies_allowed_121 :
    let p : Bytes := 47 :: List.replicate 120 97
    let installed := generateBPFMaps Faults.none (Kernels.kernelVersion 6 1 0) (fun _ _ => none) 1 [p]
    let env : HookEnv := ⟨fun t => if t = 7 then some 1 else none,
      fun _ => some policyModeProtect, installed.1, false, Kernels.kernelVersion 6 1 0, true⟩
    let ctx : ExecCtx Nat Unit :=
      ⟨chainWorld fun _ => List.replicate 120 97, ⟨0, ()⟩, some ⟨1, ()⟩, 7⟩
    installed.2 = .ok () ∧ resolvedPath ctx.world ctx.root (pathBudget true) ⟨1, ()⟩ = some p ∧
      (enforceCgroupPolicy env ctx true ⟨0, 0, 0, fun _ => 0⟩).ret = -ePerm :=
  ⟨by decide +kernel, by decide +kernel, by decide +kernel⟩

/-! ## The hook on a resolved path -/

theorem zeroFree_pathString {names : List Bytes} (h : ∀ n ∈ names, ZeroFree n) :
    ZeroFree (pathString names) := by
  intro x hx
  simp only [pathString, List.mem_flatten, List.mem_map] at hx
  obtain ⟨_, ⟨n, hn, rfl⟩, hx⟩ := hx
  exact zeroFree_cons (by decide) (h n hn) x hx

theorem zeroFree_deletedString : ZeroFree deletedString := by
  unfold ZeroFree
  decide +kernel

/-- A resolved path is zero-free when every name is. -/
theorem zeroFree_resolvedPath {w : FsWorld D M} {root path : Path D M} {n : Nat} {p : Bytes}
    (hw : ∀ d, ZeroFree (w.dName d)) (h : resolvedPath w root n path = some p) : ZeroFree p := by
  obtain ⟨⟨names, last⟩, hwalk, rfl⟩ := Option.map_eq_some_iff.mp h
  -- every name on the walk is a name of the world
  have hnames : ∀ name ∈ names, ZeroFree name := by
    intro name hname
    obtain ⟨d, rfl⟩ := walk_names_mem hwalk name hname
    exact hw d
  dsimp only
  split_ifs with h1 h2
  · exact zeroFree_cons (by decide) (hw last)
  · exact zeroFree_append (zeroFree_pathString hnames) zeroFree_deletedString
  · rw [List.append_nil]
    exact zeroFree_pathString hnames

theorem one_le_length_resolvedPath {w : FsWorld D M} {root path : Path D M} {n : Nat}
    {p : Bytes} (h : resolvedPath w root n path = some p) : 1 ≤ p.length := by
  obtain ⟨⟨names, last⟩, -, rfl⟩ := Option.map_eq_some_iff.mp h
  dsimp only
  split_ifs with h1 h2
  · simp
  · simp [deletedString_length]
  · -- not a memfd and not unlinked: there is a component
    have hn : names ≠ [] := fun hn => h1 ⟨hn, by simpa using h2⟩
    obtain ⟨n, ns, rfl⟩ := List.exists_cons_of_ne_nil hn
    simp [pathString]

theorem toNat_pathOffset {p : Bytes} (h2 : p.length < maxPathLen * 2) :
    (UInt32.ofNat (maxPathLen * 2 - p.length)).toNat = maxPathLen * 2 - p.length := by
  rw [UInt32.toNat_ofNat']
  unfold maxPathLen at *
  omega

theorem pathOffset_ne_zero {p : Bytes} (h2 : p.length < maxPathLen * 2) :
    UInt32.ofNat (maxPathLen * 2 - p.length) ≠ 0 := by
  intro h0
  have := congrArg UInt32.toNat h0
  rw [toNat_pathOffset h2, UInt32.toNat_zero] at this
  omega

/-- `populate_evt_with_path` on a file whose path resolves, in at most `8191` bytes: the
    offset is where the path starts, and `path_len` is its length. -/
theorem populateEvtWithPath_of_resolvedPath {ctx : ExecCtx D M} {hasIterNum : Bool}
    (evt : ProcessEvt) {f : Path D M} {p : Bytes}
    (hw : ∀ d, (ctx.world.dName d).length < maxComponentLen) (hf : ctx.file = some f)
    (hres : resolvedPath ctx.world ctx.root (pathBudget hasIterNum) f = some p)
    (h2 : p.length < maxPathLen * 2) :
    populateEvtWithPath ctx hasIterNum evt =
      (UInt32.ofNat (maxPathLen * 2 - p.length),
        { evt with
          path := write evt.path (maxPathLen * 2 - p.length) p
          pathLen := UInt16.ofNat p.length }, []) := by
  have h1 := one_le_length_resolvedPath hres
  have hoff := toNat_pathOffset h2
  have hne := pathOffset_ne_zero h2
  -- `MAX_PATH_LEN * 2 - current_offset` is the length back
  have hlen : (UInt32.ofNat (maxPathLen * 2) - UInt32.ofNat (maxPathLen * 2 - p.length)).toUInt16 =
      UInt16.ofNat p.length := by
    have h8 : (UInt32.ofNat (maxPathLen * 2)).toNat = maxPathLen * 2 := rfl
    apply UInt16.toNat_inj.mp
    rw [UInt32.toNat_toUInt16, UInt32.toNat_sub_of_le _ _ (by rw [UInt32.le_iff_toNat_le, hoff, h8]; omega),
      hoff, h8, UInt16.toNat_ofNat']
    unfold maxPathLen at *
    omega
  unfold populateEvtWithPath
  rw [hf]
  dsimp only
  rw [bpfDPathApprox_of_resolvedPath ctx.world hw ctx.root f hasIterNum evt.path hres (by omega)]
  dsimp only
  rw [if_neg hne, if_neg (by rw [hoff]; omega), hlen]

/-- The return value of the hook on a resolved path of fewer than 8192 bytes that passes the
    check for kernels before 5.11: `0` when the lookup matches, and otherwise what the policy's
    mode says. -/
theorem ret_enforceCgroupPolicy_of_resolved (env : HookEnv) (ctx : ExecCtx D M)
    (ringbufOk : Bool) (evt : ProcessEvt) {policyId : UInt64} {f : Path D M} {p : Bytes}
    (hT : ctx.cgTrackerId ≠ 0) (hP : env.cgToPolicy ctx.cgTrackerId = some policyId)
    (hw : ∀ d, (ctx.world.dName d).length < maxComponentLen) (hf : ctx.file = some f)
    (hres : resolvedPath ctx.world ctx.root (pathBudget env.hasIterNum) f = some p)
    (h2 : p.length < maxPathLen * 2)
    (hk : env.kernelVersion < Kernels.kernelVersion 5 11 0 → p.length ≤ stringMapsSize7) :
    (enforceCgroupPolicy env ctx ringbufOk evt).ret =
      if stringMapMatch env.polStrMaps policyId (write evt.path (maxPathLen * 2 - p.length) p)
        p.length (maxPathLen * 2 - p.length) then 0
      else (env.policyMode policyId).elim 0 fun mode =>
        if mode = policyModeMonitor then 0 else -ePerm := by
  have h1 := one_le_length_resolvedPath hres
  have hpop := populateEvtWithPath_of_resolvedPath { evt with cgTrackerId := ctx.cgTrackerId }
    hw hf hres h2
  have hlen : (UInt16.ofNat p.length).toNat = p.length := by
    rw [UInt16.toNat_ofNat']
    unfold maxPathLen at h2
    omega
  unfold enforceCgroupPolicy
  rw [if_neg hT, hP]
  dsimp only
  rw [hpop]
  dsimp only
  rw [if_neg (pathOffset_ne_zero h2), hlen,
    if_neg (fun h => by have := hk h.1; omega),
    toNat_pathOffset h2, safePathAccess_of_lt (by omega)]
  by_cases hm : stringMapMatch env.polStrMaps policyId (write evt.path (maxPathLen * 2 - p.length) p)
      p.length (maxPathLen * 2 - p.length) = true
  · rw [if_pos hm, if_pos hm]
  · -- the violation branch
    rw [if_neg hm, if_neg hm]
    cases env.policyMode policyId <;> rfl

/-- Enforcement fails closed in protect mode for every path the hook resolves: when the walk
    reaches the task's root within the loop's bound, the path has at most 4096 bytes (512
    before 5.11), and the third segment of the per-CPU buffer is zero, the hook returns
    `-EPERM` unless the path is one of the policy's values. -/
theorem enforceCgroupPolicy_protect_of_resolved (env : HookEnv) (ctx : ExecCtx D M)
    (ringbufOk : Bool) (evt : ProcessEvt) {policyId : UInt64} {values : List Bytes}
    {f : Path D M} {p : Bytes}
    (hT : ctx.cgTrackerId ≠ 0) (hP : env.cgToPolicy ctx.cgTrackerId = some policyId)
    (hmode : env.policyMode policyId = some policyModeProtect)
    (hI : Installs env.polStrMaps policyId values) (hV : WellFormedValues values)
    (hw : ∀ d, (ctx.world.dName d).length < maxComponentLen ∧ ZeroFree (ctx.world.dName d))
    (hf : ctx.file = some f)
    (hres : resolvedPath ctx.world ctx.root (pathBudget env.hasIterNum) f = some p)
    (hp : p.length ≤ maxPathLen)
    (hk : env.kernelVersion < Kernels.kernelVersion 5 11 0 → p.length ≤ stringMapsSize7)
    (hz : ∀ i, maxPathLen * 2 ≤ i → i < maxPathLen * 3 → evt.path i = 0) :
    (enforceCgroupPolicy env ctx ringbufOk evt).ret = -ePerm ∨ p ∈ values := by
  have h1 := one_le_length_resolvedPath hres
  have h2 : p.length < maxPathLen * 2 := by
    unfold maxPathLen at *
    omega
  have hzp := zeroFree_resolvedPath (fun d => (hw d).2) hres
  -- the key is the path followed by the zeroed third segment
  have hmatch := stringMapMatch_iff hI hV hzp h1 hp (holds_write evt.path _ p)
    (fun i hi hi' => by rw [write_of_ge (by omega)]; exact hz i hi hi')
  rw [ret_enforceCgroupPolicy_of_resolved env ctx ringbufOk evt hT hP (fun d => (hw d).1) hf hres h2
    hk]
  by_cases hm : stringMapMatch env.polStrMaps policyId (write evt.path (maxPathLen * 2 - p.length) p)
      p.length (maxPathLen * 2 - p.length) = true
  · exact Or.inr (hmatch.mp hm).1
  · -- no match: the violation branch, and `PROTECT` is not `MONITOR`
    rw [if_neg hm, hmode]
    exact Or.inl rfl

/-- `/sh` under a policy that allows only `/bin`. -/
theorem enforceCgroupPolicy_protect_of_resolved_sh :
    let installed := generateBPFMaps Faults.none (Kernels.kernelVersion 6 1 0) (fun _ _ => none) 1
      [[47, 98, 105, 110]]
    let env : HookEnv := ⟨fun t => if t = 7 then some 1 else none,
      fun _ => some policyModeProtect, installed.1, false, Kernels.kernelVersion 6 1 0, true⟩
    let ctx : ExecCtx Nat Unit := ⟨chainWorld fun _ => [115, 104], ⟨0, ()⟩, some ⟨1, ()⟩, 7⟩
    (enforceCgroupPolicy env ctx true ⟨0, 0, 0, fun _ => 0⟩).ret = -ePerm ∨
      ([47, 115, 104] : Bytes) ∈ ([[47, 98, 105, 110]] : List Bytes) := by
  have hgen : (generateBPFMaps Faults.none (Kernels.kernelVersion 6 1 0) (fun _ _ => none) 1
      [[47, 98, 105, 110]]).2 = .ok () := by decide +kernel
  dsimp only
  refine enforceCgroupPolicy_protect_of_resolved (D := Nat) (M := Unit) _ _ true ⟨0, 0, 0, fun _ => 0⟩
    ?_ rfl rfl ?_ ?_ ?_ rfl ?_ ?_ ?_ ?_
  · decide
  · exact generateBPFMaps_installs _ _ _ 1 _ (fun _ => rfl) hgen
  · unfold WellFormedValues ZeroFree
    decide +kernel
  · intro d
    dsimp only [chainWorld]
    unfold ZeroFree
    exact ⟨by decide +kernel, by decide +kernel⟩
  · decide +kernel
  · decide
  · exact fun h => absurd h (by decide)
  · exact fun _ _ _ => rfl

/-- A resolved path of more than 4096 bytes is let through when its first 4096 bytes are one of
    the policy's values, whatever the policy's mode. -/
theorem enforceCgroupPolicy_of_long_prefix (env : HookEnv) (ctx : ExecCtx D M)
    (ringbufOk : Bool) (evt : ProcessEvt) {policyId : UInt64} {values : List Bytes}
    {f : Path D M} {p : Bytes}
    (hT : ctx.cgTrackerId ≠ 0) (hP : env.cgToPolicy ctx.cgTrackerId = some policyId)
    (hI : Installs env.polStrMaps policyId values) (hV : WellFormedValues values)
    (hw : ∀ d, (ctx.world.dName d).length < maxComponentLen ∧ ZeroFree (ctx.world.dName d))
    (hf : ctx.file = some f)
    (hres : resolvedPath ctx.world ctx.root (pathBudget env.hasIterNum) f = some p)
    (hlong : maxPathLen < p.length) (h2 : p.length < maxPathLen * 2)
    (hk : Kernels.kernelVersion 5 11 0 ≤ env.kernelVersion) (hpre : p.take maxPathLen ∈ values) :
    (enforceCgroupPolicy env ctx ringbufOk evt).ret = 0 := by
  have hzp := zeroFree_resolvedPath (fun d => (hw d).2) hres
  -- the key is the path's first 4096 bytes, wherever the path ends
  have hmatch := (stringMapMatch_of_long hI hV hzp hlong
    (holds_write evt.path (maxPathLen * 2 - p.length) p)).mpr hpre
  rw [ret_enforceCgroupPolicy_of_resolved env ctx ringbufOk evt hT hP (fun d => (hw d).1) hf hres h2
    (fun h => absurd hk (not_le.mpr h)), if_pos hmatch]

/-- Protect mode lets through two paths its policy does not allow. First, on a 6.1 kernel, a
    value `v` of 4096 bytes is installed and the file at `v` followed by `b` is executed: its
    4097-byte path is looked up by its first 4096 bytes, which match. Second, an exec of a path
    of 8194 bytes, whose outermost component `xrm` wraps the `u32` offset of `copy_name`, is
    denied, but the masked writes put `r` and `m` at offsets 8192 and 8193 of the per-CPU
    buffer, in the third segment the lookups pad with; the next exec on that CPU, of
    `/usr/local/bin/terrafo`, is looked up as `/usr/local/bin/terraform`, the one allowed path,
    and runs. -/
theorem enforceCgroupPolicy_fails_open :
    (let dir : Bytes := List.replicate 240 97
      let v : Bytes := pathString (List.replicate 16 dir) ++ 47 :: List.replicate 239 97
      let installed :=
        generateBPFMaps Faults.none (Kernels.kernelVersion 6 1 0) (fun _ _ => none) 1 [v]
      let env : HookEnv := ⟨fun t => if t = 7 then some 1 else none,
        fun _ => some policyModeProtect, installed.1, false, Kernels.kernelVersion 6 1 0, true⟩
      let name : Nat → Bytes := fun d => if d = 17 then List.replicate 239 97 ++ [98] else dir
      let ctx : ExecCtx Nat Unit := ⟨chainWorld name, ⟨0, ()⟩, some ⟨17, ()⟩, 7⟩
      installed.2 = .ok () ∧ v.length = 4096 ∧
        resolvedPath ctx.world ctx.root (pathBudget true) ⟨17, ()⟩ = some (v ++ [98]) ∧
        v ++ [98] ∉ [v] ∧ (enforceCgroupPolicy env ctx true ⟨0, 0, 0, fun _ => 0⟩).ret = 0) ∧
    (let v : Bytes := "/usr/local/bin/terraform".toList.map Char.toUInt8
      let installed :=
        generateBPFMaps Faults.none (Kernels.kernelVersion 6 1 0) (fun _ _ => none) 1 [v]
      let env : HookEnv := ⟨fun t => if t = 7 then some 1 else none,
        fun _ => some policyModeProtect, installed.1, false, Kernels.kernelVersion 6 1 0, true⟩
      let long : Nat → Bytes := fun d =>
        if d = 1 then [120, 114, 109] else if d = 33 then List.replicate 253 97
        else List.replicate 255 97
      let ctx₁ : ExecCtx Nat Unit := ⟨chainWorld long, ⟨0, ()⟩, some ⟨33, ()⟩, 7⟩
      let tf : Nat → Bytes := fun d =>
        (if d = 1 then "usr" else if d = 2 then "local" else if d = 3 then "bin"
          else "terrafo").toList.map Char.toUInt8
      let ctx₂ : ExecCtx Nat Unit := ⟨chainWorld tf, ⟨0, ()⟩, some ⟨4, ()⟩, 7⟩
      let first := enforceCgroupPolicy env ctx₁ true ⟨0, 0, 0, fun _ => 0⟩
      installed.2 = .ok () ∧
        (resolvedPath ctx₁.world ctx₁.root (pathBudget true) ⟨33, ()⟩).map List.length =
          some 8194 ∧
        first.ret = -ePerm ∧ first.evt.path 8192 = 114 ∧ first.evt.path 8193 = 109 ∧
        resolvedPath ctx₂.world ctx₂.root (pathBudget true) ⟨4, ()⟩ =
          some ("/usr/local/bin/terrafo".toList.map Char.toUInt8) ∧
        "/usr/local/bin/terrafo".toList.map Char.toUInt8 ∉ [v] ∧
        (enforceCgroupPolicy env ctx₂ true first.evt).ret = 0) := by
  constructor
  · intro dir v installed env name ctx
    have hgen : installed.2 = .ok () := by decide +kernel
    have hlen : v.length = maxPathLen := by decide +kernel
    have hzd : ZeroFree dir := zeroFree_replicate (by decide)
    have hzv : ZeroFree v :=
      zeroFree_append (zeroFree_pathString fun n hn => by rw [List.eq_of_mem_replicate hn]; exact hzd)
        (zeroFree_cons (by decide) (zeroFree_replicate (by decide)))
    have hw : ∀ d, (name d).length < maxComponentLen ∧ ZeroFree (name d) := by
      intro d
      by_cases hd : d = 17
      · -- the file: the value's last name and one more byte
        rw [show name d = List.replicate 239 97 ++ [98] from if_pos hd]
        exact ⟨by rw [List.length_append, List.length_replicate]; decide,
          zeroFree_append (zeroFree_replicate (by decide)) (zeroFree_cons (by decide) zeroFree_nil)⟩
      · rw [show name d = dir from if_neg hd]
        exact ⟨by rw [List.length_replicate]; decide, hzd⟩
    -- the sixteen directories, then the file
    have hres : resolvedPath ctx.world ctx.root (pathBudget true) ⟨17, ()⟩ = some (v ++ [98]) := by
      show _ = some ((pathString (List.replicate 16 dir) ++ 47 :: List.replicate 239 97) ++ [98])
      rw [List.append_assoc, List.cons_append]
      exact resolvedPath_chainWorld_dirs dir _ (by decide)
    have hlen' : (v ++ [98]).length = maxPathLen + 1 := by
      rw [List.length_append, hlen]
      rfl
    have hnot : v ++ [98] ∉ [v] := by
      rw [List.mem_singleton]
      intro h
      have := congrArg List.length h
      rw [hlen', hlen] at this
      omega
    have hV : WellFormedValues [v] := by
      intro v' hv'
      rw [List.mem_singleton.mp hv']
      exact ⟨hzv, by rw [hlen]; decide, by rw [hlen]; rfl⟩
    have hpre : (v ++ [98]).take maxPathLen ∈ [v] := by
      rw [List.take_left' hlen]
      exact List.mem_singleton_self v
    have hI : Installs installed.1 1 [v] :=
      generateBPFMaps_installs Faults.none (Kernels.kernelVersion 6 1 0) (fun _ _ => none) 1 [v]
        (fun _ => rfl) hgen
    -- from here on the maps are only what the installation lemma says of them
    clear_value installed
    have hk : Kernels.kernelVersion 5 11 0 ≤ env.kernelVersion :=
      show Kernels.kernelVersion 5 11 0 ≤ Kernels.kernelVersion 6 1 0 by decide
    refine ⟨hgen, hlen, hres, hnot, ?_⟩
    exact enforceCgroupPolicy_of_long_prefix env ctx true _ (by decide) rfl
      hI hV hw rfl hres
      (by rw [hlen']; omega) (by rw [hlen']; decide) hk hpre
  · intro v installed env long ctx₁ tf ctx₂ first
    have hgen : installed.2 = .ok () := by decide +kernel
    have hlen₁ : (resolvedPath ctx₁.world ctx₁.root (pathBudget true) ⟨33, ()⟩).map List.length =
        some 8194 := by
      show (resolvedPath (chainWorld long) ⟨0, ()⟩ (pathBudget true) ⟨33, ()⟩).map List.length = _
      rw [resolvedPath_chainWorld long (by omega) (by decide), Option.map_some, length_pathString]
      decide +kernel
    -- the first exec, evaluated as the kernel runs it: the offset wraps, the exec is denied, and
    -- the last two bytes of `xrm` stay at 8192 and 8193
    have hfirst : first.ret = -ePerm ∧ first.evt.path 8192 = 114 ∧ first.evt.path 8193 = 109 := by
      decide +kernel
    -- the second exec resolves `/usr/local/bin/terrafo`; its 24-byte key is that path and the `rm`
    -- left over, the value
    let p₂ : Bytes := "/usr/local/bin/terrafo".toList.map Char.toUInt8
    have hres₂ : resolvedPath ctx₂.world ctx₂.root (pathBudget true) ⟨4, ()⟩ = some p₂ := by
      decide +kernel
    have hkey : read (write first.evt.path (maxPathLen * 2 - p₂.length) p₂)
        (maxPathLen * 2 - p₂.length) (stringMapsSize 0) = pad (stringMapsSizes.getD 0 0) v := by
      rw [read_write_append (by decide), show maxPathLen * 2 - p₂.length + p₂.length = 8192 from rfl,
        show stringMapsSize 0 - p₂.length = 2 from rfl, read_succ, read_succ, hfirst.2.1, hfirst.2.2]
      decide
    have hV : WellFormedValues [v] := by
      unfold WellFormedValues ZeroFree
      decide +kernel
    have hI : Installs installed.1 1 [v] :=
      generateBPFMaps_installs Faults.none (Kernels.kernelVersion 6 1 0) (fun _ _ => none) 1 [v]
        (fun _ => rfl) hgen
    have hmatch : stringMapMatch env.polStrMaps 1
        (write first.evt.path (maxPathLen * 2 - p₂.length) p₂) p₂.length
        (maxPathLen * 2 - p₂.length) = true := by
      show stringMapMatch installed.1 1 _ p₂.length _ = true
      rw [stringMapMatch_of_index (by decide)
        (show stringMapIndex (stringPaddedLen p₂.length) = ((0 : Nat) : Int) by decide), hkey]
      exact (lookup_iff hI hV (by decide) (by unfold ZeroFree; decide +kernel) (by decide)).mpr
        ⟨List.mem_singleton_self v, by decide⟩
    have hw₂ : ∀ d, (ctx₂.world.dName d).length < maxComponentLen := by
      intro d
      show (tf d).length < 256
      simp only [tf]
      split_ifs <;> decide
    refine ⟨hgen, hlen₁, hfirst.1, hfirst.2.1, hfirst.2.2, hres₂, by decide, ?_⟩
    rw [ret_enforceCgroupPolicy_of_resolved env ctx₂ true first.evt (by decide) rfl hw₂ rfl hres₂
      (by decide) (fun h => absurd h (by decide)), if_pos hmatch]

/-! ## The records the hook writes -/

section Records

variable (env : HookEnv) (ctx : ExecCtx D M) (evt : ProcessEvt) {f : Path D M} {p : Bytes}

/-- The learning branch on a resolved path: one record on `ringbuf_execve`, of the event whose
    buffer holds the path at its offset, copied from there to the start of the buffer. -/
theorem execve_of_learning (hT : ctx.cgTrackerId ≠ 0)
    (hP : env.cgToPolicy ctx.cgTrackerId = none) (hL : env.learningEnabled = true)
    (hw : ∀ d, (ctx.world.dName d).length < maxComponentLen) (hf : ctx.file = some f)
    (hres : resolvedPath ctx.world ctx.root (pathBudget env.hasIterNum) f = some p)
    (h2 : p.length < maxPathLen * 2) :
    (enforceCgroupPolicy env ctx true evt).execve =
      [eventRecord (copyPathToStart
        ⟨ctx.cgTrackerId, UInt16.ofNat p.length, 0, write evt.path (maxPathLen * 2 - p.length) p⟩
        (UInt32.ofNat (maxPathLen * 2 - p.length)))] := by
  have hpop := populateEvtWithPath_of_resolvedPath
    { evt with cgTrackerId := ctx.cgTrackerId, mode := 0 } hw hf hres h2
  unfold enforceCgroupPolicy
  rw [if_neg hT, hP]
  dsimp only
  rw [hL, Bool.not_true, if_neg Bool.false_ne_true, hpop]
  dsimp only
  rw [if_neg (pathOffset_ne_zero h2), if_pos rfl]

/-- The violation branch on a resolved path that the lookup misses: one record on
    `ringbuf_monitoring`, of the event with the policy's mode, whose buffer holds the path at
    its offset, copied from there to the start of the buffer. -/
theorem monitoring_of_violation {policyId : UInt64} {mode : UInt8} (hT : ctx.cgTrackerId ≠ 0)
    (hP : env.cgToPolicy ctx.cgTrackerId = some policyId)
    (hmode : env.policyMode policyId = some mode)
    (hw : ∀ d, (ctx.world.dName d).length < maxComponentLen) (hf : ctx.file = some f)
    (hres : resolvedPath ctx.world ctx.root (pathBudget env.hasIterNum) f = some p)
    (h2 : p.length < maxPathLen * 2)
    (hk : env.kernelVersion < Kernels.kernelVersion 5 11 0 → p.length ≤ stringMapsSize7)
    (hm : stringMapMatch env.polStrMaps policyId (write evt.path (maxPathLen * 2 - p.length) p)
      p.length (maxPathLen * 2 - p.length) = false) :
    (enforceCgroupPolicy env ctx true evt).monitoring =
      [eventRecord (copyPathToStart
        ⟨ctx.cgTrackerId, UInt16.ofNat p.length, mode, write evt.path (maxPathLen * 2 - p.length) p⟩
        (UInt32.ofNat (maxPathLen * 2 - p.length)))] := by
  have h1 := one_le_length_resolvedPath hres
  have hpop := populateEvtWithPath_of_resolvedPath { evt with cgTrackerId := ctx.cgTrackerId }
    hw hf hres h2
  have hlen : (UInt16.ofNat p.length).toNat = p.length := by
    rw [UInt16.toNat_ofNat']
    unfold maxPathLen at h2
    omega
  unfold enforceCgroupPolicy
  rw [if_neg hT, hP]
  dsimp only
  rw [hpop]
  dsimp only
  rw [if_neg (pathOffset_ne_zero h2), hlen, if_neg (fun h => by have := hk h.1; omega),
    toNat_pathOffset h2, safePathAccess_of_lt (by omega), hm, if_neg Bool.false_ne_true, hmode]
  -- the mode is set after the copy, which does not read it
  rfl

end Records

end RuntimeEnforcer.Ebpf
