import RuntimeEnforcer.Ebpf.Enforce

/-
  `internal/bpf/events_common.go` and `internal/types/policymode`: the agent's reader of the
  exec records that `enforce_cgroup_policy` writes.

  `processRecord` is one iteration of the loop of `processRingbufEvents` on a record's raw
  sample: `binary.Read` of the 11-byte little-endian header `bpfEventHeader`, the `PathLen`
  bound, a `bytes.Buffer.Read` into `make([]byte, PathLen)` (which copies what is left of the
  record and fails only when nothing is left), and the mode string, where
  `policymode.FromUint8` panics on a mode other than monitor and protect.

  `processRecord_eventRecord` reads a record back: the header's fields and the first
  `path_len` bytes of the record's part of the buffer. On the two branches of the hook that
  write records, the buffer starts with the resolved path, copied there with its terminator, so
  a path of 1 to 4094 bytes comes back whole (`processRecord_learning`,
  `processRecord_violation`). At 4095 and 4096 bytes the `SAFE_PATH_LEN` masks cut the copy and
  the record to nothing or almost nothing, and the agent reads what earlier events left in the
  per-CPU buffer (`processRecord_copyPathToStart_4095`, `processRecord_copyPathToStart_4096`).
-/

namespace RuntimeEnforcer.PolicyMode

/-- `policymode.Mode`. -/
inductive Mode where
  | monitor
  | protect
  deriving DecidableEq, Repr

def monitorString : String := "monitor"
def protectString : String := "protect"

/-- `Mode.String`. -/
def Mode.toString : Mode → String
  | .monitor => monitorString
  | .protect => protectString

/-- `FromUint8`; `none` is its panic on a value other than 1 and 2. -/
def fromUint8 (v : UInt8) : Option Mode :=
  if v = 1 then some .monitor else if v = 2 then some .protect else none

end RuntimeEnforcer.PolicyMode

namespace RuntimeEnforcer.BpfManager

open Buffer

/-- `ProcessEvent` (manager.go 37-42); the Go string `ExePath` is kept as its bytes. -/
structure ProcessEvent where
  cgTrackerID : UInt64
  exePath : Bytes
  mode : String
  deriving DecidableEq, Repr

/-- What one iteration of the loop does with a record. -/
inductive RecordOutcome where
  /-- logged, then `continue` -/
  | skipped
  /-- the panic of `policymode.FromUint8` -/
  | panicked
  /-- `out <- ProcessEvent{…}` -/
  | sent (e : ProcessEvent)
  deriving DecidableEq, Repr

/-- `binary.Size(bpfEventHeader{})`. -/
def bpfEventHeaderSize : Nat := 11

/-- The mode string of a header: `""` for 0, the one of `policymode.FromUint8` otherwise. -/
def modeStringOf (mode : UInt8) : Option String :=
  if mode ≠ 0 then (PolicyMode.fromUint8 mode).map PolicyMode.Mode.toString else some ""

/-- One iteration of `processRingbufEvents` (events_common.go 80-120) on `record.RawSample`. -/
def processRecord (raw : Bytes) : RecordOutcome :=
  -- `binary.Read` fills the header or fails
  if raw.length < bpfEventHeaderSize then .skipped
  else
    let cgTrackerID := UInt64.ofNat (LittleEndian.decode (raw.take 8))
    let pathLen := UInt16.ofNat (LittleEndian.decode ((raw.drop 8).take 2))
    let mode := raw.getD 10 0
    let rest := raw.drop bpfEventHeaderSize
    -- `maxPathLen`, the longest path of the eBPF program
    if 4096 < pathLen.toNat then .skipped
    -- `buf.Read(pathBytes)` copies what is left; `io.EOF` only when nothing is
    else if rest = [] ∧ pathLen.toNat ≠ 0 then .skipped
    else
      let pathBytes := pad pathLen.toNat (rest.take pathLen.toNat)
      match modeStringOf mode with
      | none => .panicked
      | some modeString => .sent ⟨cgTrackerID, pathBytes, modeString⟩

/-! ## Reading a record back -/

theorem ofNat_decode_encode_uint64 (x : UInt64) :
    UInt64.ofNat (LittleEndian.decode (LittleEndian.encode 8 x.toNat)) = x := by
  rw [LittleEndian.decode_encode, Nat.mod_eq_of_lt (by simpa using x.toNat_lt), UInt64.ofNat_toNat]

theorem ofNat_decode_encode_uint16 (x : UInt16) :
    UInt16.ofNat (LittleEndian.decode (LittleEndian.encode 2 x.toNat)) = x := by
  rw [LittleEndian.decode_encode, Nat.mod_eq_of_lt (by simpa using x.toNat_lt), UInt16.ofNat_toNat]

/-- A record read back: the header's fields, and the first `path_len` bytes of the eight plus
    `SAFE_PATH_LEN(path_len)` bytes of the buffer that follow the header, padded with zeros to
    `path_len`. -/
theorem processRecord_eventRecord (evt : Ebpf.ProcessEvt)
    (hlen : evt.pathLen.toNat ≤ Ebpf.maxPathLen) :
    processRecord (Ebpf.eventRecord evt) =
      match modeStringOf evt.mode with
      | none => .panicked
      | some modeString => .sent ⟨evt.cgTrackerId, pad evt.pathLen.toNat
          ((read evt.path 0 (8 + Ebpf.safePathLen evt.pathLen.toNat)).take evt.pathLen.toNat),
          modeString⟩ := by
  set e8 := LittleEndian.encode 8 evt.cgTrackerId.toNat
  set e2 := LittleEndian.encode 2 evt.pathLen.toNat
  set body := read evt.path 0 (8 + Ebpf.safePathLen evt.pathLen.toNat)
  have h8 : e8.length = 8 := LittleEndian.length_encode 8 _
  have h2 : e2.length = 2 := LittleEndian.length_encode 2 _
  have hrec : Ebpf.eventRecord evt = e8 ++ (e2 ++ (evt.mode :: body)) := by
    simp only [Ebpf.eventRecord, Ebpf.evtHeader, List.append_assoc, List.singleton_append, e8, e2,
      body]
  have hlen' : ¬(e8 ++ (e2 ++ (evt.mode :: body))).length < bpfEventHeaderSize := by
    simp only [List.length_append, List.length_cons, h8, h2, bpfEventHeaderSize]
    omega
  have hdrop8 : (e8 ++ (e2 ++ (evt.mode :: body))).drop 8 = e2 ++ (evt.mode :: body) :=
    List.drop_left' h8
  have hmode : (e8 ++ (e2 ++ (evt.mode :: body))).getD 10 0 = evt.mode := by
    simp [List.getD_eq_getElem?_getD, List.getElem?_append_right, h8, h2]
  have hrest : (e8 ++ (e2 ++ (evt.mode :: body))).drop bpfEventHeaderSize = body := by
    rw [show bpfEventHeaderSize = 8 + 3 from rfl, ← List.drop_drop, hdrop8,
      show 3 = 2 + 1 from rfl, ← List.drop_drop, List.drop_left' h2]
    rfl
  -- the body has at least eight bytes, so `buf.Read` does not fail
  have hbody : ¬(body = [] ∧ evt.pathLen.toNat ≠ 0) := by
    intro h
    have := congrArg List.length h.1
    rw [read_length] at this
    simp at this
  unfold processRecord
  rw [hrec, if_neg hlen', List.take_left' h8, hdrop8, List.take_left' h2,
    ofNat_decode_encode_uint64, ofNat_decode_encode_uint16, hmode, hrest,
    if_neg (by unfold Ebpf.maxPathLen at hlen; omega), if_neg hbody]

/-- A record whose `path_len` is below 4096 reads back as the first `path_len` bytes of the
    buffer. -/
theorem processRecord_eventRecord_of_lt (evt : Ebpf.ProcessEvt)
    (hlen : evt.pathLen.toNat < Ebpf.maxPathLen) :
    processRecord (Ebpf.eventRecord evt) =
      match modeStringOf evt.mode with
      | none => .panicked
      | some modeString => .sent ⟨evt.cgTrackerId, read evt.path 0 evt.pathLen.toNat, modeString⟩ := by
  rw [processRecord_eventRecord evt hlen.le, Ebpf.safePathLen_of_lt hlen,
    take_read evt.path 0 (Nat.le_add_left _ 8), pad_of_length_eq (read_length _ _ _)]

/-! ## The copy to the start of the buffer -/

/-- The copy to the start of the buffer keeps a path of at most 4094 bytes whole: it copies
    `path_len + 1` bytes, masked by `SAFE_PATH_LEN`. -/
theorem read_copyPathToStart (evt : Ebpf.ProcessEvt) {p : Bytes} (off : UInt32)
    (hh : Holds evt.path (Ebpf.safePathAccess off.toNat) p) (hlen : evt.pathLen.toNat = p.length)
    (hp : p.length + 1 < Ebpf.maxPathLen) :
    read (Ebpf.copyPathToStart evt off).path 0 p.length = p := by
  unfold Ebpf.copyPathToStart
  dsimp only
  rw [hlen, Ebpf.safePathLen_of_lt hp, ← take_read _ 0 (Nat.le_succ p.length)]
  have hw := holds_write evt.path 0 (read evt.path (Ebpf.safePathAccess off.toNat) (p.length + 1))
  unfold Holds at hw
  rw [read_length] at hw
  rw [hw, take_read _ _ (Nat.le_succ p.length)]
  exact hh

/-- The record of a path of 1 to 4094 bytes, held at offset `8192 - |p|` and copied to the
    start of the buffer, reads back as the path. -/
theorem processRecord_copyPathToStart (evt : Ebpf.ProcessEvt) {p : Bytes}
    (hh : Holds evt.path (Ebpf.maxPathLen * 2 - p.length) p) (hlen : evt.pathLen.toNat = p.length)
    (h1 : 1 ≤ p.length) (hp : p.length + 1 < Ebpf.maxPathLen) :
    processRecord (Ebpf.eventRecord
        (Ebpf.copyPathToStart evt (UInt32.ofNat (Ebpf.maxPathLen * 2 - p.length)))) =
      match modeStringOf evt.mode with
      | none => .panicked
      | some modeString => .sent ⟨evt.cgTrackerId, p, modeString⟩ := by
  have h2 : p.length < Ebpf.maxPathLen * 2 := by
    unfold Ebpf.maxPathLen at *
    omega
  have hh' : Holds evt.path
      (Ebpf.safePathAccess (UInt32.ofNat (Ebpf.maxPathLen * 2 - p.length)).toNat) p := by
    rw [Ebpf.toNat_pathOffset h2, Ebpf.safePathAccess_of_lt (by omega)]
    exact hh
  rw [processRecord_eventRecord_of_lt _ (by rw [Ebpf.copyPathToStart_pathLen, hlen]; omega)]
  simp only [Ebpf.copyPathToStart_pathLen, Ebpf.copyPathToStart_mode,
    Ebpf.copyPathToStart_cgTrackerId, hlen]
  rw [read_copyPathToStart _ _ hh' hlen hp]

/-- At 4095 bytes the copy moves nothing (`SAFE_PATH_LEN(4096)` is 0): the record carries the
    first 4095 bytes the buffer held before, whatever the path. -/
theorem processRecord_copyPathToStart_4095 (evt : Ebpf.ProcessEvt) (off : UInt32)
    (hlen : evt.pathLen.toNat = 4095) :
    processRecord (Ebpf.eventRecord (Ebpf.copyPathToStart evt off)) =
      match modeStringOf evt.mode with
      | none => .panicked
      | some modeString => .sent ⟨evt.cgTrackerId, read evt.path 0 4095, modeString⟩ := by
  have hcopy : (Ebpf.copyPathToStart evt off).path = evt.path := by
    have hz : Ebpf.safePathLen (4095 + 1) = 0 := by decide
    unfold Ebpf.copyPathToStart
    dsimp only
    rw [hlen, hz, read_zero, write_nil]
  rw [processRecord_eventRecord_of_lt _ (by rw [Ebpf.copyPathToStart_pathLen, hlen]; decide)]
  simp only [Ebpf.copyPathToStart_pathLen, Ebpf.copyPathToStart_mode,
    Ebpf.copyPathToStart_cgTrackerId, hcopy, hlen]

/-- At 4096 bytes the copy moves one byte (`SAFE_PATH_LEN(4097)` is 1) and the record carries
    eight bytes of the buffer (`SAFE_PATH_LEN(4096)` is 0), which the agent pads with zeros to
    4096: the first byte of the path, then seven bytes the buffer held before. -/
theorem processRecord_copyPathToStart_4096 (evt : Ebpf.ProcessEvt) {p : Bytes} (off : UInt32)
    (hh : Holds evt.path (Ebpf.safePathAccess off.toNat) p) (h1 : 1 ≤ p.length)
    (hlen : evt.pathLen.toNat = 4096) :
    processRecord (Ebpf.eventRecord (Ebpf.copyPathToStart evt off)) =
      match modeStringOf evt.mode with
      | none => .panicked
      | some modeString =>
        .sent ⟨evt.cgTrackerId, pad 4096 (p.take 1 ++ read evt.path 1 7), modeString⟩ := by
  have hcopy : (Ebpf.copyPathToStart evt off).path =
      write evt.path 0 (read evt.path (Ebpf.safePathAccess off.toNat) 1) := by
    have h1' : Ebpf.safePathLen (4096 + 1) = 1 := by decide
    unfold Ebpf.copyPathToStart
    dsimp only
    rw [hlen, h1']
  -- the first byte comes from the path, the seven after it from the old buffer
  have hbytes : (read (Ebpf.copyPathToStart evt off).path 0 (8 + Ebpf.safePathLen 4096)).take 4096 =
      p.take 1 ++ read evt.path 1 7 := by
    have hz : Ebpf.safePathLen 4096 = 0 := by decide
    have hfirst : read evt.path (Ebpf.safePathAccess off.toNat) 1 = p.take 1 := by
      rw [← take_read _ _ h1, hh]
    have hw := holds_write evt.path 0 (read evt.path (Ebpf.safePathAccess off.toNat) 1)
    unfold Holds at hw
    rw [read_length] at hw
    rw [hz, List.take_of_length_le (by rw [read_length]; omega), hcopy,
      show 8 + 0 = 1 + 7 from rfl, read_append, hw, hfirst,
      read_write_of_disjoint (Or.inr (by simp))]
  rw [processRecord_eventRecord _ (by rw [Ebpf.copyPathToStart_pathLen, hlen]; decide)]
  simp only [Ebpf.copyPathToStart_pathLen, Ebpf.copyPathToStart_mode,
    Ebpf.copyPathToStart_cgTrackerId, hlen]
  rw [hbytes]

/-! ## The two branches of the hook that write records -/

variable {D M : Type} [DecidableEq D] [DecidableEq M]

/-- The learning branch: a cgroup without a policy, learning enabled. The record of a resolved
    path of at most 4094 bytes reaches the agent with the tracker id, the path and no mode. -/
theorem processRecord_learning (env : Ebpf.HookEnv) (ctx : Ebpf.ExecCtx D M)
    (evt : Ebpf.ProcessEvt) {f : Ebpf.Path D M} {p : Bytes}
    (hT : ctx.cgTrackerId ≠ 0) (hP : env.cgToPolicy ctx.cgTrackerId = none)
    (hL : env.learningEnabled = true)
    (hw : ∀ d, (ctx.world.dName d).length < Ebpf.maxComponentLen) (hf : ctx.file = some f)
    (hres : Ebpf.resolvedPath ctx.world ctx.root (Ebpf.pathBudget env.hasIterNum) f = some p)
    (hp : p.length + 1 < Ebpf.maxPathLen) :
    (Ebpf.enforceCgroupPolicy env ctx true evt).execve.map processRecord =
      [.sent ⟨ctx.cgTrackerId, p, ""⟩] := by
  have h2 : p.length < Ebpf.maxPathLen * 2 := by
    unfold Ebpf.maxPathLen at *
    omega
  have hlen : (UInt16.ofNat p.length).toNat = p.length := by
    rw [UInt16.toNat_ofNat']
    unfold Ebpf.maxPathLen at hp
    omega
  rw [Ebpf.execve_of_learning env ctx evt hT hP hL hw hf hres h2, List.map_singleton,
    processRecord_copyPathToStart _ (holds_write _ _ p) hlen
      (Ebpf.one_le_length_resolvedPath hres) hp]
  rfl

/-- The violation branch: a cgroup with a policy whose lookup misses the path. The record of a
    resolved path of at most 4094 bytes reaches the agent with the tracker id, the path and the
    string of the policy's mode. -/
theorem processRecord_violation (env : Ebpf.HookEnv) (ctx : Ebpf.ExecCtx D M)
    (evt : Ebpf.ProcessEvt) {f : Ebpf.Path D M} {p : Bytes} {policyId : UInt64} {mode : UInt8}
    (hT : ctx.cgTrackerId ≠ 0) (hP : env.cgToPolicy ctx.cgTrackerId = some policyId)
    (hmode : env.policyMode policyId = some mode)
    (hw : ∀ d, (ctx.world.dName d).length < Ebpf.maxComponentLen) (hf : ctx.file = some f)
    (hres : Ebpf.resolvedPath ctx.world ctx.root (Ebpf.pathBudget env.hasIterNum) f = some p)
    (hp : p.length + 1 < Ebpf.maxPathLen)
    (hk : env.kernelVersion < Kernels.kernelVersion 5 11 0 → p.length ≤ Ebpf.stringMapsSize7)
    (hm : Ebpf.stringMapMatch env.polStrMaps policyId
      (write evt.path (Ebpf.maxPathLen * 2 - p.length) p) p.length
      (Ebpf.maxPathLen * 2 - p.length) = false) :
    (Ebpf.enforceCgroupPolicy env ctx true evt).monitoring.map processRecord =
      [match modeStringOf mode with
        | none => .panicked
        | some modeString => .sent ⟨ctx.cgTrackerId, p, modeString⟩] := by
  have h2 : p.length < Ebpf.maxPathLen * 2 := by
    unfold Ebpf.maxPathLen at *
    omega
  have hlen : (UInt16.ofNat p.length).toNat = p.length := by
    rw [UInt16.toNat_ofNat']
    unfold Ebpf.maxPathLen at hp
    omega
  rw [Ebpf.monitoring_of_violation env ctx evt hT hP hmode hw hf hres h2 hk hm,
    List.map_singleton, processRecord_copyPathToStart _ (holds_write _ _ p) hlen
      (Ebpf.one_le_length_resolvedPath hres) hp]

/-- A resolved path of 4095 bytes does not come back either: on the learning branch the record
    carries the first 4095 bytes the per-CPU buffer held before the event, what earlier events
    left there. -/
theorem processRecord_learning_4095 (env : Ebpf.HookEnv) (ctx : Ebpf.ExecCtx D M)
    (evt : Ebpf.ProcessEvt) {f : Ebpf.Path D M} {p : Bytes}
    (hT : ctx.cgTrackerId ≠ 0) (hP : env.cgToPolicy ctx.cgTrackerId = none)
    (hL : env.learningEnabled = true)
    (hw : ∀ d, (ctx.world.dName d).length < Ebpf.maxComponentLen) (hf : ctx.file = some f)
    (hres : Ebpf.resolvedPath ctx.world ctx.root (Ebpf.pathBudget env.hasIterNum) f = some p)
    (hp : p.length = 4095) :
    (Ebpf.enforceCgroupPolicy env ctx true evt).execve.map processRecord =
      [.sent ⟨ctx.cgTrackerId, read evt.path 0 4095, ""⟩] := by
  rw [Ebpf.execve_of_learning env ctx evt hT hP hL hw hf hres (by rw [hp]; decide),
    List.map_singleton, processRecord_copyPathToStart_4095 _ _ (by rw [hp]; rfl)]
  dsimp only
  -- the path itself lies at offset 4097, past the bytes the record carries
  rw [read_write_of_disjoint (Or.inl (by rw [hp]; decide))]
  rfl

/-- Fifteen directories of 255 `a` bytes and a file of 254, executed in a cgroup without a policy
    on a CPU whose buffer still starts with `/bin/sh` from an earlier exec. -/
theorem processRecord_learning_4095_chain :
    let name : Nat → Bytes := fun d =>
      if d = 16 then List.replicate 254 97 else List.replicate 255 97
    let ctx : Ebpf.ExecCtx Nat Unit := ⟨Ebpf.chainWorld name, ⟨0, ()⟩, some ⟨16, ()⟩, 7⟩
    let env : Ebpf.HookEnv := ⟨fun _ => none, fun _ => none, fun _ _ => none, true,
      Kernels.kernelVersion 6 1 0, true⟩
    let evt : Ebpf.ProcessEvt := ⟨0, 0, 0, write (fun _ => 0) 0 [47, 98, 105, 110, 47, 115, 104]⟩
    let p := Ebpf.pathString ((List.range 16).map fun i => name (i + 1))
    Ebpf.resolvedPath ctx.world ctx.root (Ebpf.pathBudget true) ⟨16, ()⟩ = some p ∧
      p.length = 4095 ∧
      (Ebpf.enforceCgroupPolicy env ctx true evt).execve.map processRecord =
        [.sent ⟨7, read evt.path 0 4095, ""⟩] := by
  intro name ctx env evt p
  have hres : Ebpf.resolvedPath ctx.world ctx.root (Ebpf.pathBudget true) ⟨16, ()⟩ = some p :=
    Ebpf.resolvedPath_chainWorld name (by omega) (by decide)
  have hlen : p.length = 4095 := by decide +kernel
  have hw : ∀ d, (ctx.world.dName d).length < Ebpf.maxComponentLen := by
    intro d
    show (if d = 16 then List.replicate 254 (97 : UInt8) else List.replicate 255 97).length < 256
    split <;> rw [List.length_replicate] <;> omega
  exact ⟨hres, hlen, processRecord_learning_4095 env ctx evt (by decide) rfl rfl hw rfl hres hlen⟩

/-- A path of 4096 bytes does not come back: sixteen directories of 255 `a` bytes, executed in
    a cgroup without a policy, reach the agent as `/` followed by 4095 zero bytes. -/
theorem processRecord_learning_truncates_4096 :
    let name : Bytes := List.replicate 255 97
    let ctx : Ebpf.ExecCtx Nat Unit := ⟨Ebpf.chainWorld fun _ => name, ⟨0, ()⟩, some ⟨16, ()⟩, 7⟩
    let env : Ebpf.HookEnv := ⟨fun _ => none, fun _ => none, fun _ _ => none, true,
      Kernels.kernelVersion 6 1 0, true⟩
    Ebpf.resolvedPath ctx.world ctx.root (Ebpf.pathBudget true) ⟨16, ()⟩ =
        some (Ebpf.pathString (List.replicate 16 name)) ∧
      (Ebpf.pathString (List.replicate 16 name)).length = 4096 ∧
      (Ebpf.enforceCgroupPolicy env ctx true ⟨0, 0, 0, fun _ => 0⟩).execve.map processRecord =
        [.sent ⟨7, 47 :: List.replicate 4095 0, ""⟩] := by
  dsimp only
  have hnames : (List.range 16).map (fun _ => (List.replicate 255 97 : Bytes)) =
      List.replicate 16 (List.replicate 255 97) := by
    rw [List.map_const', List.length_range]
  have hres : Ebpf.resolvedPath (Ebpf.chainWorld fun _ => (List.replicate 255 97 : Bytes))
      ⟨0, ()⟩ (Ebpf.pathBudget true) ⟨16, ()⟩ =
      some (Ebpf.pathString (List.replicate 16 (List.replicate 255 97))) := by
    rw [Ebpf.resolvedPath_chainWorld _ (by omega) (by decide), hnames]
  have hlen : (Ebpf.pathString (List.replicate 16 (List.replicate 255 (97 : UInt8)))).length =
      4096 := by
    rw [Ebpf.length_pathString, List.map_replicate, List.sum_replicate, List.length_replicate,
      smul_eq_mul]
  have htake : (Ebpf.pathString (List.replicate 16 (List.replicate 255 (97 : UInt8)))).take 1 =
      [47] := by
    decide +kernel
  refine ⟨hres, hlen, ?_⟩
  -- from here on only the path's length and first byte matter
  obtain ⟨p, hres, hlen, htake⟩ : ∃ p, Ebpf.resolvedPath
      (Ebpf.chainWorld fun _ => (List.replicate 255 97 : Bytes)) ⟨0, ()⟩ (Ebpf.pathBudget true)
      ⟨16, ()⟩ = some p ∧ p.length = 4096 ∧ p.take 1 = [47] := ⟨_, hres, hlen, htake⟩
  have hoff : Ebpf.maxPathLen * 2 - p.length = 4096 := by
    rw [hlen]
    rfl
  have hw : ∀ d, ((Ebpf.chainWorld fun _ => (List.replicate 255 97 : Bytes)).dName d).length <
      Ebpf.maxComponentLen := by
    intro d
    show (List.replicate 255 (97 : UInt8)).length < 256
    rw [List.length_replicate]
    omega
  rw [Ebpf.execve_of_learning _ _ _ (by decide) rfl rfl hw rfl hres (by rw [hlen]; decide),
    List.map_singleton, hoff,
    processRecord_copyPathToStart_4096 _ _ (holds_write _ _ _) (by omega) (by rw [hlen]; rfl),
    read_write_of_disjoint (Or.inl (by omega)), htake]
  -- what is left is the first byte of the path, padded
  have hpad : pad 4096 ([47] ++ read (fun _ => (0 : UInt8)) 1 7) = 47 :: List.replicate 4095 0 := by
    have hread : read (fun _ => (0 : UInt8)) 1 7 = List.replicate 7 0 := rfl
    rw [pad, hread, List.length_append, List.length_replicate, List.singleton_append,
      List.cons_append, List.replicate_append_replicate]
    rfl
  dsimp only
  rw [hpad]
  rfl

end RuntimeEnforcer.BpfManager
