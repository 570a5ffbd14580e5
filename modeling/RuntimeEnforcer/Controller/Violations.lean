import Mathlib
import RuntimeEnforcer.Lib.RingBuffer

/-
  The path of a violation record: `internal/violationbuf/buffer.go` on the agent,
  `ScrapeViolations` in `internal/grpcexporter/agent_observer.go`, and
  `getViolationsByPolicy` and `mergeViolations` in the controller's status sync.

  The agent's `Buffer` is a `RingBuffer` of `MaxBufferEntries` records, and `Drain` returns its
  `recent` records, newest first (`drain_fst`). With a clock that never goes back, what a
  drain returns is newest first (`newestFirst_recent_record`). The controller appends each
  node's records to the policy's list in the order it visits the nodes
  (`lookup_getViolationsByPolicy`). `mergeViolations` puts that list before the stored one and
  keeps the first `MaxViolationRecords`. When the scraped list is newest first and newer than
  the stored one, the result is the most recent records (`mostRecent_mergeViolations`). Records
  from two nodes, though, are concatenated and not interleaved.
-/

namespace RuntimeEnforcer.Controller

/-! ## The agent's buffer -/

/-- `violationbuf.ViolationRecord`, with `Timestamp` in nanoseconds. -/
structure ViolationRecord where
  timestamp : Nat
  policyName : String
  «namespace» : String
  podName : String
  containerName : String
  exePath : String
  nodeName : String
  action : String
  deriving DecidableEq, Repr, Inhabited

def maxBufferEntries : Nat := 10000

instance : NeZero maxBufferEntries := ⟨by decide⟩

/-- `violationbuf.Buffer`: the mutex makes each call one atomic step. Its `pos int64` is the
    ring's `Nat` position, which does not wrap. -/
abbrev Buffer := RingBuffer ViolationRecord maxBufferEntries

/-- `NewBuffer`: `MaxBufferEntries` zero records. -/
def newBuffer : Buffer := ⟨fun _ => default, 0⟩

/-- `Record`: the buffer after the write, and whether it overwrote the oldest record. -/
def Buffer.record (b : Buffer) (rec : ViolationRecord) : Buffer × Bool :=
  let dropped := decide (maxBufferEntries ≤ b.pos)
  (b.write rec, dropped)

/-- `Drain`: the buffered records newest first, and the buffer reset. -/
def Buffer.drain (b : Buffer) : List ViolationRecord × Buffer :=
  let n := min b.pos maxBufferEntries
  if n = 0 then ([], b)
  else (b.recent, { b with pos := 0 })

/-- `pb.ViolationRecord`, the record `ScrapeViolations` sends. -/
structure PbViolationRecord where
  timestamp : Nat
  podName : String
  containerName : String
  executablePath : String
  nodeName : String
  action : String
  policyName : String
  deriving DecidableEq, Repr

/-- The record of `ScrapeViolations`, whose `PolicyName` is `namespace/name`. -/
def ViolationRecord.toProto (rec : ViolationRecord) : PbViolationRecord :=
  ⟨rec.timestamp, rec.podName, rec.containerName, rec.exePath, rec.nodeName, rec.action,
    rec.namespace ++ "/" ++ rec.policyName⟩

/-- `ScrapeViolations`: drain the buffer and convert the records. -/
def scrapeViolations (b : Buffer) : List PbViolationRecord × Buffer :=
  ((b.drain.1).map ViolationRecord.toProto, b.drain.2)

theorem record_fst (b : Buffer) (rec : ViolationRecord) : (b.record rec).1 = b.write rec := rfl

@[simp] theorem record_fst_recent (b : Buffer) (rec : ViolationRecord) :
    (b.record rec).1.recent = (rec :: b.recent).take maxBufferEntries :=
  RingBuffer.recent_write b rec

theorem record_snd (b : Buffer) (rec : ViolationRecord) :
    (b.record rec).2 = decide (maxBufferEntries ≤ b.pos) := rfl

@[simp] theorem drain_fst (b : Buffer) : b.drain.1 = b.recent := by
  unfold Buffer.drain
  dsimp only
  split_ifs with h
  · have hpos : b.pos = 0 := by
      have : 0 < maxBufferEntries := by decide
      omega
    rw [RingBuffer.recent_of_pos_eq_zero hpos]
  · rfl

@[simp] theorem drain_snd_recent (b : Buffer) : b.drain.2.recent = [] := by
  unfold Buffer.drain
  dsimp only
  split_ifs with h
  · simp only [RingBuffer.length_recent, ← List.length_eq_zero_iff, h]
  · exact RingBuffer.recent_of_pos_eq_zero rfl

theorem drain_snd_pos (b : Buffer) : b.drain.2.pos = 0 := by
  unfold Buffer.drain
  dsimp only
  split_ifs with h
  · have : 0 < maxBufferEntries := by decide
    show b.pos = 0
    omega
  · rfl

@[simp] theorem scrapeViolations_fst (b : Buffer) :
    (scrapeViolations b).1 = b.recent.map ViolationRecord.toProto := by
  simp [scrapeViolations]

@[simp] theorem scrapeViolations_snd_recent (b : Buffer) : (scrapeViolations b).2.recent = [] :=
  drain_snd_recent b

/-! ## Record and Drain calls -/

/-- A call on the buffer. -/
inductive BufferCall where
  | record (rec : ViolationRecord)
  | drain
  deriving DecidableEq, Repr

/-- What a call returns: `Record`'s flag, or `Drain`'s records. -/
inductive BufferReply where
  | dropped (b : Bool)
  | drained (records : List ViolationRecord)
  deriving DecidableEq, Repr

/-- One call under the buffer's mutex: its reply and the buffer after it. -/
def Buffer.call (b : Buffer) : BufferCall → BufferReply × Buffer
  | .record rec => (.dropped (b.record rec).2, (b.record rec).1)
  | .drain => (.drained b.drain.1, b.drain.2)

/-- The replies to a sequence of calls. -/
def Buffer.calls (b : Buffer) : List BufferCall → List BufferReply
  | [] => []
  | c :: cs => (b.call c).1 :: (b.call c).2.calls cs

/-- What the buffer is for, over the records since the last drain, oldest first: `Record`
    says whether `MaxBufferEntries` of them were there already, and `Drain` returns the last
    `MaxBufferEntries` of them, newest first, and starts a new interval. -/
def queueCall (since : List ViolationRecord) : BufferCall → BufferReply × List ViolationRecord
  | .record rec => (.dropped (decide (maxBufferEntries ≤ since.length)), since ++ [rec])
  | .drain => (.drained (since.reverse.take maxBufferEntries), [])

def queueCalls (since : List ViolationRecord) : List BufferCall → List BufferReply
  | [] => []
  | c :: cs => (queueCall since c).1 :: queueCalls (queueCall since c).2 cs

/-- One call on a buffer that holds the records `since` answers as the queue does, and leaves
    the buffer holding the queue's next interval. -/
theorem call_holds {b : Buffer} {since : List ViolationRecord} (h : b.Holds since)
    (c : BufferCall) :
    (b.call c).1 = (queueCall since c).1 ∧ (b.call c).2.Holds (queueCall since c).2 := by
  cases c with
  | record rec =>
    refine ⟨?_, h.write rec⟩
    simp only [Buffer.call, queueCall, record_snd, h.1]
  | drain =>
    refine ⟨?_, ?_⟩
    · simp only [Buffer.call, queueCall, drain_fst, h.2]
    · have hreset := RingBuffer.holds_reset b.drain.2
      rwa [← drain_snd_pos b] at hreset

theorem calls_holds {b : Buffer} {since : List ViolationRecord} (h : b.Holds since)
    (cs : List BufferCall) : b.calls cs = queueCalls since cs := by
  induction cs generalizing b since with
  | nil => rfl
  | cons c cs ih =>
    obtain ⟨hreply, hnext⟩ := call_holds h c
    simp only [Buffer.calls, queueCalls, hreply, ih hnext]

/-- From `NewBuffer`, over any sequence of `Record` and `Drain` calls, every `Drain` returns
    the last `min k MaxBufferEntries` of the `k` records recorded since the previous drain,
    newest first, and every `Record` returns true exactly when `MaxBufferEntries` records had
    been recorded since the previous drain. -/
theorem newBuffer_calls (cs : List BufferCall) : newBuffer.calls cs = queueCalls [] cs :=
  calls_holds (RingBuffer.holds_reset newBuffer) cs

/-! ## Newest first -/

section Order

variable {β : Type}

/-- Each record is at least as recent as every record after it. -/
def NewestFirst (ts : β → Nat) (l : List β) : Prop :=
  l.Pairwise fun a b => ts b ≤ ts a

instance (ts : β → Nat) (l : List β) : Decidable (NewestFirst ts l) :=
  inferInstanceAs (Decidable (l.Pairwise _))

/-- `k` records that a newest-first arrangement of `all` starts with. -/
def MostRecent (ts : β → Nat) (k : Nat) (all result : List β) : Prop :=
  ∃ l, l.Perm all ∧ NewestFirst ts l ∧ result = l.take k

variable {ts : β → Nat}

theorem NewestFirst.take {l : List β} (h : NewestFirst ts l) (k : Nat) :
    NewestFirst ts (l.take k) :=
  List.Pairwise.sublist (List.take_sublist k l) h

theorem newestFirst_append {l₁ l₂ : List β} (h₁ : NewestFirst ts l₁) (h₂ : NewestFirst ts l₂)
    (h : ∀ a ∈ l₁, ∀ b ∈ l₂, ts b ≤ ts a) : NewestFirst ts (l₁ ++ l₂) :=
  List.pairwise_append.mpr ⟨h₁, h₂, h⟩

theorem MostRecent.newestFirst {k : Nat} {all result : List β} (h : MostRecent ts k all result) :
    NewestFirst ts result := by
  obtain ⟨l, -, hl, rfl⟩ := h
  exact hl.take k

end Order

/-- A record is appended to the buffer with a clock that never goes back, so every buffered
    record is at most as recent. -/
theorem newestFirst_recent_record {b : Buffer} {rec : ViolationRecord}
    (hb : NewestFirst ViolationRecord.timestamp b.recent)
    (hrec : ∀ r ∈ b.recent, r.timestamp ≤ rec.timestamp) :
    NewestFirst ViolationRecord.timestamp (b.record rec).1.recent := by
  rw [record_fst_recent]
  exact NewestFirst.take (List.pairwise_cons.mpr ⟨hrec, hb⟩) _

/-! ## The controller's side -/

/-- `v1alpha1.ViolationRecord`. -/
structure Violation where
  timestamp : Nat
  podName : String
  containerName : String
  executablePath : String
  nodeName : String
  action : String
  deriving DecidableEq, Repr

/-- The record `getViolationsByPolicy` builds from a scraped one. -/
def PbViolationRecord.toViolation (v : PbViolationRecord) : Violation :=
  ⟨v.timestamp, v.podName, v.containerName, v.executablePath, v.nodeName, v.action⟩

/-- The controller's lists of scraped records, by namespaced policy name. -/
abbrev ViolationsByPolicy := AList fun _ : String => List Violation

/-- `violationsByPolicy[namespacedName] = append(violationsByPolicy[namespacedName], rec)`. -/
def appendViolation (acc : ViolationsByPolicy) (v : PbViolationRecord) : ViolationsByPolicy :=
  acc.insert v.policyName ((acc.lookup v.policyName).getD [] ++ [v.toViolation])

/-- The loop over one node's scraped records. -/
def addNodeViolations (acc : ViolationsByPolicy) (pbViolations : List PbViolationRecord) :
    ViolationsByPolicy :=
  pbViolations.foldl appendViolation acc

/-- `getViolationsByPolicy`, over what each node's `ScrapeViolations` returned in the order the
    loop visits the nodes: `none` for a nil client or a failed call. -/
def getViolationsByPolicy (scraped : List (Option (List PbViolationRecord))) : ViolationsByPolicy :=
  scraped.foldl (fun acc r => (r.map (addNodeViolations acc)).getD acc) ∅

/-- A policy's scraped records: those of `vs` that name it, in order. -/
def recordsFor (k : String) (vs : List PbViolationRecord) : List Violation :=
  (vs.filter fun v => v.policyName = k).map PbViolationRecord.toViolation

/-- The list a policy gets, with `nil` for a policy with no record. -/
def ViolationsByPolicy.get (acc : ViolationsByPolicy) (k : String) : List Violation :=
  (acc.lookup k).getD []

theorem get_appendViolation (acc : ViolationsByPolicy) (v : PbViolationRecord) (k : String) :
    (appendViolation acc v).get k = acc.get k ++ recordsFor k [v] := by
  unfold appendViolation ViolationsByPolicy.get recordsFor
  by_cases hk : v.policyName = k
  · subst hk
    simp
  · simp [AList.lookup_insert_ne (Ne.symm hk), hk]

theorem get_addNodeViolations (acc : ViolationsByPolicy) (vs : List PbViolationRecord)
    (k : String) : (addNodeViolations acc vs).get k = acc.get k ++ recordsFor k vs := by
  induction vs generalizing acc with
  | nil => simp [addNodeViolations, recordsFor]
  | cons v vs ih =>
    have hsplit : recordsFor k (v :: vs) = recordsFor k [v] ++ recordsFor k vs := by
      by_cases hv : v.policyName = k <;> simp [recordsFor, hv]
    unfold addNodeViolations at ih ⊢
    rw [List.foldl_cons, ih, get_appendViolation, hsplit, List.append_assoc]

/-- The controller concatenates the nodes' records for a policy, node after node. -/
theorem lookup_getViolationsByPolicy (scraped : List (Option (List PbViolationRecord)))
    (k : String) :
    (getViolationsByPolicy scraped).get k = (scraped.filterMap id).flatMap (recordsFor k) := by
  suffices h : ∀ acc : ViolationsByPolicy,
      (scraped.foldl (fun acc r => (r.map (addNodeViolations acc)).getD acc) acc).get k =
        acc.get k ++ (scraped.filterMap id).flatMap (recordsFor k) by
    simpa [ViolationsByPolicy.get, getViolationsByPolicy] using h ∅
  induction scraped with
  | nil => simp
  | cons r scraped ih =>
    intro acc
    rw [List.foldl_cons, ih]
    cases r with
    | none => simp
    | some vs => simp [get_addNodeViolations]

def maxViolationRecords : Nat := 100

/-- `mergeViolations`: the scraped records before the stored ones, the first
    `MaxViolationRecords` kept. -/
def mergeViolations (existing scraped : List Violation) : List Violation :=
  let merged := scraped ++ existing
  if merged.length > maxViolationRecords then merged.take maxViolationRecords else merged

theorem mergeViolations_eq (existing scraped : List Violation) :
    mergeViolations existing scraped = (scraped ++ existing).take maxViolationRecords := by
  unfold mergeViolations
  dsimp only
  split_ifs with h
  · rfl
  · rw [List.take_of_length_le (by omega)]

/-- With a newest-first scraped list newer than a newest-first stored one, the merge keeps the
    most recent records. -/
theorem mostRecent_mergeViolations {existing scraped : List Violation}
    (he : NewestFirst Violation.timestamp existing) (hs : NewestFirst Violation.timestamp scraped)
    (hnew : ∀ a ∈ scraped, ∀ b ∈ existing, b.timestamp ≤ a.timestamp) :
    MostRecent Violation.timestamp maxViolationRecords (scraped ++ existing)
      (mergeViolations existing scraped) :=
  ⟨scraped ++ existing, List.Perm.refl _, newestFirst_append hs he hnew, mergeViolations_eq _ _⟩

end RuntimeEnforcer.Controller
