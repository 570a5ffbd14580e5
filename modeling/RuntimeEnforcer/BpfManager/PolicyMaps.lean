import RuntimeEnforcer.Ebpf.StringMaps

/-
  `internal/bpf/policy_values.go`, second half: the agent installs, replaces and removes a
  policy's eleven inner maps.

  The ebpf library and the kernel maps it talks to are not under `src/`. Each call into them
  either does what the kernel documents or returns an error and changes nothing (a map update
  is atomic); `Faults` says which calls fail, so every theorem that quantifies over `Faults`
  holds whatever the library returns. A hash map created with `MaxEntries = n` refuses an
  `n + 1`-th distinct key: that refusal is modelled, not left to `Faults`.

  `generateBPFMaps` fills a fresh inner map per non-empty bucket and stores it with
  `UpdateNoExist`, retried with `0` (any) when the entry exists; `replaceBPFMaps` deletes the
  entry of every empty bucket and swaps the others with `UpdateAny`. A Go range over the
  `[11]map` array is in index order, modelled by `generateLoop`/`replaceLoop` walking the
  list of buckets with their index.

  The state is `PolStrMaps`, the eleven outer maps (`Manager.policyStringMaps`); the kernel
  version is a parameter (`kernels.GetCurrKernelVersion()`), and `isPre5_9` is derived from it
  as `isKernelPre5_9` does.
-/

namespace RuntimeEnforcer.BpfManager

open Buffer Kernels Ebpf

/-- For kernels before 5.9 inner maps have this fixed size. -/
def fixedMaxEntriesPre5_9 : Nat := 500

/-- Which ebpf calls fail, for each bucket index. -/
structure Faults where
  /-- `ebpf.NewMap(innerSpec)` -/
  newMap : Nat → Bool
  /-- `inner.Update(val, one, 0)` for the key `val` -/
  innerUpdate : Nat → Bytes → Bool
  /-- `m.policyStringMaps[index].Update(policyID, inner, _)`, for a reason other than the
      entry existing -/
  outerUpdate : Nat → Bool
  /-- `m.policyStringMaps[index].Delete(policyID)`, for a reason other than a missing key -/
  outerDelete : Nat → Bool

/-- No ebpf call fails. -/
def Faults.none : Faults := ⟨fun _ => false, fun _ _ => false, fun _ => false, fun _ => false⟩

/-- The errors of the map operations, with the data their messages print. -/
inductive MapsError where
  /-- an error of `convertValuesToBPFStringMaps`, returned as it is -/
  | put (e : PutError)
  /-- `"failed to create inner_map: %w"` -/
  | createInnerMap
  /-- `"failed to insert value into p_%d_str_map_%d: %w"` -/
  | insertValue (policyID : UInt64) (index : Nat)
  /-- `"failed to insert inner policy (id=%d) map: %w"` -/
  | insertInnerPolicy (policyID : UInt64)
  /-- `"failed to update inner policy (id=%d) map: %w"` -/
  | updateInnerPolicy (policyID : UInt64)
  /-- `"failed to remove policy (id=%d) from map pol_str_maps_%d: %w"` -/
  | removePolicy (policyID : UInt64) (index : Nat)
  deriving DecidableEq, Repr

/-- `m.isKernelPre5_9()`. -/
def isKernelPre5_9 (currKernelVer : Int) : Bool :=
  versionIsLowerThan currKernelVer "5.9"

/-- `innerSpec.MaxEntries`: the bucket's size, or 500 before 5.9. -/
def innerMaxEntries (isPre5_9 : Bool) (subMap : List Bytes) : Nat :=
  if isPre5_9 then fixedMaxEntriesPre5_9 else subMap.length

/-- The `for rawVal := range subMap` loop: insert `rawVal[:mapKeySize]` into the new inner map
    `inner`, which holds at most `maxEntries` keys. -/
def fillInner (f : Faults) (policyID : UInt64) (index mapKeySize maxEntries : Nat) :
    List Bytes → List Bytes → Except MapsError (List Bytes)
  | inner, [] => .ok inner
  | inner, rawVal :: rest =>
    let val := rawVal.take mapKeySize
    if f.innerUpdate index val ∨ (!inner.contains val ∧ maxEntries ≤ inner.length) then
      .error (.insertValue policyID index)
    else fillInner f policyID index mapKeySize maxEntries (inner.insert val) rest

/-- The part `generateInnerBPFMaps` and `replaceInnerBPFMap` share: create the inner map of
    bucket `index` and fill it. -/
def buildInner (f : Faults) (policyID : UInt64) (index : Nat) (isPre5_9 : Bool)
    (subMap : List Bytes) : Except MapsError (List Bytes) :=
  if f.newMap index then .error .createInnerMap
  else fillInner f policyID index (stringMapsSizes.getD index 0) (innerMaxEntries isPre5_9 subMap)
    [] subMap

/-- `generateInnerBPFMaps` (policy_values.go 164-210). The `UpdateNoExist` store and its
    retry with flags `0` on `ErrKeyExist` both end with the new inner map in place. -/
def generateInnerBPFMaps (f : Faults) (st : PolStrMaps) (policyID : UInt64) (index : Nat)
    (isPre5_9 : Bool) (subMap : List Bytes) : PolStrMaps × Except MapsError Unit :=
  match buildInner f policyID index isPre5_9 subMap with
  | .error e => (st, .error e)
  | .ok inner =>
    if f.outerUpdate index then (st, .error (.insertInnerPolicy policyID))
    else (st.set index policyID inner, .ok ())

/-- The `for i, subMap := range subMaps` loop of `generateBPFMaps`. -/
def generateLoop (f : Faults) (policyID : UInt64) (isPre5_9 : Bool) :
    Nat → List (List Bytes) → PolStrMaps → PolStrMaps × Except MapsError Unit
  | _, [], st => (st, .ok ())
  | i, subMap :: rest, st =>
    if subMap.isEmpty then generateLoop f policyID isPre5_9 (i + 1) rest st
    else match generateInnerBPFMaps f st policyID i isPre5_9 subMap with
      | (st', .ok ()) => generateLoop f policyID isPre5_9 (i + 1) rest st'
      | (st', .error e) => (st', .error e)

/-- `generateBPFMaps` (policy_values.go 212-235). -/
def generateBPFMaps (f : Faults) (currKernelVer : Int) (st : PolStrMaps) (policyID : UInt64)
    (values : List Bytes) : PolStrMaps × Except MapsError Unit :=
  match convertValuesToBPFStringMaps currKernelVer values with
  | .error e => (st, .error (.put e))
  | .ok subMaps => generateLoop f policyID (isKernelPre5_9 currKernelVer) 0 subMaps st

/-- `m.policyStringMaps[i].Delete(policyID)`, where a missing key (`ErrKeyNotExist`) is not
    an error. -/
def deleteInner (f : Faults) (st : PolStrMaps) (i : Nat) (policyID : UInt64) :
    PolStrMaps × Except MapsError Unit :=
  if st i policyID = none then (st, .ok ())
  else if f.outerDelete i then (st, .error (.removePolicy policyID i))
  else (st.erase i policyID, .ok ())

/-- The loop of `removeBPFMaps` over the outer maps `i, i + 1, …, 10`. -/
def removeLoop (f : Faults) (policyID : UInt64) : Nat → Nat → PolStrMaps →
    PolStrMaps × Except MapsError Unit
  | 0, _, st => (st, .ok ())
  | n + 1, i, st =>
    match deleteInner f st i policyID with
    | (st', .ok ()) => removeLoop f policyID n (i + 1) st'
    | (st', .error e) => (st', .error e)

/-- `removeBPFMaps` (policy_values.go 237-244). -/
def removeBPFMaps (f : Faults) (st : PolStrMaps) (policyID : UInt64) :
    PolStrMaps × Except MapsError Unit :=
  removeLoop f policyID stringMapsNumSubMaps 0 st

/-- `replaceInnerBPFMap` (policy_values.go 271-311). -/
def replaceInnerBPFMap (f : Faults) (st : PolStrMaps) (policyID : UInt64) (index : Nat)
    (isPre5_9 : Bool) (subMap : List Bytes) : PolStrMaps × Except MapsError Unit :=
  match buildInner f policyID index isPre5_9 subMap with
  | .error e => (st, .error e)
  | .ok inner =>
    if f.outerUpdate index then (st, .error (.updateInnerPolicy policyID))
    else (st.set index policyID inner, .ok ())

/-- The `for i, subMap := range subMaps` loop of `replaceBPFMaps`. -/
def replaceLoop (f : Faults) (policyID : UInt64) (isPre5_9 : Bool) :
    Nat → List (List Bytes) → PolStrMaps → PolStrMaps × Except MapsError Unit
  | _, [], st => (st, .ok ())
  | i, subMap :: rest, st =>
    -- an empty bucket loses its old inner map; the others get a new one, swapped atomically
    let step := if subMap.isEmpty then deleteInner f st i policyID
      else replaceInnerBPFMap f st policyID i isPre5_9 subMap
    match step with
    | (st', .ok ()) => replaceLoop f policyID isPre5_9 (i + 1) rest st'
    | (st', .error e) => (st', .error e)

/-- `replaceBPFMaps` (policy_values.go 246-269). -/
def replaceBPFMaps (f : Faults) (currKernelVer : Int) (st : PolStrMaps) (policyID : UInt64)
    (values : List Bytes) : PolStrMaps × Except MapsError Unit :=
  match convertValuesToBPFStringMaps currKernelVer values with
  | .error e => (st, .error (.put e))
  | .ok subMaps => replaceLoop f policyID (isKernelPre5_9 currKernelVer) 0 subMaps st

end RuntimeEnforcer.BpfManager

namespace RuntimeEnforcer.BpfManager

open Buffer Kernels Ebpf

/-! ## What one bucket leaves behind -/

/-- The entry `e` of an outer map holds the inner map built from `bucket` with keys of size
    `size`: no entry for an empty bucket, otherwise exactly the keys `rawVal[:size]`. -/
def EntryHolds (e : Option (List Bytes)) (bucket : List Bytes) (size : Nat) : Prop :=
  (e = none ↔ bucket = []) ∧
    ∀ inner, e = some inner → ∀ key, key ∈ inner ↔ ∃ raw ∈ bucket, key = raw.take size

theorem mem_fillInner {f : Faults} {policyID : UInt64} {index size maxEntries : Nat} :
    ∀ (l inner out : List Bytes), fillInner f policyID index size maxEntries inner l = .ok out →
      ∀ key, key ∈ out ↔ key ∈ inner ∨ ∃ raw ∈ l, key = raw.take size
  | [], inner, out, h, key => by
    cases h
    simp
  | raw :: l, inner, out, h, key => by
    unfold fillInner at h
    dsimp only at h
    split_ifs at h
    rw [mem_fillInner l _ out h key, List.mem_insert_iff]
    simp only [List.mem_cons, exists_eq_or_imp]
    tauto

/-- A fill that succeeds when some library calls may fail also succeeds when none does: the
    only other refusal, a full map, does not depend on the faults. -/
theorem fillInner_none_of_ok {f : Faults} {policyID : UInt64} {index size maxEntries : Nat} :
    ∀ (l inner out : List Bytes), fillInner f policyID index size maxEntries inner l = .ok out →
      fillInner Faults.none policyID index size maxEntries inner l = .ok out
  | [], inner, out, h => h
  | raw :: l, inner, out, h => by
    unfold fillInner at h ⊢
    dsimp only at h ⊢
    split_ifs at h with hf
    rw [if_neg (by simp only [Faults.none]; tauto)]
    exact fillInner_none_of_ok l _ out h

theorem buildInner_none_of_ok {f : Faults} {policyID : UInt64} {index : Nat} {isPre5_9 : Bool}
    {subMap inner : List Bytes} (h : buildInner f policyID index isPre5_9 subMap = .ok inner) :
    buildInner Faults.none policyID index isPre5_9 subMap = .ok inner := by
  unfold buildInner at h ⊢
  split_ifs at h
  exact fillInner_none_of_ok _ _ _ h

theorem entryHolds_set {st : PolStrMaps} {policyID : UInt64} {index : Nat} {isPre5_9 : Bool}
    {f : Faults} {subMap inner : List Bytes} (hne : subMap ≠ [])
    (h : buildInner f policyID index isPre5_9 subMap = .ok inner) :
    EntryHolds (st.set index policyID inner index policyID) subMap (stringMapsSizes.getD index 0) := by
  unfold buildInner at h
  split_ifs at h
  refine ⟨by simpa using hne.symm, ?_⟩
  intro inner' he key
  rw [PolStrMaps.set_self, Option.some.injEq] at he
  subst he
  rw [mem_fillInner _ _ _ h key]
  simp

/-- One bucket of `replaceBPFMaps` or `generateBPFMaps`: on success the entry of map `i`
    holds the bucket, on failure nothing changed, and no other entry ever changes. -/
structure BucketStep (st st' : PolStrMaps) (i : Nat) (policyID : UInt64) (bucket : List Bytes)
    (r : Except MapsError Unit) : Prop where
  frame : ∀ j p, j ≠ i ∨ p ≠ policyID → st' j p = st j p
  failed : ∀ e, r = .error e → st' = st
  done : r = .ok () → EntryHolds (st' i policyID) bucket (stringMapsSizes.getD i 0)

theorem bucketStep_deleteInner (f : Faults) (st : PolStrMaps) (i : Nat) (policyID : UInt64) :
    BucketStep st (deleteInner f st i policyID).1 i policyID [] (deleteInner f st i policyID).2 := by
  unfold deleteInner
  split_ifs with h0 h1
  · exact ⟨fun _ _ _ => rfl, fun _ _ => rfl, fun _ => ⟨(by simpa using h0), (by simp [h0])⟩⟩
  · exact ⟨fun _ _ _ => rfl, fun _ _ => rfl, fun h => (by cases h)⟩
  · refine ⟨fun j p h => PolStrMaps.erase_of_ne st h, fun e h => (by cases h), fun _ => ?_⟩
    exact ⟨(by simp), (by simp)⟩

theorem bucketStep_replaceInnerBPFMap (f : Faults) (st : PolStrMaps) (policyID : UInt64)
    (i : Nat) (isPre5_9 : Bool) {subMap : List Bytes} (hne : subMap ≠ []) :
    BucketStep st (replaceInnerBPFMap f st policyID i isPre5_9 subMap).1 i policyID subMap
      (replaceInnerBPFMap f st policyID i isPre5_9 subMap).2 := by
  unfold replaceInnerBPFMap
  split
  · exact ⟨fun _ _ _ => rfl, fun _ _ => rfl, fun h => (by cases h)⟩
  · rename_i inner hb
    split_ifs
    · exact ⟨fun _ _ _ => rfl, fun _ _ => rfl, fun h => (by cases h)⟩
    · exact ⟨fun j p h => PolStrMaps.set_of_ne st inner h, fun e h => (by cases h),
        fun _ => entryHolds_set hne hb⟩

theorem bucketStep_generateInnerBPFMaps (f : Faults) (st : PolStrMaps) (policyID : UInt64)
    (i : Nat) (isPre5_9 : Bool) {subMap : List Bytes} (hne : subMap ≠ []) :
    BucketStep st (generateInnerBPFMaps f st policyID i isPre5_9 subMap).1 i policyID subMap
      (generateInnerBPFMaps f st policyID i isPre5_9 subMap).2 := by
  unfold generateInnerBPFMaps
  split
  · exact ⟨fun _ _ _ => rfl, fun _ _ => rfl, fun h => (by cases h)⟩
  · rename_i inner hb
    split_ifs
    · exact ⟨fun _ _ _ => rfl, fun _ _ => rfl, fun h => (by cases h)⟩
    · exact ⟨fun j p h => PolStrMaps.set_of_ne st inner h, fun e h => (by cases h),
        fun _ => entryHolds_set hne hb⟩

/-! ## The loops: buckets done so far, and the rest untouched -/

/-- The state after the first `j` buckets of a run that started from `st0`: policy
    `policyID`'s entries below `j` hold their bucket, those from `j` on are as in `st0`, and
    no other policy's entries changed. -/
structure Mixed (st0 st : PolStrMaps) (policyID : UInt64) (bucket : Nat → List Bytes)
    (j : Nat) : Prop where
  below : ∀ b, b < j → EntryHolds (st b policyID) (bucket b) (stringMapsSizes.getD b 0)
  above : ∀ b, j ≤ b → st b policyID = st0 b policyID
  frame : ∀ b p, p ≠ policyID → st b p = st0 b p

theorem mixed_zero (st0 : PolStrMaps) (policyID : UInt64) (bucket : Nat → List Bytes) :
    Mixed st0 st0 policyID bucket 0 :=
  ⟨fun _ h => absurd h (Nat.not_lt_zero _), fun _ _ => rfl, fun _ _ _ => rfl⟩

/-- A successful bucket step moves the boundary of `Mixed` by one. -/
theorem Mixed.step {st0 st st1 : PolStrMaps} {policyID : UInt64} {bucket : Nat → List Bytes}
    {i : Nat} (h : Mixed st0 st policyID bucket i) (hs : BucketStep st st1 i policyID (bucket i) (.ok ())) :
    Mixed st0 st1 policyID bucket (i + 1) := by
  refine ⟨fun b hb => ?_, fun b hb => ?_, fun b p hp => ?_⟩
  · rcases Nat.lt_succ_iff_lt_or_eq.mp hb with hb | rfl
    · rw [hs.frame b policyID (Or.inl (by omega))]
      exact h.below b hb
    · exact hs.done rfl
  · rw [hs.frame b policyID (Or.inl (by omega))]
    exact h.above b (by omega)
  · rw [hs.frame b p (Or.inr hp)]
    exact h.frame b p hp

/-- Run invariant of `replaceBPFMaps`'s loop: wherever it stops, and whatever the library
    returned, the state is `Mixed` at the number of buckets done; on success all are done. -/
theorem replaceLoop_mixed (f : Faults) (policyID : UInt64) (isPre5_9 : Bool) (st0 : PolStrMaps)
    (bucket : Nat → List Bytes) :
    ∀ (rest : List (List Bytes)) (i : Nat) (st : PolStrMaps),
      (∀ b, b < rest.length → rest.getD b [] = bucket (i + b)) →
      Mixed st0 st policyID bucket i →
      ∃ j, i ≤ j ∧ j ≤ i + rest.length ∧
        Mixed st0 (replaceLoop f policyID isPre5_9 i rest st).1 policyID bucket j ∧
        ((replaceLoop f policyID isPre5_9 i rest st).2 = .ok () → j = i + rest.length)
  | [], i, st, _, h => ⟨i, le_refl _, by simp, h, fun _ => by simp⟩
  | subMap :: rest, i, st, hb, h => by
    have hsub : subMap = bucket i := by simpa using hb 0 (by simp)
    -- the step of this bucket, whichever of its two branches the bucket takes
    have hstep : BucketStep st (if subMap.isEmpty then deleteInner f st i policyID
        else replaceInnerBPFMap f st policyID i isPre5_9 subMap).1 i policyID (bucket i)
        (if subMap.isEmpty then deleteInner f st i policyID
          else replaceInnerBPFMap f st policyID i isPre5_9 subMap).2 := by
      rw [← hsub]
      split_ifs with he
      · rw [List.isEmpty_iff.mp he]
        exact bucketStep_deleteInner f st i policyID
      · exact bucketStep_replaceInnerBPFMap f st policyID i isPre5_9
          (fun hn => he (List.isEmpty_iff.mpr hn))
    simp only [replaceLoop]
    generalize (if subMap.isEmpty then deleteInner f st i policyID
      else replaceInnerBPFMap f st policyID i isPre5_9 subMap) = step at hstep ⊢
    obtain ⟨st1, r⟩ := step
    cases r with
    | error e =>
      have := hstep.failed e rfl
      subst this
      exact ⟨i, le_refl _, by omega, h, fun hr => by cases hr⟩
    | ok u =>
      have h1 := h.step hstep
      obtain ⟨j, hj1, hj2, hj3, hj4⟩ := replaceLoop_mixed f policyID isPre5_9 st0 bucket rest (i + 1)
        st1 (fun b hb' => by simpa [Nat.add_assoc, Nat.add_comm 1 b] using hb (b + 1) (by simpa using hb'))
        h1
      refine ⟨j, by omega, by simp only [List.length_cons]; omega, hj3, fun hr => ?_⟩
      simp only [List.length_cons]
      have := hj4 hr
      omega

/-- Run invariant of `generateBPFMaps`'s loop, from a state where the policy has no inner
    maps: an empty bucket is skipped and its entry stays empty. -/
theorem generateLoop_mixed (f : Faults) (policyID : UInt64) (isPre5_9 : Bool) (st0 : PolStrMaps)
    (h0 : ∀ b, st0 b policyID = none) (bucket : Nat → List Bytes) :
    ∀ (rest : List (List Bytes)) (i : Nat) (st : PolStrMaps),
      (∀ b, b < rest.length → rest.getD b [] = bucket (i + b)) →
      Mixed st0 st policyID bucket i →
      ∃ j, i ≤ j ∧ j ≤ i + rest.length ∧
        Mixed st0 (generateLoop f policyID isPre5_9 i rest st).1 policyID bucket j ∧
        ((generateLoop f policyID isPre5_9 i rest st).2 = .ok () → j = i + rest.length)
  | [], i, st, _, h => ⟨i, le_refl _, by simp, h, fun _ => by simp⟩
  | subMap :: rest, i, st, hb, h => by
    have hsub : subMap = bucket i := by simpa using hb 0 (by simp)
    have hb' : ∀ b, b < rest.length → rest.getD b [] = bucket (i + 1 + b) := fun b hb' => by
      simpa [Nat.add_assoc, Nat.add_comm 1 b] using hb (b + 1) (by simpa using hb')
    simp only [generateLoop]
    split_ifs with he
    · -- an empty bucket: nothing is written, and its entry was empty from the start
      have hs : BucketStep st st i policyID (bucket i) (.ok ()) := by
        refine ⟨fun _ _ _ => rfl, fun _ h => (by cases h), fun _ => ⟨?_, ?_⟩⟩
        · rw [h.above i (le_refl _), h0 i, ← hsub, List.isEmpty_iff.mp he]
          simp
        · intro inner hi
          rw [h.above i (le_refl _), h0 i] at hi
          cases hi
      obtain ⟨j, hj1, hj2, hj3, hj4⟩ :=
        generateLoop_mixed f policyID isPre5_9 st0 h0 bucket rest (i + 1) st hb' (h.step hs)
      refine ⟨j, by omega, by simp only [List.length_cons]; omega, hj3, fun hr => ?_⟩
      simp only [List.length_cons]
      have := hj4 hr
      omega
    · have hstep := bucketStep_generateInnerBPFMaps f st policyID i isPre5_9
        (fun hn => he (List.isEmpty_iff.mpr hn))
      generalize generateInnerBPFMaps f st policyID i isPre5_9 subMap = step at hstep ⊢
      rw [hsub] at hstep
      obtain ⟨st1, r⟩ := step
      cases r with
      | error e =>
        have := hstep.failed e rfl
        subst this
        exact ⟨i, le_refl _, by omega, h, fun hr => by cases hr⟩
      | ok u =>
        obtain ⟨j, hj1, hj2, hj3, hj4⟩ :=
          generateLoop_mixed f policyID isPre5_9 st0 h0 bucket rest (i + 1) st1 hb' (h.step hstep)
        refine ⟨j, by omega, by simp only [List.length_cons]; omega, hj3, fun hr => ?_⟩
        simp only [List.length_cons]
        have := hj4 hr
        omega

/-! ## What a policy's eleven entries hold -/

/-- Policy `policyID`'s inner maps hold `values` as `generateBPFMaps` lays them out: map `i`
    has an inner map exactly when some value goes to bucket `i`, and its keys are those
    values padded with zeros to the map's key size. -/
def Installs (st : PolStrMaps) (policyID : UInt64) (values : List Bytes) : Prop :=
  ∀ i, i < stringMapsNumSubMaps →
    (st i policyID = none ↔ ∀ v ∈ values, stringIdx v.length ≠ i) ∧
    ∀ inner, st i policyID = some inner → ∀ key, key ∈ inner ↔
      ∃ v ∈ values, stringIdx v.length = i ∧ key = pad (stringMapsSizes.getD i 0) v

/-- `v` is allowed for `policyID` in `st`: the inner map of its bucket holds `v` padded to
    `stringPaddedLen`. -/
def Present (st : PolStrMaps) (policyID : UInt64) (v : Bytes) : Prop :=
  ∃ inner, st (stringIdx v.length) policyID = some inner ∧
    pad (stringPaddedLen v.length) v ∈ inner

/-- The stored `[MaxStringMapsSize]byte` cut to its map's key size is the value padded to
    that size: `rawVal[:mapKeySize]` loses only padding. -/
theorem take_pad_bucket {v : Bytes} (h1 : 1 ≤ v.length) (h2 : v.length ≤ maxStringMapsSize) :
    (pad maxStringMapsSize v).take (stringMapsSizes.getD (stringIdx v.length) 0) =
      pad (stringMapsSizes.getD (stringIdx v.length) 0) v := by
  have hmem : maxStringMapsSize ∈ stringMapsSizes := by decide
  rw [← stringPaddedLen_eq h1 h2]
  exact take_pad (le_stringPaddedLen h2) (stringPaddedLen_le_of_mem hmem h2)

theorem bounds_of_accepted {currKernelVer : Int} {v : Bytes} (h : Accepted currKernelVer v) :
    1 ≤ v.length ∧ v.length ≤ maxStringMapsSize :=
  ⟨h.1, h.2.trans (maxValueLen_le currKernelVer)⟩

theorem present_of_installs {st : PolStrMaps} {policyID : UInt64} {values : List Bytes}
    (h : Installs st policyID values) {v : Bytes} (hv : v ∈ values) (h1 : 1 ≤ v.length)
    (h2 : v.length ≤ maxStringMapsSize) : Present st policyID v := by
  obtain ⟨hnone, hkeys⟩ := h _ (stringIdx_lt v.length)
  obtain ⟨inner, he⟩ := Option.ne_none_iff_exists'.mp (fun hn => hnone.mp hn v hv rfl)
  refine ⟨inner, he, ?_⟩
  rw [stringPaddedLen_eq h1 h2, hkeys inner he]
  exact ⟨v, hv, rfl, rfl⟩

/-- All eleven buckets of `convertValuesToBPFStringMaps`'s result done: the entries hold the
    values. -/
theorem installs_of_mixed {currKernelVer : Int} {values : List Bytes}
    {subMaps : SelectorStringMaps}
    (hc : convertValuesToBPFStringMaps currKernelVer values = .ok subMaps)
    {st0 st : PolStrMaps} {policyID : UInt64}
    (h : Mixed st0 st policyID (fun b => subMaps.getD b []) stringMapsNumSubMaps) :
    Installs st policyID values := by
  obtain ⟨hacc, -, hmem⟩ := mem_convertValuesToBPFStringMaps hc
  intro i hi
  obtain ⟨hnone, hkeys⟩ := h.below i hi
  refine ⟨?_, fun inner he key => ?_⟩
  · rw [hnone, List.eq_nil_iff_forall_not_mem]
    simp only [hmem]
    constructor
    · rintro hno v hv rfl
      exact hno _ ⟨v, hv, rfl, rfl⟩
    · rintro hno key ⟨v, hv, hi', rfl⟩
      exact hno v hv hi'
  · rw [hkeys inner he key]
    constructor
    · rintro ⟨raw, hraw, rfl⟩
      obtain ⟨v, hv, rfl, rfl⟩ := (hmem _ raw).mp hraw
      obtain ⟨h1, h2⟩ := bounds_of_accepted (hacc v hv)
      exact ⟨v, hv, rfl, take_pad_bucket h1 h2⟩
    · rintro ⟨v, hv, rfl, rfl⟩
      obtain ⟨h1, h2⟩ := bounds_of_accepted (hacc v hv)
      exact ⟨pad maxStringMapsSize v, (hmem _ _).mpr ⟨v, hv, rfl, rfl⟩,
        (take_pad_bucket h1 h2).symm⟩

/-- In a state between an install of `oldValues` and one of `newValues`, every value of both
    is present: its bucket is either done, and then holds the new values, or not yet touched,
    and then holds the old ones. -/
theorem present_of_mixed {currKernelVer : Int} {oldValues newValues : List Bytes}
    {subMaps : SelectorStringMaps} {st0 st : PolStrMaps} {policyID : UInt64} {j : Nat}
    (hO : Installs st0 policyID oldValues)
    (hN : convertValuesToBPFStringMaps currKernelVer newValues = .ok subMaps)
    (h : Mixed st0 st policyID (fun b => subMaps.getD b []) j)
    {v : Bytes} (hvO : v ∈ oldValues) (hvN : v ∈ newValues) : Present st policyID v := by
  obtain ⟨hacc, -, hmem⟩ := mem_convertValuesToBPFStringMaps hN
  obtain ⟨h1, h2⟩ := bounds_of_accepted (hacc v hvN)
  by_cases hb : stringIdx v.length < j
  · -- the bucket is done: the new inner map holds the key
    obtain ⟨hnone, hkeys⟩ := h.below _ hb
    have hin : pad maxStringMapsSize v ∈ subMaps.getD (stringIdx v.length) [] :=
      (hmem _ _).mpr ⟨v, hvN, rfl, rfl⟩
    obtain ⟨inner, he⟩ := Option.ne_none_iff_exists'.mp
      (fun hn => List.ne_nil_of_mem hin (hnone.mp hn))
    refine ⟨inner, he, ?_⟩
    rw [hkeys inner he, stringPaddedLen_eq h1 h2]
    exact ⟨_, hin, (take_pad_bucket h1 h2).symm⟩
  · -- the bucket is not reached yet: the old inner map is still there
    unfold Present
    rw [h.above _ (by omega)]
    exact present_of_installs hO hvO h1 h2

/-- The first `k` buckets of a list, read as a function of the bucket index. -/
theorem getD_take_buckets (subMaps : SelectorStringMaps) (k : Nat) :
    ∀ b, b < (subMaps.take k).length → (subMaps.take k).getD b [] = subMaps.getD b [] := by
  intro b hb
  simp only [List.length_take] at hb
  simp only [List.getD_eq_getElem?_getD, List.getElem?_take, if_pos (show b < k by omega)]

/-- `generateBPFMaps` installs its values on success, from a state where the policy has no
    inner maps, whatever the library does. -/
theorem generateBPFMaps_installs (f : Faults) (currKernelVer : Int) (st : PolStrMaps)
    (policyID : UInt64) (values : List Bytes) (h0 : ∀ i, st i policyID = none)
    (h : (generateBPFMaps f currKernelVer st policyID values).2 = .ok ()) :
    Installs (generateBPFMaps f currKernelVer st policyID values).1 policyID values := by
  unfold generateBPFMaps at h ⊢
  split at h
  · cases h
  · rename_i subMaps hc
    obtain ⟨-, hlen, -⟩ := mem_convertValuesToBPFStringMaps hc
    obtain ⟨j, -, -, hm, hok⟩ := generateLoop_mixed f policyID (isKernelPre5_9 currKernelVer) st h0
      (fun b => subMaps.getD b []) subMaps 0 st (fun b _ => by rw [Nat.zero_add]) (mixed_zero _ _ _)
    rw [hok h, Nat.zero_add, hlen] at hm
    exact installs_of_mixed hc hm

/-- `replaceBPFMaps` installs its values on success, whatever the policy held before. -/
theorem replaceBPFMaps_installs (f : Faults) (currKernelVer : Int) (st : PolStrMaps)
    (policyID : UInt64) (values : List Bytes)
    (h : (replaceBPFMaps f currKernelVer st policyID values).2 = .ok ()) :
    Installs (replaceBPFMaps f currKernelVer st policyID values).1 policyID values := by
  unfold replaceBPFMaps at h ⊢
  split at h
  · cases h
  · rename_i subMaps hc
    obtain ⟨-, hlen, -⟩ := mem_convertValuesToBPFStringMaps hc
    obtain ⟨j, -, -, hm, hok⟩ := replaceLoop_mixed f policyID (isKernelPre5_9 currKernelVer) st
      (fun b => subMaps.getD b []) subMaps 0 st (fun b _ => by rw [Nat.zero_add]) (mixed_zero _ _ _)
    rw [hok h, Nat.zero_add, hlen] at hm
    exact installs_of_mixed hc hm

/-- A bucket that `replaceInnerBPFMap` could build with some library calls failing is built
    by `generateInnerBPFMaps` when none fails. -/
theorem generateInnerBPFMaps_none_of_replace {f : Faults} {st : PolStrMaps} {policyID : UInt64}
    {i : Nat} {isPre5_9 : Bool} {subMap : List Bytes}
    (h : (replaceInnerBPFMap f st policyID i isPre5_9 subMap).2 = .ok ()) (st' : PolStrMaps) :
    (generateInnerBPFMaps Faults.none st' policyID i isPre5_9 subMap).2 = .ok () := by
  unfold replaceInnerBPFMap at h
  unfold generateInnerBPFMaps
  split at h
  · cases h
  · rename_i inner hb
    rw [buildInner_none_of_ok hb]
    rfl

/-- A successful replacement means a fresh install of the same buckets, with no library call
    failing, succeeds too: both fill each inner map with the same capacity. -/
theorem generateLoop_ok_of_replaceLoop_ok {f : Faults} {policyID : UInt64} {isPre5_9 : Bool} :
    ∀ (rest : List (List Bytes)) (i : Nat) (st st' : PolStrMaps),
      (replaceLoop f policyID isPre5_9 i rest st).2 = .ok () →
      (generateLoop Faults.none policyID isPre5_9 i rest st').2 = .ok ()
  | [], _, _, _, _ => rfl
  | subMap :: rest, i, st, st', h => by
    simp only [replaceLoop] at h
    simp only [generateLoop]
    split_ifs at h ⊢ with he
    · -- an empty bucket: the fresh install skips it
      rcases hs : deleteInner f st i policyID with ⟨st1, r⟩
      rw [hs] at h
      cases r with
      | error e => cases h
      | ok u => exact generateLoop_ok_of_replaceLoop_ok rest (i + 1) st1 st' h
    · rcases hs : replaceInnerBPFMap f st policyID i isPre5_9 subMap with ⟨st1, r⟩
      rw [hs] at h
      cases r with
      | error e => cases h
      | ok u =>
        have hg := generateInnerBPFMaps_none_of_replace (by rw [hs]) st'
        rcases hg' : generateInnerBPFMaps Faults.none st' policyID i isPre5_9 subMap with ⟨st2, r2⟩
        rw [hg'] at hg
        cases hg
        exact generateLoop_ok_of_replaceLoop_ok rest (i + 1) st1 st2 h

/-! ## A live policy update -/

/-- Replacing policy `policyID`'s values `oldValues` by `newValues` agrees with a fresh
    install: on success the entries hold what `generateBPFMaps` installs from an empty state,
    and in every state the loop goes through, the one it stops in on an error included,
    every value of both lists is present. -/
theorem replaceBPFMaps_agrees_with_generateBPFMaps (f : Faults) (currKernelVer : Int)
    (st : PolStrMaps) (policyID : UInt64) (oldValues newValues : List Bytes)
    (subMaps : SelectorStringMaps) (hO : Installs st policyID oldValues)
    (hN : convertValuesToBPFStringMaps currKernelVer newValues = .ok subMaps) :
    ((replaceBPFMaps f currKernelVer st policyID newValues).2 = .ok () →
      Installs (replaceBPFMaps f currKernelVer st policyID newValues).1 policyID newValues ∧
      (generateBPFMaps Faults.none currKernelVer (fun _ _ => none) policyID newValues).2 = .ok () ∧
      Installs (generateBPFMaps Faults.none currKernelVer (fun _ _ => none) policyID newValues).1
        policyID newValues) ∧
    (∀ k v, v ∈ oldValues → v ∈ newValues →
      Present (replaceLoop f policyID (isKernelPre5_9 currKernelVer) 0 (subMaps.take k) st).1
        policyID v) ∧
    (∀ v, v ∈ oldValues → v ∈ newValues →
      Present (replaceBPFMaps f currKernelVer st policyID newValues).1 policyID v) := by
  have hrun : replaceBPFMaps f currKernelVer st policyID newValues =
      replaceLoop f policyID (isKernelPre5_9 currKernelVer) 0 subMaps st := by
    unfold replaceBPFMaps
    rw [hN]
  -- the states after the first `k` buckets are the states of the loop over `subMaps.take k`
  have hmid : ∀ k v, v ∈ oldValues → v ∈ newValues →
      Present (replaceLoop f policyID (isKernelPre5_9 currKernelVer) 0 (subMaps.take k) st).1
        policyID v := by
    intro k v hvO hvN
    obtain ⟨j, -, -, hm, -⟩ := replaceLoop_mixed f policyID (isKernelPre5_9 currKernelVer) st
      (fun b => subMaps.getD b []) (subMaps.take k) 0 st
      (fun b hb => by rw [Nat.zero_add]; exact getD_take_buckets subMaps k b hb) (mixed_zero _ _ _)
    exact present_of_mixed hO hN hm hvO hvN
  refine ⟨fun h => ?_, hmid, fun v hvO hvN => ?_⟩
  · have hgen : (generateBPFMaps Faults.none currKernelVer (fun _ _ => none) policyID
        newValues).2 = .ok () := by
      unfold generateBPFMaps
      rw [hN]
      rw [hrun] at h
      exact generateLoop_ok_of_replaceLoop_ok subMaps 0 st _ h
    exact ⟨replaceBPFMaps_installs f currKernelVer st policyID newValues h, hgen,
      generateBPFMaps_installs Faults.none currKernelVer _ policyID newValues (fun _ => rfl) hgen⟩
  · rw [hrun, ← List.take_length (l := subMaps)]
    exact hmid _ v hvO hvN

/-- `/` installed, then replaced by `/` and `/bin` on a 5.11 kernel. -/
theorem replaceBPFMaps_agrees_with_generateBPFMaps_bin :
    let installed := (generateBPFMaps Faults.none 330496 (fun _ _ => none) 1 [[47]]).1
    let subMaps := (createStringMaps.modify 0 (List.insert (pad maxStringMapsSize [47]))).modify 0
      (List.insert (pad maxStringMapsSize [47, 98, 105, 110]))
    (Installs installed 1 [[47]] ∧
      convertValuesToBPFStringMaps 330496 [[47], [47, 98, 105, 110]] = .ok subMaps) ∧
    (((replaceBPFMaps Faults.none 330496 installed 1 [[47], [47, 98, 105, 110]]).2 = .ok () →
      Installs (replaceBPFMaps Faults.none 330496 installed 1 [[47], [47, 98, 105, 110]]).1 1
        [[47], [47, 98, 105, 110]] ∧
      (generateBPFMaps Faults.none 330496 (fun _ _ => none) 1 [[47], [47, 98, 105, 110]]).2 =
        .ok () ∧
      Installs (generateBPFMaps Faults.none 330496 (fun _ _ => none) 1
        [[47], [47, 98, 105, 110]]).1 1 [[47], [47, 98, 105, 110]]) ∧
    (∀ k v, v ∈ [[47]] → v ∈ [[47], [47, 98, 105, 110]] →
      Present (replaceLoop Faults.none 1 (isKernelPre5_9 330496) 0 (subMaps.take k) installed).1 1 v) ∧
    (∀ v, v ∈ [[47]] → v ∈ [[47], [47, 98, 105, 110]] →
      Present (replaceBPFMaps Faults.none 330496 installed 1 [[47], [47, 98, 105, 110]]).1 1 v)) := by
  have hO := generateBPFMaps_installs Faults.none 330496 (fun _ _ => none) 1 [[47]] (fun _ => rfl) rfl
  have hN : convertValuesToBPFStringMaps 330496 [[47], [47, 98, 105, 110]] =
      .ok ((createStringMaps.modify 0 (List.insert (pad maxStringMapsSize [47]))).modify 0
        (List.insert (pad maxStringMapsSize [47, 98, 105, 110]))) := rfl
  exact ⟨⟨hO, hN⟩, replaceBPFMaps_agrees_with_generateBPFMaps Faults.none 330496 _ 1 [[47]]
    [[47], [47, 98, 105, 110]] _ hO hN⟩

end RuntimeEnforcer.BpfManager
