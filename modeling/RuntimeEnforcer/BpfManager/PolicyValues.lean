import RuntimeEnforcer.Lib.Buffer
import RuntimeEnforcer.Kernels.Version

/-
  `internal/bpf/policy_values.go`, first half: an allowed executable path becomes a key of one
  of eleven string maps.

  A value `v` (bytes) is accepted when it is non-empty and at most 4096 bytes long, or at most
  512 bytes below kernel 5.11 (`argStringSelectorValue`). It is copied into a zeroed
  `[4096]byte` array, and `stringPaddedLen |v|` picks the map: the first entry of
  `stringMapsSizes` that can hold it. `convertValuesToBPFStringMaps` puts every value of a
  list into its map, and stops at the first rejected value.

  Go `map[[4096]byte]struct{}` sets are lists without repeats (`List.insert`); a Go range over
  one is a walk along the list, and nothing proved here depends on its order. The
  `removeNul` argument of `argStringSelectorValue` is `false` at its only call site
  (`putValueInMap`), so its branch is not modelled.

  Proved: every accepted value lands in map `stringIdx |v|`, where `stringMapsSizes` has its
  padded length, and that map's key for it is `v` padded with zeros to the map's key size
  (`mem_convertValuesToBPFStringMaps`).
-/

namespace RuntimeEnforcer

/-- Byte strings: Go `string`/`[]byte` values and C `char` arrays. -/
abbrev Bytes := List UInt8

namespace BpfManager

open Buffer Kernels

def stringMapsNumSubMaps : Nat := 11
def maxStringMapsSize : Nat := 4096
def stringMapsKeyIncSize : Nat := 24

def stringMapSize0 : Nat := 1 * stringMapsKeyIncSize
def stringMapSize1 : Nat := 2 * stringMapsKeyIncSize
def stringMapSize2 : Nat := 3 * stringMapsKeyIncSize
def stringMapSize3 : Nat := 4 * stringMapsKeyIncSize
def stringMapSize4 : Nat := 5 * stringMapsKeyIncSize
def stringMapSize5 : Nat := 6 * stringMapsKeyIncSize
def stringMapSize6 : Nat := 256
def stringMapSize7 : Nat := 512
def stringMapSize8 : Nat := 1024
def stringMapSize9 : Nat := 2048
def stringMapSize10 : Nat := 4096

/-- `stringMapsSizes`: the key size of each of the eleven maps. -/
def stringMapsSizes : List Nat :=
  [stringMapSize0, stringMapSize1, stringMapSize2, stringMapSize3, stringMapSize4,
    stringMapSize5, stringMapSize6, stringMapSize7, stringMapSize8, stringMapSize9,
    stringMapSize10]

/-- `stringPaddedLen` (policy_values.go 80-102). -/
def stringPaddedLen (s : Nat) : Nat :=
  if s ≤ 6 * stringMapsKeyIncSize then
    if s % stringMapsKeyIncSize ≠ 0 then (s / stringMapsKeyIncSize + 1) * stringMapsKeyIncSize
    else s
  else if s ≤ stringMapSize6 then stringMapSize6
  else if s ≤ stringMapSize7 then stringMapSize7
  else if s ≤ stringMapSize8 then stringMapSize8
  else if s ≤ stringMapSize9 then stringMapSize9
  else stringMapSize10

/-- The errors of `argStringSelectorValue`. -/
inductive ValueError where
  /-- `"string is empty"` -/
  | stringEmpty
  /-- `"string is too long"` -/
  | stringTooLong
  deriving DecidableEq, Repr

/-- `argStringSelectorValue(v, false, currKernelVer)` (policy_values.go 104-135): the value
    copied into a zeroed `[4096]byte` array, and its padded length. -/
def argStringSelectorValue (v : Bytes) (currKernelVer : Int) : Except ValueError (Bytes × Nat) :=
  let s := v.length
  if s = 0 then .error .stringEmpty
  else if versionIsLowerThan currKernelVer "5.11" then
    -- until 5.11 keys are at most 512 bytes
    if s > stringMapSize7 then .error .stringTooLong
    else .ok (pad maxStringMapsSize v, stringPaddedLen s)
  else if s > maxStringMapsSize then .error .stringTooLong
  else .ok (pad maxStringMapsSize v, stringPaddedLen s)

/-- `SelectorStringMaps`: eleven sets of `[4096]byte` keys. -/
abbrev SelectorStringMaps := List (List Bytes)

/-- `createStringMaps`: eleven empty sets. -/
def createStringMaps : SelectorStringMaps :=
  List.replicate stringMapsNumSubMaps []

/-- The errors of `putValueInMap` and `convertValuesToBPFStringMaps`. -/
inductive PutError where
  /-- `"value %s invalid: %w"` -/
  | invalid (v : Bytes) (e : ValueError)
  /-- `"value %s has unsupported padded size %d"` -/
  | unsupportedPaddedSize (v : Bytes) (size : Nat)
  deriving DecidableEq, Repr

/-- `putValueInMap` (policy_values.go 137-152): the value goes to the first map whose size is
    its padded length. -/
def putValueInMap (currKernelVer : Int) (m : SelectorStringMaps) (v : Bytes) :
    Except PutError SelectorStringMaps :=
  match argStringSelectorValue v currKernelVer with
  | .error e => .error (.invalid v e)
  | .ok (value, size) =>
    match stringMapsSizes.findIdx? (· == size) with
    | some sizeIdx => .ok (m.modify sizeIdx (List.insert value))
    | none => .error (.unsupportedPaddedSize v size)

/-- `convertValuesToBPFStringMaps` (policy_values.go 154-162). -/
def convertValuesToBPFStringMaps (currKernelVer : Int) (values : List Bytes) :
    Except PutError SelectorStringMaps :=
  values.foldlM (putValueInMap currKernelVer) createStringMaps

end BpfManager

end RuntimeEnforcer

namespace RuntimeEnforcer.BpfManager

open Buffer Kernels

/-! ## Which map a value goes to -/

/-- The longest value `argStringSelectorValue` accepts on kernel `currKernelVer`. -/
def maxValueLen (currKernelVer : Int) : Nat :=
  if versionIsLowerThan currKernelVer "5.11" then stringMapSize7 else maxStringMapsSize

/-- The values `argStringSelectorValue` accepts: non-empty and not too long. -/
def Accepted (currKernelVer : Int) (v : Bytes) : Prop :=
  1 ≤ v.length ∧ v.length ≤ maxValueLen currKernelVer

instance (currKernelVer : Int) (v : Bytes) : Decidable (Accepted currKernelVer v) :=
  inferInstanceAs (Decidable (_ ∧ _))

/-- The map a value of `s` bytes goes to. -/
def stringIdx (s : Nat) : Nat :=
  if s ≤ stringMapSize5 then (s - 1) / stringMapsKeyIncSize
  else if s ≤ stringMapSize6 then 6
  else if s ≤ stringMapSize7 then 7
  else if s ≤ stringMapSize8 then 8
  else if s ≤ stringMapSize9 then 9
  else 10

theorem maxValueLen_le (currKernelVer : Int) : maxValueLen currKernelVer ≤ maxStringMapsSize := by
  unfold maxValueLen
  split_ifs <;> decide

theorem stringIdx_lt (s : Nat) : stringIdx s < stringMapsNumSubMaps := by
  unfold stringIdx
  split_ifs <;> simp only [stringMapSize5, stringMapsKeyIncSize, stringMapsNumSubMaps] at * <;> omega

/-- The first six key sizes grow by 24, the last five double from 256. -/
theorem getD_stringMapsSizes {i : Nat} (h : i < stringMapsNumSubMaps) :
    stringMapsSizes.getD i 0 = if i < 6 then 24 * (i + 1) else 2 ^ (i + 2) := by
  simp only [stringMapsNumSubMaps] at h
  interval_cases i <;> rfl

/-- No key is longer than `MaxStringMapsSize`. -/
theorem getD_stringMapsSizes_le {i : Nat} (h : i < stringMapsNumSubMaps) :
    stringMapsSizes.getD i 0 ≤ maxStringMapsSize := by
  rw [getD_stringMapsSizes h]
  unfold stringMapsNumSubMaps at h
  unfold maxStringMapsSize
  split_ifs
  · omega
  · calc 2 ^ (i + 2) ≤ 2 ^ 12 := Nat.pow_le_pow_right (by norm_num) (by omega)
      _ = 4096 := by norm_num

/-- The key sizes are distinct, so the Go loop over `stringMapsSizes` stops at map `i`
    on the size of map `i`. -/
theorem findIdx_getD_stringMapsSizes {i : Nat} (h : i < stringMapsNumSubMaps) :
    stringMapsSizes.findIdx? (· == stringMapsSizes.getD i 0) = some i := by
  simp only [stringMapsNumSubMaps] at h
  interval_cases i <;> rfl

/-- `stringPaddedLen` is the key size of map `stringIdx`. -/
theorem stringPaddedLen_eq {s : Nat} (h1 : 1 ≤ s) (h2 : s ≤ maxStringMapsSize) :
    stringPaddedLen s = stringMapsSizes.getD (stringIdx s) 0 := by
  rw [getD_stringMapsSizes (stringIdx_lt s)]
  unfold stringPaddedLen stringIdx
  split_ifs <;> simp only [stringMapSize5, stringMapSize6, stringMapSize7, stringMapSize8,
    stringMapSize9, stringMapSize10, stringMapsKeyIncSize, maxStringMapsSize] at * <;> omega

/-- A value fits in the key of its map. -/
theorem le_stringPaddedLen {s : Nat} (h : s ≤ maxStringMapsSize) :
    s ≤ stringPaddedLen s := by
  unfold stringPaddedLen
  split_ifs <;> simp only [stringMapSize6, stringMapSize7, stringMapSize8, stringMapSize9,
    stringMapSize10, stringMapsKeyIncSize, maxStringMapsSize] at * <;> omega

/-- `stringPaddedLen` is the smallest key size that holds the value: the rule of
    `string_maps.h` ("the hash that has the smallest key size that can accommodate it"). -/
theorem stringPaddedLen_le_of_mem {s k : Nat} (hk : k ∈ stringMapsSizes) (hs : s ≤ k) :
    stringPaddedLen s ≤ k := by
  simp only [stringMapsSizes, stringMapSize0, stringMapSize1, stringMapSize2, stringMapSize3,
    stringMapSize4, stringMapSize5, stringMapSize6, stringMapSize7, stringMapSize8, stringMapSize9,
    stringMapSize10, stringMapsKeyIncSize, List.mem_cons, List.not_mem_nil, or_false] at hk
  unfold stringPaddedLen
  split_ifs <;> simp only [stringMapSize6, stringMapSize7, stringMapSize8, stringMapSize9,
    stringMapSize10, stringMapsKeyIncSize] at * <;> omega

/-! ## One value, then a list of values -/

theorem argStringSelectorValue_eq_ok {currKernelVer : Int} {v : Bytes}
    (h : Accepted currKernelVer v) :
    argStringSelectorValue v currKernelVer = .ok (pad maxStringMapsSize v, stringPaddedLen v.length) := by
  obtain ⟨h1, h2⟩ := h
  unfold maxValueLen at h2
  unfold argStringSelectorValue
  rw [if_neg (by omega)]
  by_cases hv : versionIsLowerThan currKernelVer "5.11" = true
  · rw [if_pos hv] at h2 ⊢
    rw [if_neg (by omega)]
  · rw [if_neg hv] at h2 ⊢
    rw [if_neg (by omega)]

theorem accepted_of_argStringSelectorValue {currKernelVer : Int} {v : Bytes} {r : Bytes × Nat}
    (h : argStringSelectorValue v currKernelVer = .ok r) : Accepted currKernelVer v := by
  unfold argStringSelectorValue at h
  unfold Accepted maxValueLen
  by_cases h0 : v.length = 0
  · rw [if_pos h0] at h
    cases h
  rw [if_neg h0] at h
  by_cases hv : versionIsLowerThan currKernelVer "5.11" = true
  · rw [if_pos hv] at h ⊢
    by_cases hl : v.length > stringMapSize7
    · rw [if_pos hl] at h
      cases h
    · exact ⟨by omega, by omega⟩
  · rw [if_neg hv] at h ⊢
    by_cases hl : v.length > maxStringMapsSize
    · rw [if_pos hl] at h
      cases h
    · exact ⟨by omega, by omega⟩

/-- `putValueInMap` succeeds exactly on accepted values, and adds the padded value to map
    `stringIdx`. -/
theorem putValueInMap_eq_ok {currKernelVer : Int} {m m' : SelectorStringMaps} {v : Bytes} :
    putValueInMap currKernelVer m v = .ok m' ↔
      Accepted currKernelVer v ∧
        m' = m.modify (stringIdx v.length) (List.insert (pad maxStringMapsSize v)) := by
  constructor
  · intro h
    unfold putValueInMap at h
    split at h
    · cases h
    · rename_i value size hv
      have ha := accepted_of_argStringSelectorValue hv
      rw [argStringSelectorValue_eq_ok ha] at hv
      cases hv
      rw [stringPaddedLen_eq ha.1 (le_trans ha.2 (maxValueLen_le _)),
        findIdx_getD_stringMapsSizes (stringIdx_lt _)] at h
      exact ⟨ha, (Except.ok.inj h).symm⟩
  · rintro ⟨ha, rfl⟩
    unfold putValueInMap
    rw [argStringSelectorValue_eq_ok ha]
    simp only
    rw [stringPaddedLen_eq ha.1 (le_trans ha.2 (maxValueLen_le _)),
      findIdx_getD_stringMapsSizes (stringIdx_lt _)]

/-- A key of map `i` after adding `v`: the old keys and, on map `stringIdx |v|`, `v` padded. -/
theorem mem_modify_insert {m : SelectorStringMaps} {v key : Bytes} {i : Nat} :
    key ∈ (m.modify (stringIdx v.length) (List.insert (pad maxStringMapsSize v))).getD i [] ↔
      key ∈ m.getD i [] ∨ (i < m.length ∧ stringIdx v.length = i ∧ key = pad maxStringMapsSize v) := by
  rw [List.getD_eq_getElem?_getD, List.getD_eq_getElem?_getD, List.getElem?_modify]
  by_cases hi : stringIdx v.length = i
  · subst hi
    cases hm : m[stringIdx v.length]? with
    | none =>
      simp only [Option.getD_none, List.not_mem_nil, false_or]
      have : ¬ stringIdx v.length < m.length := by
        intro hl
        rw [List.getElem?_eq_getElem hl] at hm
        cases hm
      simp [this]
    | some l =>
      have hl : stringIdx v.length < m.length := by
        by_contra hl
        rw [List.getElem?_eq_none (by omega)] at hm
        cases hm
      simp [List.mem_insert_iff, hl, or_comm]
  · simp [hi]

/-- The keys `convertValuesToBPFStringMaps` puts in map `i` are the padded values of the list
    whose length selects map `i`, and it succeeds exactly when every value is accepted. -/
theorem foldlM_putValueInMap {currKernelVer : Int} :
    ∀ (values : List Bytes) (m maps : SelectorStringMaps),
      values.foldlM (putValueInMap currKernelVer) m = .ok maps →
        (∀ v ∈ values, Accepted currKernelVer v) ∧ maps.length = m.length ∧
          ∀ i key, key ∈ maps.getD i [] ↔ key ∈ m.getD i [] ∨
            (i < m.length ∧ ∃ v ∈ values, stringIdx v.length = i ∧ key = pad maxStringMapsSize v)
  | [], m, maps, h => by
    simp only [List.foldlM_nil] at h
    cases h
    simp
  | v :: values, m, maps, h => by
    simp only [List.foldlM_cons] at h
    cases hput : putValueInMap currKernelVer m v with
    | error e => rw [hput] at h; cases h
    | ok m' =>
      rw [hput] at h
      obtain ⟨ha, rfl⟩ := putValueInMap_eq_ok.mp hput
      obtain ⟨hall, hlen, hmem⟩ := foldlM_putValueInMap values _ maps h
      refine ⟨?_, by simpa using hlen, ?_⟩
      · intro w hw
        rcases List.mem_cons.mp hw with rfl | hw
        · exact ha
        · exact hall w hw
      · intro i key
        rw [hmem, mem_modify_insert, List.length_modify]
        constructor
        · rintro ((h | ⟨hi, h1, h2⟩) | ⟨hi, w, hw, h1, h2⟩)
          · exact Or.inl h
          · exact Or.inr ⟨hi, v, List.mem_cons_self, h1, h2⟩
          · exact Or.inr ⟨hi, w, List.mem_cons_of_mem _ hw, h1, h2⟩
        · rintro (h | ⟨hi, w, hw, h1, h2⟩)
          · exact Or.inl (Or.inl h)
          · rcases List.mem_cons.mp hw with rfl | hw
            · exact Or.inl (Or.inr ⟨hi, h1, h2⟩)
            · exact Or.inr ⟨hi, w, hw, h1, h2⟩

theorem length_createStringMaps : createStringMaps.length = stringMapsNumSubMaps := by
  simp [createStringMaps]

/-- What `convertValuesToBPFStringMaps` returns when it succeeds. -/
theorem mem_convertValuesToBPFStringMaps {currKernelVer : Int} {values : List Bytes}
    {maps : SelectorStringMaps} (h : convertValuesToBPFStringMaps currKernelVer values = .ok maps) :
    (∀ v ∈ values, Accepted currKernelVer v) ∧ maps.length = stringMapsNumSubMaps ∧
      ∀ i key, key ∈ maps.getD i [] ↔
        ∃ v ∈ values, stringIdx v.length = i ∧ key = pad maxStringMapsSize v := by
  obtain ⟨hall, hlen, hmem⟩ := foldlM_putValueInMap values createStringMaps maps h
  refine ⟨hall, hlen.trans length_createStringMaps, fun i key => ?_⟩
  rw [hmem]
  simp only [createStringMaps, List.getD_eq_getElem?_getD, List.getElem?_replicate]
  constructor
  · rintro (h | ⟨_, h⟩)
    · split_ifs at h <;> simp at h
    · exact h
  · rintro ⟨v, hv, h1, h2⟩
    refine Or.inr ⟨?_, v, hv, h1, h2⟩
    rw [List.length_replicate, ← h1]
    exact stringIdx_lt _

/-- `convertValuesToBPFStringMaps` succeeds on every list of accepted values. -/
theorem convertValuesToBPFStringMaps_isOk {currKernelVer : Int} :
    ∀ (values : List Bytes) (m : SelectorStringMaps), (∀ v ∈ values, Accepted currKernelVer v) →
      ∃ maps, values.foldlM (putValueInMap currKernelVer) m = .ok maps
  | [], m, _ => ⟨m, rfl⟩
  | v :: values, m, h => by
    obtain ⟨maps, hm⟩ := convertValuesToBPFStringMaps_isOk values
      (m.modify (stringIdx v.length) (List.insert (pad maxStringMapsSize v)))
      (fun w hw => h w (List.mem_cons_of_mem _ hw))
    refine ⟨maps, ?_⟩
    simp only [List.foldlM_cons]
    rw [putValueInMap_eq_ok.mpr ⟨h v List.mem_cons_self, rfl⟩]
    exact hm

end RuntimeEnforcer.BpfManager
