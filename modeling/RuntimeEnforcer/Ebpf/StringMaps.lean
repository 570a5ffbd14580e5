import RuntimeEnforcer.BpfManager.PolicyValues

/-
  `bpf/string_maps.h` and the two bucketing helpers of `bpf/main.c` (448-495): the kernel's
  half of the allow-list encoding.

  `stringPaddedLen` and `stringMapIndex` compute, from the length of the resolved path, the
  map the path is looked up in; `getPolicyStringMap` is the `switch` over the eleven
  `pol_str_maps_N`. They mirror `BpfManager.stringPaddedLen` and the Go loop over
  `stringMapsSizes`, but compare with `STRING_MAPS_SIZE_5` by `<` where Go uses `<=`, and
  `stringMapIndex` sends every padded length it does not list to map 10. The two sides agree
  on every length from 1 to 4096 except 121 to 144 (`stringMapIndex_stringPaddedLen`): there
  the kernel looks in map 10 (121 to 143) or map 6 (144) while the agent stored the path in
  map 5.

  The hash-of-maps are modelled by the key set of each inner map: `PolStrMaps i id` is the
  set of keys of the inner map that `pol_str_maps_i` holds for policy `id`, if any. Every
  inner map value is the byte 1, so a lookup finds an entry exactly when the key is there.
-/

namespace RuntimeEnforcer.Ebpf

open Buffer

def stringMapsKeyIncSize : Nat := 24
def stringMapsSize5 : Nat := 6 * stringMapsKeyIncSize
def stringMapsSize6 : Nat := 256
def stringMapsSize7 : Nat := 512
def stringMapsSize8 : Nat := 1024
def stringMapsSize9 : Nat := 2048
def stringMapsSize10 : Nat := 4096

/-- `STRING_MAPS_SIZE_N`: the key size of `pol_str_maps_N`'s inner maps. -/
def stringMapsSize (n : Nat) : Nat :=
  if n < 6 then (n + 1) * stringMapsKeyIncSize else 2 ^ (n + 2)

/-- The eleven `pol_str_maps_N`: for each `N` and policy id, the keys of the inner map. -/
abbrev PolStrMaps := Nat → UInt64 → Option (List Bytes)

namespace PolStrMaps

/-- Store `inner` as policy `id`'s entry of map `i` (a `BPF_ANY` update of the outer map). -/
def set (maps : PolStrMaps) (i : Nat) (id : UInt64) (inner : List Bytes) : PolStrMaps :=
  fun j p => if j = i ∧ p = id then some inner else maps j p

/-- Remove policy `id`'s entry of map `i`. -/
def erase (maps : PolStrMaps) (i : Nat) (id : UInt64) : PolStrMaps :=
  fun j p => if j = i ∧ p = id then none else maps j p

@[simp] theorem set_self (maps : PolStrMaps) (i : Nat) (id : UInt64) (inner : List Bytes) :
    maps.set i id inner i id = some inner := by
  simp [set]

theorem set_of_ne (maps : PolStrMaps) {i j : Nat} {id p : UInt64} (inner : List Bytes)
    (h : j ≠ i ∨ p ≠ id) : maps.set i id inner j p = maps j p := by
  unfold set
  rw [if_neg (by tauto)]

@[simp] theorem erase_self (maps : PolStrMaps) (i : Nat) (id : UInt64) :
    maps.erase i id i id = none := by
  simp [erase]

theorem erase_of_ne (maps : PolStrMaps) {i j : Nat} {id p : UInt64}
    (h : j ≠ i ∨ p ≠ id) : maps.erase i id j p = maps j p := by
  unfold erase
  rw [if_neg (by tauto)]

end PolStrMaps

/-- `string_padded_len` (main.c 448-475). -/
def stringPaddedLen (len : Nat) : Nat :=
  if len < stringMapsSize5 then
    if len % stringMapsKeyIncSize ≠ 0 then (len / stringMapsKeyIncSize + 1) * stringMapsKeyIncSize
    else len
  else if len ≤ stringMapsSize6 then stringMapsSize6
  else if len ≤ stringMapsSize7 then stringMapsSize7
  else if len ≤ stringMapsSize8 then stringMapsSize8
  else if len ≤ stringMapsSize9 then stringMapsSize9
  else stringMapsSize10

/-- `string_map_index` (main.c 477-495): a `switch` whose `default` shares the arm of
    `STRING_MAPS_SIZE_10`. -/
def stringMapIndex (paddedLen : Nat) : Int :=
  if paddedLen < stringMapsSize5 then (paddedLen / stringMapsKeyIncSize : Int) - 1
  else if paddedLen = stringMapsSize6 then 6
  else if paddedLen = stringMapsSize7 then 7
  else if paddedLen = stringMapsSize8 then 8
  else if paddedLen = stringMapsSize9 then 9
  else 10

/-- `get_policy_string_map` (string_maps.h 82-110): the inner map of policy `policyId` in
    `pol_str_maps_index`, `NULL` (here `none`) for an index outside `0..10`. -/
def getPolicyStringMap (maps : PolStrMaps) (index : Int) (policyId : UInt64) :
    Option (List Bytes) :=
  if 0 ≤ index ∧ index ≤ 10 then maps index.toNat policyId else none

/-- The string-map lookup of `enforce_cgroup_policy` (main.c 579-596): pad the path length,
    pick the map, and look up the key of that map's size that starts at `currentOffset` of
    the event's path buffer. `true` is `match != NULL`. -/
def stringMapMatch (maps : PolStrMaps) (policyId : UInt64) (path : Nat → UInt8) (pathLen : Nat)
    (currentOffset : Nat) : Bool :=
  let paddedLen := stringPaddedLen pathLen
  let index := stringMapIndex paddedLen
  match getPolicyStringMap maps index policyId with
  | none => false
  | some stringMap => decide (read path currentOffset (stringMapsSize index.toNat) ∈ stringMap)

/-! ## The kernel's buckets against the agent's -/

/-- The kernel's key sizes are the agent's `stringMapsSizes`. -/
theorem stringMapsSize_eq {n : Nat} (h : n < BpfManager.stringMapsNumSubMaps) :
    stringMapsSize n = BpfManager.stringMapsSizes.getD n 0 := by
  rw [BpfManager.getD_stringMapsSizes h]
  unfold stringMapsSize stringMapsKeyIncSize
  split_ifs <;> ring

/-- The kernel pads like the agent, except at exactly 144 bytes (`<` against `<=`). -/
theorem stringPaddedLen_eq_go {len : Nat} :
    stringPaddedLen len = if len = 144 then 256 else BpfManager.stringPaddedLen len := by
  unfold stringPaddedLen BpfManager.stringPaddedLen
  split_ifs <;>
    simp only [stringMapsSize5, stringMapsSize6, stringMapsSize7, stringMapsSize8,
      stringMapsSize9, stringMapsSize10, stringMapsKeyIncSize, BpfManager.stringMapSize6,
      BpfManager.stringMapSize7, BpfManager.stringMapSize8, BpfManager.stringMapSize9,
      BpfManager.stringMapSize10, BpfManager.stringMapsKeyIncSize] at * <;> omega

/-- On the key sizes, `string_map_index` undoes the padding except at map 5, whose size 144
    is not below `STRING_MAPS_SIZE_5` and falls to the `default` arm. -/
theorem stringMapIndex_stringMapsSize {n : Nat} (h : n < BpfManager.stringMapsNumSubMaps) :
    stringMapIndex (stringMapsSize n) = if n = 5 then 10 else (n : Int) := by
  simp only [BpfManager.stringMapsNumSubMaps] at h
  interval_cases n <;> rfl

theorem stringIdx_eq_five_iff {len : Nat} (h1 : 1 ≤ len) :
    BpfManager.stringIdx len = 5 ↔ 121 ≤ len ∧ len ≤ 144 := by
  unfold BpfManager.stringIdx
  split_ifs <;>
    simp only [BpfManager.stringMapSize5, BpfManager.stringMapSize6, BpfManager.stringMapSize7,
      BpfManager.stringMapSize8, BpfManager.stringMapSize9, BpfManager.stringMapsKeyIncSize] at * <;>
    omega

/-- The map the kernel looks a path of `len` bytes up in: the agent's map `stringIdx len`,
    except for lengths 121 to 144. -/
theorem stringMapIndex_stringPaddedLen {len : Nat} (h1 : 1 ≤ len) (h2 : len ≤ 4096) :
    stringMapIndex (stringPaddedLen len) =
      if 121 ≤ len ∧ len ≤ 143 then 10
      else if len = 144 then 6
      else (BpfManager.stringIdx len : Int) := by
  rw [stringPaddedLen_eq_go]
  by_cases h144 : len = 144
  · subst h144
    decide
  have hlt := BpfManager.stringIdx_lt len
  rw [if_neg h144, BpfManager.stringPaddedLen_eq h1 h2, ← stringMapsSize_eq hlt,
    stringMapIndex_stringMapsSize hlt, if_neg h144]
  by_cases h5 : BpfManager.stringIdx len = 5
  · have := (stringIdx_eq_five_iff h1).mp h5
    rw [if_pos h5, if_pos (by omega)]
  · have := mt (stringIdx_eq_five_iff h1).mpr h5
    rw [if_neg h5, if_neg (by omega)]

end RuntimeEnforcer.Ebpf
