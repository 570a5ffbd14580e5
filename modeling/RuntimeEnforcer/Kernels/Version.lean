import Mathlib

/-
  `internal/kernels/kernels.go`: the kernel release string as a number.

  `kernelStringToNumeric` follows the Go code step by step: cut at the first `-`, trim
  trailing `+`, split on `.`, parse MAJOR, MINOR and PATCH with `strconv.ParseInt(_, 10, 32)`
  (a field that does not parse counts as 0, and a MAJOR that does not parse makes the whole
  value 0), clamp PATCH at 255, and pack `(major << 16) + (minor << 8) + patch`. Go strings
  are modelled by their characters: the separators are ASCII, so splitting bytes and
  splitting characters agree. `versionIsLowerThan` is the comparison the agent uses to pick
  the map layout (`5.11` for key sizes above 512 bytes, `5.9` for inner map sizes).

  On a release string MAJOR[.MINOR[.PATCH]] with trailing `+` and a `-suffix` (`Release`),
  the packing is `kernelStringToNumeric_render`: MAJOR, MINOR and PATCH as numbers, a field
  that is missing or not numeric as 0, and also 0 for a field past the int32 range, which
  `ParseInt` refuses. With MAJOR below 2^15 and MINOR at most 255 the packing orders releases
  lexicographically (`versionIsLowerThan_iff_lex`), PATCH counting as `patchCount`; a PATCH
  of 2^31 or more counts as 0, not as 255 (`versionIsLowerThan_overflowing_patch`).
-/

namespace RuntimeEnforcer.Kernels

/-- Decimal digits of `strconv.ParseUint(_, 10, _)`: at least one, all in `0-9`. -/
def parseDigits : List Char → Option Nat
  | [] => none
  | c :: cs => go (c :: cs) 0
where
  go : List Char → Nat → Option Nat
    | [], acc => some acc
    | c :: cs, acc => if c.isDigit then go cs (10 * acc + (c.toNat - '0'.toNat)) else none

/-- `strconv.ParseInt(s, 10, 32)`: an optional sign, then decimal digits, in the range of
    an `int32`; `none` is the syntax or range error. -/
def parseInt (s : List Char) : Option Int :=
  match s with
  | [] => none
  | c :: rest =>
    let neg := c = '-'
    let digits := if c = '+' ∨ c = '-' then rest else s
    match parseDigits digits with
    | none => none
    | some n =>
      if neg then (if n ≤ 2 ^ 31 then some (-(n : Int)) else none)
      else (if n < 2 ^ 31 then some (n : Int) else none)

/-- `strings.TrimRight(s, "+")`. -/
def trimRightPlus (s : List Char) : List Char :=
  s.rdropWhile (· == '+')

/-- `KernelStringToNumeric` (kernels.go 56-104). -/
def kernelStringToNumeric (ver : String) : Int :=
  let release := ver.toList.splitOn '-'
  let verStr := release.headD []
  let numeric := trimRightPlus verStr
  let vers := numeric.splitOn '.'
  let majorS := vers.headD []
  let minorS := if 2 ≤ vers.length then vers.getD 1 [] else []
  let patchS := if 3 ≤ vers.length then vers.getD 2 [] else []
  match parseInt majorS with
  | none => 0
  | some major =>
    let minor := (parseInt minorS).getD 0
    let patch := min ((parseInt patchS).getD 0) 255
    major * 2 ^ 16 + minor * 2 ^ 8 + patch

/-- `VersionIsLowerThan(curr, kernel)` (kernels.go 42-45). -/
def versionIsLowerThan (curr : Int) (kernel : String) : Bool :=
  decide (curr < kernelStringToNumeric kernel)

/-- `KERNEL_VERSION(a, b, c)` of the BPF headers, the packing the C side compares with. -/
def kernelVersion (a b c : Nat) : Nat :=
  a * 2 ^ 16 + b * 2 ^ 8 + min c 255

example : kernelStringToNumeric "5.9" = 329984 := by
  decide

-- The Go gate on "5.11" and the BPF gate `LINUX_KERNEL_VERSION < KERNEL_VERSION(5, 11, 0)` agree
-- on every version number.
example (curr : Nat) : versionIsLowerThan curr "5.11" = decide (curr < kernelVersion 5 11 0) := by
  have h511 : kernelStringToNumeric "5.11" = 330496 := by decide
  simp only [versionIsLowerThan, h511, kernelVersion]
  norm_num

/-! ## Release strings -/

/-- A digit string: a numeric field of a release. -/
def IsNumeric (s : List Char) : Prop :=
  s ≠ [] ∧ s.all Char.isDigit = true

instance : DecidablePred IsNumeric := fun _ => inferInstanceAs (Decidable (_ ∧ _))

/-- The number a digit string denotes. -/
def numericValue (s : List Char) : Nat :=
  Nat.ofDigits 10 (s.reverse.map fun c => c.toNat - '0'.toNat)

/-- A field after MAJOR: no dot, dash or plus in it, so cutting, trimming and splitting keep
    it whole. -/
def IsField (s : List Char) : Prop :=
  '.' ∉ s ∧ '-' ∉ s ∧ '+' ∉ s

instance : DecidablePred IsField := fun _ => inferInstanceAs (Decidable (_ ∧ _ ∧ _))

/-- A release string MAJOR[.MINOR[.PATCH]], then `plus` characters `+` and an optional
    `-suffix`. -/
structure Release where
  major : List Char
  /-- MINOR and PATCH, when present. -/
  fields : List (List Char)
  plus : Nat
  suffix : Option (List Char)
  major_numeric : IsNumeric major
  fields_length : fields.length ≤ 2
  fields_field : ∀ s ∈ fields, IsField s

namespace Release

/-- MAJOR[.MINOR[.PATCH]]. -/
def core (r : Release) : List Char :=
  ['.'].intercalate (r.major :: r.fields)

def render (r : Release) : String :=
  String.ofList (r.core ++ List.replicate r.plus '+' ++ r.suffix.elim [] ('-' :: ·))

end Release

/-- What a MINOR or PATCH field counts as: its value when it is numeric, 0 when it is
    missing or not numeric. -/
def fieldValue : Option (List Char) → Nat
  | some s => if IsNumeric s then numericValue s else 0
  | none => 0

/-- What `ParseInt(_, 10, 32)` with its fallback to 0 makes of such a field: the same, but 0
    for a value past the int32 range. -/
def fieldCount (s : Option (List Char)) : Nat :=
  if fieldValue s < 2 ^ 31 then fieldValue s else 0

def Release.minorValue (r : Release) : Nat := fieldValue r.fields[0]?

def Release.patchValue (r : Release) : Nat := fieldValue r.fields[1]?

/-- PATCH as the packing counts it: clamped at 255, and 0 past the int32 range. -/
def Release.patchCount (r : Release) : Nat := min (fieldCount r.fields[1]?) 255

/-! ## Parsing digits -/

theorem numericValue_cons (c : Char) (cs : List Char) :
    numericValue (c :: cs) = numericValue cs + 10 ^ cs.length * (c.toNat - '0'.toNat) := by
  simp only [numericValue, List.reverse_cons, List.map_append, List.map_cons, List.map_nil,
    Nat.ofDigits_append, Nat.ofDigits_singleton, List.length_map, List.length_reverse]

theorem parseDigits_go_of_digits : ∀ (cs : List Char) (acc : Nat), (∀ c ∈ cs, c.isDigit = true) →
    parseDigits.go cs acc = some (acc * 10 ^ cs.length + numericValue cs)
  | [], acc, _ => by simp [parseDigits.go, numericValue]
  | c :: cs, acc, h => by
    rw [parseDigits.go, if_pos (h c List.mem_cons_self),
      parseDigits_go_of_digits cs _ fun d hd => h d (List.mem_cons_of_mem _ hd), numericValue_cons,
      List.length_cons]
    congr 1
    ring

theorem parseDigits_go_of_not_digit : ∀ (cs : List Char) (acc : Nat),
    (∃ c ∈ cs, c.isDigit = false) → parseDigits.go cs acc = none
  | [], _, ⟨_, hc, _⟩ => absurd hc List.not_mem_nil
  | c :: cs, acc, ⟨d, hd, hdigit⟩ => by
    rw [parseDigits.go]
    split_ifs with hc
    · rcases List.mem_cons.mp hd with rfl | hd
      · rw [hc] at hdigit
        cases hdigit
      · exact parseDigits_go_of_not_digit cs _ ⟨d, hd, hdigit⟩
    · rfl

theorem parseDigits_eq (s : List Char) :
    parseDigits s = if IsNumeric s then some (numericValue s) else none := by
  cases s with
  | nil => simp [parseDigits, IsNumeric]
  | cons c cs =>
    rw [parseDigits]
    by_cases h : ∃ d ∈ c :: cs, d.isDigit = false
    · obtain ⟨d, hd, hdigit⟩ := h
      rw [parseDigits_go_of_not_digit _ _ ⟨d, hd, hdigit⟩, if_neg]
      rintro ⟨-, hall⟩
      rw [List.all_eq_true.mp hall d hd] at hdigit
      cases hdigit
    · have hall : ∀ d ∈ c :: cs, d.isDigit = true := by
        intro d hd
        cases hdigit : d.isDigit
        · exact absurd ⟨d, hd, hdigit⟩ h
        · rfl
      rw [parseDigits_go_of_digits _ _ hall, if_pos ⟨List.cons_ne_nil c cs, List.all_eq_true.mpr hall⟩,
        Nat.zero_mul, Nat.zero_add]

/-- `ParseInt` on a string with no sign in it: its value when it is numeric and in the int32
    range. -/
theorem parseInt_of_unsigned {s : List Char} (hplus : '+' ∉ s) (hminus : '-' ∉ s) :
    parseInt s = if IsNumeric s ∧ numericValue s < 2 ^ 31 then some (numericValue s : Int)
      else none := by
  cases s with
  | nil => simp [parseInt, IsNumeric]
  | cons c cs =>
    have hc₁ : c ≠ '+' := fun h => hplus (h ▸ List.mem_cons_self)
    have hc₂ : c ≠ '-' := fun h => hminus (h ▸ List.mem_cons_self)
    simp only [parseInt, hc₁, hc₂, or_self, if_false, parseDigits_eq]
    by_cases hn : IsNumeric (c :: cs) <;> simp [hn]

theorem fieldCount_getD {fields : List (List Char)} (h : ∀ s ∈ fields, IsField s) (i : Nat) :
    (parseInt (fields.getD i [])).getD 0 = (fieldCount fields[i]? : Int) := by
  cases hi : fields[i]? with
  | none =>
    rw [List.getD_eq_getElem?_getD, hi]
    simp [parseInt, fieldCount, fieldValue]
  | some s =>
    have hs := h s (List.mem_of_getElem? hi)
    rw [List.getD_eq_getElem?_getD, hi, Option.getD_some, parseInt_of_unsigned hs.2.2 hs.2.1]
    unfold fieldCount fieldValue
    by_cases hn : IsNumeric s
    · simp only [hn, true_and, if_true]
      split_ifs <;> simp
    · simp [hn]

/-! ## Cutting, trimming and splitting a release -/

theorem mem_of_mem_intercalate {α : Type} {a : α} {sep : List α} :
    ∀ {ls : List (List α)}, a ∈ sep.intercalate ls → a ∈ sep ∨ ∃ l ∈ ls, a ∈ l
  | [], h => by simp at h
  | [l], h => Or.inr ⟨l, List.mem_singleton_self l, by rwa [List.intercalate_singleton] at h⟩
  | l :: l' :: ls, h => by
    rw [List.intercalate_cons_cons, List.mem_append, List.mem_append] at h
    rcases h with (h | h) | h
    · exact Or.inr ⟨l, List.mem_cons_self, h⟩
    · exact Or.inl h
    · rcases mem_of_mem_intercalate h with h | ⟨l'', hl'', h⟩
      · exact Or.inl h
      · exact Or.inr ⟨l'', List.mem_cons_of_mem _ hl'', h⟩

/-- A character that is no digit, no dot and in no field is not in MAJOR[.MINOR[.PATCH]]. -/
theorem Release.not_mem_core (r : Release) {c : Char} (hdigit : c.isDigit = false) (hdot : c ≠ '.')
    (hfields : ∀ s ∈ r.fields, c ∉ s) : c ∉ r.core := by
  intro hc
  rcases mem_of_mem_intercalate hc with hc | ⟨l, hl, hc⟩
  · exact hdot (List.mem_singleton.mp hc)
  · rcases List.mem_cons.mp hl with rfl | hl
    · rw [List.all_eq_true.mp r.major_numeric.2 c hc] at hdigit
      cases hdigit
    · exact hfields l hl hc

theorem headD_splitOn_dash (r : Release) :
    (r.render.toList.splitOn '-').headD [] = r.core ++ List.replicate r.plus '+' := by
  have hcore := r.not_mem_core (c := '-') (by decide) (by decide) fun s hs => (r.fields_field s hs).2.1
  have hno : ∀ x ∈ r.core ++ List.replicate r.plus '+', (x == '-') = false := by
    intro x hx
    rcases List.mem_append.mp hx with hx | hx
    · exact beq_eq_false_iff_ne.mpr fun h => hcore (h ▸ hx)
    · rw [List.eq_of_mem_replicate hx]
      rfl
  rw [Release.render, String.toList_ofList, List.splitOn_eq_splitOnP]
  cases r.suffix with
  | none => rw [Option.elim_none, List.append_nil, List.splitOnP_eq_singleton hno, List.headD_cons]
  | some s =>
    rw [Option.elim_some, List.splitOnP_append_cons_of_forall_mem hno '-' rfl s, List.headD_cons]

theorem trimRightPlus_append_replicate {l : List Char} (hl : '+' ∉ l) :
    ∀ n, trimRightPlus (l ++ List.replicate n '+') = l
  | 0 => by
    rw [List.replicate_zero, List.append_nil, trimRightPlus, List.rdropWhile_eq_self_iff]
    intro hne hlast
    exact hl (beq_iff_eq.mp hlast ▸ List.getLast_mem hne)
  | n + 1 => by
    rw [List.replicate_succ', ← List.append_assoc, trimRightPlus,
      List.rdropWhile_concat_pos _ _ _ rfl]
    exact trimRightPlus_append_replicate hl n

/-- The release cut at its first `-`, trimmed of `+` and split at `.` gives back its fields. -/
theorem splitOn_dot_render (r : Release) :
    (trimRightPlus ((r.render.toList.splitOn '-').headD [])).splitOn '.' = r.major :: r.fields := by
  have hplus := r.not_mem_core (c := '+') (by decide) (by decide) fun s hs => (r.fields_field s hs).2.2
  have hdot : ∀ l ∈ r.major :: r.fields, '.' ∉ l := by
    intro l hl hdot
    rcases List.mem_cons.mp hl with rfl | hl
    · exact absurd (List.all_eq_true.mp r.major_numeric.2 '.' hdot) (by decide)
    · exact (r.fields_field l hl).1 hdot
  rw [headD_splitOn_dash, trimRightPlus_append_replicate hplus, Release.core,
    List.splitOn_intercalate '.' hdot (List.cons_ne_nil _ _)]

/-- MINOR and PATCH as `KernelStringToNumeric` picks them out of MAJOR and the fields. -/
theorem fieldS_eq (major : List Char) (fields : List (List Char)) (i : Nat) :
    (if i + 2 ≤ (major :: fields).length then (major :: fields).getD (i + 1) [] else []) =
      fields.getD i [] := by
  rw [List.getD_cons_succ, List.length_cons]
  split_ifs with h
  · rfl
  · exact (List.getD_eq_default _ _ (by omega)).symm

/-- The packing of a release: MAJOR, MINOR and PATCH as `ParseInt` with its fallback reads
    them, PATCH clamped at 255. -/
theorem kernelStringToNumeric_render (r : Release) (hmajor : numericValue r.major < 2 ^ 31) :
    kernelStringToNumeric r.render =
      (numericValue r.major : Int) * 2 ^ 16 + (fieldCount r.fields[0]? : Int) * 2 ^ 8 +
        (r.patchCount : Int) := by
  have hmaj : parseInt r.major = some (numericValue r.major : Int) := by
    have hdigits := List.all_eq_true.mp r.major_numeric.2
    rw [parseInt_of_unsigned (fun h => absurd (hdigits '+' h) (by decide))
      (fun h => absurd (hdigits '-' h) (by decide)), if_pos ⟨r.major_numeric, hmajor⟩]
  unfold kernelStringToNumeric
  simp only [splitOn_dot_render, List.headD_cons, hmaj]
  rw [fieldS_eq r.major r.fields 0, fieldS_eq r.major r.fields 1, fieldCount_getD r.fields_field,
    fieldCount_getD r.fields_field, Release.patchCount, Nat.cast_min]
  rfl

/-! ## The order of releases -/

theorem fieldCount_of_lt {s : Option (List Char)} (h : fieldValue s < 2 ^ 31) :
    fieldCount s = fieldValue s := if_pos h

theorem versionIsLowerThan_iff_lex (a b : Release) (ha : numericValue a.major < 2 ^ 15)
    (hb : numericValue b.major < 2 ^ 15) (ham : a.minorValue ≤ 255) (hbm : b.minorValue ≤ 255) :
    versionIsLowerThan (kernelStringToNumeric a.render) b.render = true ↔
      toLex (numericValue a.major, toLex (a.minorValue, a.patchCount)) <
        toLex (numericValue b.major, toLex (b.minorValue, b.patchCount)) := by
  have hca : fieldCount a.fields[0]? = a.minorValue := fieldCount_of_lt (by
    unfold Release.minorValue at ham
    omega)
  have hcb : fieldCount b.fields[0]? = b.minorValue := fieldCount_of_lt (by
    unfold Release.minorValue at hbm
    omega)
  have hpa : a.patchCount ≤ 255 := min_le_right _ _
  have hpb : b.patchCount ≤ 255 := min_le_right _ _
  rw [versionIsLowerThan, decide_eq_true_iff, kernelStringToNumeric_render a (by omega),
    kernelStringToNumeric_render b (by omega), hca, hcb, Prod.Lex.toLex_lt_toLex,
    Prod.Lex.toLex_lt_toLex]
  dsimp only
  omega

/-- 5.10.300-generic, whose PATCH the packing clamps at 255. -/
def genericFiveTen : Release :=
  ⟨"5".toList, ["10".toList, "300".toList], 0, some "generic".toList, by decide, by decide,
    by decide⟩

/-- 5.11+. -/
def fiveElevenPlus : Release :=
  ⟨"5".toList, ["11".toList], 1, none, by decide, by decide, by decide⟩

theorem versionIsLowerThan_iff_lex_genericFiveTen :
    (numericValue genericFiveTen.major < 2 ^ 15 ∧ numericValue fiveElevenPlus.major < 2 ^ 15 ∧
      genericFiveTen.minorValue ≤ 255 ∧ fiveElevenPlus.minorValue ≤ 255) ∧
    (versionIsLowerThan (kernelStringToNumeric genericFiveTen.render) fiveElevenPlus.render = true ↔
      toLex (numericValue genericFiveTen.major, toLex (genericFiveTen.minorValue, genericFiveTen.patchCount)) <
        toLex (numericValue fiveElevenPlus.major,
          toLex (fiveElevenPlus.minorValue, fiveElevenPlus.patchCount))) :=
  ⟨⟨by decide, by decide, by decide, by decide⟩,
    versionIsLowerThan_iff_lex _ _ (by decide) (by decide) (by decide) (by decide)⟩

/-- 5.4.2147483648, whose PATCH is past the int32 range. -/
def overflowingPatch : Release :=
  ⟨"5".toList, ["4".toList, "2147483648".toList], 0, none, by decide, by decide, by decide⟩

/-- 5.4.1. -/
def patchOne : Release :=
  ⟨"5".toList, ["4".toList, "1".toList], 0, none, by decide, by decide, by decide⟩

/-- 5.4.2147483648 is lower than 5.4.1 for `VersionIsLowerThan`, although its PATCH clamped at
    255 is above 1. -/
theorem versionIsLowerThan_overflowing_patch :
    overflowingPatch.render = "5.4.2147483648" ∧ patchOne.render = "5.4.1" ∧
    numericValue overflowingPatch.major < 2 ^ 15 ∧ numericValue patchOne.major < 2 ^ 15 ∧
    overflowingPatch.minorValue ≤ 255 ∧ patchOne.minorValue ≤ 255 ∧
    versionIsLowerThan (kernelStringToNumeric overflowingPatch.render) patchOne.render = true ∧
    ¬ toLex (numericValue overflowingPatch.major,
        toLex (overflowingPatch.minorValue, min overflowingPatch.patchValue 255)) <
      toLex (numericValue patchOne.major, toLex (patchOne.minorValue, min patchOne.patchValue 255)) := by
  refine ⟨by decide, by decide, by decide, by decide, by decide, by decide, by decide, ?_⟩
  rw [Prod.Lex.toLex_lt_toLex, Prod.Lex.toLex_lt_toLex]
  decide

end RuntimeEnforcer.Kernels
