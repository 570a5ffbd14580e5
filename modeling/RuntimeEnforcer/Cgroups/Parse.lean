import RuntimeEnforcer.Lib.GoPath
import RuntimeEnforcer.Lib.ErrLoop
import RuntimeEnforcer.Podworkload.Workload

/-
  The cgroup path of a container (internal/cgroups/cgroup_parse.go). A runtime reports it as a
  path, or, with the systemd cgroup driver, as "slice:prefix:name", where the slice name says
  where the slice sits by '-': test-a-b.slice is the directory /test.slice/test-a.slice/test-a-b.slice.

  A `Slice` is a slice by its components, with its systemd `Slice.name` and its directory
  `Slice.dir`. `systemdExpandSlice` accepts exactly the names of slices and expands each to its
  directory; `parseCgroupsPath` accepts exactly the paths and the "slice:prefix:name" triples of
  such a slice, and gives the container's scope under the slice's directory.
-/

namespace RuntimeEnforcer.Cgroups

open GoPath Podworkload ErrLoop

/-! ## SystemdExpandSlice and ParseCgroupsPath -/

def sliceSuffix : List Char := ".slice".toList
def scopeSuffix : List Char := ".scope".toList

@[simp] theorem sliceSuffix_length : sliceSuffix.length = 6 := rfl
@[simp] theorem scopeSuffix_length : scopeSuffix.length = 6 := rfl

def invalidSliceName (slice : List Char) : List Char := "invalid slice name: ".toList ++ slice

def failedToParse (cgroupPath slice : List Char) : List Char :=
  "failed to parse cgroup path: ".toList ++ cgroupPath ++ " (".toList ++ slice ++
    " does not seem to be a slice)".toList

def unknownCgroupPath (cgroupPath : List Char) : List Char :=
  "unknown cgroup path: ".toList ++ cgroupPath

/-- The loop over the components of the slice name: the path builder gets "/<prefix><component>.slice"
for each, and the prefix builder "<component>-". -/
def expandLoop (slice : List Char) :
    List Char → List Char → List (List Char) → GoResult (List Char) (List Char)
  | path, _, [] => .ok path
  | path, pre, component :: rest =>
    -- test--a.slice isn't permitted, nor is -test.slice.
    if component = [] then .error [] (invalidSliceName slice)
    else expandLoop slice (path ++ '/' :: (pre ++ component ++ sliceSuffix))
      (pre ++ component ++ ['-']) rest

def systemdExpandSlice (slice : List Char) : GoResult (List Char) (List Char) :=
  -- Name has to end with ".slice", but can't be just ".slice".
  if slice.length ≤ sliceSuffix.length ∨ hasSuffix slice sliceSuffix = false then
    .error [] (invalidSliceName slice)
  -- Path-separators are not allowed.
  else if '/' ∈ slice then .error [] (invalidSliceName slice)
  else
    let sliceName := trimSuffix slice sliceSuffix
    -- if input was -.slice, we should just return root now
    if sliceName = ['-'] then .ok ['/']
    else expandLoop slice [] [] (sliceName.splitOn '-')

/-- The unit the container's cgroup is: the runtime's scope for it, unless the id already
names a slice. -/
def scopeOf (containerRuntimeName containerID : List Char) : List Char :=
  if hasSuffix containerID sliceSuffix then containerID
  else containerRuntimeName ++ '-' :: (containerID ++ scopeSuffix)

def parseCgroupsPath (cgroupPath : List Char) : Except (List Char) (List Char) :=
  if '/' ∈ cgroupPath then .ok cgroupPath
  else
    match cgroupPath.splitOn ':' with
    | [slice, containerRuntimeName, containerID] =>
      -- slice, err = SystemdExpandSlice(slice): the message shows the slice the call returned
      match systemdExpandSlice slice with
      | .error slice _ => .error (failedToParse cgroupPath slice)
      | .ok slice => .ok (join [slice, scopeOf containerRuntimeName containerID])
    | _ => .error (unknownCgroupPath cgroupPath)

/-! ## Slices -/

/-- A component of a slice name: nonempty, with no '-' (the hierarchy separator) and no '/'. -/
def Component (c : List Char) : Prop := c ≠ [] ∧ '-' ∉ c ∧ '/' ∉ c

instance : DecidablePred Component := fun _ => inferInstanceAs (Decidable (_ ∧ _ ∧ _))

/-- A systemd slice by the components of its name, the outermost first; the root slice has none. -/
structure Slice where
  components : List (List Char)
  valid : ∀ c ∈ components, Component c

/-- The name of the unit whose components are `ps`. -/
def unitName (ps : List (List Char)) : List Char := ['-'].intercalate ps ++ sliceSuffix

namespace Slice

/-- The systemd name of a slice; the root slice is "-.slice". -/
def name (sl : Slice) : List Char :=
  if sl.components = [] then '-' :: sliceSuffix else unitName sl.components

/-- The slices from the outermost down to `sl`, one for each nonempty prefix of its components. -/
def units (sl : Slice) : List (List Char) := sl.components.inits.tail.map unitName

/-- The directory of a slice: its units as a rooted path, "/" for the root slice. -/
def dir (sl : Slice) : List Char := if sl.components = [] then ['/'] else rootedPath sl.units

theorem units_eq_nil {sl : Slice} (h : sl.components = []) : sl.units = [] := by
  simp [units, h]

theorem mem_name {sl : Slice} {a : Char} (h : a ∈ sl.name) :
    a = '-' ∨ a ∈ sliceSuffix ∨ ∃ c ∈ sl.components, a ∈ c := by
  unfold name at h
  split at h
  · rcases List.mem_cons.mp h with h | h
    · exact .inl h
    · exact .inr (.inl h)
  · rcases List.mem_append.mp h with h | h
    · rcases mem_intercalate h with h | h
      · exact .inl h
      · exact .inr (.inr h)
    · exact .inr (.inl h)

/-- Every unit along a slice is a plain, nonempty path element. -/
theorem plain_of_mem_units {sl : Slice} {u : List Char} (hu : u ∈ sl.units) : Plain u ∧ u ≠ [] := by
  obtain ⟨ps, hps, rfl⟩ := List.mem_map.mp hu
  have hsub : ∀ c ∈ ps, c ∈ sl.components := fun c hc =>
    (List.mem_inits ps sl.components).mp (List.mem_of_mem_tail hps) |>.subset hc
  have hlen : sliceSuffix.length ≤ (unitName ps).length := by simp [unitName]
  refine ⟨⟨fun hslash => ?_, ?_, ?_⟩, ?_⟩
  · rcases List.mem_append.mp hslash with h | h
    · rcases mem_intercalate h with h | ⟨c, hc, h⟩
      · exact absurd h (by decide)
      · exact (sl.valid c (hsub c hc)).2.2 h
    · exact absurd h (by decide)
  all_goals
    intro h
    rw [h] at hlen
    exact absurd hlen (by decide)

end Slice

/-! ## The expansion loop -/

section Loop

variable {slice path pre : List Char} {cs : List (List Char)}

/-- The loop fails only on an empty component, returning "" beside the error. -/
theorem expandLoop_error {v e : List Char} (h : expandLoop slice path pre cs = .error v e) :
    v = [] ∧ e = invalidSliceName slice := by
  induction cs generalizing path pre with
  | nil => simp [expandLoop] at h
  | cons c cs ih =>
    unfold expandLoop at h
    split at h
    · obtain ⟨hv, he⟩ := GoResult.error.inj h
      exact ⟨hv.symm, he.symm⟩
    · exact ih h

theorem expandLoop_of_mem_nil (h : [] ∈ cs) :
    expandLoop slice path pre cs = .error [] (invalidSliceName slice) := by
  induction cs generalizing path pre with
  | nil => simp at h
  | cons c cs ih =>
    unfold expandLoop
    by_cases hc : c = []
    · rw [if_pos hc]
    · rw [if_neg hc]
      exact ih ((List.mem_cons.mp h).resolve_left (Ne.symm hc))

/-- The loop over nonempty components below the prefix components `ps`: one unit per nonempty
prefix of `cs`, each named after `ps` and that prefix. -/
theorem expandLoop_of_ne_nil (h : ∀ c ∈ cs, c ≠ []) (ps : List (List Char)) :
    expandLoop slice path (ps.map (· ++ ['-'])).flatten cs =
      .ok (path ++ rootedPath (cs.inits.tail.map fun qs => unitName (ps ++ qs))) := by
  induction cs generalizing path ps with
  | nil => simp [expandLoop]
  | cons c cs ih =>
    have hinits : cs.inits = [] :: cs.inits.tail := by cases cs <;> simp
    have hunit : (ps.map (· ++ ['-'])).flatten ++ c ++ sliceSuffix = unitName (ps ++ [c]) := by
      rw [unitName, ← flatten_map_append_singleton]
    have hpre : (ps.map (· ++ ['-'])).flatten ++ c ++ ['-'] =
        ((ps ++ [c]).map (· ++ ['-'])).flatten := by simp
    unfold expandLoop
    rw [if_neg (h c List.mem_cons_self), hunit, hpre,
      ih (fun c' hc' => h c' (List.mem_cons_of_mem c hc')) (ps ++ [c])]
    rw [List.inits_cons, List.tail_cons, List.map_map, hinits]
    simp [Function.comp_def]

end Loop

/-! ## What SystemdExpandSlice accepts -/

/-- Past the two checks on the whole name, SystemdExpandSlice is the root case or the loop. -/
theorem systemdExpandSlice_of_checks {slice : List Char}
    (hshort : ¬ (slice.length ≤ sliceSuffix.length ∨ hasSuffix slice sliceSuffix = false))
    (hslash : '/' ∉ slice) :
    systemdExpandSlice slice =
      if trimSuffix slice sliceSuffix = ['-'] then .ok ['/']
      else expandLoop slice [] [] ((trimSuffix slice sliceSuffix).splitOn '-') := by
  rw [systemdExpandSlice, if_neg hshort, if_neg hslash]

/-- Every failing return of SystemdExpandSlice gives "" beside the error. -/
theorem systemdExpandSlice_error {slice v e : List Char} (h : systemdExpandSlice slice = .error v e) :
    v = [] ∧ e = invalidSliceName slice := by
  by_cases hshort : slice.length ≤ sliceSuffix.length ∨ hasSuffix slice sliceSuffix = false
  · rw [systemdExpandSlice, if_pos hshort] at h
    obtain ⟨hv, he⟩ := GoResult.error.inj h
    exact ⟨hv.symm, he.symm⟩
  by_cases hslash : '/' ∈ slice
  · rw [systemdExpandSlice, if_neg hshort, if_pos hslash] at h
    obtain ⟨hv, he⟩ := GoResult.error.inj h
    exact ⟨hv.symm, he.symm⟩
  rw [systemdExpandSlice_of_checks hshort hslash] at h
  split at h
  · cases h
  · exact expandLoop_error h

theorem trimSuffix_append_of_hasSuffix {s suffix : List Char} (h : hasSuffix s suffix = true) :
    trimSuffix s suffix ++ suffix = s := by
  obtain ⟨t, rfl⟩ := hasSuffix_iff.mp h
  rw [trimSuffix, cutSuffix_append]

/-- Every slice's name expands to its directory. -/
theorem systemdExpandSlice_name (sl : Slice) : systemdExpandSlice sl.name = .ok sl.dir := by
  by_cases hroot : sl.components = []
  · rw [Slice.name, Slice.dir, if_pos hroot, if_pos hroot]
    decide
  have hname : sl.name = ['-'].intercalate sl.components ++ sliceSuffix := by
    rw [Slice.name, if_neg hroot, unitName]
  have hsplit : (['-'].intercalate sl.components).splitOn '-' = sl.components :=
    List.splitOn_intercalate '-' (fun c hc => (sl.valid c hc).2.1) hroot
  -- neither "" nor "-" splits into nonempty components
  have hnil : [] ∉ sl.components := fun h => (sl.valid [] h).1 rfl
  have hempty : ['-'].intercalate sl.components ≠ [] := fun h => hnil (by rw [← hsplit, h]; decide)
  have hdash : ['-'].intercalate sl.components ≠ ['-'] := fun h => hnil (by rw [← hsplit, h]; decide)
  have hlen : ¬ sl.name.length ≤ sliceSuffix.length := by
    have := List.length_pos_of_ne_nil hempty
    rw [hname, List.length_append]
    omega
  have hsuffix : hasSuffix sl.name sliceSuffix = true :=
    hasSuffix_iff.mpr (hname ▸ List.suffix_append _ _)
  have hslash : '/' ∉ sl.name := fun h => by
    rcases Slice.mem_name h with h | h | ⟨c, hc, h⟩
    · exact absurd h (by decide)
    · exact absurd h (by decide)
    · exact (sl.valid c hc).2.2 h
  have htrim : trimSuffix sl.name sliceSuffix = ['-'].intercalate sl.components := by
    rw [hname, trimSuffix, cutSuffix_append]
  have hloop : expandLoop sl.name [] (([] : List (List Char)).map (· ++ ['-'])).flatten
      sl.components = _ := expandLoop_of_ne_nil (fun c hc => (sl.valid c hc).1) []
  rw [systemdExpandSlice_of_checks (not_or.mpr ⟨hlen, by simp [hsuffix]⟩) hslash, htrim, if_neg hdash, hsplit,
    Slice.dir, if_neg hroot]
  simpa [Slice.units] using hloop

/-- Whatever SystemdExpandSlice accepts is the name of a slice, expanded to its directory. -/
theorem systemdExpandSlice_ok {slice p : List Char} (h : systemdExpandSlice slice = .ok p) :
    ∃ sl : Slice, slice = sl.name ∧ p = sl.dir := by
  by_cases hshort : slice.length ≤ sliceSuffix.length ∨ hasSuffix slice sliceSuffix = false
  · rw [systemdExpandSlice, if_pos hshort] at h
    cases h
  by_cases hslash : '/' ∈ slice
  · rw [systemdExpandSlice, if_neg hshort, if_pos hslash] at h
    cases h
  rw [systemdExpandSlice_of_checks hshort hslash] at h
  have hsuffix : hasSuffix slice sliceSuffix = true := by simpa using (not_or.mp hshort).2
  have hslice := trimSuffix_append_of_hasSuffix hsuffix
  set name := trimSuffix slice sliceSuffix
  by_cases hdash : name = ['-']
  · -- the root slice "-.slice"
    rw [if_pos hdash] at h
    refine ⟨⟨[], by simp⟩, ?_, (GoResult.ok.inj h).symm⟩
    rw [Slice.name, if_pos rfl, ← hslice, hdash]
    rfl
  rw [if_neg hdash] at h
  have hne : ∀ c ∈ name.splitOn '-', c ≠ [] := by
    rintro c hc rfl
    rw [expandLoop_of_mem_nil hc] at h
    cases h
  have hvalid : ∀ c ∈ name.splitOn '-', Component c := fun c hc =>
    ⟨hne c hc, not_mem_of_mem_splitOn hc, fun h' =>
      hslash (hslice ▸ List.mem_append_left _ (mem_of_mem_splitOn hc h'))⟩
  have hroot : name.splitOn '-' ≠ [] := List.splitOn_ne_nil _ _
  have hloop : expandLoop slice [] (([] : List (List Char)).map (· ++ ['-'])).flatten
      (name.splitOn '-') = _ := expandLoop_of_ne_nil hne []
  refine ⟨⟨name.splitOn '-', hvalid⟩, ?_, ?_⟩
  · rw [Slice.name, if_neg hroot, unitName, List.intercalate_splitOn, hslice]
  · simp only [List.map_nil, List.flatten_nil, List.nil_append, h] at hloop
    rw [Slice.dir, if_neg hroot]
    exact GoResult.ok.inj hloop

theorem systemdExpandSlice_eq_ok_iff {slice p : List Char} :
    systemdExpandSlice slice = .ok p ↔ ∃ sl : Slice, slice = sl.name ∧ p = sl.dir := by
  constructor
  · exact systemdExpandSlice_ok
  · rintro ⟨sl, rfl, rfl⟩
    exact systemdExpandSlice_name sl

/-! ## What ParseCgroupsPath accepts -/

/-- The scope unit is a plain, nonempty path element when its parts hold no '/'. -/
theorem plain_scopeOf {rt id : List Char} (hrt : '/' ∉ rt) (hid : '/' ∉ id) :
    Plain (scopeOf rt id) ∧ scopeOf rt id ≠ [] := by
  have hlen : sliceSuffix.length ≤ (scopeOf rt id).length := by
    unfold scopeOf
    split
    · obtain ⟨t, ht⟩ := hasSuffix_iff.mp ‹_›
      rw [← ht, List.length_append]
      omega
    · simp only [List.length_append, List.length_cons, scopeSuffix_length, sliceSuffix_length]
      omega
  have hslash : '/' ∉ scopeOf rt id := by
    unfold scopeOf
    split
    · exact hid
    · rw [List.mem_append, List.mem_cons, List.mem_append]
      rintro (h | h | h | h)
      · exact hrt h
      · exact absurd h (by decide)
      · exact hid h
      · exact absurd h (by decide)
  refine ⟨⟨hslash, ?_, ?_⟩, ?_⟩ <;>
    (intro h; rw [h] at hlen; exact absurd hlen (by decide))

/-- A plain element joined onto a slice's directory lands below the slice's units. -/
theorem join_dir (sl : Slice) {b : List Char} (hb : Plain b ∧ b ≠ []) :
    join [sl.dir, b] = rootedPath (sl.units ++ [b]) := by
  by_cases hroot : sl.components = []
  · -- the root directory "/" is the rooted path of one empty element
    have hdir : sl.dir = rootedPath [[]] := by rw [Slice.dir, if_pos hroot]; rfl
    have hall : ∀ e ∈ [[]] ++ [b], Plain e := by simp [hb.1]; decide
    have hj : join [rootedPath [[]], ['/'].intercalate [b]] =
        rootedPath (([[]] ++ [b]).filter (· ≠ [])) :=
      join_rootedPath (by simp) (by simp) hall (by simp [hb.2])
    rw [List.intercalate_singleton] at hj
    rw [hdir, hj, Slice.units_eq_nil hroot]
    simp [hb.2]
  · have hdir : sl.dir = rootedPath sl.units := by rw [Slice.dir, if_neg hroot]
    have hall : ∀ u ∈ sl.units ++ [b], Plain u ∧ u ≠ [] := by
      intro u hu
      rcases List.mem_append.mp hu with hu | hu
      · exact Slice.plain_of_mem_units hu
      · rw [List.mem_singleton.mp hu]
        exact hb
    have hfilter : (sl.units ++ [b]).filter (· ≠ []) = sl.units ++ [b] :=
      List.filter_eq_self.mpr fun u hu => by simpa using (hall u hu).2
    have hunits : sl.units ≠ [] := by
      obtain ⟨c, cs, hcs⟩ := List.exists_cons_of_ne_nil hroot
      cases cs <;> simp [Slice.units, hcs]
    have hj : join [rootedPath sl.units, ['/'].intercalate [b]] =
        rootedPath ((sl.units ++ [b]).filter (· ≠ [])) :=
      join_rootedPath hunits (by simp) (fun u hu => (hall u hu).1) (by rw [hfilter]; simp)
    rw [List.intercalate_singleton, hfilter] at hj
    rw [hdir, hj]

/-- Past the '/' check, an input of three ':'-separated parts is a slice, a runtime and an id. -/
theorem parseCgroupsPath_of_triple {p slice rt id : List Char} (h : '/' ∉ p)
    (hs : p.splitOn ':' = [slice, rt, id]) :
    parseCgroupsPath p =
      match systemdExpandSlice slice with
      | .error s _ => .error (failedToParse p s)
      | .ok s => .ok (join [s, scopeOf rt id]) := by
  rw [parseCgroupsPath, if_neg h, hs]

/-- What ParseCgroupsPath accepts without a '/' is a slice name, a runtime and an id, and it
gives the container's scope below the slice's units. -/
theorem parseCgroupsPath_ok {p out : List Char} (h : '/' ∉ p) (hp : parseCgroupsPath p = .ok out) :
    ∃ (sl : Slice) (rt id : List Char), ':' ∉ sl.name ∧ ':' ∉ rt ∧ ':' ∉ id ∧
      p = sl.name ++ ':' :: (rt ++ ':' :: id) ∧ out = rootedPath (sl.units ++ [scopeOf rt id]) := by
  rw [parseCgroupsPath, if_neg h] at hp
  split at hp
  · rename_i slice rt id hs
    have hcolon : ∀ l ∈ [slice, rt, id], ':' ∉ l := fun l hl => not_mem_of_mem_splitOn (hs ▸ hl)
    have hjoin : [':'].intercalate (p.splitOn ':') = p := List.intercalate_splitOn ':'
    rw [hs] at hjoin
    have hp' : p = slice ++ ':' :: (rt ++ ':' :: id) := by simpa using hjoin.symm
    split at hp
    · cases hp
    · rename_i sp hexp
      obtain ⟨sl, rfl, rfl⟩ := systemdExpandSlice_ok hexp
      have hrt : '/' ∉ rt := fun h' => h (by simp [hp', h'])
      have hid : '/' ∉ id := fun h' => h (by simp [hp', h'])
      refine ⟨sl, rt, id, hcolon _ (by simp), hcolon _ (by simp), hcolon _ (by simp), hp', ?_⟩
      rw [← Except.ok.inj hp, join_dir sl (plain_scopeOf hrt hid)]
  · cases hp

/-- ParseCgroupsPath turns every triple of a slice name, a runtime and an id into the scope. -/
theorem parseCgroupsPath_triple (sl : Slice) {rt id : List Char} (hname : ':' ∉ sl.name)
    (hrt : ':' ∉ rt) (hid : ':' ∉ id) (h : '/' ∉ sl.name ++ ':' :: (rt ++ ':' :: id)) :
    parseCgroupsPath (sl.name ++ ':' :: (rt ++ ':' :: id)) =
      .ok (rootedPath (sl.units ++ [scopeOf rt id])) := by
  have hs : (sl.name ++ ':' :: (rt ++ ':' :: id)).splitOn ':' = [sl.name, rt, id] := by
    have hsplit : ([':'].intercalate [sl.name, rt, id]).splitOn ':' = [sl.name, rt, id] :=
      List.splitOn_intercalate ':' (by simp [hname, hrt, hid]) (by simp)
    simpa using hsplit
  have hrt' : '/' ∉ rt := fun h' => h (by simp [h'])
  have hid' : '/' ∉ id := fun h' => h (by simp [h'])
  rw [parseCgroupsPath_of_triple h hs, systemdExpandSlice_name]
  exact congrArg Except.ok (join_dir sl (plain_scopeOf hrt' hid'))

theorem parseCgroupsPath_eq_ok_iff {p out : List Char} (h : '/' ∉ p) :
    parseCgroupsPath p = .ok out ↔
      ∃ (sl : Slice) (rt id : List Char), ':' ∉ sl.name ∧ ':' ∉ rt ∧ ':' ∉ id ∧
        p = sl.name ++ ':' :: (rt ++ ':' :: id) ∧ out = rootedPath (sl.units ++ [scopeOf rt id]) := by
  constructor
  · exact parseCgroupsPath_ok h
  · rintro ⟨sl, rt, id, hname, hrt, hid, rfl, rfl⟩
    exact parseCgroupsPath_triple sl hname hrt hid h

/-- A besteffort pod's slice, as the kubelet names it under the systemd driver. -/
def besteffortPodSlice : Slice :=
  ⟨["kubepods".toList, "besteffort".toList, "pod83b090de".toList], fun c hc =>
    of_decide_eq_true (List.all_eq_true.mp (by decide :
      ["kubepods".toList, "besteffort".toList, "pod83b090de".toList].all
        (fun c => decide (Component c)) = true) c hc)⟩

theorem parseCgroupsPath_besteffortPod :
    '/' ∉ "kubepods-besteffort-pod83b090de.slice:cri-containerd:18b2adc8".toList ∧
      parseCgroupsPath "kubepods-besteffort-pod83b090de.slice:cri-containerd:18b2adc8".toList =
        .ok ("/kubepods.slice/kubepods-besteffort.slice/kubepods-besteffort-pod83b090de.slice/" ++
          "cri-containerd-18b2adc8.scope").toList := by
  have h : '/' ∉ "kubepods-besteffort-pod83b090de.slice:cri-containerd:18b2adc8".toList := by
    decide +kernel
  exact ⟨h, (parseCgroupsPath_eq_ok_iff h).mpr ⟨besteffortPodSlice, "cri-containerd".toList,
    "18b2adc8".toList, by decide +kernel, by decide, by decide, by decide +kernel, by decide +kernel⟩⟩

/-- A first part that is no slice name fails with a message that shows an empty slice: the message
formats the slice SystemdExpandSlice returned, and it returns "" beside each of its errors. -/
theorem parseCgroupsPath_bad_slice {p slice rt id : List Char} (h : '/' ∉ p)
    (hs : p.splitOn ':' = [slice, rt, id]) (hslice : ∀ sl : Slice, slice ≠ sl.name) :
    parseCgroupsPath p = .error (failedToParse p []) := by
  rw [parseCgroupsPath_of_triple h hs]
  cases hexp : systemdExpandSlice slice with
  | error v e =>
    obtain ⟨rfl, -⟩ := systemdExpandSlice_error hexp
    rfl
  | ok sp =>
    obtain ⟨sl, hsl, -⟩ := systemdExpandSlice_ok hexp
    exact absurd hsl (hslice sl)

theorem parseCgroupsPath_bad_slice_runc :
    '/' ∉ "system:runc:434234".toList ∧
      "system:runc:434234".toList.splitOn ':' =
        ["system".toList, "runc".toList, "434234".toList] ∧
      (∀ sl : Slice, "system".toList ≠ sl.name) ∧
      parseCgroupsPath "system:runc:434234".toList =
        .error "failed to parse cgroup path: system:runc:434234 ( does not seem to be a slice)".toList := by
  have h₁ : '/' ∉ "system:runc:434234".toList := by decide
  have h₂ : "system:runc:434234".toList.splitOn ':' =
      ["system".toList, "runc".toList, "434234".toList] := by decide
  have h₃ : ∀ sl : Slice, "system".toList ≠ sl.name := by
    intro sl hsl
    have hname := systemdExpandSlice_name sl
    have herr : systemdExpandSlice "system".toList = .error [] (invalidSliceName "system".toList) := by
      decide
    rw [← hsl, herr] at hname
    cases hname
  exact ⟨h₁, h₂, h₃, (parseCgroupsPath_bad_slice h₁ h₂ h₃).trans (congrArg Except.error (by decide))⟩

end RuntimeEnforcer.Cgroups
