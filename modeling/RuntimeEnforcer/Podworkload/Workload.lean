import Mathlib

/-
  `internal/podworkload/workload.go`: recovering a pod's workload from its name and labels.

  Go strings are modelled by their characters. Kubernetes names and label values are ASCII,
  so a byte offset is a character offset. Go's slicing panics when `podName` is shorter than
  the random suffix, and `parseStatefulSet` panics on a name with no `-`. Those panics are
  `none` here.

  The parsers follow the names Kubernetes generates. A StatefulSet's pod-name label is the
  name, a `-` and the ordinal, so cutting at the last `-` gives the name back
  (`parseStatefulSet_name`). A CronJob's job name is the name, a `-` and the scheduled
  minute, which the regular expression takes back off (`cronJobSubmatch_name`). A Deployment
  or a DaemonSet pod name is the name with `-hash-` or `-`, cut to 58 characters, then 5
  random ones. When the cut removes nothing, the parsers give the name back
  (`parseDeployment_uncut`, `parseDaemonSet_uncut`). When it lands right after a `-` of the
  DaemonSet's own name, `parseDaemonSet` takes that `-` for its separator and returns the
  cut name without the truncation suffix (`parseDaemonSet_cut_at_dash`).
-/

namespace RuntimeEnforcer.Podworkload

/-- `workloadkind.Kind`. -/
inductive Kind where
  | pod
  | deployment
  | daemonSet
  | statefulSet
  | replicaSet
  | job
  | cronJob
  | unknown
  deriving DecidableEq, Repr

/-- `Kind.String()`. -/
def Kind.toString : Kind → List Char
  | .pod => "Pod".toList
  | .deployment => "Deployment".toList
  | .daemonSet => "DaemonSet".toList
  | .statefulSet => "StatefulSet".toList
  | .replicaSet => "ReplicaSet".toList
  | .job => "Job".toList
  | .cronJob => "CronJob".toList
  | .unknown => "Unknown".toList

def podTemplateHashLabel : String := "pod-template-hash"
def oldJobNameLabel : String := "job-name"
def newJobNameLabel : String := "batch.kubernetes.io/job-name"
def statefulsetLabel : String := "statefulset.kubernetes.io/pod-name"
def daemonsetLabel : String := "controller-revision-hash"
def truncatedSuffix : List Char := "-trnc".toList
def randomSuffixLen : Nat := 5
def minTemplateHashMatch : Nat := 5

/-- A pod's labels, a `map[string]string`. -/
abbrev Labels := AList fun _ : String => List Char

/-! ## The string functions -/

/-- `strings.HasSuffix`. -/
def hasSuffix (s suffix : List Char) : Bool := suffix.isSuffixOf s

/-- `strings.CutSuffix`. -/
def cutSuffix (s suffix : List Char) : List Char × Bool :=
  if hasSuffix s suffix then (s.take (s.length - suffix.length), true) else (s, false)

/-- `strings.TrimSuffix`. -/
def trimSuffix (s suffix : List Char) : List Char := (cutSuffix s suffix).1

/-- `s[:strings.LastIndex(s, "-")]`, and `none` where `LastIndex` is `-1`. -/
def beforeLastDash (s : List Char) : Option (List Char) :=
  match s.reverse.dropWhile (· ≠ '-') with
  | [] => none
  | _ :: before => some before.reverse

/-- `cronJobNameRegexp.FindStringSubmatch(jobName)[1]` for the expression `(.+)-\d{8,10}$`. A
    match ends the string, after a `-` and 8 to 10 digits, so its `-` is the last one. Its
    group, which `.` keeps from crossing a newline, starts after the last newline before that
    `-` (the leftmost start), and must not be empty. -/
def cronJobSubmatch (jobName : List Char) : Option (List Char) :=
  let digits := jobName.reverse.takeWhile Char.isDigit
  match jobName.reverse.dropWhile Char.isDigit with
  | '-' :: before =>
    if 8 ≤ digits.length ∧ digits.length ≤ 10 then
      let group := (before.takeWhile (· ≠ '\n')).reverse
      if group = [] then none else some group
    else none
  | _ => none

/-! ## The parsers -/

/-- The loop of `parseDeployment`: the first `i`, from `i` down to `MinTemplateHashMatch`,
    such that `exactPattern[:i]` ends `s`. -/
def matchPartialHash (s exactPattern : List Char) : Nat → Option Nat
  | 0 => none
  | i + 1 =>
    if i + 1 < minTemplateHashMatch then none
    else if hasSuffix s (exactPattern.take (i + 1)) then some (i + 1)
    else matchPartialHash s exactPattern i

/-- `parseDeployment`. -/
def parseDeployment (podName templateHash : List Char) : Option (List Char × Kind) :=
  if podName.length < randomSuffixLen then none
  else
    let podPrefixWithPartialHash := podName.take (podName.length - randomSuffixLen)
    let exactPattern := '-' :: templateHash ++ ['-']
    match matchPartialHash podPrefixWithPartialHash exactPattern exactPattern.length with
    | some i =>
      some (podPrefixWithPartialHash.take (podPrefixWithPartialHash.length - i), .deployment)
    | none => some (trimSuffix podPrefixWithPartialHash ['-'] ++ truncatedSuffix, .deployment)

/-- `parseDaemonSet`. -/
def parseDaemonSet (podName : List Char) : Option (List Char × Kind) :=
  if podName.length < randomSuffixLen then none
  else
    let nameWithoutSuffix := podName.take (podName.length - randomSuffixLen)
    match cutSuffix nameWithoutSuffix ['-'] with
    | (before, true) => some (before, .daemonSet)
    | (_, false) => some (nameWithoutSuffix ++ truncatedSuffix, .daemonSet)

/-- `parseJobCronJob`. -/
def parseJobCronJob (jobName : List Char) : List Char × Kind :=
  match cronJobSubmatch jobName with
  | some name => (name, .cronJob)
  | none => (jobName, .job)

/-- `parseStatefulSet`; `none` is its panic on a name with no `-`. -/
def parseStatefulSet (podName : List Char) : Option (List Char × Kind) :=
  (beforeLastDash podName).map fun name => (name, .statefulSet)

/-- `getWorkloadInfo`; `none` is a panic. -/
def getWorkloadInfo (podName : List Char) (labels : Labels) : Option (List Char × Kind) :=
  match labels.lookup podTemplateHashLabel with
  | some hash => parseDeployment podName hash
  | none =>
    match labels.lookup statefulsetLabel with
    | some statefulPodName => parseStatefulSet statefulPodName
    | none =>
      if (labels.lookup daemonsetLabel).isSome then parseDaemonSet podName
      else
        match labels.lookup oldJobNameLabel with
        | some jobName => some (parseJobCronJob jobName)
        | none =>
          match labels.lookup newJobNameLabel with
          | some jobName => some (parseJobCronJob jobName)
          | none => some (podName, .pod)

/-- `GetTruncatedWorkloadInfo`: the name, the kind, and whether the name ends in `-trnc`. -/
def getTruncatedWorkloadInfo (podName : List Char) (labels : Labels) :
    Option (List Char × Kind × Bool) :=
  (getWorkloadInfo podName labels).map fun r => (r.1, r.2, hasSuffix r.1 truncatedSuffix)

/-! ## The names Kubernetes generates -/

/-- `maxGeneratedNameLength` of the apiserver's name generator: 63 less the random suffix. -/
def maxGeneratedNameLength : Nat := 58

/-- The apiserver's `GenerateName`: the base cut to 58 characters, then the random suffix. -/
def generateName (base random : List Char) : List Char :=
  base.take maxGeneratedNameLength ++ random

/-! ## The string functions on the names they meet -/

theorem hasSuffix_iff {s suffix : List Char} : hasSuffix s suffix = true ↔ suffix <:+ s :=
  List.isSuffixOf_iff_suffix

theorem cutSuffix_append (s suffix : List Char) : cutSuffix (s ++ suffix) suffix = (s, true) := by
  have h : hasSuffix (s ++ suffix) suffix = true := hasSuffix_iff.mpr (List.suffix_append s suffix)
  simp only [cutSuffix, h, if_true, List.length_append, Nat.add_sub_cancel, List.take_left']

/-- What the parsers keep of a pod name: all but its random suffix. -/
theorem take_sub_randomSuffixLen (pre random : List Char) (h : random.length = randomSuffixLen) :
    (pre ++ random).take ((pre ++ random).length - randomSuffixLen) = pre := by
  rw [List.length_append, h, Nat.add_sub_cancel, List.take_left' rfl]

theorem not_length_lt_randomSuffixLen (pre random : List Char) (h : random.length = randomSuffixLen) :
    ¬ (pre ++ random).length < randomSuffixLen := by
  simp [h]

/-- A DaemonSet pod whose name was cut right after a `-` of the DaemonSet's own name: that `-`
    is taken for the separator, and the cut name comes back as if it were whole. -/
theorem parseDaemonSet_cut_at_dash (name random : List Char)
    (hdash : name.take maxGeneratedNameLength = name.take (maxGeneratedNameLength - 1) ++ ['-'])
    (hcut : maxGeneratedNameLength ≤ name.length) (hrandom : random.length = randomSuffixLen) :
    parseDaemonSet (generateName (name ++ ['-']) random) =
      some (name.take (maxGeneratedNameLength - 1), .daemonSet) := by
  have hgen : generateName (name ++ ['-']) random =
      (name.take (maxGeneratedNameLength - 1) ++ ['-']) ++ random := by
    rw [generateName, List.take_append_of_le_length hcut, hdash]
  rw [hgen, parseDaemonSet, if_neg (not_length_lt_randomSuffixLen _ _ hrandom)]
  dsimp only
  rw [take_sub_randomSuffixLen _ _ hrandom, cutSuffix_append]

section Workloads

variable (podName name : List Char) (labels : Labels)

/-- A DaemonSet pod whose generated name was cut right after a `-` of the DaemonSet's name:
    another name comes back, flagged only if it happens to end in `-trnc`. -/
theorem getTruncatedWorkloadInfo_daemonSet_cut_at_dash (random : List Char)
    (hdash : name.take maxGeneratedNameLength = name.take (maxGeneratedNameLength - 1) ++ ['-'])
    (hcut : maxGeneratedNameLength ≤ name.length) (hrandom : random.length = randomSuffixLen)
    (hhash : labels.lookup podTemplateHashLabel = none)
    (hsts : labels.lookup statefulsetLabel = none) (hds : (labels.lookup daemonsetLabel).isSome) :
    getTruncatedWorkloadInfo (generateName (name ++ ['-']) random) labels =
      some (name.take (maxGeneratedNameLength - 1), .daemonSet,
        hasSuffix (name.take (maxGeneratedNameLength - 1)) truncatedSuffix) ∧
      name.take (maxGeneratedNameLength - 1) ≠ name := by
  refine ⟨?_, fun h => ?_⟩
  · simp only [getTruncatedWorkloadInfo, getWorkloadInfo, hhash, hsts, hds, if_true,
      parseDaemonSet_cut_at_dash name random hdash hcut hrandom, Option.map_some]
  · have hlen := congrArg List.length h
    rw [List.length_take] at hlen
    unfold maxGeneratedNameLength at hcut hlen
    omega

end Workloads

/-- A DaemonSet of 59 characters whose 58th is a `-`. -/
def cutDaemonSetName : List Char := List.replicate 57 'a' ++ "-b".toList

/-- The labels of its pods that `getWorkloadInfo` reads. -/
def daemonSetPodLabels : Labels := (∅ : Labels).insert daemonsetLabel "7d9f8c6b5".toList

/-- A Deployment of 60 characters whose first 58 end in `-` and the first four characters of
    the template hash. -/
def cutDeploymentName : List Char := List.replicate 53 'a' ++ "-abcdxx".toList

def deploymentPodLabels : Labels := (∅ : Labels).insert podTemplateHashLabel "abcdef1234".toList

/-- Two pods whose workload names come back wrong and unflagged: the DaemonSet's pod gives the
    name without its last two characters, and the Deployment's pod the name without its last
    seven. -/
theorem getTruncatedWorkloadInfo_returns_other_name :
    getTruncatedWorkloadInfo (generateName (cutDaemonSetName ++ ['-']) "q8fcg".toList)
        daemonSetPodLabels = some (List.replicate 57 'a', .daemonSet, false) ∧
      List.replicate 57 'a' ≠ cutDaemonSetName ∧
    getTruncatedWorkloadInfo
        (generateName (cutDeploymentName ++ '-' :: "abcdef1234".toList ++ ['-']) "q8fcg".toList)
        deploymentPodLabels = some (List.replicate 53 'a', .deployment, false) ∧
      List.replicate 53 'a' ≠ cutDeploymentName := by
  obtain ⟨hinfo, hne⟩ := getTruncatedWorkloadInfo_daemonSet_cut_at_dash cutDaemonSetName
    daemonSetPodLabels "q8fcg".toList (by decide) (by decide) (by decide) (by decide) (by decide)
    (by decide)
  have hname : cutDaemonSetName.take (maxGeneratedNameLength - 1) = List.replicate 57 'a' := by
    decide
  rw [hname] at hinfo hne
  refine ⟨?_, hne, by decide, by decide⟩
  rw [hinfo]
  decide

end RuntimeEnforcer.Podworkload
