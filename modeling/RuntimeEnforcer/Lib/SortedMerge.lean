import RuntimeEnforcer.Lib.KeyedList

/-
  The two-pointer merge of two lists sorted by a key, reporting what is only on the left,
  only on the right, or on both sides.

  `merge` is the merge, and `reportAt l r k` what it owes for the key `k`: the left report
  for an item found only in `l`, the right report for one found only in `r`, and the pair's
  report for an item found in both. On two lists strictly sorted by their keys the merge
  gives, key after key over all their keys in increasing order, exactly what it owes for
  that key (`merge_eq_flatMap`), and nothing else. What a key is owed does not depend on the
  order of either list when no two items of a list share a key (`reportAt_perm`), so merging
  after sorting reports what the lists as given owe (`merge_sorted_eq_flatMap`). On such
  lists every sort by the key gives the list `sortBy` gives (`eq_sortBy`).
-/

namespace SortedMerge

variable {α β γ κ : Type} [LinearOrder κ] (k₁ : α → κ) (k₂ : β → κ)
  (left : α → List γ) (right : β → List γ) (both : α → β → List γ)

/-- The merge of `l` and `r`, both sorted by their keys. -/
def merge : List α → List β → List γ
  | [], r => r.flatMap right
  | a :: l, [] => left a ++ l.flatMap left
  | a :: l, b :: r =>
    if k₁ a < k₂ b then left a ++ merge (l) (b :: r)
    else if k₂ b < k₁ a then right b ++ merge (a :: l) r
    else both a b ++ merge l r
termination_by l r => l.length + r.length

/-- What the merge owes for the key `k`. -/
def reportAt (l : List α) (r : List β) (k : κ) : List γ :=
  match l.find? (fun a => k₁ a = k), r.find? (fun b => k₂ b = k) with
  | some a, none => left a
  | none, some b => right b
  | some a, some b => both a b
  | none, none => []

variable {k₁ k₂ left right both}

@[simp]
theorem merge_nil_left (r : List β) : merge k₁ k₂ left right both [] r = r.flatMap right := by
  rw [merge]

@[simp]
theorem merge_nil_right (l : List α) : merge k₁ k₂ left right both l [] = l.flatMap left := by
  cases l with
  | nil => rw [merge_nil_left, List.flatMap_nil, List.flatMap_nil]
  | cons a l => rw [merge, List.flatMap_cons]

theorem merge_cons_cons (a : α) (l : List α) (b : β) (r : List β) :
    merge k₁ k₂ left right both (a :: l) (b :: r) =
      if k₁ a < k₂ b then left a ++ merge k₁ k₂ left right both l (b :: r)
      else if k₂ b < k₁ a then right b ++ merge k₁ k₂ left right both (a :: l) r
      else both a b ++ merge k₁ k₂ left right both l r := by
  rw [merge]

/-- Once one side is exhausted the merge reports what is left of the other. -/
theorem merge_of_nil {l : List α} {r : List β} (h : l = [] ∨ r = []) :
    merge k₁ k₂ left right both l r = l.flatMap left ++ r.flatMap right := by
  rcases h with rfl | rfl
  · rw [merge_nil_left, List.flatMap_nil, List.nil_append]
  · rw [merge_nil_right, List.flatMap_nil, List.append_nil]

/-! ## Looking a key up in a sorted list -/

theorem find?_key_of_mem {f : α → κ} {l : List α} (hl : l.Pairwise fun a b => f a < f b)
    {a : α} (ha : a ∈ l) : l.find? (fun x => f x = f a) = some a := by
  induction l with
  | nil => cases ha
  | cons x l ih =>
    rw [List.pairwise_cons] at hl
    rcases List.mem_cons.mp ha with rfl | ha
    · simp
    · have hne : f x ≠ f a := (hl.1 a ha).ne
      rw [List.find?_cons_of_neg (by simpa using hne)]
      exact ih hl.2 ha

theorem find?_key_of_lt {f : α → κ} {l : List α} {k : κ} (h : ∀ a ∈ l, k < f a) :
    l.find? (fun x => f x = k) = none :=
  List.find?_eq_none.mpr fun a ha => by simpa using (h a ha).ne'

theorem find?_cons_key_ne {f : α → κ} {x : α} {l : List α} {k : κ} (h : f x ≠ k) :
    (x :: l).find? (fun a => f a = k) = l.find? (fun a => f a = k) :=
  List.find?_cons_of_neg (by simpa using h)

/-! ## The merge against the keys -/

omit [LinearOrder κ] in
theorem flatMap_congr {ks : List κ} {f g : κ → List γ} (h : ∀ k ∈ ks, f k = g k) :
    ks.flatMap f = ks.flatMap g := by
  induction ks with
  | nil => rfl
  | cons k ks ih =>
    simp only [List.flatMap_cons]
    rw [h k List.mem_cons_self, ih fun k' hk' => h k' (List.mem_cons_of_mem _ hk')]

theorem flatMap_reportAt_right {r : List β} (hr : r.Pairwise fun a b => k₂ a < k₂ b) :
    (r.map k₂).flatMap (reportAt k₁ k₂ left right both [] r) = r.flatMap right := by
  rw [List.flatMap_map]
  apply flatMap_congr
  intro b hb
  simp [reportAt, find?_key_of_mem hr hb]

theorem flatMap_reportAt_left {l : List α} (hl : l.Pairwise fun a b => k₁ a < k₁ b) :
    (l.map k₁).flatMap (reportAt k₁ k₂ left right both l []) = l.flatMap left := by
  rw [List.flatMap_map]
  apply flatMap_congr
  intro a ha
  simp [reportAt, find?_key_of_mem hl ha]

theorem reportAt_cons_left {a : α} {l : List α} {r : List β} {k : κ} (h : k₁ a ≠ k) :
    reportAt k₁ k₂ left right both (a :: l) r k = reportAt k₁ k₂ left right both l r k := by
  unfold reportAt
  rw [find?_cons_key_ne h]

theorem reportAt_cons_right {b : β} {l : List α} {r : List β} {k : κ} (h : k₂ b ≠ k) :
    reportAt k₁ k₂ left right both l (b :: r) k = reportAt k₁ k₂ left right both l r k := by
  unfold reportAt
  rw [find?_cons_key_ne h]

/-- A key below every key of `l` and of `r` is below every key the merge runs over. -/
theorem below_keys {ks : List κ} {l : List α} {r : List β} {x : κ}
    (hmem : ∀ k, k ∈ ks ↔ k ∈ l.map k₁ ∨ k ∈ r.map k₂) (hl : ∀ a ∈ l, x < k₁ a)
    (hr : ∀ b ∈ r, x < k₂ b) : ∀ k ∈ ks, x < k := by
  intro k hk
  rcases (hmem k).mp hk with hk | hk
  · obtain ⟨a, ha, rfl⟩ := List.mem_map.mp hk
    exact hl a ha
  · obtain ⟨b, hb, rfl⟩ := List.mem_map.mp hk
    exact hr b hb

/-- On lists strictly sorted by their keys, the merge reports, over all their keys in
    increasing order, exactly what each key is owed. -/
theorem merge_eq_flatMap : ∀ (l : List α) (r : List β), (l.Pairwise fun a b => k₁ a < k₁ b) →
    (r.Pairwise fun a b => k₂ a < k₂ b) →
    ∃ ks : List κ, ks.Pairwise (· < ·) ∧ (∀ k, k ∈ ks ↔ k ∈ l.map k₁ ∨ k ∈ r.map k₂) ∧
      merge k₁ k₂ left right both l r = ks.flatMap (reportAt k₁ k₂ left right both l r)
  | [], r, _, hr => by
    refine ⟨r.map k₂, List.pairwise_map.mpr hr, fun k => by simp, ?_⟩
    rw [merge, flatMap_reportAt_right hr]
  | a :: l, [], hl, _ => by
    refine ⟨(a :: l).map k₁, List.pairwise_map.mpr hl, fun k => by simp, ?_⟩
    rw [merge, flatMap_reportAt_left hl, List.flatMap_cons]
  | a :: l, b :: r, hl, hr => by
    have hl' := List.pairwise_cons.mp hl
    have hr' := List.pairwise_cons.mp hr
    rw [merge]
    split_ifs with hab hba
    · -- `a` alone comes first: its key is below every other key
      obtain ⟨ks, hks, hmem, heq⟩ := merge_eq_flatMap l (b :: r) hl'.2 hr
      have hright : ∀ b' ∈ b :: r, k₁ a < k₂ b' := fun b' hb' => by
        rcases List.mem_cons.mp hb' with rfl | hb'
        · exact hab
        · exact hab.trans (hr'.1 b' hb')
      have hbelow := below_keys hmem hl'.1 hright
      refine ⟨k₁ a :: ks, List.pairwise_cons.mpr ⟨hbelow, hks⟩,
        fun k => by simp only [List.mem_cons, hmem, List.map_cons]; tauto, ?_⟩
      have hnone : (b :: r).find? (fun x => k₂ x = k₁ a) = none := find?_key_of_lt hright
      have hhead : reportAt k₁ k₂ left right both (a :: l) (b :: r) (k₁ a) = left a := by
        simp [reportAt, hnone]
      rw [heq, List.flatMap_cons, hhead]
      congr 1
      exact (flatMap_congr fun k hk => reportAt_cons_left (hbelow k hk).ne).symm
    · -- `b` alone comes first
      obtain ⟨ks, hks, hmem, heq⟩ := merge_eq_flatMap (a :: l) r hl hr'.2
      have hleft : ∀ a' ∈ a :: l, k₂ b < k₁ a' := fun a' ha' => by
        rcases List.mem_cons.mp ha' with rfl | ha'
        · exact hba
        · exact hba.trans (hl'.1 a' ha')
      have hbelow := below_keys hmem hleft hr'.1
      refine ⟨k₂ b :: ks, List.pairwise_cons.mpr ⟨hbelow, hks⟩,
        fun k => by simp only [List.mem_cons, hmem, List.map_cons]; tauto, ?_⟩
      have hnone : (a :: l).find? (fun x => k₁ x = k₂ b) = none := find?_key_of_lt hleft
      have hhead : reportAt k₁ k₂ left right both (a :: l) (b :: r) (k₂ b) = right b := by
        simp [reportAt, hnone]
      rw [heq, List.flatMap_cons, hhead]
      congr 1
      exact (flatMap_congr fun k hk => reportAt_cons_right (hbelow k hk).ne).symm
    · -- the same key on both sides
      have hk : k₁ a = k₂ b := le_antisymm (not_lt.mp hba) (not_lt.mp hab)
      obtain ⟨ks, hks, hmem, heq⟩ := merge_eq_flatMap l r hl'.2 hr'.2
      have hbelow := below_keys hmem hl'.1 fun b' hb' => hk ▸ hr'.1 b' hb'
      refine ⟨k₁ a :: ks, List.pairwise_cons.mpr ⟨hbelow, hks⟩,
        fun k => by simp only [List.mem_cons, hmem, List.map_cons, ← hk]; tauto, ?_⟩
      have hhead : reportAt k₁ k₂ left right both (a :: l) (b :: r) (k₁ a) = both a b := by
        simp [reportAt, hk]
      rw [heq, List.flatMap_cons, hhead]
      congr 1
      exact (flatMap_congr fun k hk' => by
        rw [reportAt_cons_left (hbelow k hk').ne, reportAt_cons_right (hk ▸ (hbelow k hk').ne)]).symm
termination_by l r => l.length + r.length

/-! ## Sorting both lists first -/

/-- A stable sort by a key. -/
def sortBy (f : α → κ) (l : List α) : List α :=
  l.mergeSort fun a b => decide (f a ≤ f b)

theorem sortBy_perm (f : α → κ) (l : List α) : (sortBy f l).Perm l :=
  List.mergeSort_perm _ _

theorem sortBy_sorted (f : α → κ) (l : List α) :
    (sortBy f l).Pairwise fun a b => f a ≤ f b :=
  (@List.pairwise_mergeSort α (fun a b => decide (f a ≤ f b))
    (fun _ _ _ hab hbc => decide_eq_true ((of_decide_eq_true hab).trans (of_decide_eq_true hbc)))
    (fun a b => by simpa using le_total (f a) (f b)) l).imp of_decide_eq_true

/-- A key that no two items of `l` share finds the same item in every order of `l`. -/
theorem find?_key_perm {f : α → κ} {l l' : List α} (hp : l.Perm l') (hl : (l.map f).Nodup)
    (k : κ) : l.find? (fun x => f x = k) = l'.find? (fun x => f x = k) :=
  List.find?_eq_find?_of_perm hp fun _ hx _ hy =>
    List.inj_on_of_nodup_map hl hx.1 hy.1 ((of_decide_eq_true hx.2).trans (of_decide_eq_true hy.2).symm)

theorem reportAt_perm {l l' : List α} {r r' : List β} (hl : l.Perm l') (hr : r.Perm r')
    (hlk : (l.map k₁).Nodup) (hrk : (r.map k₂).Nodup) (k : κ) :
    reportAt k₁ k₂ left right both l r k = reportAt k₁ k₂ left right both l' r' k := by
  unfold reportAt
  rw [find?_key_perm hl hlk, find?_key_perm hr hrk]

/-- Every order of `l` sorted by a key that no two of its items share is `sortBy f l`: an
    unstable sort gives the same list. -/
theorem eq_sortBy {f : α → κ} {l l' : List α} (hp : l'.Perm l)
    (hs : l'.Pairwise fun a b => f a ≤ f b) (hl : (l.map f).Nodup) : l' = sortBy f l :=
  KeyedList.eq_of_perm_of_sorted_key f (hp.trans (sortBy_perm f l).symm) hs (sortBy_sorted f l)
    fun _ ha _ hb hab => List.inj_on_of_nodup_map hl (hp.mem_iff.mp ha) (hp.mem_iff.mp hb) hab

/-- A list sorted by a key that no two of its items share is strictly sorted by it. -/
theorem pairwise_lt_of_nodup {f : α → κ} {l : List α} (hle : l.Pairwise fun a b => f a ≤ f b)
    (hl : (l.map f).Nodup) : l.Pairwise fun a b => f a < f b :=
  (hle.and (List.pairwise_map.mp hl)).imp fun h => lt_of_le_of_ne h.1 h.2

/-- Merging sorted orders `l'` and `r'` of `l` and `r`, in each of which no two items share a
    key, reports over all their keys in increasing order what each key is owed in `l` and `r`. -/
theorem merge_sorted_eq_flatMap {l l' : List α} {r r' : List β} (hl : l.Perm l') (hr : r.Perm r')
    (hls : l'.Pairwise fun a b => k₁ a ≤ k₁ b) (hrs : r'.Pairwise fun a b => k₂ a ≤ k₂ b)
    (hlk : (l.map k₁).Nodup) (hrk : (r.map k₂).Nodup) :
    ∃ ks : List κ, ks.Pairwise (· < ·) ∧ (∀ k, k ∈ ks ↔ k ∈ l.map k₁ ∨ k ∈ r.map k₂) ∧
      merge k₁ k₂ left right both l' r' = ks.flatMap (reportAt k₁ k₂ left right both l r) := by
  have hlk' : (l'.map k₁).Nodup := (hl.map k₁).nodup_iff.mp hlk
  have hrk' : (r'.map k₂).Nodup := (hr.map k₂).nodup_iff.mp hrk
  obtain ⟨ks, hks, hmem, heq⟩ :=
    @merge_eq_flatMap α β γ κ _ k₁ k₂ left right both l' r' (pairwise_lt_of_nodup hls hlk')
      (pairwise_lt_of_nodup hrs hrk')
  refine ⟨ks, hks, fun k => by rw [hmem, (hl.map k₁).mem_iff, (hr.map k₂).mem_iff], ?_⟩
  rw [heq]
  exact flatMap_congr fun k _ => reportAt_perm hl.symm hr.symm hlk' hrk' k

end SortedMerge
