import Mathlib

/-
  Lists of keyed entries whose order is not meant to matter.

  A list in which entries with the same key are equal looks every key up the same way in any
  order (`dlookup_eq_of_perm`). Two orders of one list, each sorted by a key that tells its
  entries apart, are the same list (`eq_of_perm_of_sorted_key`). A `filterMap` that keeps
  each entry's key lists a part of the keys, in their order (`map_filterMap_sublist`). An
  association list of one entry has one key (`key_eq_of_length_eq_one`), and keeping the
  entries whose key satisfies `p` keeps the lookups of those keys (`dlookup_filter_key`).
-/

namespace KeyedList

variable {α β : Type}

/-- Entries that share a key are equal. -/
def Agree (l : List (Σ _ : α, β)) : Prop :=
  ∀ e ∈ l, ∀ e' ∈ l, e.1 = e'.1 → e = e'

theorem dlookup_eq_of_perm [DecidableEq α] {l l' : List (Σ _ : α, β)} (hp : l.Perm l')
    (h : Agree l) (k : α) : l.dlookup k = l'.dlookup k := by
  have hkeys : k ∈ l.keys ↔ k ∈ l'.keys := (hp.map Sigma.fst).mem_iff
  cases hl : l.dlookup k with
  | none =>
    have hk : k ∉ l.keys := by
      rw [← List.dlookup_isSome, hl]
      exact Bool.false_ne_true
    exact (List.dlookup_eq_none.mpr (hkeys.not.mp hk)).symm
  | some r =>
    have hmem : (⟨k, r⟩ : Σ _ : α, β) ∈ l := List.of_mem_dlookup (hl ▸ rfl)
    obtain ⟨r', hr'⟩ := Option.isSome_iff_exists.mp
      (List.dlookup_isSome.mpr (hkeys.mp (List.mem_keys_of_mem hmem)))
    have hmem' : (⟨k, r'⟩ : Σ _ : α, β) ∈ l := hp.mem_iff.mpr (List.of_mem_dlookup (hr' ▸ rfl))
    have hrr : (⟨k, r⟩ : Σ _ : α, β) = ⟨k, r'⟩ := h _ hmem _ hmem' rfl
    rw [hr', (Sigma.mk.inj hrr).2.eq]

/-- Two orders of one list, both sorted by a key that no two of its entries share. -/
theorem eq_of_perm_of_sorted_key {γ : Type} {κ : Type} [PartialOrder κ] (key : γ → κ)
    {l l' : List γ} (hp : l.Perm l') (hl : l.Pairwise fun a b => key a ≤ key b)
    (hl' : l'.Pairwise fun a b => key a ≤ key b)
    (hkey : ∀ a ∈ l, ∀ b ∈ l, key a = key b → a = b) : l = l' :=
  hp.eq_of_pairwise (fun a b ha hb hab hba => hkey a ha b (hp.mem_iff.mpr hb) (le_antisymm hab hba))
    hl hl'

/-- What a `filterMap` keeps, read by a key that each kept item takes from its entry, is a
    sublist of the entries' keys. -/
theorem map_filterMap_sublist {γ δ κ : Type} {g : γ → Option δ} {key : δ → κ} {key' : γ → κ} :
    ∀ {l : List γ}, (∀ a ∈ l, ∀ b, g a = some b → key b = key' a) →
      List.Sublist ((l.filterMap g).map key) (l.map key')
  | [], _ => List.Sublist.slnil
  | a :: l, h => by
    have htail : ∀ a' ∈ l, ∀ b, g a' = some b → key b = key' a' := fun a' ha' =>
      h a' (List.mem_cons_of_mem _ ha')
    cases ha : g a with
    | none =>
      rw [List.filterMap_cons_none ha, List.map_cons]
      exact (map_filterMap_sublist htail).cons _
    | some b =>
      rw [List.filterMap_cons_some ha, List.map_cons, List.map_cons, h a List.mem_cons_self b ha]
      exact (map_filterMap_sublist htail).cons_cons _

theorem key_eq_of_length_eq_one [DecidableEq α] {γ : α → Type} {s : AList γ}
    (h : s.entries.length = 1) {a b : α} {x : γ a} {y : γ b} (ha : s.lookup a = some x)
    (hb : s.lookup b = some y) : a = b := by
  obtain ⟨e, he⟩ := List.length_eq_one_iff.mp h
  have hxa : (⟨a, x⟩ : Sigma γ) ∈ s.entries := AList.mem_lookup_iff.mp ha
  have hyb : (⟨b, y⟩ : Sigma γ) ∈ s.entries := AList.mem_lookup_iff.mp hb
  rw [he, List.mem_singleton] at hxa hyb
  exact congrArg Sigma.fst (hxa.trans hyb.symm)

theorem dlookup_filter_key [DecidableEq α] {γ : α → Type} (p : α → Bool) (a : α) :
    ∀ l : List (Sigma γ), (l.filter fun e => p e.1).dlookup a = if p a then l.dlookup a else none
  | [] => by simp
  | ⟨b, v⟩ :: l => by
    by_cases hab : a = b
    · subst hab
      by_cases hp : p a <;> simp [hp, dlookup_filter_key p a l]
    · by_cases hp : p b <;>
        simp [hp, List.dlookup_cons_ne _ ⟨b, v⟩ hab, dlookup_filter_key p a l]

end KeyedList
