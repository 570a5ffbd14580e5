import Mathlib

/-
  A list that collects values up to a bound: it keeps the first `cap - 1` values it is given
  and then one marker for all the rest, so it never holds more than `cap` entries.

  `push` is one addition and `collect` what a run of additions leaves: adding to what `ys`
  left gives what `ys ++ [x]` leaves (`push_collect`), so from the empty list a run leaves the
  first `cap - 1` values in order and the marker exactly when `cap` or more were given
  (`foldl_push`).
-/

namespace Capped

variable {α : Type} (cap : Nat) (marker : α)

/-- Add `x`: append it while there is room for it and the marker, append the marker when
    there is room for the marker only, and drop `x` after that. -/
def push (l : List α) (x : α) : List α :=
  if l.length < cap - 1 then l ++ [x]
  else if l.length = cap - 1 then l ++ [marker]
  else l

/-- What adding the values `xs` to an empty list leaves. -/
def collect (xs : List α) : List α :=
  xs.take (cap - 1) ++ if cap ≤ xs.length then [marker] else []

variable {cap} {marker}

theorem collect_nil (hcap : 0 < cap) : collect cap marker ([] : List α) = [] := by
  simp only [collect, List.take_nil, List.length_nil, List.nil_append]
  rw [if_neg (by omega)]

theorem length_collect (xs : List α) :
    (collect cap marker xs).length = min xs.length (cap - 1) + if cap ≤ xs.length then 1 else 0 := by
  unfold collect
  split_ifs <;> simp [Nat.min_comm]

theorem push_collect (hcap : 0 < cap) (ys : List α) (x : α) :
    push cap marker (collect cap marker ys) x = collect cap marker (ys ++ [x]) := by
  have hlen : (collect cap marker ys).length = _ := length_collect ys
  unfold push
  split_ifs with hroom hlast
  · -- room for `x`: fewer than `cap - 1` values so far
    have hys : ys.length < cap - 1 := by split_ifs at hlen <;> omega
    unfold collect
    rw [if_neg (by omega), if_neg (by simp; omega), List.append_nil, List.append_nil,
      List.take_of_length_le (by omega), List.take_of_length_le (by simp; omega)]
  · -- room for the marker only: exactly `cap - 1` values so far
    have hys : ys.length = cap - 1 := by split_ifs at hlen <;> omega
    unfold collect
    rw [if_neg (by omega), if_pos (by simp; omega), List.append_nil,
      List.take_append_of_le_length (by omega), List.take_of_length_le (by omega)]
  · -- full: the marker is already there
    have hys : cap ≤ ys.length := by split_ifs at hlen <;> omega
    unfold collect
    rw [if_pos hys, if_pos (by simp; omega), List.take_append_of_le_length (by omega)]

theorem foldl_push (hcap : 0 < cap) (xs : List α) :
    xs.foldl (push cap marker) [] = collect cap marker xs := by
  suffices h : ∀ ys, xs.foldl (push cap marker) (collect cap marker ys) = collect cap marker (ys ++ xs) by
    simpa [collect_nil hcap] using h []
  induction xs with
  | nil => simp
  | cons x xs ih =>
    intro ys
    rw [List.foldl_cons, push_collect hcap, ih, List.append_assoc, List.singleton_append]

theorem mem_collect {xs : List α} {y : α} (h : y ∈ collect cap marker xs) : y ∈ xs ∨ y = marker := by
  unfold collect at h
  rcases List.mem_append.mp h with h | h
  · exact Or.inl (List.mem_of_mem_take h)
  · split_ifs at h
    · exact Or.inr (List.mem_singleton.mp h)
    · cases h

/-- Before `cap` values were given, the marker has not been added. -/
theorem mem_of_mem_collect {xs : List α} {y : α} (hxs : xs.length < cap)
    (h : y ∈ collect cap marker xs) : y ∈ xs := by
  unfold collect at h
  rw [if_neg (by omega), List.append_nil] at h
  exact List.mem_of_mem_take h

end Capped
