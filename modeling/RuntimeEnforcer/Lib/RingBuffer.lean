import Mathlib

/-
  A ring of `cap` cells that a writer fills round and round, with the number of writes since
  the last reset. Once every cell is full, each write overwrites the oldest one. `recent` reads
  the cells back newest first: the last `min pos cap` writes.

  `recent_write` is the abstract model. A write puts its value in front of `recent` and keeps
  the first `cap` values, so the ring holds the `cap` most recent writes. What it lost is
  `(x :: recent).drop cap`, which is one value exactly when `cap ≤ pos` (`drop_length_eq`).
  `countP_write` is the bookkeeping rule built on that.

  `Holds r since` relates a ring to the queue it stands for: the values written since the
  last reset, oldest first. A write appends to that queue (`Holds.write`) and a reset empties
  it (`holds_reset`), so a ring read back after any writes and resets gives the last `cap`
  values of its queue, newest first.
-/

/-- `cap` cells and the number of writes since the last reset. -/
structure RingBuffer (α : Type) (cap : Nat) where
  buf : Fin cap → α
  pos : Nat

namespace RingBuffer

variable {α : Type} {cap : Nat} [NeZero cap]

/-- The cell that write number `i` goes to. -/
def slot (cap : Nat) [NeZero cap] (i : Nat) : Fin cap :=
  ⟨i % cap, Nat.mod_lt _ (Nat.pos_of_neZero cap)⟩

/-- Write `x` into the next cell. -/
def write (r : RingBuffer α cap) (x : α) : RingBuffer α cap :=
  ⟨Function.update r.buf (slot cap r.pos) x, r.pos + 1⟩

/-- The last `min pos cap` writes, newest first. -/
def recent (r : RingBuffer α cap) : List α :=
  (List.range (min r.pos cap)).map fun i => r.buf (slot cap (r.pos - 1 - i))

@[simp] theorem write_pos (r : RingBuffer α cap) (x : α) : (r.write x).pos = r.pos + 1 := rfl

@[simp] theorem length_recent (r : RingBuffer α cap) : r.recent.length = min r.pos cap := by
  simp [recent]

theorem recent_of_pos_eq_zero {r : RingBuffer α cap} (h : r.pos = 0) : r.recent = [] := by
  simp [recent, h]

/-- Two writes less than `cap` apart go to different cells. -/
theorem slot_sub_ne {p i : Nat} (hi : 0 < i) (hic : i < cap) (hp : i ≤ p) :
    slot cap (p - i) ≠ slot cap p := by
  intro h
  have hmod : p % cap = (p - i) % cap := (congrArg Fin.val h).symm
  have hzero := Nat.sub_mod_eq_zero_of_mod_eq hmod
  rw [Nat.sub_sub_self hp, Nat.mod_eq_of_lt hic] at hzero
  omega

theorem recent_write (r : RingBuffer α cap) (x : α) :
    (r.write x).recent = (x :: r.recent).take cap := by
  apply List.ext_getElem
  · simp only [length_recent, write_pos, List.length_take, List.length_cons]
    omega
  · intro i h₁ h₂
    rw [List.getElem_take]
    cases i with
    | zero => simp [recent, write]
    | succ j =>
      have hj : j + 1 < min (r.pos + 1) cap := by simpa using h₁
      have hne : slot cap (r.pos - (j + 1)) ≠ slot cap r.pos :=
        slot_sub_ne (Nat.succ_pos j) (by omega) (by omega)
      simp only [recent, write, List.getElem_map, List.getElem_range, List.getElem_cons_succ]
      rw [show r.pos + 1 - 1 - (j + 1) = r.pos - (j + 1) by omega, Function.update_of_ne hne]
      congr 2
      omega

/-- A write overwrites a value exactly when the ring is full. -/
theorem drop_length_eq (r : RingBuffer α cap) (x : α) :
    ((x :: r.recent).drop cap).length = if cap ≤ r.pos then 1 else 0 := by
  rw [List.length_drop, List.length_cons, length_recent]
  split_ifs <;> omega

/-- What a write adds to a count over the ring: the new value less the one it overwrote. -/
theorem countP_write (r : RingBuffer α cap) (x : α) (p : α → Bool) :
    (x :: r.recent).countP p = (r.write x).recent.countP p + ((x :: r.recent).drop cap).countP p := by
  rw [recent_write, ← List.countP_append, List.take_append_drop]

/-! ## The queue a ring stands for -/

/-- The ring holds the queue `since`, oldest first: it counts its values and reads back its
    last `cap`, newest first. -/
def Holds (r : RingBuffer α cap) (since : List α) : Prop :=
  r.pos = since.length ∧ r.recent = since.reverse.take cap

theorem Holds.write {r : RingBuffer α cap} {since : List α} (h : r.Holds since) (x : α) :
    (r.write x).Holds (since ++ [x]) := by
  obtain ⟨hpos, hrecent⟩ := h
  obtain ⟨c, hc⟩ : ∃ c, cap = c + 1 := ⟨cap - 1, (Nat.succ_pred_eq_of_pos (Nat.pos_of_neZero cap)).symm⟩
  refine ⟨by simp [hpos], ?_⟩
  rw [recent_write, hrecent, List.reverse_append, List.reverse_singleton, List.singleton_append,
    hc, List.take_succ_cons, List.take_succ_cons, List.take_take, Nat.min_eq_left (Nat.le_succ c)]

/-- A ring whose count is reset holds the empty queue, whatever its cells. -/
theorem holds_reset (r : RingBuffer α cap) : (⟨r.buf, 0⟩ : RingBuffer α cap).Holds [] := by
  refine ⟨rfl, ?_⟩
  rw [recent_of_pos_eq_zero rfl, List.reverse_nil, List.take_nil]

end RingBuffer
