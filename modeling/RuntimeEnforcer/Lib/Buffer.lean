import Mathlib

/-
  Byte buffers as functions `Nat → α`, the windows read out of them, and zero padding.

  A C buffer such as `char path[3 * 4096]` is read and written only inside its bounds by the
  code that uses this module, so it is modelled by a total function; `write buf off l` stores
  `l` at `off`, `read buf off n` is the `n` cells starting at `off`. `pad n l` is `l`
  followed by zeros up to length `n`: a fixed-size map key holding a shorter string.
  `pad_inj` is why zero padding keeps keys apart: two zero-free strings with the same padded
  key are equal.
-/

namespace Buffer

variable {α : Type}

/-- Store `l` at offset `off`; every other cell is unchanged. -/
def write (buf : Nat → α) (off : Nat) (l : List α) : Nat → α :=
  fun j => if off ≤ j then (l[j - off]?).getD (buf j) else buf j

/-- The `n` cells starting at `off`. -/
def read (buf : Nat → α) (off n : Nat) : List α :=
  List.ofFn fun i : Fin n => buf (off + i)

/-- `buf` holds `l` at `off`. -/
def Holds (buf : Nat → α) (off : Nat) (l : List α) : Prop :=
  read buf off l.length = l

@[simp] theorem read_length (buf : Nat → α) (off n : Nat) : (read buf off n).length = n := by
  simp [read]

theorem getElem_read (buf : Nat → α) (off n i : Nat) (h : i < (read buf off n).length) :
    (read buf off n)[i] = buf (off + i) := by
  simp [read]

@[simp] theorem read_zero (buf : Nat → α) (off : Nat) : read buf off 0 = [] := rfl

theorem read_succ (buf : Nat → α) (off n : Nat) :
    read buf off (n + 1) = buf off :: read buf (off + 1) n := by
  simp only [read, List.ofFn_succ, Fin.val_zero, Nat.add_zero, Fin.val_succ]
  congr 2
  funext i
  congr 1
  omega

theorem read_ext {buf buf' : Nat → α} {off n : Nat}
    (h : ∀ i, i < n → buf (off + i) = buf' (off + i)) : read buf off n = read buf' off n := by
  apply List.ext_getElem (by simp)
  intro i h1 h2
  rw [getElem_read, getElem_read]
  exact h i (by simpa using h1)

theorem read_append (buf : Nat → α) (off m n : Nat) :
    read buf off (m + n) = read buf off m ++ read buf (off + m) n := by
  induction m generalizing off with
  | zero => simp
  | succ m ih =>
    rw [Nat.add_right_comm, read_succ, read_succ, ih, List.cons_append,
      show off + 1 + m = off + (m + 1) by omega]

/-- A shorter window is a prefix of a longer one. -/
theorem take_read (buf : Nat → α) (off : Nat) {m n : Nat} (h : n ≤ m) :
    (read buf off m).take n = read buf off n := by
  obtain ⟨k, rfl⟩ : ∃ k, m = n + k := ⟨m - n, by omega⟩
  rw [read_append, List.take_left' (read_length buf off n)]

theorem write_of_lt {buf : Nat → α} {off j : Nat} (l : List α) (h : j < off) :
    write buf off l j = buf j := by
  simp [write, Nat.not_le.mpr h]

theorem write_of_ge {buf : Nat → α} {off j : Nat} {l : List α} (h : off + l.length ≤ j) :
    write buf off l j = buf j := by
  have hj : off ≤ j := by omega
  have hn : l[j - off]? = none := List.getElem?_eq_none (by omega)
  simp [write, hj, hn]

theorem write_at (buf : Nat → α) (off : Nat) (l : List α) (i : Nat) (h : i < l.length) :
    write buf off l (off + i) = l[i] := by
  simp [write, List.getElem?_eq_getElem h]

/-- Cells outside the written range keep their value. -/
theorem write_of_not_mem {buf : Nat → α} {off j : Nat} {l : List α}
    (h : j < off ∨ off + l.length ≤ j) : write buf off l j = buf j := by
  rcases h with h | h
  · exact write_of_lt l h
  · exact write_of_ge h

theorem holds_write (buf : Nat → α) (off : Nat) (l : List α) : Holds (write buf off l) off l := by
  apply List.ext_getElem (by simp)
  intro i h1 h2
  rw [getElem_read, write_at buf off l i h2]

/-- A read that does not overlap a write sees the old cells. -/
theorem read_write_of_disjoint {buf : Nat → α} {off off' n : Nat} {l : List α}
    (h : off' + n ≤ off ∨ off + l.length ≤ off') :
    read (write buf off l) off' n = read buf off' n := by
  apply read_ext
  intro i hi
  apply write_of_not_mem
  omega

/-- Reading from where `l` was written, past its end: `l`, then what the buffer held after it. -/
theorem read_write_append {buf : Nat → α} {off n : Nat} {l : List α} (h : l.length ≤ n) :
    read (write buf off l) off n = l ++ read buf (off + l.length) (n - l.length) := by
  obtain ⟨k, rfl⟩ : ∃ k, n = l.length + k := ⟨n - l.length, by omega⟩
  rw [read_append, show read (write buf off l) off l.length = l from holds_write buf off l,
    read_write_of_disjoint (Or.inr le_rfl), Nat.add_sub_cancel_left]

@[simp] theorem write_nil (buf : Nat → α) (off : Nat) : write buf off [] = buf := by
  funext j
  simp [write]

/-- Writing `x ++ y` is writing `x`, then `y` right after it. -/
theorem write_append (buf : Nat → α) (off : Nat) (x y : List α) :
    write buf off (x ++ y) = write (write buf off x) (off + x.length) y := by
  funext j
  by_cases h1 : j < off
  · rw [write_of_lt _ h1, write_of_lt _ (by omega), write_of_lt _ h1]
  by_cases h2 : j < off + x.length
  · rw [write_of_lt _ h2]
    obtain ⟨i, rfl⟩ : ∃ i, j = off + i := ⟨j - off, by omega⟩
    rw [write_at _ _ _ _ (by simp; omega), write_at _ _ _ _ (by omega),
      List.getElem_append_left (by omega)]
  · obtain ⟨i, rfl⟩ : ∃ i, j = off + x.length + i := ⟨j - (off + x.length), by omega⟩
    by_cases h3 : i < y.length
    · rw [write_at _ _ _ _ h3, Nat.add_assoc, write_at _ _ _ _ (by simp; omega),
        List.getElem_append_right (by omega)]
      simp
    · have hxy : off + (x ++ y).length ≤ off + x.length + i := by simp; omega
      have hy : off + x.length + y.length ≤ off + x.length + i := by omega
      have hx : off + x.length ≤ off + x.length + i := by omega
      rw [write_of_ge hxy, write_of_ge hy, write_of_ge hx]

/-- Writes to disjoint ranges commute. -/
theorem write_comm (buf : Nat → α) {off off' : Nat} (x y : List α) (h : off + x.length ≤ off') :
    write (write buf off x) off' y = write (write buf off' y) off x := by
  funext j
  by_cases hj : j < off'
  · rw [write_of_lt _ hj]
    by_cases hx : off ≤ j ∧ j < off + x.length
    · obtain ⟨i, rfl⟩ : ∃ i, j = off + i := ⟨j - off, by omega⟩
      rw [write_at _ _ _ _ (by omega), write_at _ _ _ _ (by omega)]
    · rw [write_of_not_mem (by omega), write_of_not_mem (by omega), write_of_lt _ hj]
  · rw [write_of_not_mem (l := x) (by omega)]
    by_cases hy : j < off' + y.length
    · obtain ⟨i, rfl⟩ : ∃ i, j = off' + i := ⟨j - off', by omega⟩
      rw [write_at _ _ _ _ (by omega), write_at _ _ _ _ (by omega)]
    · have hy' : off' + y.length ≤ j := by omega
      rw [write_of_ge hy', write_of_ge hy', write_of_not_mem (by omega)]

/-- A write that ends where an earlier one starts extends it to the left: how a path is
    built from its last component back to its first. -/
theorem write_prepend (buf : Nat → α) (off : Nat) (x y : List α) :
    write (write buf (off + y.length) x) off y = write buf off (y ++ x) := by
  rw [← write_comm buf y x (le_refl _), write_append]

/-! ## Zero padding -/

section Pad

variable [Zero α]

/-- `l` followed by zeros up to length `n` (no change when `l` is already that long). -/
def pad (n : Nat) (l : List α) : List α :=
  l ++ List.replicate (n - l.length) 0

/-- No cell of `l` is zero. -/
def ZeroFree (l : List α) : Prop :=
  ∀ x ∈ l, x ≠ 0

theorem zeroFree_nil : ZeroFree ([] : List α) :=
  fun _ hx => absurd hx List.not_mem_nil

theorem zeroFree_cons {a : α} {l : List α} (ha : a ≠ 0) (hl : ZeroFree l) : ZeroFree (a :: l) := by
  intro x hx
  rcases List.mem_cons.mp hx with rfl | hx
  · exact ha
  · exact hl x hx

theorem zeroFree_append {l l' : List α} (hl : ZeroFree l) (hl' : ZeroFree l') :
    ZeroFree (l ++ l') := by
  intro x hx
  rcases List.mem_append.mp hx with hx | hx
  · exact hl x hx
  · exact hl' x hx

theorem zeroFree_replicate {n : Nat} {a : α} (ha : a ≠ 0) : ZeroFree (List.replicate n a) :=
  fun x hx => by rw [List.eq_of_mem_replicate hx]; exact ha

theorem pad_of_length_eq {n : Nat} {l : List α} (h : l.length = n) : pad n l = l := by
  simp [pad, h]

theorem take_pad {m n : Nat} {l : List α} (hl : l.length ≤ m) (hm : m ≤ n) :
    (pad n l).take m = pad m l := by
  simp only [pad, List.take_append, List.take_replicate]
  rw [List.take_of_length_le hl]
  congr 2
  omega

theorem getElem?_pad_of_ge {n i : Nat} {l : List α} (hi : l.length ≤ i) (hn : i < n) :
    (pad n l)[i]? = some 0 := by
  simp only [pad]
  rw [List.getElem?_append_right hi, List.getElem?_replicate]
  simp
  omega

theorem getElem?_pad_of_lt {n i : Nat} {l : List α} (hi : i < l.length) :
    (pad n l)[i]? = l[i]? := by
  simp only [pad]
  rw [List.getElem?_append_left hi]

/-- The shorter of two zero-free strings with one padded key would end in a padding zero
    where the longer one has a byte. -/
theorem length_le_of_pad_eq {n : Nat} {a b : List α} (hb : ZeroFree b) (hbn : b.length ≤ n)
    (h : pad n a = pad n b) : b.length ≤ a.length := by
  by_contra hlt
  have hlt : a.length < b.length := by omega
  have h1 : (pad n a)[a.length]? = some 0 := getElem?_pad_of_ge (le_refl _) (by omega)
  have h2 : (pad n b)[a.length]? = some b[a.length] := by
    rw [getElem?_pad_of_lt hlt, List.getElem?_eq_getElem hlt]
  rw [h, h2, Option.some.injEq] at h1
  exact hb _ (List.getElem_mem hlt) h1

/-- Zero padding is injective on zero-free strings that fit. -/
theorem pad_inj {n : Nat} {a b : List α} (ha : ZeroFree a) (hb : ZeroFree b)
    (han : a.length ≤ n) (hbn : b.length ≤ n) (h : pad n a = pad n b) : a = b := by
  have hlen : a.length = b.length :=
    le_antisymm (length_le_of_pad_eq ha han h.symm) (length_le_of_pad_eq hb hbn h)
  exact (List.append_inj h hlen).1

/-- A buffer holding `l` at `off` followed by zeros reads back as `pad n l`. -/
theorem read_eq_pad {buf : Nat → α} {off n : Nat} {l : List α} (hl : l.length ≤ n)
    (hh : Holds buf off l) (hz : ∀ i, l.length ≤ i → i < n → buf (off + i) = 0) :
    read buf off n = pad n l := by
  have hn : n = l.length + (n - l.length) := by omega
  rw [hn, read_append, hh]
  simp only [pad, Nat.add_sub_cancel_left]
  congr 1
  apply List.ext_getElem (by simp)
  intro i h1 _
  rw [getElem_read, List.getElem_replicate, Nat.add_assoc]
  exact hz _ (by omega) (by simp at h1; omega)

end Pad

end Buffer
