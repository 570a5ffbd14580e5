import Mathlib

/-
  Loops with an iteration bound and an early exit: the C shape
  `for (i = 0; i < n; ++i) if (body(&s)) break;`, which is also what a bounded iterator such
  as `bpf_repeat(n)` runs. `run body n s` is the state after the loop, `breaksWithin body n s`
  says whether the loop left through the `break`.

  `run_invariant` is the rule for what every iteration keeps; `run_of_breaksWithin` is why a
  larger bound does not change a loop that already breaks within a smaller one.

  A `while` loop is such a loop whose `break` is its condition failing. It breaks within one
  more iteration than a measure that every other iteration lowers (`breaksWithin_of_measure`),
  and then it ends where its `break` leaves it (`run_eq_of_breaksWithin`).
-/

namespace BoundedLoop

variable {σ : Type}

/-- At most `n` iterations of `body`; the first component of its result is the `break`. -/
def run (body : σ → Bool × σ) : Nat → σ → σ
  | 0, s => s
  | n + 1, s =>
    match body s with
    | (true, s') => s'
    | (false, s') => run body n s'

/-- The loop leaves through its `break` within `n` iterations. -/
def breaksWithin (body : σ → Bool × σ) : Nat → σ → Bool
  | 0, _ => false
  | n + 1, s => (body s).1 || breaksWithin body n (body s).2

variable (body : σ → Bool × σ)

@[simp] theorem run_zero (s : σ) : run body 0 s = s := rfl

theorem run_succ_of_break {s : σ} (h : (body s).1 = true) (n : Nat) :
    run body (n + 1) s = (body s).2 := by
  rcases hb : body s with ⟨b, s'⟩
  rw [hb] at h
  subst h
  simp only [run, hb]

theorem run_succ_of_continue {s : σ} (h : (body s).1 = false) (n : Nat) :
    run body (n + 1) s = run body n (body s).2 := by
  rcases hb : body s with ⟨b, s'⟩
  rw [hb] at h
  subst h
  simp only [run, hb]

/-- What every iteration keeps holds after the loop. -/
theorem run_invariant (I : σ → Prop) (h : ∀ s, I s → I (body s).2) :
    ∀ (n : Nat) (s : σ), I s → I (run body n s)
  | 0, _, hs => hs
  | n + 1, s, hs => by
    cases hb : (body s).1
    · rw [run_succ_of_continue body hb]
      exact run_invariant I h n _ (h s hs)
    · rw [run_succ_of_break body hb]
      exact h s hs

theorem breaksWithin_mono {n m : Nat} (hnm : n ≤ m) {s : σ} (h : breaksWithin body n s = true) :
    breaksWithin body m s = true := by
  induction n generalizing m s with
  | zero => simp [breaksWithin] at h
  | succ n ih =>
    obtain ⟨m, rfl⟩ : ∃ m', m = m' + 1 := ⟨m - 1, by omega⟩
    simp only [breaksWithin, Bool.or_eq_true] at h ⊢
    rcases h with h | h
    · exact Or.inl h
    · exact Or.inr (ih (by omega) h)

/-- A loop that breaks within `n` iterations ends in the same state under any larger bound. -/
theorem run_of_breaksWithin {n m : Nat} (hnm : n ≤ m) {s : σ} (h : breaksWithin body n s = true) :
    run body m s = run body n s := by
  induction n generalizing m s with
  | zero => simp [breaksWithin] at h
  | succ n ih =>
    obtain ⟨m, rfl⟩ : ∃ m', m = m' + 1 := ⟨m - 1, by omega⟩
    cases hb : (body s).1
    · simp only [breaksWithin, hb, Bool.false_or] at h
      rw [run_succ_of_continue body hb, run_succ_of_continue body hb, ih (by omega) h]
    · rw [run_succ_of_break body hb, run_succ_of_break body hb]

/-- A loop each of whose iterations lowers `μ` unless it breaks breaks within `μ s + 1`
    iterations. -/
theorem breaksWithin_of_measure (μ : σ → Nat) (h : ∀ s, (body s).1 = false → μ (body s).2 < μ s) :
    ∀ s, breaksWithin body (μ s + 1) s = true := by
  intro s
  induction hμ : μ s using Nat.strong_induction_on generalizing s with
  | _ n ih =>
    simp only [breaksWithin, Bool.or_eq_true]
    cases hb : (body s).1
    · right
      have hlt := h s hb
      have := ih (μ (body s).2) (hμ ▸ hlt) (body s).2 rfl
      exact breaksWithin_mono body (by omega) this
    · left
      rfl

/-- A loop that breaks within `n` iterations ends in the state its `break` leaves, after a
    state that the invariant holds of. -/
theorem run_eq_of_breaksWithin (I : σ → Prop) (h : ∀ s, I s → (body s).1 = false → I (body s).2) :
    ∀ (n : Nat) (s : σ), I s → breaksWithin body n s = true →
      ∃ s', I s' ∧ (body s').1 = true ∧ run body n s = (body s').2
  | 0, _, _, hb => by simp [breaksWithin] at hb
  | n + 1, s, hs, hb => by
    cases hbody : (body s).1
    · simp only [breaksWithin, hbody, Bool.false_or] at hb
      rw [run_succ_of_continue body hbody]
      exact run_eq_of_breaksWithin I h n _ (h s hs hbody) hb
    · exact ⟨s, hs, hbody, run_succ_of_break body hbody n⟩

end BoundedLoop
