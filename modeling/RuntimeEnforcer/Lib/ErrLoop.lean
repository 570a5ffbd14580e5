import Mathlib

/-
  Loops that stop at the first error: the Go shape
  `for _, x := range xs { if err := body(x); err != nil { return err } }` over a state that the
  body changes in place. What an iteration did before it failed stays done, so the state after a
  failed loop is the state the failing iteration left, not the state before the loop.

  `forEach_invariant` is the rule for what every iteration keeps, whether it fails or not;
  `forEach_ok_of_rest` is the rule for an invariant that also names the iterations still to
  come (the keys not yet visited, say) and shows that none of them fails, `forEach_rest_of_ok`
  the rule for such an invariant when the loop is known to have succeeded; `forEach_of_ok` says
  that a loop whose iterations never fail is a fold. For a fold in `Except`, which returns
  nothing but the error when a step fails, `foldlM_invariant` and `foldlM_error` are the same
  two rules. A Go function that fails still returns a value next to its error, which a caller
  may go on to read; `GoResult` keeps both.
-/

namespace ErrLoop

variable {σ α ε : Type}

/-- The loop over `xs` from state `s`: the state after it, and the error it stopped at. -/
def forEach (body : σ → α → σ × Option ε) : List α → σ → σ × Option ε
  | [], s => (s, none)
  | x :: xs, s =>
    match body s x with
    | (s', none) => forEach body xs s'
    | (s', some e) => (s', some e)

variable (body : σ → α → σ × Option ε)

@[simp] theorem forEach_nil (s : σ) : forEach body [] s = (s, none) := rfl

theorem forEach_cons_of_ok {s s' : σ} {x : α} (h : body s x = (s', none)) (xs : List α) :
    forEach body (x :: xs) s = forEach body xs s' := by
  simp only [forEach, h]

theorem forEach_cons_of_err {s s' : σ} {x : α} {e : ε} (h : body s x = (s', some e))
    (xs : List α) : forEach body (x :: xs) s = (s', some e) := by
  simp only [forEach, h]

theorem forEach_cons (s : σ) (x : α) (xs : List α) :
    forEach body (x :: xs) s =
      match (body s x).2 with
      | none => forEach body xs (body s x).1
      | some e => ((body s x).1, some e) := by
  rcases hb : body s x with ⟨s', _ | e⟩
  · exact forEach_cons_of_ok body hb xs
  · exact forEach_cons_of_err body hb xs

/-- What every iteration keeps, from any state, holds after the loop, failed or not. -/
theorem forEach_invariant (I : σ → Prop) {xs : List α}
    (h : ∀ s, ∀ x ∈ xs, I s → I (body s x).1) {s : σ} (hs : I s) :
    I (forEach body xs s).1 := by
  induction xs generalizing s with
  | nil => exact hs
  | cons x xs ih =>
    have hx := h s x List.mem_cons_self hs
    have hrest : ∀ s, ∀ y ∈ xs, I s → I (body s y).1 :=
      fun s y hy => h s y (List.mem_cons_of_mem x hy)
    rw [forEach_cons]
    rcases (body s x).2 with _ | e
    · exact ih hrest hx
    · exact hx

/-- An invariant that also speaks of the iterations still to come: if every iteration from a
    state where it holds for `x :: xs` succeeds and leaves it holding for `xs`, the loop
    succeeds and ends where it holds for `[]`. -/
theorem forEach_ok_of_rest (I : List α → σ → Prop)
    (h : ∀ x xs s, I (x :: xs) s → (body s x).2 = none ∧ I xs (body s x).1) :
    ∀ {xs : List α} {s : σ}, I xs s → (forEach body xs s).2 = none ∧ I [] (forEach body xs s).1
  | [], _, hs => ⟨rfl, hs⟩
  | x :: xs, s, hs => by
    obtain ⟨hok, hI⟩ := h x xs s hs
    rw [forEach_cons_of_ok body (Prod.ext rfl hok) xs]
    exact forEach_ok_of_rest I h hI

/-- The same invariant read the other way: kept by every iteration that succeeds, it holds at the
end of a loop that succeeded. -/
theorem forEach_rest_of_ok (I : List α → σ → Prop)
    (h : ∀ x xs s, I (x :: xs) s → (body s x).2 = none → I xs (body s x).1) :
    ∀ {xs : List α} {s : σ}, I xs s → (forEach body xs s).2 = none → I [] (forEach body xs s).1
  | [], _, hs, _ => hs
  | x :: xs, s, hs, hok => by
    rw [forEach_cons] at hok ⊢
    rcases hx : (body s x).2 with _ | e
    · rw [hx] at hok
      exact forEach_rest_of_ok I h (h x xs s hs hx) hok
    · rw [hx] at hok
      cases hok

/-- A loop whose iterations never fail is the fold of its iterations. -/
theorem forEach_of_ok {xs : List α} (h : ∀ s, ∀ x ∈ xs, (body s x).2 = none) (s : σ) :
    forEach body xs s = (xs.foldl (fun s x => (body s x).1) s, none) := by
  induction xs generalizing s with
  | nil => rfl
  | cons x xs ih =>
    have hx : body s x = ((body s x).1, none) := Prod.ext rfl (h s x List.mem_cons_self)
    rw [forEach_cons_of_ok body hx, ih (fun s y hy => h s y (List.mem_cons_of_mem x hy)),
      List.foldl_cons]

/-! ## Folds whose steps may fail -/

section Fold

variable {β : Type} (step : β → α → Except ε β)

theorem bind_eq_ok {x : Except ε β} {g : β → Except ε σ} {s : σ} :
    (x >>= g) = .ok s ↔ ∃ b, x = .ok b ∧ g b = .ok s := by
  cases x <;> simp [bind, Except.bind]

/-- What every successful step keeps holds at the end of a successful fold. -/
theorem foldlM_invariant (I : β → Prop) {xs : List α}
    (h : ∀ b x b', x ∈ xs → I b → step b x = .ok b' → I b') :
    ∀ {b b' : β}, I b → xs.foldlM step b = .ok b' → I b' := by
  induction xs with
  | nil =>
    intro b b' hb hfold
    rw [List.foldlM_nil] at hfold
    exact (Except.ok.inj hfold) ▸ hb
  | cons x xs ih =>
    intro b b' hb hfold
    rw [List.foldlM_cons, bind_eq_ok] at hfold
    obtain ⟨b₁, hb₁, hrest⟩ := hfold
    exact ih (fun b y b' hy => h b y b' (List.mem_cons_of_mem x hy))
      (h b x b₁ List.mem_cons_self hb hb₁) hrest

/-- A step that fails from every accumulator makes the fold fail. -/
theorem foldlM_error {xs : List α} {x : α} (hx : x ∈ xs) (h : ∀ b, ∃ e, step b x = .error e) :
    ∀ b, ∃ e, xs.foldlM step b = .error e := by
  induction xs with
  | nil => exact absurd hx List.not_mem_nil
  | cons y ys ih =>
    intro b
    rw [List.foldlM_cons]
    rcases List.mem_cons.mp hx with rfl | hx'
    · obtain ⟨e, he⟩ := h b
      exact ⟨e, by rw [he]; rfl⟩
    · rcases hy : step b y with e | b₁
      · exact ⟨e, rfl⟩
      · exact ih hx' b₁

end Fold

/-! ## Results next to errors -/

/-- The results `(v, err)` of a Go function `func f(...) (T, error)`: `ok v` when `err` is nil,
`error v e` when it is not, with the value `v` the function returns beside it. -/
inductive GoResult (α ε : Type) where
  | ok (value : α)
  | error (value : α) (err : ε)
  deriving DecidableEq, Repr

end ErrLoop
