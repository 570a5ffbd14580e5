import Mathlib

/-
  Unix paths the way Go's strings.Split and path/filepath handle them, over character lists.

  `clean` is filepath.Clean by its element rules: empty and "." elements go, a ".." removes the
  element before it, a ".." with nothing before it is dropped at the root and kept in a
  relative path, and the result is rooted exactly when the input is. `join` is filepath.Join:
  the elements from the first nonempty one on, joined by '/' and cleaned.

  `rootedPath es` is the path "/e₁/e₂/…" naming the elements `es`. When no element is "." or ".."
  and none holds a '/', `clean` keeps such a path up to its empty elements (`clean_rootedPath`),
  so that joining onto a rooted path appends (`join_of_ne_nil`, then `rootedPath_append`).
-/

namespace GoPath

/-! ## Splitting and joining at a separator -/

section Split

variable {α : Type} {x a : α} {l xs : List α} {ls : List (List α)}

/-- A piece of `splitOnP p xs` is made of elements of `xs` that are not separators. -/
theorem forall_mem_splitOnP (p : α → Bool) :
    ∀ (xs : List α), ∀ l ∈ xs.splitOnP p, ∀ a ∈ l, a ∈ xs ∧ p a = false
  | [] => by simp [List.splitOnP_nil]
  | y :: ys => by
    have ih := forall_mem_splitOnP p ys
    obtain ⟨h, t, ht⟩ := List.exists_cons_of_ne_nil (List.splitOnP_ne_nil p ys)
    rw [List.splitOnP_cons_eq_if_modifyHead]
    split
    · -- `y` is a separator: it starts a new, empty piece
      intro l hl a ha
      rcases List.mem_cons.mp hl with rfl | hl
      · simp at ha
      · exact ⟨List.mem_cons_of_mem y (ih l hl a ha).1, (ih l hl a ha).2⟩
    · -- `y` joins the first piece
      rename_i hy
      rw [ht, List.modifyHead_cons]
      rw [ht] at ih
      intro l hl a ha
      rcases List.mem_cons.mp hl with rfl | hl
      · rcases List.mem_cons.mp ha with rfl | ha
        · exact ⟨List.mem_cons_self, by simpa using hy⟩
        · exact ⟨List.mem_cons_of_mem y (ih h List.mem_cons_self a ha).1,
            (ih h List.mem_cons_self a ha).2⟩
      · exact ⟨List.mem_cons_of_mem y (ih l (List.mem_cons_of_mem h hl) a ha).1,
          (ih l (List.mem_cons_of_mem h hl) a ha).2⟩

theorem mem_intercalate : ∀ {ls : List (List α)}, a ∈ [x].intercalate ls → a = x ∨ ∃ l ∈ ls, a ∈ l
  | [], h => by simp at h
  | [l], h => .inr ⟨l, List.mem_singleton_self l, by simpa using h⟩
  | l :: l' :: ls, h => by
    rw [List.intercalate_cons_cons] at h
    rcases List.mem_append.mp h with h | h
    · rcases List.mem_append.mp h with h | h
      · exact .inr ⟨l, List.mem_cons_self, h⟩
      · exact .inl (List.mem_singleton.mp h)
    · rcases mem_intercalate h with h | ⟨l'', hl'', h⟩
      · exact .inl h
      · exact .inr ⟨l'', List.mem_cons_of_mem l hl'', h⟩

/-- A list of pieces, each closed by the separator, then a last piece: the pieces joined. -/
theorem flatten_map_append_singleton (ls : List (List α)) (l : List α) :
    (ls.map (· ++ [x])).flatten ++ l = [x].intercalate (ls ++ [l]) := by
  induction ls with
  | nil => simp
  | cons l' ls ih =>
    rw [List.cons_append, List.intercalate_cons_of_ne_nil (by simp), ← ih]
    simp

variable [BEq α]

theorem mem_of_mem_splitOn (hl : l ∈ xs.splitOn x) (ha : a ∈ l) : a ∈ xs := by
  rw [List.splitOn_eq_splitOnP] at hl
  exact (forall_mem_splitOnP _ xs l hl a ha).1

theorem not_mem_of_mem_splitOn [LawfulBEq α] (hl : l ∈ xs.splitOn x) : x ∉ l := fun hx => by
  rw [List.splitOn_eq_splitOnP] at hl
  simpa using (forall_mem_splitOnP _ xs l hl x hx).2

end Split

/-! ## Clean and Join -/

/-- An element that `clean` keeps as it is: no separator in it, and neither "." nor "..". An empty
element is plain; `clean` drops it. -/
def Plain (e : List Char) : Prop := '/' ∉ e ∧ e ≠ ['.'] ∧ e ≠ ['.', '.']

instance : DecidablePred Plain := fun _ => inferInstanceAs (Decidable (_ ∧ _ ∧ _))

/-- The elements `clean` keeps, the last one first, pushed onto the stack `acc` of those kept so
far. A ".." pops a real element; with none to pop it is dropped at the root and pushed in a
relative path, where the stack then holds only ".." elements. -/
def cleanElems (rooted : Bool) : List (List Char) → List (List Char) → List (List Char)
  | acc, [] => acc
  | acc, e :: es =>
    if e = [] ∨ e = ['.'] then cleanElems rooted acc es
    else if e = ['.', '.'] then
      match acc with
      | d :: rest =>
        if d = ['.', '.'] then cleanElems rooted (e :: acc) es else cleanElems rooted rest es
      | [] => if rooted then cleanElems rooted [] es else cleanElems rooted [e] es
    else cleanElems rooted (e :: acc) es

/-- filepath.Clean on a Unix path. -/
def clean (path : List Char) : List Char :=
  match path with
  | [] => ['.']
  | c :: _ =>
    let rooted := c == '/'
    let out := ['/'].intercalate (cleanElems rooted [] (path.splitOn '/')).reverse
    -- Turn empty string into "."
    if rooted then '/' :: out else if out = [] then ['.'] else out

/-- filepath.Join: the elements from the first nonempty one on, joined and cleaned; "" when every
element is empty. -/
def join : List (List Char) → List Char
  | [] => []
  | e :: es => if e = [] then join es else clean (['/'].intercalate (e :: es))

/-- The rooted path "/e₁/e₂/…" naming the elements `es`; empty when there are none. -/
def rootedPath : List (List Char) → List Char
  | [] => []
  | e :: es => '/' :: (e ++ rootedPath es)

section Rooted

variable {e : List Char} {es fs : List (List Char)}

@[simp] theorem rootedPath_nil : rootedPath [] = [] := rfl

@[simp] theorem rootedPath_cons : rootedPath (e :: es) = '/' :: (e ++ rootedPath es) := rfl

@[simp] theorem rootedPath_append : rootedPath (es ++ fs) = rootedPath es ++ rootedPath fs := by
  induction es with
  | nil => rfl
  | cons e es ih => simp [ih]

theorem rootedPath_eq_nil : rootedPath es = [] ↔ es = [] := by
  cases es <;> simp

theorem intercalate_cons_eq_append_rootedPath :
    ['/'].intercalate (e :: es) = e ++ rootedPath es := by
  induction es generalizing e with
  | nil => simp
  | cons f fs ih => simp [List.intercalate_cons_cons, ih]

theorem rootedPath_eq_intercalate : rootedPath es = ['/'].intercalate ([] :: es) := by
  rw [intercalate_cons_eq_append_rootedPath, List.nil_append]

theorem cons_intercalate_of_ne_nil (h : es ≠ []) : '/' :: ['/'].intercalate es = rootedPath es := by
  obtain ⟨e, es, rfl⟩ := List.exists_cons_of_ne_nil h
  rw [intercalate_cons_eq_append_rootedPath, rootedPath_cons]

theorem splitOn_rootedPath (h : ∀ e ∈ es, '/' ∉ e) : (rootedPath es).splitOn '/' = [] :: es := by
  rw [rootedPath_eq_intercalate]
  apply List.splitOn_intercalate
  · simpa using h
  · simp

/-- On plain elements `cleanElems` only drops the empty ones. -/
theorem cleanElems_of_plain (rooted : Bool) (acc : List (List Char)) (h : ∀ e ∈ es, Plain e) :
    cleanElems rooted acc es = (es.filter (· ≠ [])).reverse ++ acc := by
  induction es generalizing acc with
  | nil => rfl
  | cons e es ih =>
    have hes : ∀ e ∈ es, Plain e := fun e' he' => h e' (List.mem_cons_of_mem e he')
    obtain ⟨-, hdot, hdotdot⟩ := h e List.mem_cons_self
    by_cases he : e = []
    · unfold cleanElems
      rw [if_pos (.inl he), ih acc hes, List.filter_cons_of_neg (by simpa using he)]
    · unfold cleanElems
      rw [if_neg (by tauto), if_neg hdotdot, ih (e :: acc) hes,
        List.filter_cons_of_pos (by simpa using he)]
      simp

/-- A rooted path of plain elements, one of them nonempty, cleans to itself without its empty
elements. -/
theorem clean_rootedPath (h : ∀ e ∈ es, Plain e) (hne : es.filter (· ≠ []) ≠ []) :
    clean (rootedPath es) = rootedPath (es.filter (· ≠ [])) := by
  obtain ⟨e, es', rfl⟩ := List.exists_cons_of_ne_nil (fun h => hne (by simp [h]) : es ≠ [])
  have hsplit := splitOn_rootedPath fun e he => (h e he).1
  have hplain : ∀ f ∈ [] :: e :: es', Plain f := by
    intro f hf
    rcases List.mem_cons.mp hf with rfl | hf
    · decide
    · exact h f hf
  have hclean : clean (rootedPath (e :: es')) = '/' :: ['/'].intercalate
      (cleanElems true [] ((rootedPath (e :: es')).splitOn '/')).reverse := rfl
  rw [hclean, hsplit, cleanElems_of_plain true [] hplain, List.append_nil, List.reverse_reverse,
    List.filter_cons_of_neg (by simp)]
  exact cons_intercalate_of_ne_nil hne

theorem join_of_ne_nil {a : List Char} (ha : a ≠ []) (b : List Char) :
    join [a, b] = clean (a ++ '/' :: b) := by
  rw [join, if_neg ha, List.intercalate_cons_cons, List.intercalate_singleton, List.append_assoc]
  rfl

/-- Joining a relative path of plain elements onto a rooted one appends the elements, less the
empty ones. -/
theorem join_rootedPath (hes : es ≠ []) (hfs : fs ≠ []) (h : ∀ e ∈ es ++ fs, Plain e)
    (hne : (es ++ fs).filter (· ≠ []) ≠ []) :
    join [rootedPath es, ['/'].intercalate fs] = rootedPath ((es ++ fs).filter (· ≠ [])) := by
  rw [join_of_ne_nil (mt rootedPath_eq_nil.mp hes), cons_intercalate_of_ne_nil hfs,
    ← rootedPath_append]
  exact clean_rootedPath h hne

end Rooted

end GoPath
