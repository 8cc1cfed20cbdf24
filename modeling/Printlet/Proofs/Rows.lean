/-
Printlet.Proofs.Rows — the first member of a row with which something is wrong.

What is wrong with a member may hang on those before it, so it is a relation
`Wrong before x e`: of a member `x` that comes after `before`, `e` is to be
reported. `Clean` says that there is nothing to report of a whole row, `First`
what is to be reported of the first member of which there is anything. The check
of code and the compiler both stop at such a member.
-/

namespace Printlet.Row

variable {α ε : Type}

theorem getElem?_take_iff {row : List α} {x : α} {k j : Nat} :
    (row.take k)[j]? = some x ↔ j < k ∧ row[j]? = some x := by
  rw [List.getElem?_take]
  split <;> simp [*]

theorem mem_take_iff {row : List α} {x : α} {k : Nat} :
    x ∈ row.take k ↔ ∃ j < k, row[j]? = some x := by
  simp only [List.mem_iff_getElem?, getElem?_take_iff]

/-- The members before a place, and the one there. -/
theorem take_append_eq {row : List α} {x : α} {k : Nat} (h : row[k]? = some x) :
    row.take k ++ [x] = row.take (k + 1) := by
  simp [List.take_add_one, h]

/-- Nothing is wrong with any member. -/
def Clean (Wrong : List α → α → ε → Prop) (row : List α) : Prop :=
  ∀ (k : Nat) (x : α), row[k]? = some x → ∀ e, ¬ Wrong (row.take k) x e

/-- Something is wrong with a member, and nothing with those before it. -/
def First (Wrong : List α → α → ε → Prop) (row : List α) (e : ε) : Prop :=
  ∃ k x, row[k]? = some x ∧ Wrong (row.take k) x e ∧ Clean Wrong (row.take k)

variable {Wrong : List α → α → ε → Prop} {row : List α} {x y : α} {e e' : ε} {k l : Nat}

theorem clean_nil : Clean Wrong [] := by
  intro k x hx
  cases hx

/-- A row stays clean if nothing is wrong with a further member. -/
theorem Clean.append (h : Clean Wrong row) (hx : ∀ e, ¬ Wrong row x e) :
    Clean Wrong (row ++ [x]) := by
  intro k y hy
  rw [List.getElem?_append] at hy
  split at hy
  next hk =>
    rw [List.take_append_of_le_length (Nat.le_of_lt hk)]
    exact h k y hy
  next hk =>
    rw [List.getElem?_singleton] at hy
    split at hy
    next hz =>
      cases hy
      rw [show k = row.length by omega, List.take_left]
      exact hx
    next => cases hy

/-- The members before a place are clean, said by their places in the row. -/
theorem clean_take_iff :
    Clean Wrong (row.take k) ↔
      ∀ j < k, ∀ x, row[j]? = some x → ∀ e, ¬ Wrong (row.take j) x e := by
  unfold Clean
  constructor
  · intro h j hj x hx
    have htake := h j x (getElem?_take_iff.mpr ⟨hj, hx⟩)
    rwa [List.take_take, Nat.min_eq_left (Nat.le_of_lt hj)] at htake
  · intro h j x hx
    obtain ⟨hj, hget⟩ := getElem?_take_iff.mp hx
    rw [List.take_take, Nat.min_eq_left (Nat.le_of_lt hj)]
    exact h j hj x hget

/-- There is one first place. -/
theorem place_unique (hk : row[k]? = some x) (hx : Wrong (row.take k) x e)
    (hbefore : Clean Wrong (row.take k)) (hl : row[l]? = some y) (hy : Wrong (row.take l) y e')
    (hbefore' : Clean Wrong (row.take l)) : k = l := by
  rw [clean_take_iff] at hbefore hbefore'
  rcases Nat.lt_trichotomy k l with hlt | heq | hgt
  · exact absurd hx (hbefore' k hlt x hk e)
  · exact heq
  · exact absurd hy (hbefore l hgt y hl e')

theorem First.not_clean (h : First Wrong row e) : ¬ Clean Wrong row := by
  intro hclean
  obtain ⟨k, x, hk, hx, -⟩ := h
  exact hclean k x hk e hx

/-- If one thing at most is wrong with each member, there is one first report. -/
theorem First.unique (hfun : ∀ before x e e', Wrong before x e → Wrong before x e' → e = e')
    (h : First Wrong row e) (h' : First Wrong row e') : e = e' := by
  obtain ⟨k, x, hk, hx, hbefore⟩ := h
  obtain ⟨l, y, hl, hy, hbefore'⟩ := h'
  obtain rfl := place_unique hk hx hbefore hl hy hbefore'
  rw [hk] at hl
  cases hl
  exact hfun _ _ _ _ hx hy

end Printlet.Row
