import Mathlib.Data.List.Basic

/-!
# Lib.Permit

One-shot permits. Some events of a history issue a permit, some spend one, and at most one permit
is ever held: issuing a second one renews the first. `hold` runs over a history and fails where an
event spends what is not held.

* `hold_append`: histories compose.
* `count_spends_le`: no more is spent than was issued; `count_left_le`: nor at any point of it, where
  none is held at first.
* `issued_between`: between two spendings a permit was issued.
-/

namespace Effects

section
variable {α : Type} (issues spends : α → Bool)

/-- Whether a permit is held after the history; `none` if one was spent that was not held. -/
def hold : Bool → List α → Option Bool
  | b, [] => some b
  | b, x :: xs =>
    if spends x then
      if b then hold false xs else none
    else if issues x then hold true xs
    else hold b xs

end

variable {α : Type} {issues spends : α → Bool} {b b' : Bool} {x y : α} {xs ys zs : List α}

theorem hold_append : hold issues spends b (xs ++ ys) =
    (hold issues spends b xs).bind fun b => hold issues spends b ys := by
  induction xs generalizing b with
  | nil => rfl
  | cons x xs ih =>
    simp only [List.cons_append, hold]
    split
    · split
      · exact ih
      · rfl
    split
    · exact ih
    · exact ih

theorem hold_left (h : hold issues spends b (xs ++ ys) = some b') :
    ∃ b₁, hold issues spends b xs = some b₁ ∧ hold issues spends b₁ ys = some b' := by
  rw [hold_append] at h
  exact Option.bind_eq_some_iff.mp h

theorem hold_of_idle (h : ∀ x ∈ xs, issues x = false ∧ spends x = false) :
    hold issues spends b xs = some b := by
  induction xs with
  | nil => rfl
  | cons x xs ih =>
    obtain ⟨hi, hs⟩ := h x (List.mem_cons_self ..)
    simp only [hold, hi, hs, Bool.false_eq_true, if_false]
    exact ih fun y hy => h y (List.mem_cons_of_mem _ hy)

/-- Where nothing is spent, an issue leaves the permit held. -/
theorem hold_of_issue (hs : ∀ x ∈ xs, spends x = false) (hi : ∃ x ∈ xs, issues x = true) :
    hold issues spends b xs = some true := by
  induction xs generalizing b with
  | nil => simp at hi
  | cons x xs ih =>
    have hrest (b : Bool) (hb : b = true ∨ ∃ y ∈ xs, issues y = true) :
        hold issues spends b xs = some true := by
      by_cases hy : ∃ y ∈ xs, issues y = true
      · exact ih (fun y hy => hs y (List.mem_cons_of_mem _ hy)) hy
      · obtain rfl := hb.resolve_right hy
        refine hold_of_idle fun y hmem => ⟨?_, hs y (List.mem_cons_of_mem _ hmem)⟩
        exact Bool.eq_false_iff.mpr fun h => hy ⟨y, hmem, h⟩
    simp only [hold, hs x (List.mem_cons_self ..), Bool.false_eq_true, if_false]
    split
    · exact hrest true (.inl rfl)
    · next hx =>
      obtain ⟨y, hy, hiy⟩ := hi
      cases List.mem_cons.mp hy with
      | inl heq => exact absurd (heq ▸ hiy) hx
      | inr hy => exact hrest b (.inr ⟨y, hy, hiy⟩)

/-- Where nothing is issued, one permit is enough to spend once. -/
theorem hold_of_one (hi : ∀ x ∈ xs, issues x = false) (hs : xs.countP spends ≤ 1) :
    ∃ b', hold issues spends true xs = some b' := by
  induction xs with
  | nil => exact ⟨true, rfl⟩
  | cons x xs ih =>
    have hi' : ∀ y ∈ xs, issues y = false := fun y hy => hi y (List.mem_cons_of_mem _ hy)
    rw [List.countP_cons] at hs
    simp only [hold, hi x (List.mem_cons_self ..), Bool.false_eq_true, if_false, if_true]
    split
    · next hx =>
      rw [if_pos hx] at hs
      have hnone : xs.countP spends = 0 := by omega
      refine ⟨false, hold_of_idle fun y hy => ⟨hi' y hy, ?_⟩⟩
      simpa using List.countP_eq_zero.mp hnone y hy
    · next hx => exact ih hi' (by omega)

theorem count_spends_le (h : hold issues spends b xs = some b') :
    xs.countP spends + b'.toNat ≤ xs.countP issues + b.toNat := by
  induction xs generalizing b with
  | nil =>
    cases h
    simp
  | cons x xs ih =>
    simp only [hold] at h
    rw [List.countP_cons, List.countP_cons]
    split at h
    · -- a permit was held and is spent
      rename_i hs
      split at h
      · rename_i hb
        have hrest := ih h
        simp only [hs, hb, if_true, Bool.toNat_false, Bool.toNat_true] at hrest ⊢
        omega
      · cases h
    · rename_i hs
      split at h
      · rename_i hi
        have hrest := ih h
        simp only [hs, hi, if_true, if_false, Bool.false_eq_true, Bool.toNat_true] at hrest ⊢
        omega
      · rename_i hi
        have hrest := ih h
        simp only [hs, hi, if_false, Bool.false_eq_true] at hrest ⊢
        omega

theorem count_left_le (h : hold issues spends false (xs ++ ys) = some b') :
    xs.countP spends ≤ xs.countP issues := by
  obtain ⟨b₁, hb₁, _⟩ := hold_left h
  have hcount := count_spends_le hb₁
  rw [Bool.toNat_false] at hcount
  omega

/-- Without an issue no permit comes to be held. -/
theorem not_held (h : hold issues spends false xs = some b') (hi : ∀ x ∈ xs, issues x = false) :
    b' = false := by
  induction xs with
  | nil =>
    cases h
    rfl
  | cons x xs ih =>
    simp only [hold, hi x (List.mem_cons_self ..), Bool.false_eq_true, if_false] at h
    split at h
    · cases h
    · exact ih h fun y hy => hi y (List.mem_cons_of_mem _ hy)

theorem issued_between (h : hold issues spends b (xs ++ x :: (ys ++ y :: zs)) = some b')
    (hx : spends x = true) (hy : spends y = true) : ∃ z ∈ ys, issues z = true := by
  obtain ⟨b₁, _, h⟩ := hold_left h
  simp only [hold, hx, if_true] at h
  split at h
  · obtain ⟨b₂, hys, h⟩ := hold_left h
    by_contra hnone
    have hidle : ∀ z ∈ ys, issues z = false := by
      intro z hz
      by_contra hz'
      exact hnone ⟨z, hz, by simpa using hz'⟩
    have hb₂ := not_held hys hidle
    simp only [hold, hy, hb₂, if_true, Bool.false_eq_true, if_false] at h
    cases h
  · cases h

end Effects
