import Mathlib.Data.List.Basic
import Mathlib.Tactic.Linarith

/-!
# Lib.Spacing

How many points of a spaced list of times fall into a window. `window_le`: when all times from
the `b`-th on lie at least `d` apart, a window of length `w` holds at most `b + w / d` of them.
-/

namespace Effects

/-- Each time lies at least `d` before every later one. -/
def Spaced (d : Nat) (ts : List Nat) : Prop := ts.Pairwise fun x y => x + d ≤ y

theorem spaced_snoc {d t : Nat} {ts : List Nat} (h : Spaced d ts) (ht : ∀ x ∈ ts, x + d ≤ t) :
    Spaced d (ts ++ [t]) := by
  refine List.pairwise_append.mpr ⟨h, List.pairwise_singleton _ _, ?_⟩
  intro x hx y hy
  rw [List.mem_singleton] at hy
  subst hy
  exact ht x hx

/-- The times of `ts` in the window of length `w` from `a` on. -/
def inWindow (a w : Nat) (ts : List Nat) : List Nat := ts.filter fun t => a ≤ t ∧ t ≤ a + w

theorem spaced_length {d : Nat} {ts : List Nat} (h : Spaced d ts) :
    ∀ {a w : Nat}, (∀ t ∈ ts, a ≤ t ∧ t ≤ a + w) → ts.length * d ≤ w + d := by
  induction h with
  | nil => intro a w _; simp
  | @cons t ts ht _ ih =>
    intro a w hw
    obtain ⟨hat, _⟩ := hw t (by simp)
    by_cases hd : d ≤ w
    · have := ih (a := a + d) (w := w - d) fun u hu => by
        have := ht u hu
        have := (hw u (by simp [hu])).2
        omega
      rw [List.length_cons, Nat.add_mul, Nat.one_mul]
      omega
    · -- the window is too short for a second time
      have : ts = [] := by
        cases ts with
        | nil => rfl
        | cons u us =>
          have := ht u (by simp)
          have := (hw u (by simp)).2
          omega
      subst this
      simp

theorem window_le {b d : Nat} (hd : 0 < d) {ts : List Nat} (h : Spaced d (ts.drop b)) (a w : Nat) :
    (inWindow a w ts).length ≤ b + 1 + w / d := by
  have hsplit : inWindow a w ts = inWindow a w (ts.take b) ++ inWindow a w (ts.drop b) := by
    rw [inWindow, inWindow, inWindow, ← List.filter_append, List.take_append_drop]
  have htake : (inWindow a w (ts.take b)).length ≤ b :=
    (List.length_filter_le _ _).trans (List.length_take_le b ts)
  have hdrop : (inWindow a w (ts.drop b)).length ≤ w / d + 1 := by
    have hs : Spaced d (inWindow a w (ts.drop b)) := h.filter _
    have := spaced_length hs (a := a) (w := w) fun t ht => by simpa using (List.mem_filter.mp ht).2
    rw [← Nat.add_div_right w hd]
    exact (Nat.le_div_iff_mul_le hd).mpr this
  rw [hsplit, List.length_append]
  omega

end Effects
