import Mathlib.Data.List.Induction

/-!
# Lib.Run

Finite runs of a labelled transition system, kept with the list of their labels. Runs grow at
the end, so an invariant may speak of the whole history so far.

* `Run.history`: the induction rule for such invariants.
* `Run.append`, `Run.split`: runs compose and decompose along their labels.
* `Run.simulates`: a step-by-step simulation carries over to whole runs, label for label.
-/

namespace Effects

variable {σ τ ℓ : Type} {step : σ → ℓ → σ → Prop}

inductive Run (step : σ → ℓ → σ → Prop) (s : σ) : List ℓ → σ → Prop where
  | nil : Run step s [] s
  | snoc {ls : List ℓ} {t u : σ} {l : ℓ} : Run step s ls t → step t l u → Run step s (ls ++ [l]) u

namespace Run

theorem single {s t : σ} {l : ℓ} (h : step s l t) : Run step s [l] t := .snoc .nil h

theorem append {s t u : σ} {ls ls' : List ℓ} (h : Run step s ls t) (h' : Run step t ls' u) :
    Run step s (ls ++ ls') u := by
  induction h' with
  | nil => simpa using h
  | snoc _ hs ih => rw [← List.append_assoc]; exact .snoc ih hs

theorem cons {s t u : σ} {l : ℓ} {ls : List ℓ} (hs : step s l t) (h : Run step t ls u) :
    Run step s (l :: ls) u := (single hs).append h

/-- An invariant of states and histories: it holds at the start, and each step keeps it. -/
theorem history {s t : σ} {ls : List ℓ} (h : Run step s ls t) (I : List ℓ → σ → Prop)
    (h0 : I [] s) (hstep : ∀ ls t l u, I ls t → step t l u → I (ls ++ [l]) u) : I ls t := by
  induction h with
  | nil => exact h0
  | snoc _ hs ih => exact hstep _ _ _ _ ih hs

theorem invariant {s t : σ} {ls : List ℓ} (h : Run step s ls t) {I : σ → Prop} (h0 : I s)
    (hstep : ∀ t l u, I t → step t l u → I u) : I t :=
  h.history (fun _ => I) h0 fun _ t l u hi hs => hstep t l u hi hs

theorem nil_inv {s t : σ} (h : Run step s [] t) : t = s := by
  generalize hl : ([] : List ℓ) = ls at h
  cases h with
  | nil => rfl
  | snoc _ _ => simp at hl

theorem snoc_inv {s u : σ} {ls : List ℓ} {l : ℓ} (h : Run step s (ls ++ [l]) u) :
    ∃ t, Run step s ls t ∧ step t l u := by
  generalize hl : ls ++ [l] = ls' at h
  cases h with
  | nil => simp at hl
  | snoc h hs =>
    obtain ⟨rfl, hl'⟩ := List.append_inj' hl rfl
    obtain rfl := List.singleton_inj.mp hl'
    exact ⟨_, h, hs⟩

theorem split {s u : σ} {ls ls' : List ℓ} (h : Run step s (ls ++ ls') u) :
    ∃ t, Run step s ls t ∧ Run step t ls' u := by
  induction ls' using List.reverseRecOn generalizing u with
  | nil => exact ⟨u, by simpa using h, .nil⟩
  | append_singleton ls' l ih =>
    rw [← List.append_assoc] at h
    obtain ⟨v, hv, hs⟩ := h.snoc_inv
    obtain ⟨t, ht, ht'⟩ := ih hv
    exact ⟨t, ht, ht'.snoc hs⟩

theorem cons_inv {s u : σ} {l : ℓ} {ls : List ℓ} (h : Run step s (l :: ls) u) :
    ∃ t, step s l t ∧ Run step t ls u := by
  have h' : Run step s ([l] ++ ls) u := h
  obtain ⟨t, ht, hr⟩ := h'.split
  have ht' : Run step s ([] ++ [l]) t := ht
  obtain ⟨v, hv, hs⟩ := ht'.snoc_inv
  obtain rfl := hv.nil_inv
  exact ⟨t, hs, hr⟩

/-- A simulation, step by step and label for label, carries over to runs. -/
theorem simulates {step' : τ → ℓ → τ → Prop} {R : σ → τ → Prop}
    (hsim : ∀ s a l s', R s a → step s l s' → ∃ a', step' a l a' ∧ R s' a')
    {s t : σ} {a : τ} {ls : List ℓ} (h : Run step s ls t) (hR : R s a) :
    ∃ a', Run step' a ls a' ∧ R t a' := by
  induction h with
  | nil => exact ⟨a, .nil, hR⟩
  | snoc _ hs ih =>
    obtain ⟨b, hb, hRb⟩ := ih
    obtain ⟨c, hc, hRc⟩ := hsim _ _ _ _ hRb hs
    exact ⟨c, hb.snoc hc, hRc⟩

end Run
end Effects
