import Mathlib.Data.List.Pairwise

/-!
# Lib.Stutter

Inputs that leave nothing to be seen. A machine takes timed inputs one after the other and shows
something at each; `Stutters` says that a relation between two of its states, which may get
coarser as time goes on, survives every visible input taken by both and every hidden input taken
by one of them alone. Leaving the hidden inputs out then changes nothing that is shown at the
visible ones (`Stutters.watch_filter`).
-/

namespace Effects

variable {σ ι ω τ : Type}

/-- What the machine `act` shows at the inputs that `visible` accepts. -/
def watch (act : σ → ι → ω × σ) (visible : ι → Bool) : σ → List ι → List ω
  | _, [] => []
  | s, i :: is =>
    let r := act s i
    if visible i then r.1 :: watch act visible r.2 is else watch act visible r.2 is

/-- `Agree t` holds of two states that cannot be told apart from time `t` on. -/
structure Stutters [LE τ] (act : σ → ι → ω × σ) (visible : ι → Bool) (time : ι → τ)
    (Agree : τ → σ → σ → Prop) : Prop where
  shown : ∀ {t : τ} {a b : σ} {i : ι}, Agree t a b → t ≤ time i → visible i = true →
    (act a i).1 = (act b i).1 ∧ Agree (time i) (act a i).2 (act b i).2
  hidden : ∀ {t : τ} {a b : σ} {i : ι}, Agree t a b → t ≤ time i → visible i = false →
    Agree (time i) (act a i).2 b

variable [LE τ] {act : σ → ι → ω × σ} {visible : ι → Bool} {time : ι → τ}
  {Agree : τ → σ → σ → Prop}

theorem Stutters.watch_filter (h : Stutters act visible time Agree) {t : τ} {a b : σ}
    {is : List ι} (hab : Agree t a b) (hstart : ∀ i ∈ is, t ≤ time i)
    (hsorted : is.Pairwise fun i j => time i ≤ time j) :
    watch act visible a is = watch act visible b (is.filter visible) := by
  induction is generalizing t a b with
  | nil => rfl
  | cons i is ih =>
    obtain ⟨hnext, hsorted⟩ := List.pairwise_cons.mp hsorted
    have hi := hstart i (by simp)
    cases hv : visible i with
    | true =>
      obtain ⟨hshown, hab⟩ := h.shown hab hi hv
      have hrest := ih hab hnext hsorted
      simp only [watch, List.filter_cons, hv, if_true]
      rw [hshown, hrest]
    | false =>
      have hrest := ih (h.hidden hab hi hv) hnext hsorted
      simpa [watch, hv] using hrest

end Effects
