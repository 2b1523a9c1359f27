import TboxDiag.Lib.Prog

/-!
# Lib.Handler

One component under another. A `Handler` answers the commands of the interface `S` by programs
over the interface `T`, with a state kept between the calls; `Prog.serve` puts a program over `S`
on top of it. `Served` relates what is exchanged at the upper interface to what is exchanged at the
lower one, and `wp_serve` carries what is known of the program over to the two together.
-/

namespace Effects

variable {S T : Sig} {L σ α β : Type}

/-- How each command of `S` is answered. -/
abbrev Handler (S T : Sig) (L σ : Type) := (c : S.Cmd) → σ → Prog T L (S.Ans c × σ)

/-- Run a program over `S` on a handler in the state `s`. -/
def Prog.serve (handle : Handler S T L σ) : Prog S L α → σ → Prog T L (α × σ)
  | .pure a, s => .pure (a, s)
  | .call c k, s => handle c s >>= fun r => (k r.1).serve handle r.2
  | .tell l p, s => .tell l (p.serve handle s)

theorem serve_bind (handle : Handler S T L σ) (p : Prog S L α) (f : α → Prog S L β) (s : σ) :
    (p >>= f).serve handle s = p.serve handle s >>= fun y => (f y.1).serve handle y.2 := by
  induction p generalizing s with
  | pure a => rfl
  | call c k ih =>
    show handle c s >>= (fun r => (k r.1 >>= f).serve handle r.2) = _
    simp only [ih]
    exact (Prog.bind_assoc _ _ _).symm
  | tell l p ih => exact congrArg (Prog.tell l) (ih s)

/-- The upper exchange, the lower one that serves it, and the state of the handler before and
after. -/
inductive Served (handle : Handler S T L σ) : σ → List (Event S) → List (Event T) → σ → Prop where
  | nil {s : σ} : Served handle s [] [] s
  | cons {s s₁ s' : σ} {c : S.Cmd} {x : S.Ans c} {lo lo' : List (Event T)} {lg : List L}
      {tr : List (Event S)} : Exec (handle c s) lo lg (x, s₁) → Served handle s₁ tr lo' s' →
      Served handle s (⟨c, x⟩ :: tr) (lo ++ lo') s'

namespace Served

variable {handle : Handler S T L σ} {s s' : σ} {tr tr' : List (Event S)} {lo : List (Event T)}

theorem nil_inv (h : Served handle s [] lo s') : lo = [] ∧ s' = s := by
  cases h
  exact ⟨rfl, rfl⟩

theorem cons_inv {c : S.Cmd} {x : S.Ans c} (h : Served handle s (⟨c, x⟩ :: tr) lo s') :
    ∃ lo₁ lg s₁ lo₂, Exec (handle c s) lo₁ lg (x, s₁) ∧ Served handle s₁ tr lo₂ s' ∧
      lo = lo₁ ++ lo₂ := by
  cases h with
  | cons hx h => exact ⟨_, _, _, _, hx, h, rfl⟩

theorem append_inv (h : Served handle s (tr ++ tr') lo s') :
    ∃ lo₁ s₁ lo₂, Served handle s tr lo₁ s₁ ∧ Served handle s₁ tr' lo₂ s' ∧ lo = lo₁ ++ lo₂ := by
  induction tr generalizing s lo with
  | nil => exact ⟨[], s, lo, .nil, h, rfl⟩
  | cons e tr ih =>
    obtain ⟨lo₁, lg, s₁, lo₂, hx, hrest, rfl⟩ := cons_inv h
    obtain ⟨lo₃, s₂, lo₄, h₁, h₂, rfl⟩ := ih hrest
    exact ⟨lo₁ ++ lo₃, s₂, lo₄, .cons hx h₁, h₂, by simp⟩

end Served

/-- What a program ensures at the upper interface, it ensures on the handler. -/
theorem wp_serve (handle : Handler S T L σ) (s : σ) {p : Prog S L α}
    {Q : List (Event S) → α → Prop} (h : wp p Q) :
    wp (p.serve handle s) fun lo r => ∃ tr, Served handle s tr lo r.2 ∧ Q tr r.1 := by
  induction p generalizing s Q with
  | pure a => exact ⟨[], .nil, h⟩
  | call c k ih =>
    simp only [Prog.serve, wp_bind]
    refine wp_mono (wp_exec (handle c s)) ?_
    rintro lo ⟨x, s₁⟩ ⟨lg, hx⟩
    refine wp_mono (ih x s₁ (h x)) ?_
    rintro lo' r ⟨tr, hserved, hQ⟩
    exact ⟨⟨c, x⟩ :: tr, .cons hx hserved, hQ⟩
  | tell l p ih => exact ih s h

end Effects
