import TboxDiag.Lib.Prog

/-!
# Lib.Coupling

Two programs in step with each other. `Coupled R p q` says that `p` and `q` issue the same commands
as long as these get the same answers, and then end with results that `R` relates; the records they
write may differ. There is a rule for each program former.

The same answers are those of one `World`, whose answer to a command depends on all that was
exchanged before: `Coupled.play` plays the two programs in it.
-/

namespace Effects

variable {S : Sig} {L α β γ δ : Type}

/-! ## Worlds -/

/-- What the outside answers to a command, given the exchange so far. -/
abbrev World (S : Sig) := List (Event S) → (c : S.Cmd) → S.Ans c

/-- Play a program in a world, after the exchange `hist`: its own exchange and its result. -/
def Prog.play (w : World S) : List (Event S) → Prog S L α → List (Event S) × α
  | _, .pure a => ([], a)
  | hist, .call c k =>
    let e : Event S := ⟨c, w hist c⟩
    let r := (k e.ans).play w (hist ++ [e])
    (e :: r.1, r.2)
  | hist, .tell _ p => p.play w hist

/-- What is played is an execution. -/
theorem exec_play (w : World S) (hist : List (Event S)) (p : Prog S L α) :
    ∃ lg, Exec p (p.play w hist).1 lg (p.play w hist).2 := by
  induction p generalizing hist with
  | pure a => exact ⟨[], .pure⟩
  | call c k ih =>
    obtain ⟨lg, h⟩ := ih (w hist c) (hist ++ [⟨c, w hist c⟩])
    exact ⟨lg, .call h⟩
  | tell l p ih =>
    obtain ⟨lg, h⟩ := ih hist
    exact ⟨l :: lg, .tell h⟩

theorem play_bind (w : World S) (hist : List (Event S)) (p : Prog S L α) (f : α → Prog S L β) :
    (p >>= f).play w hist =
      ((p.play w hist).1 ++ ((f (p.play w hist).2).play w (hist ++ (p.play w hist).1)).1,
        ((f (p.play w hist).2).play w (hist ++ (p.play w hist).1)).2) := by
  induction p generalizing hist with
  | pure a =>
    show (f a).play w hist = _
    simp [Prog.play]
  | call c k ih =>
    have h := ih (w hist c) (hist ++ [⟨c, w hist c⟩])
    show (Prog.call c fun x => k x >>= f).play w hist = _
    simp only [Prog.play, h, List.append_assoc, List.cons_append, List.nil_append]
  | tell l p ih => exact ih hist

/-- Where two histories are answered alike from now on, a program is played alike. -/
theorem play_congr {w : World S} {hist hist' : List (Event S)}
    (h : ∀ tr, w (hist ++ tr) = w (hist' ++ tr)) (p : Prog S L α) :
    p.play w hist = p.play w hist' := by
  induction p generalizing hist hist' with
  | pure a => rfl
  | call c k ih =>
    have hc : w hist c = w hist' c := by
      have hnil := h []
      rw [List.append_nil, List.append_nil] at hnil
      rw [hnil]
    have hk : (k (w hist c)).play w (hist ++ [⟨c, w hist c⟩]) =
        (k (w hist c)).play w (hist' ++ [⟨c, w hist c⟩]) := by
      refine ih _ ?_
      intro tr
      rw [List.append_assoc, List.append_assoc]
      exact h _
    simp only [Prog.play]
    rw [hk, hc]
  | tell l p ih => exact ih h

/-- Whatever a program is answered holds of what it plays. -/
theorem wp_play {p : Prog S L α} {Q : List (Event S) → α → Prop} (h : wp p Q) (w : World S)
    (hist : List (Event S)) : Q (p.play w hist).1 (p.play w hist).2 := by
  obtain ⟨lg, hx⟩ := exec_play w hist p
  exact hx.wp h

/-- Every answer played is one the world gives. -/
theorem play_answers (w : World S) (hist : List (Event S)) (p : Prog S L α) :
    ∀ e ∈ (p.play w hist).1, ∃ hist', e.ans = w hist' e.cmd := by
  induction p generalizing hist with
  | pure a => simp [Prog.play]
  | call c k ih =>
    intro e he
    cases List.mem_cons.mp he with
    | inl he =>
      rw [he]
      exact ⟨hist, rfl⟩
    | inr he => exact ih _ _ e he
  | tell l p ih => exact ih hist

/-! ## Coupled programs -/

inductive Coupled (R : α → β → Prop) : Prog S L α → Prog S L β → Prop where
  | pure {a : α} {b : β} : R a b → Coupled R (.pure a) (.pure b)
  | call {c : S.Cmd} {k : S.Ans c → Prog S L α} {k' : S.Ans c → Prog S L β} :
      (∀ x, Coupled R (k x) (k' x)) → Coupled R (.call c k) (.call c k')
  | tell {l l' : L} {p : Prog S L α} {q : Prog S L β} :
      Coupled R p q → Coupled R (.tell l p) (.tell l' q)

namespace Coupled

variable {R : α → β → Prop} {R' : γ → δ → Prop}

theorem refl (p : Prog S L α) : Coupled Eq p p := by
  induction p with
  | pure a => exact .pure rfl
  | call c k ih => exact .call ih
  | tell l p ih => exact .tell ih

theorem bind {p : Prog S L α} {q : Prog S L β} {f : α → Prog S L γ} {g : β → Prog S L δ}
    (h : Coupled R p q) (hf : ∀ a b, R a b → Coupled R' (f a) (g b)) :
    Coupled R' (p >>= f) (q >>= g) := by
  induction h with
  | pure hr => exact hf _ _ hr
  | call _ ih => exact .call ih
  | tell _ ih => exact .tell ih

/-- The same program, and then programs that are coupled for each of its results. -/
theorem bind_same {p : Prog S L α} {f : α → Prog S L γ} {g : α → Prog S L δ}
    (hf : ∀ a, Coupled R' (f a) (g a)) : Coupled R' (p >>= f) (p >>= g) := by
  refine (refl p).bind ?_
  rintro a _ rfl
  exact hf a

/-- The same program, with what it ensures of its result. -/
theorem refl_wp {p : Prog S L α} {P : α → Prop} (h : wp p fun _ a => P a) :
    Coupled (fun a b => b = a ∧ P a) p p := by
  induction p with
  | pure a => exact .pure ⟨rfl, h⟩
  | call c k ih => exact .call fun x => ih x (h x)
  | tell l p ih => exact .tell (ih h)

/-- Different records may be written on the way. -/
theorem emit_bind {l l' : L} {f : Unit → Prog S L γ} {g : Unit → Prog S L δ}
    (hf : Coupled R' (f ()) (g ())) : Coupled R' (Prog.emit l >>= f) (Prog.emit l' >>= g) :=
  .tell hf

theorem ite {c : Prop} [Decidable c] {p p' : Prog S L α} {q q' : Prog S L β}
    (hp : c → Coupled R p q) (hq : ¬ c → Coupled R p' q') :
    Coupled R (if c then p else p') (if c then q else q') := by
  by_cases h : c
  · rw [if_pos h, if_pos h]
    exact hp h
  · rw [if_neg h, if_neg h]
    exact hq h

/-- In one world, coupled programs exchange the same and end with related results. -/
theorem play {p : Prog S L α} {q : Prog S L β} (h : Coupled R p q) (w : World S)
    (hist : List (Event S)) :
    (q.play w hist).1 = (p.play w hist).1 ∧ R (p.play w hist).2 (q.play w hist).2 := by
  induction h generalizing hist with
  | pure hr => exact ⟨rfl, hr⟩
  | @call c _ _ _ ih =>
    obtain ⟨htr, hr⟩ := ih (w hist c) (hist ++ [⟨c, w hist c⟩])
    exact ⟨congrArg (List.cons _) htr, hr⟩
  | tell _ ih => exact ih hist

/-- Each execution of the one is one of the other, with the same exchange. -/
theorem exec {p : Prog S L α} {q : Prog S L β} (h : Coupled R p q) {tr : List (Event S)}
    {lg : List L} {a : α} (hx : Exec p tr lg a) : ∃ lg' b, Exec q tr lg' b ∧ R a b := by
  induction h generalizing tr lg with
  | pure hr =>
    cases hx
    exact ⟨[], _, .pure, hr⟩
  | call _ ih =>
    cases hx with
    | call hx =>
      obtain ⟨lg', b, hy, hr⟩ := ih _ hx
      exact ⟨lg', b, .call hy, hr⟩
  | tell _ ih =>
    cases hx with
    | tell hx =>
      obtain ⟨lg', b, hy, hr⟩ := ih hx
      exact ⟨_, b, .tell hy, hr⟩

end Coupled
end Effects
