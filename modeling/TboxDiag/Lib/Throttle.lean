import TboxDiag.Lib.History

/-!
# Lib.Throttle

A throttle lets an action pass when the last use was at least `d` ago, and refuses it otherwise. It
keeps the time of the last use and whether there has been one; a forced use is never refused.

The labels of a run are of any type, with a time and a kind. `Throttle.spaced`: whatever passes
does so `d` after every earlier use. `Throttle.refused_recent`: what is refused comes less than `d`
after one, so that a throttle refuses nothing for good.
-/

namespace Effects

structure Throttle where
  tried : Bool
  last : Nat

namespace Throttle

inductive Kind where
  | pass
  | force
  | refuse
  | idle
  deriving DecidableEq

/-- The throttle is used. -/
def Kind.uses (k : Kind) : Prop := k = .pass ∨ k = .force

/-- The throttle refuses at time `t`. -/
def Holds (d : Nat) (th : Throttle) (t : Nat) : Prop := th.tried = true ∧ t - th.last < d

section
variable {ℓ : Type} {d : Nat} {kind : ℓ → Kind} {time : ℓ → Nat}

inductive Step (d : Nat) (kind : ℓ → Kind) (time : ℓ → Nat) : Throttle → ℓ → Throttle → Prop where
  | pass {th : Throttle} {l : ℓ} : kind l = .pass → ¬ th.Holds d (time l) →
      Step d kind time th l ⟨true, time l⟩
  | force {th : Throttle} {l : ℓ} : kind l = .force → Step d kind time th l ⟨true, time l⟩
  | refuse {th : Throttle} {l : ℓ} : kind l = .refuse → th.Holds d (time l) →
      Step d kind time th l th
  | idle {th : Throttle} {l : ℓ} : kind l = .idle → Step d kind time th l th

/-- The times of the labels do not decrease. -/
def Timely (time : ℓ → Nat) (ls : List ℓ) : Prop := ls.Pairwise fun l l' => time l ≤ time l'

/-- The throttle knows the last use, if there was one. -/
def Remembers (kind : ℓ → Kind) (time : ℓ → Nat) (ls : List ℓ) (th : Throttle) : Prop :=
  (∀ l ∈ ls, (kind l).uses → th.tried = true ∧ time l ≤ th.last) ∧
    (th.tried = true → ∃ l ∈ ls, (kind l).uses ∧ time l = th.last)

theorem Remembers.used {ls : List ℓ} {l : ℓ} (hk : (kind l).uses)
    (ht : Timely time (ls ++ [l])) : Remembers kind time (ls ++ [l]) ⟨true, time l⟩ := by
  obtain ⟨_, _, hle⟩ := List.pairwise_append.mp ht
  constructor
  · intro x hx _
    refine ⟨rfl, ?_⟩
    cases List.mem_append.mp hx with
    | inl hx => exact hle x hx l (by simp)
    | inr hx => exact Nat.le_of_eq (congrArg time (List.mem_singleton.mp hx))
  · intro _
    exact ⟨l, by simp, hk, rfl⟩

theorem Remembers.unused {ls : List ℓ} {l : ℓ} {th : Throttle} (h : Remembers kind time ls th)
    (hk : ¬ (kind l).uses) : Remembers kind time (ls ++ [l]) th := by
  constructor
  · intro x hx hu
    cases List.mem_append.mp hx with
    | inl hx => exact h.1 x hx hu
    | inr hx => rw [List.mem_singleton.mp hx] at hu; exact absurd hu hk
  · intro ht
    obtain ⟨x, hx, hu, htime⟩ := h.2 ht
    exact ⟨x, by simp [hx], hu, htime⟩

theorem Step.remembers {ls : List ℓ} {l : ℓ} {th th' : Throttle} (h : Step d kind time th l th')
    (hr : Remembers kind time ls th) (ht : Timely time (ls ++ [l])) :
    Remembers kind time (ls ++ [l]) th' := by
  cases h with
  | pass hk _ => exact .used (.inl hk) ht
  | force hk => exact .used (.inr hk) ht
  | refuse hk _ => exact hr.unused (by simp [Kind.uses, hk])
  | idle hk => exact hr.unused (by simp [Kind.uses, hk])

theorem remembers {ls : List ℓ} {th th' : Throttle} (h : Run (Step d kind time) th ls th')
    (hfresh : th.tried = false) (ht : Timely time ls) : Remembers kind time ls th' := by
  refine h.history (fun ls th' => Timely time ls → Remembers kind time ls th') ?_ ?_ ht
  · intro _
    exact ⟨by simp, by simp [hfresh]⟩
  · intro ls t l u ih hstep ht
    exact hstep.remembers (ih (List.pairwise_append.mp ht).1) ht

/-- What passes comes at least `d` after every use before it. -/
theorem spaced {ls : List ℓ} {th th' : Throttle} (hd : 0 < d)
    (h : Run (Step d kind time) th ls th') (hfresh : th.tried = false) (ht : Timely time ls) :
    ls.Pairwise fun l l' => (kind l).uses → kind l' = .pass → time l + d ≤ time l' := by
  induction h with
  | nil => exact .nil
  | @snoc ls t u l hrun hstep ih =>
    have hls : Timely time ls := (List.pairwise_append.mp ht).1
    refine List.pairwise_append.mpr ⟨ih hls, List.pairwise_singleton _ _, ?_⟩
    intro x hx y hy hu hy'
    rw [List.mem_singleton] at hy
    subst hy
    obtain ⟨htried, hlast⟩ := (remembers hrun hfresh hls).1 x hx hu
    cases hstep with
    | pass _ hn =>
      have : d ≤ time y - t.last := Nat.not_lt.mp fun hlt => hn ⟨htried, hlt⟩
      omega
    | force hk => rw [hk] at hy'; cases hy'
    | refuse hk _ => rw [hk] at hy'; cases hy'
    | idle hk => rw [hk] at hy'; cases hy'

/-- What is refused comes less than `d` after a use. -/
theorem refused_recent {pre post : List ℓ} {l : ℓ} {th th' : Throttle}
    (h : Run (Step d kind time) th (pre ++ l :: post) th') (hfresh : th.tried = false)
    (ht : Timely time (pre ++ l :: post)) (hk : kind l = .refuse) :
    ∃ x ∈ pre, (kind x).uses ∧ time l < time x + d := by
  obtain ⟨t, _, hpre, hstep, _⟩ := h.at_label
  have hr := remembers hpre hfresh (List.pairwise_append.mp ht).1
  cases hstep with
  | refuse _ hh =>
    obtain ⟨x, hx, hu, htime⟩ := hr.2 hh.1
    have hlt := hh.2
    exact ⟨x, hx, hu, by omega⟩
  | pass hk' _ => rw [hk] at hk'; cases hk'
  | force hk' => rw [hk] at hk'; cases hk'
  | idle hk' => rw [hk] at hk'; cases hk'

end
end Throttle
end Effects
