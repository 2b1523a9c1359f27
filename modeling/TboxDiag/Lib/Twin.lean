import TboxDiag.Lib.Handler

/-!
# Lib.Twin

Two programs that nobody who reads their records can tell apart. A `Link` says how two exchanges
may differ: which commands correspond, and which answers, given what is kept in mind of the exchange
so far. `Twin K R r p q`: while the answers correspond under `K`, so do the commands of `p` and `q`,
they write the same records, and end with results that `R` relates.

There is a rule for each program former, `twin_refl` for a program that meets no difference, and
`Twin.serve` for programs on a handler. `Twin.exec` is what it comes to for two executions.
-/

namespace Effects

variable {S T : Sig} {L κ σ α β γ δ : Type}

structure Link (S : Sig) (κ : Type) where
  /-- What is kept in mind after an event. -/
  next : κ → Event S → κ
  cmd : S.Cmd → S.Cmd → Prop
  ans : κ → Event S → Event S → Prop

namespace Link

/-- As long as the commands correspond, so do the answers. -/
def Alike (K : Link S κ) : κ → List (Event S) → List (Event S) → Prop
  | r, e :: tr, e' :: tr' => K.cmd e.cmd e'.cmd → K.ans r e e' ∧ K.Alike (K.next r e) tr tr'
  | _, _, _ => True

/-- What is kept in mind after a whole exchange. -/
def after (K : Link S κ) (r : κ) (tr : List (Event S)) : κ := tr.foldl K.next r

end Link

inductive Twin (K : Link S κ) (R : κ → α → β → Prop) : κ → Prog S L α → Prog S L β → Prop where
  | pure {r : κ} {a : α} {b : β} : R r a b → Twin K R r (.pure a) (.pure b)
  | call {r : κ} {c c' : S.Cmd} {k : S.Ans c → Prog S L α} {k' : S.Ans c' → Prog S L β} :
      K.cmd c c' →
      (∀ x x', K.ans r ⟨c, x⟩ ⟨c', x'⟩ → Twin K R (K.next r ⟨c, x⟩) (k x) (k' x')) →
      Twin K R r (.call c k) (.call c' k')
  | tell {r : κ} {l : L} {p : Prog S L α} {p' : Prog S L β} :
      Twin K R r p p' → Twin K R r (.tell l p) (.tell l p')

namespace Twin

variable {K : Link S κ} {R : κ → α → β → Prop} {r : κ} {p : Prog S L α} {p' : Prog S L β}

/-- Two executions, as far as they go, and what comes after them. -/
theorem exec (h : Twin K R r p p') {tr tr' : List (Event S)} {lg lg' : List L} {a : α} {b : β}
    {more more' : List (Event S)} (hx : Exec p tr lg a) (hx' : Exec p' tr' lg' b)
    (hal : K.Alike r (tr ++ more) (tr' ++ more')) :
    lg' = lg ∧ R (K.after r tr) a b ∧ K.Alike (K.after r tr) more more' := by
  induction h generalizing tr tr' lg lg' with
  | pure hR =>
    cases hx
    cases hx'
    exact ⟨rfl, hR, hal⟩
  | call hc _ ih =>
    cases hx with
    | call hx =>
      cases hx' with
      | call hx' =>
        obtain ⟨hans, hrest⟩ := hal hc
        exact ih _ _ hans hx hx' hrest
  | tell _ ih =>
    cases hx with
    | tell hx =>
      cases hx' with
      | tell hx' =>
        obtain ⟨rfl, hrest⟩ := ih hx hx' hal
        exact ⟨rfl, hrest⟩

/-- Two whole executions. -/
theorem logs (h : Twin K R r p p') {tr tr' : List (Event S)} {lg lg' : List L} {a : α} {b : β}
    (hx : Exec p tr lg a) (hx' : Exec p' tr' lg' b) (hal : K.Alike r tr tr') : lg' = lg := by
  have hal' : K.Alike r (tr ++ []) (tr' ++ []) := by simpa using hal
  exact (h.exec hx hx' hal').1

theorem mono {Q : κ → α → β → Prop} (h : Twin K R r p p') (hRQ : ∀ r a b, R r a b → Q r a b) :
    Twin K Q r p p' := by
  induction h with
  | pure hR => exact .pure (hRQ _ _ _ hR)
  | call hc _ ih => exact .call hc ih
  | tell _ ih => exact .tell ih

theorem bind {Q : κ → γ → δ → Prop} {f : α → Prog S L γ} {f' : β → Prog S L δ}
    (h : Twin K R r p p') (hf : ∀ r a b, R r a b → Twin K Q r (f a) (f' b)) :
    Twin K Q r (p >>= f) (p' >>= f') := by
  induction h with
  | pure hR => exact hf _ _ _ hR
  | call hc _ ih => exact .call hc ih
  | tell _ ih => exact .tell ih

theorem ite {c : Prop} [Decidable c] {q : Prog S L α} {q' : Prog S L β}
    (h : c → Twin K R r p p') (h' : ¬ c → Twin K R r q q') :
    Twin K R r (if c then p else q) (if c then p' else q') := by
  by_cases hc : c
  · rw [if_pos hc, if_pos hc]
    exact h hc
  · rw [if_neg hc, if_neg hc]
    exact h' hc

/-- Twins on a handler that answers corresponding commands by twins. -/
theorem serve {J : Link T κ} {handle : Handler S T L σ}
    (hh : ∀ r c c' s, K.cmd c c' →
      Twin J (fun r' y y' => K.ans r ⟨c, y.1⟩ ⟨c', y'.1⟩ ∧ r' = K.next r ⟨c, y.1⟩ ∧ y.2 = y'.2)
        r (handle c s) (handle c' s))
    (h : Twin K R r p p') (s : σ) :
    Twin J (fun r y y' => R r y.1 y'.1 ∧ y.2 = y'.2) r (p.serve handle s) (p'.serve handle s) := by
  induction h generalizing s with
  | pure hR => exact .pure ⟨hR, rfl⟩
  | call hc _ ih =>
    refine bind (hh _ _ _ s hc) ?_
    rintro r' ⟨x, s₁⟩ ⟨x', s₂⟩ ⟨hans, rfl, hs⟩
    have hs' : s₁ = s₂ := hs
    subst hs'
    exact ih _ _ hans s₁
  | tell _ ih => exact .tell (ih s)

end Twin

/-! ## Programs that meet no difference -/

/-- `p` has no other commands than these. -/
def Only (P : S.Cmd → Prop) : Prog S L α → Prop
  | .pure _ => True
  | .call c k => P c ∧ ∀ x, Only P (k x)
  | .tell _ p => Only P p

section
variable {P : S.Cmd → Prop}

@[simp] theorem only_pure {a : α} : Only P (pure a : Prog S L α) := trivial

theorem only_bind {p : Prog S L α} {f : α → Prog S L β} (hp : Only P p) (hf : ∀ a, Only P (f a)) :
    Only P (p >>= f) := by
  induction p with
  | pure a => exact hf a
  | call c k ih => exact ⟨hp.1, fun x => ih x (hp.2 x)⟩
  | tell l p ih => exact ih hp

theorem only_ite {c : Prop} [Decidable c] {p q : Prog S L α} (hp : Only P p) (hq : Only P q) :
    Only P (if c then p else q) := by
  by_cases h : c
  · rwa [if_pos h]
  · rwa [if_neg h]

theorem Only.mono {Q : S.Cmd → Prop} {p : Prog S L α} (hp : Only P p) (h : ∀ c, P c → Q c) :
    Only Q p := by
  induction p with
  | pure a => trivial
  | call c k ih => exact ⟨h c hp.1, fun x => ih x (hp.2 x)⟩
  | tell l p ih => exact ih hp

theorem Only.issues {p : Prog S L α} (hp : Only P p) : Issues P p := by
  induction p with
  | pure a => exact issues_pure
  | call c k ih =>
    intro x
    refine wp_mono (ih x (hp.2 x)) ?_
    intro tr a htr
    exact List.forall_mem_cons.mpr ⟨hp.1, htr⟩
  | tell l p ih => exact ih hp

/-- A program whose commands are answered alike is its own twin. -/
theorem twin_refl {K : Link S κ} {I : κ → Prop} {r : κ} {p : Prog S L α}
    (hP : ∀ c, P c → K.cmd c c ∧ ∀ r x x', K.ans r ⟨c, x⟩ ⟨c, x'⟩ → x = x')
    (hI : ∀ c, P c → ∀ r x, I r → I (K.next r ⟨c, x⟩)) (hp : Only P p) (hr : I r) :
    Twin K (fun r a b => a = b ∧ I r) r p p := by
  induction p generalizing r with
  | pure a => exact .pure ⟨rfl, hr⟩
  | call c k ih =>
    refine .call (hP c hp.1).1 ?_
    intro x x' hans
    obtain rfl := (hP c hp.1).2 r x x' hans
    exact ih x (hp.2 x) (hI c hp.1 r x hr)
  | tell l p ih => exact .tell (ih hp hr)

/-- Nothing differs in these commands, and nothing of them is kept in mind. -/
structure Link.Ignores (K : Link S κ) (P : S.Cmd → Prop) : Prop where
  cmd {c : S.Cmd} : P c → K.cmd c c
  ans {c : S.Cmd} {r : κ} {x x' : S.Ans c} : P c → K.ans r ⟨c, x⟩ ⟨c, x'⟩ → x = x'
  next {c : S.Cmd} {r : κ} {x : S.Ans c} : P c → K.next r ⟨c, x⟩ = r

theorem Link.Ignores.twin {K : Link S κ} {r : κ} {p : Prog S L α} (h : K.Ignores P)
    (hp : Only P p) : Twin K (fun r' a b => a = b ∧ r' = r) r p p :=
  twin_refl (I := fun r' => r' = r) (fun _ hc => ⟨h.cmd hc, fun _ _ _ hans => h.ans hc hans⟩)
    (fun _ hc _ _ hr => (h.next hc).trans hr) hp rfl

end
end Effects
