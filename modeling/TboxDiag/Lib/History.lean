import TboxDiag.Lib.Run

/-!
# Lib.History

Properties of a history, read backwards from its end. `Since P Q`: some label satisfied `P`, given
the history before it, and every later one satisfies `Q`. `since_now` and `Since.snoc` extend it by
one label, which is what an invariant of a run needs; `Run.at_label` cuts a run at one of its
labels, and `Run.of_mem` finds the step of a label. Where a label stands for several events,
`label_of_event` finds the one that an event is of. `since_snoc_iff` is for invariants that say
exactly when, and `since_iff_exists` for histories in which nothing undoes `P`. `Alongside` keeps
two histories in step, label for label, where the labels of a run of one system are not those of
the other (`Run.alongside`, `Since.alongside`).
-/

namespace Effects

variable {σ τ ℓ κ : Type}

/-- `P` held once, of a label and the history before it, and `Q` of every label since. -/
def Since (P : List ℓ → ℓ → Prop) (Q : ℓ → Prop) (ls : List ℓ) : Prop :=
  ∃ a x b, ls = a ++ x :: b ∧ P a x ∧ ∀ y ∈ b, Q y

section
variable {P P' : List ℓ → ℓ → Prop} {Q Q' : ℓ → Prop} {ls : List ℓ} {l : ℓ}

theorem since_now (h : P ls l) : Since P Q (ls ++ [l]) := ⟨ls, l, [], rfl, h, by simp⟩

theorem Since.snoc (h : Since P Q ls) (hl : Q l) : Since P Q (ls ++ [l]) := by
  obtain ⟨a, x, b, rfl, hx, hb⟩ := h
  refine ⟨a, x, b ++ [l], by simp, hx, ?_⟩
  intro y hy
  cases List.mem_append.mp hy with
  | inl hy => exact hb y hy
  | inr hy => rw [List.mem_singleton.mp hy]; exact hl

/-- The last label, or an earlier one. -/
theorem since_snoc_iff : Since P Q (ls ++ [l]) ↔ P ls l ∨ Since P Q ls ∧ Q l := by
  constructor
  · rintro ⟨a, x, b, hls, hx, hb⟩
    induction b using List.reverseRecOn with
    | nil =>
      obtain ⟨rfl, h⟩ := List.append_inj' hls rfl
      rw [List.singleton_inj.mp h]
      exact .inl hx
    | append_singleton b y _ =>
      have hls' : ls ++ [l] = (a ++ x :: b) ++ [y] := by simpa using hls
      obtain ⟨rfl, h⟩ := List.append_inj' hls' rfl
      rw [List.singleton_inj.mp h]
      refine .inr ⟨⟨a, x, b, rfl, hx, ?_⟩, hb y (by simp)⟩
      intro z hz
      exact hb z (by simp [hz])
  · rintro (h | ⟨h, hl⟩)
    · exact since_now h
    · exact h.snoc hl

theorem not_since_nil : ¬ Since P Q [] := by
  rintro ⟨a, x, b, h, _⟩
  simp at h

/-- Where every label is one of the two, some label of the first kind is enough. -/
theorem since_iff_exists {P : ℓ → Prop} (h : ∀ y ∈ ls, P y ∨ Q y) :
    Since (fun _ => P) Q ls ↔ ∃ y ∈ ls, P y := by
  induction ls using List.reverseRecOn with
  | nil => simp [not_since_nil]
  | append_singleton ls l ih =>
    have hls := ih fun y hy => h y (List.mem_append_left _ hy)
    have hl := h l (by simp)
    rw [since_snoc_iff, hls]
    constructor
    · rintro (hp | ⟨⟨y, hy, hp⟩, -⟩)
      · exact ⟨l, by simp, hp⟩
      · exact ⟨y, List.mem_append_left _ hy, hp⟩
    · rintro ⟨y, hy, hp⟩
      rcases hl with hl | hl
      · exact .inl hl
      rcases List.mem_append.mp hy with hy | hy
      · exact .inr ⟨⟨y, hy, hp⟩, hl⟩
      · rw [List.mem_singleton.mp hy] at hp
        exact .inl hp

theorem Since.mono (h : Since P Q ls) (hP : ∀ a x, P a x → P' a x) (hQ : ∀ y, Q y → Q' y) :
    Since P' Q' ls := by
  obtain ⟨a, x, b, rfl, hx, hb⟩ := h
  refine ⟨a, x, b, rfl, hP a x hx, ?_⟩
  intro y hy
  exact hQ y (hb y hy)

end

/-- A run, cut at one of its labels. -/
theorem Run.at_label {step : σ → ℓ → σ → Prop} {s u : σ} {pre post : List ℓ} {l : ℓ}
    (h : Run step s (pre ++ l :: post) u) :
    ∃ t t', Run step s pre t ∧ step t l t' ∧ Run step t' post u := by
  obtain ⟨t, ht, hu⟩ := h.split
  obtain ⟨t', hl, hu⟩ := hu.cons_inv
  exact ⟨t, t', ht, hl, hu⟩

theorem Run.of_mem {step : σ → ℓ → σ → Prop} {s u : σ} {ls : List ℓ} {l : ℓ} (h : Run step s ls u)
    (hl : l ∈ ls) : ∃ t t', step t l t' := by
  obtain ⟨pre, post, rfl⟩ := List.append_of_mem hl
  obtain ⟨t, t', _, hstep, _⟩ := h.at_label
  exact ⟨t, t', hstep⟩

/-- An event, at its place in the label that it is of. -/
theorem label_of_event {ε : Type} {f : ℓ → List ε} {ls : List ℓ} {pre post : List ε} {e : ε}
    (h : ls.flatMap f = pre ++ e :: post) :
    ∃ a l b es es', ls = a ++ l :: b ∧ f l = es ++ e :: es' ∧ pre = a.flatMap f ++ es := by
  induction ls generalizing pre with
  | nil => simp at h
  | cons l ls ih =>
    rw [List.flatMap_cons] at h
    rcases List.append_eq_append_iff.mp h with ⟨pre', rfl, hrest⟩ | ⟨mine, hl, hrest⟩
    · obtain ⟨a, k, b, es, es', rfl, hk, rfl⟩ := ih hrest
      refine ⟨l :: a, k, b, es, es', rfl, hk, ?_⟩
      rw [List.flatMap_cons, List.append_assoc]
    · cases mine with
      | nil =>
        -- the event is the first of the labels after `l`
        have hfirst : ls.flatMap f = [] ++ e :: post := hrest.symm
        obtain ⟨a, k, b, es, es', rfl, hk, hes⟩ := ih hfirst
        refine ⟨l :: a, k, b, es, es', rfl, hk, ?_⟩
        rw [List.flatMap_cons, List.append_assoc, ← hes, hl, List.append_nil, List.append_nil]
      | cons e' mine =>
        obtain ⟨rfl, -⟩ := List.cons_eq_cons.mp hrest
        exact ⟨[], l, ls, pre, mine, rfl, hl, rfl⟩

/-! ## Two histories -/

/-- The two have as many labels, and each two `R`. -/
inductive Alongside (R : ℓ → κ → Prop) : List ℓ → List κ → Prop where
  | nil : Alongside R [] []
  | snoc {ls : List ℓ} {ks : List κ} {l : ℓ} {k : κ} : Alongside R ls ks → R l k →
      Alongside R (ls ++ [l]) (ks ++ [k])

section
variable {R : ℓ → κ → Prop} {ls : List ℓ} {ks : List κ}

/-- Where each step of one system is one of the other, so are its runs. -/
theorem Run.alongside {step : σ → ℓ → σ → Prop} {step' : τ → κ → τ → Prop} {f : τ → σ}
    (hstep : ∀ x k y, step' x k y → ∃ l, step (f x) l (f y) ∧ R l k) {x y : τ}
    (h : Run step' x ks y) : ∃ ls, Run step (f x) ls (f y) ∧ Alongside R ls ks := by
  induction h with
  | nil => exact ⟨[], .nil, .nil⟩
  | snoc _ hs ih =>
    obtain ⟨ls, hr, ha⟩ := ih
    obtain ⟨l, hl, hR⟩ := hstep _ _ _ hs
    exact ⟨ls ++ [l], hr.snoc hl, ha.snoc hR⟩

theorem Alongside.of_mem {k : κ} (h : Alongside R ls ks) (hk : k ∈ ks) : ∃ l ∈ ls, R l k := by
  induction h with
  | nil => cases hk
  | snoc _ hR ih =>
    cases List.mem_append.mp hk with
    | inl hk =>
      obtain ⟨l, hl, hlk⟩ := ih hk
      exact ⟨l, List.mem_append_left _ hl, hlk⟩
    | inr hk =>
      rw [List.mem_singleton.mp hk]
      exact ⟨_, by simp, hR⟩

theorem Alongside.mono_mem {R' : ℓ → κ → Prop} (h : Alongside R ls ks)
    (hR : ∀ l ∈ ls, ∀ k, R l k → R' l k) : Alongside R' ls ks := by
  induction h with
  | nil => exact .nil
  | snoc _ hk ih =>
    refine .snoc (ih fun l hl => hR l (List.mem_append_left _ hl)) (hR _ ?_ _ hk)
    exact List.mem_append_right _ (List.mem_singleton_self _)

theorem Since.alongside {P : List ℓ → ℓ → Prop} {Q : ℓ → Prop} {P' : List κ → κ → Prop}
    {Q' : κ → Prop} (ha : Alongside R ls ks) (h : Since P Q ls)
    (hP : ∀ ls ks l k, Alongside R ls ks → R l k → P ls l → P' ks k)
    (hQ : ∀ l k, R l k → Q l → Q' k) : Since P' Q' ks := by
  induction ha with
  | nil => exact absurd h not_since_nil
  | snoc ha hR ih =>
    cases since_snoc_iff.mp h with
    | inl hl => exact since_now (hP _ _ _ _ ha hR hl)
    | inr hl => exact (ih hl.1).snoc (hQ _ _ hR hl.2)

end

end Effects
