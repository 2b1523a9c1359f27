import Mathlib.Data.List.Basic

/-!
# Lib.Resource

Resources that a history of events opens and closes. `live` runs over a history and keeps the list
of the resources that are open, each as often as it was opened and not closed since.

* `live_append`: histories compose.
* `Within`: at no point of the history more than `n` are open, with a rule for each end.
-/

namespace Effects

section
variable {α β : Type} [DecidableEq β] (opens closes : α → Option β)

/-- What is open after one event. -/
def liveAfter (held : List β) (e : α) : List β :=
  match opens e, closes e with
  | some b, _ => held ++ [b]
  | none, some b => held.erase b
  | none, none => held

def live (held : List β) (es : List α) : List β := es.foldl (liveAfter opens closes) held

/-- At every point of the history at most `n` are open. -/
def Within (n : Nat) (held : List β) (es : List α) : Prop :=
  ∀ pre post, es = pre ++ post → (live opens closes held pre).length ≤ n

end

section
variable {α β : Type} [DecidableEq β] {opens closes : α → Option β} {held : List β} {n : Nat}
  {e : α} {es es' : List α} {b : β}

@[simp] theorem live_nil : live opens closes held [] = held := rfl

@[simp] theorem live_cons : live opens closes held (e :: es) =
    live opens closes (liveAfter opens closes held e) es := rfl

@[simp] theorem live_append : live opens closes held (es ++ es') =
    live opens closes (live opens closes held es) es' := List.foldl_append ..

theorem liveAfter_open (h : opens e = some b) : liveAfter opens closes held e = held ++ [b] := by
  rw [liveAfter, h]

theorem liveAfter_close (ho : opens e = none) (hc : closes e = some b) :
    liveAfter opens closes held e = held.erase b := by
  rw [liveAfter, ho, hc]

theorem liveAfter_idle (ho : opens e = none) (hc : closes e = none) :
    liveAfter opens closes held e = held := by
  rw [liveAfter, ho, hc]

/-- Nothing is opened and nothing closed. -/
theorem live_idle (h : ∀ e ∈ es, opens e = none ∧ closes e = none) :
    live opens closes held es = held := by
  induction es with
  | nil => rfl
  | cons e es ih =>
    obtain ⟨ho, hc⟩ := h e (List.mem_cons_self ..)
    rw [live_cons, liveAfter_idle ho hc]
    exact ih fun x hx => h x (List.mem_cons_of_mem _ hx)

theorem within_nil : Within opens closes n held [] ↔ held.length ≤ n := by
  constructor
  · intro h
    exact h [] [] rfl
  · intro h pre post hes
    obtain ⟨rfl, _⟩ := List.append_eq_nil_iff.mp hes.symm
    exact h

theorem within_append : Within opens closes n held (es ++ es') ↔
    Within opens closes n held es ∧ Within opens closes n (live opens closes held es) es' := by
  constructor
  · intro h
    refine ⟨?_, ?_⟩
    · rintro pre post rfl
      exact h pre (post ++ es') (List.append_assoc ..)
    · rintro pre post rfl
      rw [← live_append]
      exact h (es ++ pre) post (List.append_assoc ..).symm
  · rintro ⟨h, h'⟩ pre post heq
    rcases List.append_eq_append_iff.mp heq with ⟨mid, rfl, rfl⟩ | ⟨mid, rfl, rfl⟩
    · rw [live_append]
      exact h' mid post rfl
    · exact h pre mid rfl

theorem within_cons : Within opens closes n held (e :: es) ↔
    held.length ≤ n ∧ Within opens closes n (liveAfter opens closes held e) es := by
  constructor
  · intro h
    refine ⟨h [] (e :: es) rfl, ?_⟩
    rintro pre post rfl
    exact h (e :: pre) post rfl
  · rintro ⟨hn, h⟩ pre post heq
    cases pre with
    | nil => exact hn
    | cons x pre =>
      cases heq
      exact h pre post rfl

theorem within_idle (h : ∀ e ∈ es, opens e = none ∧ closes e = none) (hn : held.length ≤ n) :
    Within opens closes n held es := by
  rintro pre post rfl
  rw [live_idle fun e he => h e (List.mem_append_left _ he)]
  exact hn

end

end Effects
