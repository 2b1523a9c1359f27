import Mathlib.Data.List.Basic

/-!
# Lib.Register

A register behind a history of events. Some events write it (`w x = some v`), some report what it
holds (`r x = some v`).

* `current`: what it holds after a history, the last value written or else the initial one.
* `Reports`: every report gives what it holds at that point.
* `current_flatMap`: events that stand for a piece of history each may be read as writes themselves.
-/

namespace Effects

variable {α β γ : Type} {w r : α → Option β} {v : β} {x : α} {xs ys : List α}

def current (w : α → Option β) (v : β) (xs : List α) : β := xs.foldl (fun v x => (w x).getD v) v

@[simp] theorem current_nil : current w v [] = v := rfl

@[simp] theorem current_cons : current w v (x :: xs) = current w ((w x).getD v) xs := rfl

@[simp] theorem current_append : current w v (xs ++ ys) = current w (current w v xs) ys :=
  List.foldl_append ..

/-- Nothing is written, nothing changes. -/
theorem current_idle (h : ∀ x ∈ xs, w x = none) : current w v xs = v := by
  induction xs with
  | nil => rfl
  | cons x xs ih =>
    rw [current_cons, h x (List.mem_cons_self ..), Option.getD_none]
    exact ih fun y hy => h y (List.mem_cons_of_mem _ hy)

theorem current_flatMap {f : γ → List α} {w' : γ → Option β} {zs : List γ}
    (h : ∀ z ∈ zs, ∀ v, current w v (f z) = (w' z).getD v) :
    current w v (zs.flatMap f) = current w' v zs := by
  induction zs generalizing v with
  | nil => rfl
  | cons z zs ih =>
    rw [List.flatMap_cons, current_append, h z (List.mem_cons_self ..), current_cons]
    exact ih fun y hy => h y (List.mem_cons_of_mem _ hy)

def Reports (w r : α → Option β) (v : β) (xs : List α) : Prop :=
  ∀ pre x post u, xs = pre ++ x :: post → r x = some u → u = current w v pre

@[simp] theorem reports_nil : Reports w r v [] := by
  intro pre x post u hxs
  cases pre <;> cases hxs

@[simp] theorem reports_cons : Reports w r v (x :: xs) ↔
    (∀ u, r x = some u → u = v) ∧ Reports w r ((w x).getD v) xs := by
  constructor
  · intro h
    refine ⟨fun u hr => h [] x xs u rfl hr, ?_⟩
    intro pre y post u hxs hr
    exact h (x :: pre) y post u (by rw [hxs, List.cons_append]) hr
  · rintro ⟨hx, hxs⟩ pre y post u heq hr
    cases pre with
    | nil =>
      cases heq
      exact hx u hr
    | cons z pre =>
      cases heq
      exact hxs pre y post u rfl hr

theorem Reports.left (h : Reports w r v (xs ++ ys)) : Reports w r v xs := by
  intro pre x post u hxs hr
  refine h pre x (post ++ ys) u ?_ hr
  rw [hxs, List.append_assoc, List.cons_append]

theorem Reports.right (h : Reports w r v (xs ++ ys)) : Reports w r (current w v xs) ys := by
  intro pre x post u hys hr
  rw [← current_append]
  refine h (xs ++ pre) x post u ?_ hr
  rw [hys, List.append_assoc]

/-- Where nothing is written, every report gives what the register held before. -/
theorem Reports.idle (h : Reports w r v xs) (hw : ∀ x ∈ xs, w x = none) (hx : x ∈ xs) {u : β}
    (hr : r x = some u) : u = v := by
  obtain ⟨pre, post, rfl⟩ := List.append_of_mem hx
  rw [h pre x post u rfl hr]
  exact current_idle fun y hy => hw y (List.mem_append_left _ hy)

end Effects
