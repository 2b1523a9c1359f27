import TboxDiag.Lib.Handler

/-!
# Lib.Observer

What somebody notes of an exchange, who keeps in mind something of what came before. `notes` is the
list of it; `notes_append` cuts it where the exchange is cut.

`Below`: who watches the lower side of a handler notes what there is to note above. `Below.served`
carries this over to whole exchanges.
-/

namespace Effects

variable {S T : Sig} {L σ κ γ : Type}

structure Observer (S : Sig) (κ γ : Type) where
  /-- What is kept in mind after an event. -/
  next : κ → Event S → κ
  note : κ → Event S → List γ

namespace Observer

variable {o : Observer S κ γ} {low : Observer T κ γ} {r : κ} {e : Event S}
  {tr tr' : List (Event S)}

def after (o : Observer S κ γ) (r : κ) (tr : List (Event S)) : κ := tr.foldl o.next r

def notes (o : Observer S κ γ) : κ → List (Event S) → List γ
  | _, [] => []
  | r, e :: tr => o.note r e ++ o.notes (o.next r e) tr

@[simp] theorem after_cons : o.after r (e :: tr) = o.after (o.next r e) tr := rfl

@[simp] theorem notes_nil : o.notes r [] = [] := rfl
@[simp] theorem notes_cons : o.notes r (e :: tr) = o.note r e ++ o.notes (o.next r e) tr := rfl

@[simp] theorem notes_append :
    o.notes r (tr ++ tr') = o.notes r tr ++ o.notes (o.after r tr) tr' := by
  induction tr generalizing r with
  | nil => rfl
  | cons e tr ih => simp [ih]

/-- Nothing worth noting happens. -/
theorem notes_eq_nil (h : ∀ e ∈ tr, ∀ r, o.note r e = []) : o.notes r tr = [] := by
  induction tr generalizing r with
  | nil => rfl
  | cons e tr ih =>
    obtain ⟨he, htr⟩ := List.forall_mem_cons.mp h
    rw [notes_cons, he, ih htr]
    rfl

theorem after_eq (h : ∀ e ∈ tr, o.next r e = r) : o.after r tr = r := by
  induction tr with
  | nil => rfl
  | cons e tr ih =>
    obtain ⟨he, htr⟩ := List.forall_mem_cons.mp h
    rw [after_cons, he]
    exact ih htr

/-- `low` watches the lower side of the handler, `o` the upper one. -/
def Below (low : Observer T κ γ) (o : Observer S κ γ) (handle : Handler S T L σ) : Prop :=
  ∀ r c s, wp (handle c s) fun lo y =>
    low.notes r lo = o.note r ⟨c, y.1⟩ ∧ low.after r lo = o.next r ⟨c, y.1⟩

theorem Below.served {handle : Handler S T L σ} (h : low.Below o handle) {s s' : σ}
    {lo : List (Event T)} (hs : Served handle s tr lo s') :
    low.notes r lo = o.notes r tr := by
  induction hs generalizing r with
  | nil => rfl
  | cons hx _ ih =>
    obtain ⟨hnotes, hafter⟩ := hx.wp (h r _ _)
    rw [notes_append, hnotes, hafter, ih]
    rfl

end Observer
end Effects
