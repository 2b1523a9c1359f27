import Mathlib.Data.List.Basic

/-!
# Lib.Lease

A resource that one holder has at a time, for as long as it renews its claim. `Lease.next` says what
an event does to the lease, `Lease.after` what a list of events does. A lease ends when its holder
gives it up, when it is called off, or when somebody examines it and finds it `late`.

`Orderly`: every event that a holder causes is caused by the one that has the lease, or comes when
nobody has it. In an orderly history the lease passes from one holder to another only through an
event that frees it (`Orderly.keeps_or_freed`).
-/

namespace Effects

/-- Who holds the resource, for what, and since when it has not renewed its claim. -/
structure Lease (α κ : Type) where
  holder : α
  purpose : κ
  renewedAt : Nat
  deriving DecidableEq, Repr

namespace Lease

variable {α κ : Type}

inductive Event (α κ : Type) where
  | granted (holder : α) (purpose : κ) (t : Nat)
  | renewed (holder : α) (t : Nat)
  | released (holder : α)
  /-- Called off, whoever has it. -/
  | ended
  | examined (t : Nat)
  deriving DecidableEq, Repr

/-- Who causes the event, if it is not the resource itself. -/
def Event.cause : Event α κ → Option α
  | .granted a _ _ | .renewed a _ | .released a => some a
  | .ended | .examined _ => none

variable (late : Nat → Nat → Prop) [DecidableRel late]

def next : Option (Lease α κ) → Event α κ → Option (Lease α κ)
  | _, .granted holder purpose t => some ⟨holder, purpose, t⟩
  | _, .released _ => none
  | _, .ended => none
  | none, _ => none
  | some l, .renewed _ t => some { l with renewedAt := t }
  | some l, .examined t => if late t l.renewedAt then none else some l

def after (o : Option (Lease α κ)) (es : List (Event α κ)) : Option (Lease α κ) :=
  es.foldl (next late) o

@[simp] theorem after_nil (o : Option (Lease α κ)) : after late o [] = o := rfl

@[simp] theorem after_cons (o : Option (Lease α κ)) (e : Event α κ) (es : List (Event α κ)) :
    after late o (e :: es) = after late (next late o e) es := rfl

theorem after_append (o : Option (Lease α κ)) (es es' : List (Event α κ)) :
    after late o (es ++ es') = after late (after late o es) es' := List.foldl_append

/-- The event frees what `l` holds. -/
inductive Frees (l : Lease α κ) : Event α κ → Prop where
  | released : Frees l (.released l.holder)
  | ended : Frees l .ended
  | expired {t : Nat} : late t l.renewedAt → Frees l (.examined t)

/-- Whoever causes the event may do so under the lease `o`. -/
def Admits (o : Option (Lease α κ)) (e : Event α κ) : Prop :=
  ∀ l ∈ o, ∀ a ∈ e.cause, a = l.holder

def Orderly : Option (Lease α κ) → List (Event α κ) → Prop
  | _, [] => True
  | o, e :: es => Admits o e ∧ Orderly (next late o e) es

variable {late}
variable {o : Option (Lease α κ)} {l : Lease α κ} {e : Event α κ} {es es' : List (Event α κ)}

@[simp] theorem admits_none : Admits (none : Option (Lease α κ)) e := by simp [Admits]

theorem orderly_append :
    Orderly late o (es ++ es') ↔ Orderly late o es ∧ Orderly late (after late o es) es' := by
  induction es generalizing o with
  | nil => simp [Orderly]
  | cons e es ih => simp [Orderly, ih, and_assoc]

/-- An admitted event leaves the lease with its holder, or frees it. -/
theorem next_holder (h : Admits (some l) e) :
    (∃ l', next late (some l) e = some l' ∧ l'.holder = l.holder) ∨ Frees late l e := by
  cases e with
  | granted a k t => exact .inl ⟨⟨a, k, t⟩, rfl, h l rfl a rfl⟩
  | renewed a t => exact .inl ⟨_, rfl, rfl⟩
  | released a =>
    obtain rfl := h l rfl a rfl
    exact .inr .released
  | ended => exact .inr .ended
  | examined t =>
    by_cases ht : late t l.renewedAt
    · exact .inr (.expired ht)
    · exact .inl ⟨l, if_neg ht, rfl⟩

/-- Either the holder has the lease all along, or some event freed it from the holder first. -/
theorem Orderly.keeps_or_freed (h : Orderly late (some l) es) :
    (∃ l', after late (some l) es = some l' ∧ l'.holder = l.holder) ∨
      ∃ pre e post l', es = pre ++ e :: post ∧ after late (some l) pre = some l' ∧
        l'.holder = l.holder ∧ Frees late l' e := by
  induction es generalizing l with
  | nil => exact .inl ⟨l, rfl, rfl⟩
  | cons e es ih =>
    obtain ⟨hadm, hrest⟩ := h
    have hnext : (∃ l', next late (some l) e = some l' ∧ l'.holder = l.holder) ∨
        Frees late l e := next_holder hadm
    rcases hnext with ⟨l₁, hl₁, hsame⟩ | hfree
    · rw [hl₁] at hrest
      rcases ih hrest with ⟨l₂, hl₂, hsame₂⟩ | ⟨pre, e', post, l₂, rfl, hl₂, hsame₂, hfree⟩
      · refine .inl ⟨l₂, ?_, hsame₂.trans hsame⟩
        rw [after_cons, hl₁, hl₂]
      · refine .inr ⟨e :: pre, e', post, l₂, rfl, ?_, hsame₂.trans hsame, hfree⟩
        rw [after_cons, hl₁, hl₂]
    · exact .inr ⟨[], e, es, l, rfl, rfl, rfl, hfree⟩

/-- The lease was freed before somebody else could cause an event. -/
theorem Orderly.freed_before {a : α} (h : Orderly late (some l) (es ++ e :: es'))
    (hcause : e.cause = some a) (hne : a ≠ l.holder) :
    ∃ pre e' post l', es = pre ++ e' :: post ∧ after late (some l) pre = some l' ∧
      l'.holder = l.holder ∧ Frees late l' e' := by
  obtain ⟨hes, hadm, -⟩ := orderly_append.mp h
  rcases hes.keeps_or_freed with ⟨l', hl', hsame⟩ | hfreed
  · exact absurd ((hadm l' hl' a hcause).trans hsame) hne
  · exact hfreed

end Lease
end Effects
