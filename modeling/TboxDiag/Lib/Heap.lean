import Mathlib.Data.List.Basic

/-!
# Lib.Heap

Objects behind shared pointers. A heap only grows: `make_shared` allocates a cell, and a pointer
is the index of its cell. Objects nobody points to any more stay where they are.
-/

namespace Effects

abbrev Ref := Nat

structure Heap (α : Type) where
  cells : List α := []

namespace Heap

variable {α : Type}

/-- `make_shared`. -/
def alloc (h : Heap α) (a : α) : Ref × Heap α := (h.cells.length, ⟨h.cells ++ [a]⟩)

/-- The object behind a pointer; `none` if the pointer is null. -/
def deref (h : Heap α) (p : Option Ref) : Option α := p.bind fun r => h.cells[r]?

def store (h : Heap α) (p : Option Ref) (a : α) : Heap α :=
  match p with
  | none => h
  | some r => ⟨h.cells.set r a⟩

@[simp] theorem alloc_deref (h : Heap α) (a : α) :
    (h.alloc a).2.deref (some (h.alloc a).1) = some a := by
  simp [alloc, deref]

theorem store_deref {h : Heap α} {p : Option Ref} {b : α} (hp : h.deref p = some b) (a : α) :
    (h.store p a).deref p = some a := by
  obtain ⟨r, rfl, hr⟩ := Option.bind_eq_some_iff.mp hp
  have hlt := (List.getElem?_eq_some_iff.mp hr).1
  simp [store, deref, hlt]

theorem store_self {h : Heap α} {p : Option Ref} {a : α} (hp : h.deref p = some a) :
    h.store p a = h := by
  obtain ⟨r, rfl, hr⟩ := Option.bind_eq_some_iff.mp hp
  obtain ⟨hlt, rfl⟩ := List.getElem?_eq_some_iff.mp hr
  simp [store]

@[simp] theorem store_store (h : Heap α) (p : Option Ref) (a b : α) :
    (h.store p a).store p b = h.store p b := by
  cases p <;> simp [store]

end Heap
end Effects
