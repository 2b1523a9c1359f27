import Mathlib.Data.List.Induction

/-!
# Lib.Tally

A counter behind a history of events: some events add one to it, some clear it.

* `tally`: how many events were counted since the last that cleared.
* `lastHit`: the last event that was counted, cleared or not since.
-/

namespace Effects

variable {α : Type} {hit clear : α → Bool} {x : α} {xs : List α}

def tally (hit clear : α → Bool) (xs : List α) : Nat :=
  xs.foldl (fun n x => if clear x then 0 else if hit x then n + 1 else n) 0

@[simp] theorem tally_nil : tally hit clear [] = 0 := rfl

theorem tally_snoc : tally hit clear (xs ++ [x]) =
    if clear x then 0 else if hit x then tally hit clear xs + 1 else tally hit clear xs := by
  simp [tally]

theorem tally_cleared (h : clear x = true) : tally hit clear (xs ++ [x]) = 0 := by
  rw [tally_snoc, if_pos h]

theorem tally_hit (hc : clear x = false) (h : hit x = true) :
    tally hit clear (xs ++ [x]) = tally hit clear xs + 1 := by
  simp [tally_snoc, hc, h]

theorem tally_missed (hc : clear x = false) (h : hit x = false) :
    tally hit clear (xs ++ [x]) = tally hit clear xs := by
  simp [tally_snoc, hc, h]

def lastHit (hit : α → Bool) (xs : List α) : Option α := (xs.filter hit).getLast?

theorem lastHit_hit (h : hit x = true) : lastHit hit (xs ++ [x]) = some x := by
  simp [lastHit, h]

theorem lastHit_missed (h : hit x = false) : lastHit hit (xs ++ [x]) = lastHit hit xs := by
  simp [lastHit, h]

end Effects
