import TboxDiag.Lib.Prog
import TboxDiag.Lib.Run

/-!
# Lib.Component

A component with a state and operations: `exec s op` is the program that runs `op` in the state
`s`, and it ends with a result and the next state. `Performs exec` is one operation as a step,
labelled with what is seen of it, so that histories of the component are runs of it; `performAll` makes
such a run from a script, each operation against an oracle of its own.
-/

namespace Effects

variable {S : Sig} {L σ ι β : Type}

/-- What is seen of one operation: its commands with their answers, and the result. -/
structure Observed (S : Sig) (ι β : Type) where
  op : ι
  trace : List (Event S)
  result : β

def Performs (exec : σ → ι → Prog S L (β × σ)) (s : σ) (l : Observed S ι β) (s' : σ) : Prop :=
  ∃ lg, Exec (exec s l.op) l.trace lg (l.result, s')

section
variable {exec : σ → ι → Prog S L (β × σ)} {s s' : σ} {l : Observed S ι β}

theorem Performs.wp {Q : List (Event S) → β → σ → Prop} (h : Performs exec s l s')
    (hq : wp (exec s l.op) fun tr r => Q tr r.1 r.2) : Q l.trace l.result s' := by
  obtain ⟨lg, hx⟩ := h
  exact hx.wp hq

variable (exec)

/-- Run one operation against an oracle. -/
def performOne (s : σ) (op : ι) (o : ∀ c, S.Ans c) : Observed S ι β × σ :=
  let r := (exec s op).run o
  (⟨op, r.1, r.2.2.1⟩, r.2.2.2)

theorem performOne_performs (s : σ) (op : ι) (o : ∀ c, S.Ans c) :
    Performs exec s (performOne exec s op o).1 (performOne exec s op o).2 := by
  have h := exec_run o (exec s op)
  exact ⟨_, h⟩

/-- Run a list of operations, each against its own oracle. -/
def performAll (s : σ) : List (ι × (∀ c, S.Ans c)) → List (Observed S ι β) × σ
  | [] => ([], s)
  | (op, o) :: rest =>
    let r := performOne exec s op o
    let q := performAll r.2 rest
    (r.1 :: q.1, q.2)

theorem performAll_run (s : σ) (script : List (ι × (∀ c, S.Ans c))) :
    Run (Performs exec) s (performAll exec s script).1 (performAll exec s script).2 := by
  induction script generalizing s with
  | nil => exact .nil
  | cons x rest ih => exact .cons (performOne_performs exec s x.1 x.2) (ih _)

end
end Effects
