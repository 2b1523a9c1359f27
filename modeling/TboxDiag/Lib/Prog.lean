import Mathlib.Data.List.Basic

/-!
# Lib.Prog

Programs that talk to an outside world. A program of type `Prog S L α` issues commands of the
interface `S`, gets an answer to each, writes records of type `L`, and ends with an `α`. What the
outside answers is not part of the program: `Exec p tr lg a` says that `p` ends with `a` when the
commands and answers of the trace `tr` are exchanged, in order, with `lg` written on the way.

* `wp`: weakest preconditions over traces, with a rule for each program former, `wp_bind` for
  sequencing and `wp_iff` to pass between `wp` and `Exec`.
* `Issues`: which commands a program issues, whatever it is answered.
* `Answers`: every answer in a trace is the one a given oracle gives; `exec_run` shows that a
  program can be run against any oracle.
-/

namespace Effects

/-- An interface to the outside: its commands, and the type of the answer to each. -/
structure Sig where
  Cmd : Type
  Ans : Cmd → Type

/-- A command with the answer it got. -/
structure Event (S : Sig) where
  cmd : S.Cmd
  ans : S.Ans cmd

inductive Prog (S : Sig) (L α : Type) where
  | pure (a : α)
  | call (c : S.Cmd) (k : S.Ans c → Prog S L α)
  | tell (l : L) (p : Prog S L α)

namespace Prog

variable {S : Sig} {L α β : Type}

def bind : Prog S L α → (α → Prog S L β) → Prog S L β
  | .pure a, f => f a
  | .call c k, f => .call c fun x => (k x).bind f
  | .tell l p, f => .tell l (p.bind f)

instance : Monad (Prog S L) where
  pure := Prog.pure
  bind := Prog.bind

theorem bind_assoc {γ : Type} (p : Prog S L α) (f : α → Prog S L β) (g : β → Prog S L γ) :
    (p >>= f) >>= g = p >>= fun a => f a >>= g := by
  induction p with
  | pure a => rfl
  | call c k ih => exact congrArg (Prog.call c) (funext ih)
  | tell l p ih => exact congrArg (Prog.tell l) ih

/-- Write a record. -/
def emit (l : L) : Prog S L Unit := .tell l (.pure ())

end Prog

variable {S : Sig} {L α β : Type}

/-! ## Executions -/

inductive Exec : Prog S L α → List (Event S) → List L → α → Prop where
  | pure {a : α} : Exec (.pure a) [] [] a
  | call {c : S.Cmd} {k : S.Ans c → Prog S L α} {x : S.Ans c} {tr : List (Event S)}
      {lg : List L} {a : α} : Exec (k x) tr lg a → Exec (.call c k) (⟨c, x⟩ :: tr) lg a
  | tell {l : L} {p : Prog S L α} {tr : List (Event S)} {lg : List L} {a : α} :
      Exec p tr lg a → Exec (.tell l p) tr (l :: lg) a

theorem exec_call_iff {c : S.Cmd} {k : S.Ans c → Prog S L α} {x : S.Ans c} {tr : List (Event S)}
    {lg : List L} {a : α} : Exec (.call c k) (⟨c, x⟩ :: tr) lg a ↔ Exec (k x) tr lg a := by
  constructor
  · intro h
    cases h with
    | call h => exact h
  · intro h
    exact .call h

/-- An execution of a sequence is one of its first part and one of the rest. -/
theorem exec_bind_inv {p : Prog S L α} {f : α → Prog S L β} {tr : List (Event S)} {lg : List L}
    {b : β} (h : Exec (p >>= f) tr lg b) :
    ∃ a tr₁ lg₁ tr₂ lg₂, Exec p tr₁ lg₁ a ∧ Exec (f a) tr₂ lg₂ b ∧ tr = tr₁ ++ tr₂ ∧
      lg = lg₁ ++ lg₂ := by
  induction p generalizing tr lg with
  | pure a => exact ⟨a, [], [], tr, lg, .pure, h, rfl, rfl⟩
  | call c k ih =>
    have h' : Exec (.call c fun x => k x >>= f) tr lg b := h
    cases h' with
    | call hx =>
      obtain ⟨a, tr₁, lg₁, tr₂, lg₂, h₁, h₂, rfl, rfl⟩ := ih _ hx
      exact ⟨a, _, lg₁, tr₂, lg₂, .call h₁, h₂, rfl, rfl⟩
  | tell l p ih =>
    have h' : Exec (.tell l (p >>= f)) tr lg b := h
    cases h' with
    | tell hx =>
      obtain ⟨a, tr₁, lg₁, tr₂, lg₂, h₁, h₂, rfl, rfl⟩ := ih hx
      exact ⟨a, tr₁, _, tr₂, lg₂, .tell h₁, h₂, rfl, rfl⟩

/-! ## Weakest preconditions -/

/-- `wp p Q`: whatever the outside answers, the trace exchanged and the result satisfy `Q`. -/
def wp : Prog S L α → (List (Event S) → α → Prop) → Prop
  | .pure a, Q => Q [] a
  | .call c k, Q => ∀ x, wp (k x) fun tr a => Q (⟨c, x⟩ :: tr) a
  | .tell _ p, Q => wp p Q

@[simp] theorem wp_pure (a : α) (Q : List (Event S) → α → Prop) :
    wp (pure a : Prog S L α) Q ↔ Q [] a := Iff.rfl

@[simp] theorem wp_call (c : S.Cmd) (k : S.Ans c → Prog S L α) (Q : List (Event S) → α → Prop) :
    wp (.call c k) Q ↔ ∀ x, wp (k x) fun tr a => Q (⟨c, x⟩ :: tr) a := Iff.rfl

@[simp] theorem wp_tell (l : L) (p : Prog S L α) (Q : List (Event S) → α → Prop) :
    wp (.tell l p) Q ↔ wp p Q := Iff.rfl

@[simp] theorem wp_emit (l : L) (Q : List (Event S) → Unit → Prop) :
    wp (Prog.emit l : Prog S L Unit) Q ↔ Q [] () := Iff.rfl

theorem wp_iff {p : Prog S L α} {Q : List (Event S) → α → Prop} :
    wp p Q ↔ ∀ tr lg a, Exec p tr lg a → Q tr a := by
  constructor
  · intro h tr lg a hx
    induction hx generalizing Q with
    | pure => exact h
    | call _ ih => exact ih (h _)
    | tell _ ih => exact ih h
  · intro h
    induction p generalizing Q with
    | pure a => exact h _ _ _ .pure
    | call c k ih =>
      intro x
      refine ih x ?_
      intro tr lg a hx
      exact h _ _ _ (.call hx)
    | tell l p ih =>
      refine ih ?_
      intro tr lg a hx
      exact h _ _ _ (.tell hx)

theorem Exec.wp {p : Prog S L α} {Q : List (Event S) → α → Prop} {tr : List (Event S)}
    {lg : List L} {a : α} (hx : Exec p tr lg a) (h : wp p Q) : Q tr a := wp_iff.mp h _ _ _ hx

theorem wp_mono {p : Prog S L α} {Q R : List (Event S) → α → Prop} (h : wp p Q)
    (hQR : ∀ tr a, Q tr a → R tr a) : wp p R := by
  refine wp_iff.mpr ?_
  intro tr lg a hx
  exact hQR tr a (hx.wp h)

theorem wp_of_forall {p : Prog S L α} {Q : List (Event S) → α → Prop} (h : ∀ tr a, Q tr a) :
    wp p Q := by
  refine wp_iff.mpr ?_
  intro tr _ a _
  exact h tr a

theorem wp_and {p : Prog S L α} {Q R : List (Event S) → α → Prop} (hQ : wp p Q) (hR : wp p R) :
    wp p fun tr a => Q tr a ∧ R tr a := by
  refine wp_iff.mpr ?_
  intro tr lg a hx
  exact ⟨hx.wp hQ, hx.wp hR⟩

/-- What is exchanged and returned is an execution. -/
theorem wp_exec (p : Prog S L α) : wp p fun tr a => ∃ lg, Exec p tr lg a := by
  refine wp_iff.mpr ?_
  intro tr lg a hx
  exact ⟨lg, hx⟩

@[simp] theorem wp_bind (p : Prog S L α) (f : α → Prog S L β) (Q : List (Event S) → β → Prop) :
    wp (p >>= f) Q ↔ wp p fun tr a => wp (f a) fun tr' b => Q (tr ++ tr') b := by
  induction p generalizing Q with
  | pure a => exact Iff.rfl
  | call c k ih => exact forall_congr' fun x => ih x fun tr b => Q (⟨c, x⟩ :: tr) b
  | tell l p ih => exact ih Q

/-- A branch of the program is a branch of the proof. -/
@[simp] theorem wp_ite (c : Prop) [Decidable c] (p q : Prog S L α)
    (Q : List (Event S) → α → Prop) :
    wp (if c then p else q) Q ↔ (c → wp p Q) ∧ (¬c → wp q Q) := by
  by_cases h : c <;> simp [h]

/-! ## The commands of a program -/

/-- `p` issues only commands that satisfy `P`. -/
def Issues (P : S.Cmd → Prop) (p : Prog S L α) : Prop := wp p fun tr _ => ∀ e ∈ tr, P e.cmd

@[simp] theorem issues_pure {P : S.Cmd → Prop} {a : α} : Issues P (pure a : Prog S L α) := by
  simp [Issues]

@[simp] theorem issues_emit {P : S.Cmd → Prop} {l : L} :
    Issues P (Prog.emit l : Prog S L Unit) := by
  simp [Issues]

theorem issues_bind {P : S.Cmd → Prop} {p : Prog S L α} {f : α → Prog S L β} (hp : Issues P p)
    (hf : ∀ a, Issues P (f a)) : Issues P (p >>= f) := by
  unfold Issues
  rw [wp_bind]
  refine wp_mono hp ?_
  intro tr a htr
  refine wp_mono (hf a) ?_
  intro tr' b htr' e he
  cases List.mem_append.mp he with
  | inl he => exact htr e he
  | inr he => exact htr' e he

theorem issues_ite {P : S.Cmd → Prop} {c : Prop} [Decidable c] {p q : Prog S L α}
    (hp : Issues P p) (hq : Issues P q) : Issues P (if c then p else q) := by
  by_cases h : c
  · rwa [if_pos h]
  · rwa [if_neg h]

/-! ## Oracles -/

/-- Every answer in the trace is the one the oracle `o` gives to the command. -/
def Answers (o : ∀ c, S.Ans c) (tr : List (Event S)) : Prop :=
  ∀ e ∈ tr, e.ans = o e.cmd

@[simp] theorem answers_nil (o : ∀ c, S.Ans c) : Answers o [] := by simp [Answers]

@[simp] theorem answers_cons (o : ∀ c, S.Ans c) (c : S.Cmd) (x : S.Ans c) (tr : List (Event S)) :
    Answers o (⟨c, x⟩ :: tr) ↔ x = o c ∧ Answers o tr := by simp [Answers]

@[simp] theorem answers_append (o : ∀ c, S.Ans c) (tr tr' : List (Event S)) :
    Answers o (tr ++ tr') ↔ Answers o tr ∧ Answers o tr' := by
  simp only [Answers, List.mem_append, or_imp, forall_and]

/-- Run a program against an oracle: the trace, the records and the result. -/
def Prog.run (o : ∀ c, S.Ans c) : Prog S L α → List (Event S) × List L × α
  | .pure a => ([], [], a)
  | .call c k =>
    let r := (k (o c)).run o
    (⟨c, o c⟩ :: r.1, r.2.1, r.2.2)
  | .tell l p =>
    let r := p.run o
    (r.1, l :: r.2.1, r.2.2)

theorem exec_run (o : ∀ c, S.Ans c) (p : Prog S L α) :
    Exec p (p.run o).1 (p.run o).2.1 (p.run o).2.2 := by
  induction p with
  | pure a => exact .pure
  | call c k ih => exact .call (ih _)
  | tell l p ih => exact .tell ih

theorem answers_run (o : ∀ c, S.Ans c) (p : Prog S L α) : Answers o (p.run o).1 := by
  induction p with
  | pure a => simp [Prog.run]
  | call c k ih => simpa [Prog.run] using ih _
  | tell l p ih => exact ih

/-- The result of the run. -/
def Prog.result (o : ∀ c, S.Ans c) (p : Prog S L α) : α := (p.run o).2.2

@[simp] theorem result_pure (o : ∀ c, S.Ans c) (a : α) :
    (pure a : Prog S L α).result o = a := rfl

@[simp] theorem result_call (o : ∀ c, S.Ans c) (c : S.Cmd) (k : S.Ans c → Prog S L α) :
    (Prog.call c k).result o = (k (o c)).result o := rfl

@[simp] theorem result_emit (o : ∀ c, S.Ans c) (l : L) :
    (Prog.emit l : Prog S L Unit).result o = () := rfl

@[simp] theorem result_bind (o : ∀ c, S.Ans c) (p : Prog S L α) (f : α → Prog S L β) :
    (p >>= f).result o = (f (p.result o)).result o := by
  induction p with
  | pure a => rfl
  | call c k ih => exact ih (o c)
  | tell l p ih => exact ih

end Effects
