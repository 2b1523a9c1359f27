import TboxDiag.SecurityHistory
import TboxDiag.Lib.Component
import TboxDiag.Lib.Tally

/-!
# SecurityRuns

SecurityAccess on its own, under any sequence of its operations on any levels. The state of a level
is kept in the entry of one key, and an operation touches at most one entry, or all of them
(`touch`). `EntryMoves` is the machine of one entry; `performs_entry` that every operation moves
every entry so, and `performs_run` carries it to whole runs.
-/

namespace Tbox
namespace Diag

open Effects
open SecurityAccess (seedLevelOf seedLevelOfKey)

/-! ## Operations -/

inductive SecurityOp where
  | requestSeed (level : UInt8)
  | sendKey (level : UInt8) (key : Bytes)
  | lock (level : UInt8)
  | reset
  deriving DecidableEq, Repr

/-- Run one operation; the result is the code it returns, if it returns one. -/
def SecurityAccess.perform (sa : SecurityAccess) :
    SecurityOp → M (Option DiagErrorCode × SecurityAccess)
  | .requestSeed level => do
    let (code, _, sa) ← sa.requestSeed level
    pure (some code, sa)
  | .sendKey level key => do
    let (code, sa) ← sa.sendKey level key
    pure (some code, sa)
  | .lock level => pure (none, sa.lock level)
  | .reset => pure (none, sa.reset)

abbrev SecurityStep := Observed outside SecurityOp (Option DiagErrorCode)

/-- The level whose entry an operation works on; `reset` works on all. -/
def SecurityOp.entryLevel : SecurityOp → Option UInt8
  | .requestSeed level => some level
  | .sendKey level _ => some (seedLevelOfKey level)
  | .lock level => some level
  | .reset => none

/-! ## What a step does to an entry -/

inductive Touch where
  | kept
  | seeded
  | accepted
  | rejected
  | locked
  | reset
  deriving DecidableEq, Repr

/-- SEC rejected a key. -/
def keyRejected (tr : Trace) : Bool := (verdicts tr).any fun v => !v.2

/-- The reading of the clock from which a lockout runs. -/
def lockoutStart (tr : Trace) : Option Time :=
  tr.findSome? fun
    | ⟨.now .lockoutStart, t⟩ => some t.time
    | _ => none

def touch (level : UInt8) (l : SecurityStep) : Touch :=
  match l.op with
  | .requestSeed level' => if level' = level ∧ l.result = some .success then .seeded else .kept
  | .sendKey level' _ =>
    if seedLevelOfKey level' ≠ level then .kept
    else if l.result = some .success then .accepted
    else if keyRejected l.trace then .rejected
    else .kept
  | .lock level' => if level' = level then .locked else .kept
  | .reset => .reset

/-- One step of the entry of `level`. `d` is the lockout deadline a rejected key leaves. -/
inductive EntryMoves (level : UInt8) :
    SecurityAccessState → SecurityStep → SecurityAccessState → Prop where
  | kept {st : SecurityAccessState} {l : SecurityStep} : touch level l = .kept →
      EntryMoves level st l st
  | seeded {st : SecurityAccessState} {l : SecurityStep} {seed : Bytes} :
      touch level l = .seeded →
      EntryMoves level st l
        { st with level, seedRequested := true, requestedSeed := seed, unlocked := false }
  | accepted {st : SecurityAccessState} {l : SecurityStep} : touch level l = .accepted →
      st.seedRequested = true →
      EntryMoves level st l { st with unlocked := true, seedRequested := false, attemptCount := 0 }
  | rejected {st : SecurityAccessState} {l : SecurityStep} {d : Time} :
      touch level l = .rejected → st.seedRequested = true →
      (SecurityConfig.maxAttempts ≤ st.attemptCount + 1 → ∃ t, lockoutStart l.trace = some t ∧
        d = t + millis SecurityConfig.lockoutDurationMs) →
      EntryMoves level st l
        { st with attemptCount := st.attemptCount + 1, seedRequested := false, lockedUntil := d }
  | locked {st : SecurityAccessState} {l : SecurityStep} : touch level l = .locked →
      EntryMoves level st l { st with unlocked := false, seedRequested := false }
  | reset {st : SecurityAccessState} {l : SecurityStep} : touch level l = .reset →
      EntryMoves level st l {}

/-! ## Every operation moves every entry so -/

section
variable {sa sa' : SecurityAccess} {level level' : UInt8} {tr : Trace} {code : DiagErrorCode}

theorem SecurityAccess.lock_entry (sa : SecurityAccess) (level : UInt8) :
    (sa.lock level).entry level =
      { sa.entry level with unlocked := false, seedRequested := false } := by
  unfold lock
  cases hs : sa.states level with
  | none => simp [entry, hs]
  | some st => simp [entry, setEntry, hs]

theorem SecurityAccess.lock_entry_ne (h : level' ≠ level) :
    (sa.lock level).entry level' = sa.entry level' := by
  unfold lock
  cases hs : sa.states level with
  | none => rfl
  | some st => exact sa.setEntry_entry_ne h _

theorem touch_other {l : SecurityStep} (h : l.op.entryLevel = some level') (hne : level' ≠ level) :
    touch level l = .kept := by
  obtain ⟨op, tr, code⟩ := l
  cases op <;> cases h <;> simp [touch, hne]

theorem SecurityAccess.SeedRequested.moves {seed : Bytes}
    (h : sa.SeedRequested level tr code seed sa') :
    EntryMoves level (sa.entry level) ⟨.requestSeed level, tr, some code⟩ (sa'.entry level) := by
  cases h with
  | issued _ _ _ _ =>
    rw [seeded_entry]
    exact .seeded (by simp [touch])
  | _ => exact .kept (by simp [touch])

theorem SecurityAccess.SeedRequested.entry_ne {seed : Bytes}
    (h : sa.SeedRequested level tr code seed sa') (hne : level' ≠ level) :
    sa'.entry level' = sa.entry level' := by
  cases h with
  | issued _ _ _ _ => exact sa.setEntry_entry_ne hne _
  | _ => rfl

/-- A key that is not judged is not rejected. -/
theorem touch_unjudged {key : Bytes} (hv : verdicts tr = []) (hc : code ≠ .success) :
    touch (seedLevelOfKey level) ⟨.sendKey level key, tr, some code⟩ = .kept := by
  simp [touch, keyRejected, hv, hc]

theorem SecurityAccess.KeySent.moves {key : Bytes} (h : sa.KeySent level key tr code sa') :
    EntryMoves (seedLevelOfKey level) (sa.entry (seedLevelOfKey level))
      ⟨.sendKey level key, tr, some code⟩ (sa'.entry (seedLevelOfKey level)) := by
  cases h with
  | noSec _ => exact .kept (touch_unjudged rfl (by decide))
  | unavailable _ _ => exact .kept (touch_unjudged rfl (by decide))
  | lockedOut _ _ hl =>
    refine .kept (touch_unjudged ?_ (by decide))
    rw [verdicts_cons, hl.ticks.plain.verdicts]
    rfl
  | noSeed _ _ hl _ =>
    rw [setEntry_self]
    refine .kept (touch_unjudged ?_ (by decide))
    rw [verdicts_cons, hl.ticks.plain.verdicts]
    rfl
  | @rejected h x tr₀ tr₁ y d _ _ hl hp hy hd =>
    have hv : verdicts (⟨.sec h .isAvailable, x⟩ ::
        (tr₀ ++ ⟨.sec h (.verifyKey level key), y⟩ :: tr₁)) = [(y.time, false)] := by
      rw [verdicts_cons, verdicts_append, hl.ticks.plain.verdicts, verdicts_cons,
        hd.ticks.plain.verdicts, ← hy]
      rfl
    rw [rejected_entry]
    refine .rejected (by simp [touch, keyRejected, hv]) hp ?_
    intro hmax
    cases hd with
    | kept hk => exact absurd hk (UInt32.not_lt.mpr hmax)
    | @started t _ =>
      refine ⟨t.time, ?_, rfl⟩
      cases hl <;> rfl
  | accepted _ _ _ hp _ =>
    rw [accepted_entry]
    exact .accepted (by simp [touch]) hp

theorem SecurityAccess.KeySent.entry_ne {key : Bytes} (h : sa.KeySent level key tr code sa')
    (hne : level' ≠ seedLevelOfKey level) : sa'.entry level' = sa.entry level' := by
  cases h with
  | noSeed _ _ _ _ => exact sa.setEntry_entry_ne hne _
  | rejected _ _ _ _ _ _ => exact sa.setEntry_entry_ne hne _
  | accepted _ _ _ _ _ => exact sa.setEntry_entry_ne hne _
  | _ => rfl

end

theorem performs_entry {sa sa' : SecurityAccess} {l : SecurityStep}
    (h : Performs SecurityAccess.perform sa l sa') (level : UInt8) :
    EntryMoves level (sa.entry level) l (sa'.entry level) := by
  obtain ⟨op, tr, result⟩ := l
  refine h.wp (Q := fun tr result sa' =>
    EntryMoves level (sa.entry level) ⟨op, tr, result⟩ (sa'.entry level)) ?_
  cases op with
  | requestSeed level' =>
    simp only [SecurityAccess.perform, wp_bind, wp_pure, List.append_nil]
    refine wp_mono (sa.requestSeed_wp level') ?_
    rintro tr ⟨code, seed, sa'⟩ hr
    by_cases he : level = level'
    · subst he
      exact hr.moves
    · rw [hr.entry_ne he]
      exact .kept (touch_other rfl (Ne.symm he))
  | sendKey level' key =>
    simp only [SecurityAccess.perform, wp_bind, wp_pure, List.append_nil]
    refine wp_mono (sa.sendKey_wp level' key) ?_
    rintro tr ⟨code, sa'⟩ hr
    by_cases he : level = seedLevelOfKey level'
    · subst he
      exact hr.moves
    · rw [hr.entry_ne he]
      exact .kept (touch_other rfl (Ne.symm he))
  | lock level' =>
    simp only [SecurityAccess.perform, wp_pure]
    by_cases he : level = level'
    · subst he
      rw [sa.lock_entry]
      exact .locked (by simp [touch])
    · rw [SecurityAccess.lock_entry_ne he]
      exact .kept (touch_other rfl (Ne.symm he))
  | reset => exact .reset rfl

/-- A run from construction on, as the entry of a level has it. -/
theorem performs_run {sec : Option SecHandle} {ls : List SecurityStep} {sa : SecurityAccess}
    (h : Run (Performs SecurityAccess.perform) (.create sec) ls sa) (level : UInt8) :
    Run (EntryMoves level) {} ls (sa.entry level) := by
  have hsim : ∀ sa st l sa', st = sa.entry level → Performs SecurityAccess.perform sa l sa' →
      ∃ st', EntryMoves level st l st' ∧ st' = sa'.entry level := by
    rintro sa _ l sa' rfl hl
    exact ⟨_, performs_entry hl level, rfl⟩
  obtain ⟨_, hr, rfl⟩ := Run.simulates hsim h rfl
  exact hr

end Diag
end Tbox
