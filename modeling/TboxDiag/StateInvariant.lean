import TboxDiag.SecurityRuns
import TboxDiag.Exclusion

/-!
# StateInvariant

What holds of every entry of SecurityAccess, under any sequence of operations on any levels, also
ill-paired ones.

* `WellKept`: the invariant of one entry, which reads the lockout deadline off the history.
* `attempts_run`: the attempt count is the tally of rejected keys.
* `entries_wellKept`: the invariant on runs; and a request for a seed that fails changes nothing.
-/

namespace Tbox
namespace Diag

open Effects

/-! ## The record of rejected keys -/

def rejects (level : UInt8) (l : SecurityStep) : Bool := touch level l = .rejected

/-- An accepted key or a reset, after which attempts are counted from zero. -/
def clears (level : UInt8) (l : SecurityStep) : Bool :=
  touch level l = .accepted ∨ touch level l = .reset

/-- How many keys were rejected since the last accepted one or reset. -/
def attempts (level : UInt8) (ls : List SecurityStep) : Nat :=
  tally (rejects level) (clears level) ls

/-- The time from which the last rejected key locks out, if it does. -/
def lastRejection (level : UInt8) (ls : List SecurityStep) : Option Time :=
  (lastHit (rejects level) ls).bind fun l => lockoutStart l.trace

section
variable {level : UInt8} {st st' : SecurityAccessState} {ls : List SecurityStep} {l : SecurityStep}

theorem lastRejection_missed (h : touch level l ≠ .rejected) :
    lastRejection level (ls ++ [l]) = lastRejection level ls := by
  rw [lastRejection, lastHit_missed (by simp [rejects, h]), lastRejection]

theorem lastRejection_hit (h : touch level l = .rejected) :
    lastRejection level (ls ++ [l]) = lockoutStart l.trace := by
  rw [lastRejection, lastHit_hit (by simp [rejects, h])]
  rfl

theorem attempts_missed (h : touch level l = .kept ∨ touch level l = .seeded ∨
    touch level l = .locked) : attempts level (ls ++ [l]) = attempts level ls := by
  refine tally_missed ?_ ?_
  · rcases h with h | h | h <;> simp [clears, h]
  · rcases h with h | h | h <;> simp [rejects, h]

theorem attempts_rejected (h : touch level l = .rejected) :
    attempts level (ls ++ [l]) = attempts level ls + 1 :=
  tally_hit (by simp [clears, h]) (by simp [rejects, h])

theorem attempts_cleared (h : touch level l = .accepted ∨ touch level l = .reset) :
    attempts level (ls ++ [l]) = 0 :=
  tally_cleared (by simp [clears, h])

theorem EntryMoves.attemptCount (h : st.attemptCount = UInt32.ofNat (attempts level ls))
    (hl : EntryMoves level st l st') :
    st'.attemptCount = UInt32.ofNat (attempts level (ls ++ [l])) := by
  cases hl with
  | kept ht => rw [attempts_missed (.inl ht), h]
  | seeded ht => rw [attempts_missed (.inr (.inl ht)), ← h]
  | accepted ht _ => rw [attempts_cleared (.inl ht)]; rfl
  | rejected ht _ _ => rw [attempts_rejected ht, UInt32.ofNat_add, ← h]; rfl
  | locked ht => rw [attempts_missed (.inr (.inr ht)), ← h]
  | reset ht => rw [attempts_cleared (.inr ht)]; rfl

/-- The counter is the tally, modulo 2^32. -/
theorem attempts_run (h : Run (EntryMoves level) {} ls st) :
    st.attemptCount = UInt32.ofNat (attempts level ls) := by
  refine h.history (fun ls st => st.attemptCount = UInt32.ofNat (attempts level ls)) rfl ?_
  intro ls st l st' hi hl
  exact hl.attemptCount hi

/-! ## The invariant -/

structure WellKept (level : UInt8) (ls : List SecurityStep) (st : SecurityAccessState) : Prop where
  exclusive : ¬ (st.unlocked = true ∧ st.seedRequested = true)
  clean : st.unlocked = true → st.attemptCount = 0
  deadline : SecurityConfig.maxAttempts ≤ st.attemptCount →
    ∃ t, lastRejection level ls = some t ∧
      st.lockedUntil = t + millis SecurityConfig.lockoutDurationMs

theorem not_max_zero : ¬ SecurityConfig.maxAttempts ≤ (0 : UInt32) := by decide

theorem wellKept_initial : WellKept level [] {} where
  exclusive := by simp
  clean := nofun
  deadline := fun h => absurd h not_max_zero

theorem EntryMoves.wellKept (h : WellKept level ls st) (hl : EntryMoves level st l st') :
    WellKept level (ls ++ [l]) st' := by
  have kept (ht : touch level l ≠ .rejected) : SecurityConfig.maxAttempts ≤ st.attemptCount →
      ∃ t, lastRejection level (ls ++ [l]) = some t ∧
        st.lockedUntil = t + millis SecurityConfig.lockoutDurationMs := by
    rw [lastRejection_missed ht]
    exact h.deadline
  cases hl with
  | kept ht => exact ⟨h.exclusive, h.clean, kept (by simp [ht])⟩
  | seeded ht => exact ⟨by simp, nofun, kept (by simp [ht])⟩
  | accepted ht _ => exact ⟨by simp, fun _ => rfl, fun hmax => absurd hmax not_max_zero⟩
  | rejected ht hp hd =>
    -- a key is judged only while a seed is pending, so the entry is locked
    have hlocked : st.unlocked ≠ true := fun hu => h.exclusive ⟨hu, hp⟩
    refine ⟨by simp, fun hu => absurd hu hlocked, ?_⟩
    rw [lastRejection_hit ht]
    exact hd
  | locked ht => exact ⟨by simp, nofun, kept (by simp [ht])⟩
  | reset ht => exact ⟨by simp, nofun, fun hmax => absurd hmax not_max_zero⟩

theorem wellKept_run (h : Run (EntryMoves level) {} ls st) : WellKept level ls st := by
  refine h.history (WellKept level) wellKept_initial ?_
  intro ls st l st' hi hl
  exact hl.wellKept hi

/-- An entry that is locked out is not unlocked. -/
theorem WellKept.lockedOut {o : Oracle} (h : WellKept level ls st) (hl : lockoutHolds o st) :
    st.unlocked = false := by
  cases hu : st.unlocked with
  | false => rfl
  | true =>
    have hmax := hl.1
    rw [h.clean hu] at hmax
    exact absurd hmax not_max_zero

end

/-! ## Every entry of a run -/

section
variable {sa sa' : SecurityAccess} {level : UInt8}

theorem SecurityAccess.isLockedOut_result (sa : SecurityAccess) (level : UInt8) (o : Oracle) :
    (sa.isLockedOut level).result o = true ↔ lockoutHolds o (sa.entry level) := by
  have hchecked : LockoutChecked sa level ((sa.isLockedOut level).run o).1
      ((sa.isLockedOut level).result o) :=
    (exec_run o (sa.isLockedOut level)).wp (sa.isLockedOut_wp level)
  exact hchecked.answered (answers_run o (sa.isLockedOut level))

theorem SecurityAccess.SeedRequested.failed {tr : Trace} {code : DiagErrorCode} {seed : Bytes}
    (h : sa.SeedRequested level tr code seed sa') (hc : code ≠ .success) : sa' = sa := by
  cases h with
  | issued _ _ _ _ => exact absurd rfl hc
  | _ => rfl

theorem seed_refused {l : SecurityStep} {code : DiagErrorCode}
    (h : Performs SecurityAccess.perform sa l sa') (hop : l.op = .requestSeed level)
    (hcode : l.result = some code) (hc : code ≠ .success) : sa' = sa := by
  obtain ⟨op, tr, result⟩ := l
  cases hop
  refine h.wp (Q := fun _ result sa' => result = some code → sa' = sa) ?_ hcode
  simp only [SecurityAccess.perform, wp_bind, wp_pure]
  refine wp_mono (sa.requestSeed_wp level) ?_
  rintro tr ⟨code', seed, sa'⟩ hr hcode'
  cases hcode'
  exact hr.failed hc

theorem entry_of_some {st : SecurityAccessState} (h : sa.states level = some st) :
    sa.entry level = st := by
  simp [SecurityAccess.entry, h]

/-- In every state a run reaches every entry is well kept, and not unlocked while it is locked
out; and a request for a seed that fails leaves all of them as they are. -/
theorem entries_wellKept {sec : Option SecHandle} {ls : List SecurityStep}
    (h : Run (Performs SecurityAccess.perform) (.create sec) ls sa) :
    (∀ level st, sa.states level = some st → WellKept level ls st ∧
      ∀ o, (sa.isLockedOut level).result o = true → st.unlocked = false) ∧
    ∀ l sa' level code, Performs SecurityAccess.perform sa l sa' → l.op = .requestSeed level →
      l.result = some code → code ≠ .success → sa'.states = sa.states := by
  refine ⟨?_, ?_⟩
  · intro level st hst
    have hkept : WellKept level ls st := by
      rw [← entry_of_some hst]
      exact wellKept_run (performs_run h level)
    refine ⟨hkept, ?_⟩
    intro o ho
    have hholds := (sa.isLockedOut_result level o).mp ho
    rw [entry_of_some hst] at hholds
    exact hkept.lockedOut hholds
  · intro l sa' level code hl hop hcode hc
    rw [seed_refused hl hop hcode hc]

end

/-- A key is tried on level 1, and rejected. -/
def triedOnce (t : Time) : List (SecurityOp × Oracle) :=
  [(.requestSeed 1, obligingNoKey t), (.sendKey 2 [0x5A], obligingNoKey t)]

theorem entries_wellKept_thrice :
    let r := performAll SecurityAccess.perform (.create (some 0))
      (triedOnce 1 ++ triedOnce 2 ++ triedOnce 3)
    lastRejection 1 r.1 = some 3 ∧ (r.2.entry 1).attemptCount = 3 ∧
      (r.2.entry 1).lockedUntil = 3 + millis SecurityConfig.lockoutDurationMs := by
  intro r
  have hrun := performAll_run SecurityAccess.perform (.create (some 0))
    (triedOnce 1 ++ triedOnce 2 ++ triedOnce 3)
  obtain ⟨hkept, _⟩ := (entries_wellKept hrun).1 1 (r.2.entry 1) rfl
  have hlast : lastRejection 1 r.1 = some 3 := rfl
  have hcount : (r.2.entry 1).attemptCount = 3 := rfl
  obtain ⟨t, ht, hd⟩ := hkept.deadline (by rw [hcount]; decide)
  obtain rfl : 3 = t := Option.some.inj (hlast.symm.trans ht)
  exact ⟨hlast, hcount, hd⟩

end Diag
end Tbox
