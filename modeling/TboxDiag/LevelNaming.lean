import TboxDiag.UnlockHistory
import TboxDiag.StateInvariant

/-!
# LevelNaming

Which levels name one state. `is_unlocked` and `send_key` take an even level for the odd one before
it; `lock`, `get_attempt_count` and `is_locked_out` look a level up as it is given. So the lock of
an even level does not reach the state that `is_unlocked` reports on, and the two levels of a pair
are counted apart. `level_names_iff` says after which histories nothing of it shows.
-/

namespace Tbox
namespace Diag

open Effects
open SecurityAccess (seedLevelOf seedLevelOfKey)

/-! ## The two laws -/

/-- A level that is unlocked is not unlocked after its lock. -/
def LockObeyed (sa : SecurityAccess) (level : UInt8) : Prop :=
  ∀ o, (sa.isUnlocked level).result o = true →
    ((sa.lock level).isUnlocked level).result o = false

/-- Two levels have the same attempt count, and are locked out at the same times. -/
def CountedAlike (sa : SecurityAccess) (level level' : UInt8) : Prop :=
  sa.getAttemptCount level = sa.getAttemptCount level' ∧
    ∀ o, (sa.isLockedOut level).result o = (sa.isLockedOut level').result o

/-! ## The conditions -/

/-- An even level, above 0, that was unlocked by a key and not locked since. -/
def UnlockedAsEven (level : UInt8) (ls : List SecurityStep) : Prop :=
  level % 2 = 0 ∧ 0 < level ∧ UnlockInForce (level - 1) ls

/-- As many keys were rejected for both levels, and with three or more the last ones at one time. -/
def RejectedAlike (level level' : UInt8) (ls : List SecurityStep) : Prop :=
  UInt32.ofNat (attempts level ls) = UInt32.ofNat (attempts level' ls) ∧
    (SecurityConfig.maxAttempts ≤ UInt32.ofNat (attempts level ls) →
      lastRejection level ls = lastRejection level' ls)

/-! ## The lock -/

section
variable {sa : SecurityAccess} {level level' : UInt8} {ls : List SecurityStep}

theorem seedLevelOf_even (heven : level % 2 = 0) (hpos : 0 < level) :
    seedLevelOf level = level - 1 := by
  unfold seedLevelOf
  rw [if_pos]
  refine ⟨?_, hpos⟩
  have heven' := congrArg UInt8.toNat heven
  refine UInt8.toNat.inj ?_
  simp [Nat.and_one_is_mod] at heven' ⊢
  omega

/-- Every other level is kept under itself. -/
theorem seedLevelOf_self (h : ¬ (level % 2 = 0 ∧ 0 < level)) : seedLevelOf level = level := by
  by_cases hpos : 0 < level
  · refine seedLevelOf_odd ?_
    have hne : ¬ level % 2 = 0 := fun heven => h ⟨heven, hpos⟩
    grind
  · unfold seedLevelOf
    rw [if_neg fun hl => hpos hl.2]

/-- The lock of a level that is kept under itself is obeyed, the lock of another is lost. -/
theorem lockObeyed_iff_entry :
    LockObeyed sa level ↔
      ¬ (level % 2 = 0 ∧ 0 < level ∧ (sa.entry (level - 1)).unlocked = true) := by
  unfold LockObeyed
  simp only [SecurityAccess.isUnlocked_result, SecurityAccess.unlocked]
  by_cases heven : level % 2 = 0 ∧ 0 < level
  · rw [seedLevelOf_even heven.1 heven.2]
    have hne : level - 1 ≠ level := by grind
    rw [SecurityAccess.lock_entry_ne hne]
    cases hu : (sa.entry (level - 1)).unlocked with
    | false => simp
    | true =>
      refine iff_of_false ?_ (not_not.mpr ⟨heven.1, heven.2, rfl⟩)
      intro h
      cases h (obliging 0) rfl
  · rw [seedLevelOf_self heven, sa.lock_entry]
    refine iff_of_true (fun _ _ => rfl) ?_
    rintro ⟨h2, hpos, _⟩
    exact heven ⟨h2, hpos⟩

theorem lockObeyed_iff {sec : Option SecHandle}
    (h : Run (Performs SecurityAccess.perform) (.create sec) ls sa) :
    LockObeyed sa level ↔ ¬ UnlockedAsEven level ls := by
  rw [lockObeyed_iff_entry, UnlockedAsEven]
  refine not_congr (and_congr_right fun heven => and_congr_right fun hpos => ?_)
  have hodd : (level - 1) % 2 = 1 := by grind
  have hle : level - 1 ≤ 0xFD := by grind
  exact unlocked_run hodd hle (performs_run h (level - 1))

/-! ## The counts -/

theorem SecurityAccess.getAttemptCount_eq :
    sa.getAttemptCount level = (sa.entry level).attemptCount := by
  unfold getAttemptCount entry
  cases sa.states level <;> rfl

/-- Two entries with the same count are locked out alike when they have one deadline, if it
matters. -/
theorem lockoutHolds_congr {st st' : SecurityAccessState}
    (hcount : st.attemptCount = st'.attemptCount) :
    (∀ o, lockoutHolds o st ↔ lockoutHolds o st') ↔
      (SecurityConfig.maxAttempts ≤ st.attemptCount → st.lockedUntil = st'.lockedUntil) := by
  constructor
  · intro h hmax
    refine eq_of_forall_lt_iff fun t => ?_
    have ht := h (obliging t)
    simp only [lockoutHolds, ← hcount, hmax, true_and] at ht
    exact ht
  · intro h o
    unfold lockoutHolds
    rw [← hcount]
    refine and_congr_right fun hmax => ?_
    rw [h hmax]

theorem countedAlike_iff {sec : Option SecHandle}
    (h : Run (Performs SecurityAccess.perform) (.create sec) ls sa) :
    CountedAlike sa level level' ↔ RejectedAlike level level' ls := by
  have hrun := performs_run h level
  have hrun' := performs_run h level'
  unfold CountedAlike RejectedAlike
  rw [SecurityAccess.getAttemptCount_eq, SecurityAccess.getAttemptCount_eq, attempts_run hrun,
    attempts_run hrun']
  refine and_congr_right fun hcount => ?_
  rw [← attempts_run hrun, ← attempts_run hrun'] at hcount
  rw [← attempts_run hrun]
  have hanswers : (∀ o, (sa.isLockedOut level).result o = (sa.isLockedOut level').result o) ↔
      ∀ o, lockoutHolds o (sa.entry level) ↔ lockoutHolds o (sa.entry level') := by
    refine forall_congr' fun o => ?_
    rw [Bool.eq_iff_iff, sa.isLockedOut_result, sa.isLockedOut_result]
  rw [hanswers, lockoutHolds_congr hcount]
  refine imp_congr_right fun hmax => ?_
  -- with three rejections or more the deadline is that of the last one
  obtain ⟨t, ht, hd⟩ := (wellKept_run hrun).deadline hmax
  obtain ⟨t', ht', hd'⟩ := (wellKept_run hrun').deadline (hcount ▸ hmax)
  rw [ht, ht', hd, hd', Option.some_inj, Nat.add_right_cancel_iff]

end

/-- The lock of a level is obeyed, and the two levels of a pair are counted alike, after exactly
these histories. -/
theorem level_names_iff {sec : Option SecHandle} {ls : List SecurityStep} {sa : SecurityAccess}
    (h : Run (Performs SecurityAccess.perform) (.create sec) ls sa) (level seedLevel : UInt8) :
    (LockObeyed sa level ↔ ¬ UnlockedAsEven level ls) ∧
      (CountedAlike sa seedLevel (seedLevel + 1) ↔
        RejectedAlike seedLevel (seedLevel + 1) ls) :=
  ⟨lockObeyed_iff h, countedAlike_iff h⟩

/-- A key is tried on level 1, rejected, and tried again, accepted. -/
def secondTry : List (SecurityOp × Oracle) :=
  triedOnce 0 ++ [(.requestSeed 1, obliging 1), (.sendKey 2 [0xA5], obliging 1)]

theorem level_names_iff_secondTry :
    let r := performAll SecurityAccess.perform (.create (some 0)) secondTry
    LockObeyed r.2 1 ∧ CountedAlike r.2 1 2 := by
  intro r
  have hrun := performAll_run SecurityAccess.perform (.create (some 0)) secondTry
  obtain ⟨hlock, hcount⟩ := level_names_iff hrun 1 1
  refine ⟨hlock.mpr ?_, hcount.mpr ⟨rfl, ?_⟩⟩
  · rintro ⟨heven, _⟩
    cases heven
  · intro hmax
    exact absurd hmax not_max_zero

/-- After the second try level 2 is unlocked, and its lock does not change that; after the first,
level 1 has one attempt and level 2 none. -/
theorem even_level_not_locked :
    let r := performAll SecurityAccess.perform (.create (some 0)) secondTry
    let r₁ := performAll SecurityAccess.perform (.create (some 0)) (triedOnce 0)
    Run (Performs SecurityAccess.perform) (.create (some 0)) r.1 r.2 ∧
      (r.2.isUnlocked 2).result (obliging 1) = true ∧
      ((r.2.lock 2).isUnlocked 2).result (obliging 1) = true ∧ ¬ LockObeyed r.2 2 ∧
      r₁.2.getAttemptCount 1 = 1 ∧ r₁.2.getAttemptCount 2 = 0 ∧ ¬ CountedAlike r₁.2 1 2 := by
  intro r r₁
  have hunlocked : (r.2.isUnlocked 2).result (obliging 1) = true := rfl
  have hlocked : ((r.2.lock 2).isUnlocked 2).result (obliging 1) = true := rfl
  have hone : r₁.2.getAttemptCount 1 = 1 := rfl
  have htwo : r₁.2.getAttemptCount 2 = 0 := rfl
  refine ⟨performAll_run _ _ _, hunlocked, hlocked, ?_, hone, htwo, ?_⟩
  · intro h
    have hno := h (obliging 1) hunlocked
    rw [hlocked] at hno
    cases hno
  · rintro ⟨hcount, _⟩
    rw [hone, htwo] at hcount
    cases hcount

end Diag
end Tbox
