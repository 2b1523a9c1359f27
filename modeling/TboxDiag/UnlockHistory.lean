import TboxDiag.SecurityRuns
import TboxDiag.Lib.History

/-!
# UnlockHistory

When a level is unlocked, read off the history of SecurityAccess. The state of an odd level is
touched by four operations: a seed for it, a key for the level after it, its lock, and the reset.

* `UnlockInForce`: a key was accepted and nothing has locked the level since.
* `unlock_history`: `is_unlocked` says so, for the odd level and the even one after it, whatever is
  done on other levels in between.
-/

namespace Tbox
namespace Diag

open Effects
open SecurityAccess (seedLevelOf seedLevelOfKey)

/-! ## Levels -/

section
variable {level level' : UInt8}

theorem seedLevelOf_odd (hodd : level % 2 = 1) : seedLevelOf level = level := by
  unfold seedLevelOf
  rw [if_neg]
  rintro ⟨h, _⟩
  have heven := congrArg UInt8.toNat h
  have hodd' := congrArg UInt8.toNat hodd
  simp [Nat.and_one_is_mod] at heven hodd'
  omega

/-- The level after an odd one is kept under the odd one. -/
theorem seedLevelOf_succ (hodd : level % 2 = 1) (hle : level ≤ 0xFD) :
    seedLevelOf (level + 1) = level := by
  unfold seedLevelOf
  rw [if_pos]
  · grind
  · refine ⟨?_, by grind⟩
    have hodd' := congrArg UInt8.toNat hodd
    refine UInt8.toNat.inj ?_
    simp [Nat.and_one_is_mod] at hodd' ⊢
    omega

/-- Only a key for the level after it comes to an odd level. -/
theorem seedLevelOfKey_eq_iff (hodd : level % 2 = 1) (hle : level ≤ 0xFD) :
    seedLevelOfKey level' = level ↔ level' = level + 1 := by
  unfold seedLevelOfKey
  split <;> grind

end

/-! ## The history of an unlock -/

/-- A key for the level is accepted. -/
def unlocks (level : UInt8) (l : SecurityStep) : Prop :=
  (∃ key, l.op = .sendKey (level + 1) key) ∧ l.result = some .success

/-- A seed for the level, its lock, or a reset. -/
def relocks (level : UInt8) (l : SecurityStep) : Prop :=
  l.op = .requestSeed level ∧ l.result = some .success ∨ l.op = .lock level ∨ l.op = .reset

def UnlockInForce (level : UInt8) : List SecurityStep → Prop :=
  Since (fun _ l => unlocks level l) fun l => ¬ relocks level l

section
variable {level : UInt8} {l : SecurityStep}

theorem relocks_iff :
    relocks level l ↔
      touch level l = .seeded ∨ touch level l = .locked ∨ touch level l = .reset := by
  obtain ⟨op, tr, code⟩ := l
  cases op with
  | requestSeed level' =>
    by_cases h : level' = level ∧ code = some .success
    · simp [relocks, touch, h]
    · simp [relocks, touch, h]
  | sendKey level' key =>
    simp only [relocks, touch]
    split
    · simp
    split
    · simp
    split <;> simp
  | lock level' => by_cases h : level' = level <;> simp [relocks, touch, h]
  | reset => simp [relocks, touch]

theorem unlocks_iff (hodd : level % 2 = 1) (hle : level ≤ 0xFD) :
    unlocks level l ↔ touch level l = .accepted := by
  obtain ⟨op, tr, code⟩ := l
  cases op with
  | requestSeed level' =>
    simp only [unlocks, touch]
    split <;> simp
  | sendKey level' key =>
    simp only [unlocks, touch]
    have hlevel : seedLevelOfKey level' = level ↔ level' = level + 1 :=
      seedLevelOfKey_eq_iff hodd hle
    by_cases he : level' = level + 1
    · rw [if_neg (not_not.mpr (hlevel.mpr he))]
      by_cases hc : code = some .success
      · simp [he, hc]
      · rw [if_neg hc]
        split <;> simp [hc]
    · rw [if_pos fun h => he (hlevel.mp h)]
      simp [he]
  | lock level' =>
    simp only [unlocks, touch]
    split <;> simp
  | reset => simp [unlocks, touch]

/-- What does not unlock leaves an unlock in force if it does not lock. -/
theorem unlockInForce_snoc {ls : List SecurityStep} (h : ¬ unlocks level l) :
    UnlockInForce level (ls ++ [l]) ↔ UnlockInForce level ls ∧ ¬ relocks level l := by
  unfold UnlockInForce
  rw [since_snoc_iff]
  exact or_iff_right h

theorem EntryMoves.unlocked {st st' : SecurityAccessState} {ls : List SecurityStep}
    (hodd : level % 2 = 1) (hle : level ≤ 0xFD)
    (h : st.unlocked = true ↔ UnlockInForce level ls) (hl : EntryMoves level st l st') :
    st'.unlocked = true ↔ UnlockInForce level (ls ++ [l]) := by
  have idle {x : Touch} (ht : touch level l = x) (hx : x ≠ .accepted) : ¬ unlocks level l := by
    rw [unlocks_iff hodd hle, ht]
    exact hx
  cases hl with
  | kept ht =>
    rw [unlockInForce_snoc (idle ht (by decide)), h]
    simp [relocks_iff, ht]
  | seeded ht =>
    rw [unlockInForce_snoc (idle ht (by decide))]
    simp [relocks_iff, ht]
  | accepted ht _ => exact iff_of_true rfl (since_now ((unlocks_iff hodd hle).mpr ht))
  | rejected ht _ _ =>
    rw [unlockInForce_snoc (idle ht (by decide)), h]
    simp [relocks_iff, ht]
  | locked ht =>
    rw [unlockInForce_snoc (idle ht (by decide))]
    simp [relocks_iff, ht]
  | reset ht =>
    rw [unlockInForce_snoc (idle ht (by decide))]
    simp [relocks_iff, ht]

theorem unlocked_run {st : SecurityAccessState} {ls : List SecurityStep} (hodd : level % 2 = 1)
    (hle : level ≤ 0xFD) (h : Run (EntryMoves level) {} ls st) :
    st.unlocked = true ↔ UnlockInForce level ls := by
  refine h.history (fun ls st => st.unlocked = true ↔ UnlockInForce level ls) ?_ ?_
  · exact iff_of_false (by simp) not_since_nil
  · intro ls st l st' hi hl
    exact hl.unlocked hodd hle hi

end

/-! ## What `is_unlocked` says -/

/-- An operation on one level changes no answer for another. -/
theorem unlocked_frame {sa sa' : SecurityAccess} {l : SecurityStep} {other level : UInt8}
    (h : Performs SecurityAccess.perform sa l sa') (hop : l.op.entryLevel = some other)
    (hne : seedLevelOf level ≠ other) (o : Oracle) :
    (sa'.isUnlocked level).result o = (sa.isUnlocked level).result o := by
  rw [SecurityAccess.isUnlocked_result, SecurityAccess.isUnlocked_result]
  have hmove := performs_entry h (seedLevelOf level)
  have hkept := touch_other hop (Ne.symm hne)
  unfold SecurityAccess.unlocked
  generalize sa'.entry (seedLevelOf level) = st' at hmove ⊢
  cases hmove with
  | kept _ => rfl
  | _ ht => simp [hkept] at ht

/-- An odd level and the one after it are unlocked exactly when a key for them was accepted and
nothing has locked them since; and what is done on other levels does not matter. -/
theorem unlock_history {sec : Option SecHandle} {ls : List SecurityStep} {sa : SecurityAccess}
    (h : Run (Performs SecurityAccess.perform) (.create sec) ls sa) {level : UInt8}
    (hodd : level % 2 = 1) (hle : level ≤ 0xFD) (o : Oracle) :
    (sa.isUnlocked level).result o = (sa.isUnlocked (level + 1)).result o ∧
      ((sa.isUnlocked level).result o = true ↔ UnlockInForce level ls) ∧
      ∀ l sa' other, Performs SecurityAccess.perform sa l sa' → l.op.entryLevel = some other →
        other ≠ level →
        (sa'.isUnlocked level).result o = (sa.isUnlocked level).result o ∧
          (sa'.isUnlocked (level + 1)).result o = (sa.isUnlocked (level + 1)).result o := by
  have hself := seedLevelOf_odd hodd
  have hsucc := seedLevelOf_succ hodd hle
  refine ⟨?_, ?_, ?_⟩
  · simp only [SecurityAccess.isUnlocked_result, SecurityAccess.unlocked, hself, hsucc]
  · rw [SecurityAccess.isUnlocked_result, SecurityAccess.unlocked, hself]
    exact unlocked_run hodd hle (performs_run h level)
  · intro l sa' other hl hop hne
    refine ⟨unlocked_frame hl hop ?_ o, unlocked_frame hl hop ?_ o⟩
    · rw [hself]
      exact hne.symm
    · rw [hsucc]
      exact hne.symm

/-- Level 1 is unlocked, and level 3 asked for a seed. -/
def twoLevelsScript : List (SecurityOp × Oracle) :=
  [(.requestSeed 1, obliging 0), (.sendKey 2 [0x5A], obliging 0), (.requestSeed 3, obliging 0)]

theorem unlock_history_twoLevels :
    let r := performAll SecurityAccess.perform (.create (some 0)) twoLevelsScript
    (r.2.isUnlocked 1).result (obliging 0) = (r.2.isUnlocked 2).result (obliging 0) ∧
      UnlockInForce 1 r.1 ∧ ¬ UnlockInForce 3 r.1 := by
  intro r
  have hrun := performAll_run SecurityAccess.perform (.create (some 0)) twoLevelsScript
  obtain ⟨hsame, hone, _⟩ := unlock_history hrun (show (1 : UInt8) % 2 = 1 from rfl) (by decide)
    (obliging 0)
  obtain ⟨_, hthree, _⟩ := unlock_history hrun (show (3 : UInt8) % 2 = 1 from rfl) (by decide)
    (obliging 0)
  exact ⟨hsame, hone.mp rfl, fun h => by cases hthree.mpr h⟩

end Diag
end Tbox
