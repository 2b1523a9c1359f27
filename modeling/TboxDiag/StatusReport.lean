import TboxDiag.SecurityHistory
import TboxDiag.DiagIpcDispatcher

/-!
# StatusReport

What GET_SERVICE_STATUS says of the unlock. The answer takes `security_unlocked` from the session
record, where nothing ever sets it: the session manager clears it and a key accepted by SEC is
noted in the security access object only. So the report says "locked" in every state.

* `KeyInForce`: the history shows an unlock that still holds. `unlocked_iff`: level 1 is unlocked
  in exactly these histories.
* `status_unlocked_iff`: the report is right exactly when the history shows none.
-/

namespace Tbox
namespace Diag

open Effects DiagService ServiceDispatcher

/-! ## When level 1 is unlocked -/

/-- A key was accepted, and since then no seed was issued and nothing reset. -/
def KeyInForce : List Step → Prop :=
  Since (fun _ l => l.keyAccepted) fun l => ¬ l.seedIssued ∧ ¬ l.resets

/-- A step that accepts no key leaves an unlock in force if it issues no seed and does not reset. -/
theorem keyInForce_snoc {ls : List Step} {l : Step} (h : ¬ l.keyAccepted) :
    KeyInForce (ls ++ [l]) ↔ KeyInForce ls ∧ ¬ l.seedIssued ∧ ¬ l.resets := by
  unfold KeyInForce
  rw [since_snoc_iff]
  exact or_iff_right h

theorem unlocked_step {ls : List Step} {st st' : SecurityAccessState} {l : Step}
    (h : st.unlocked = true ↔ KeyInForce ls) (hl : Level1 st l st') :
    st'.unlocked = true ↔ KeyInForce (ls ++ [l]) := by
  have unjudged (hv : verdicts l.trace = []) : ¬ l.keyAccepted := by
    rintro ⟨_, t, ht⟩
    rw [hv] at ht
    cases ht
  cases hl with
  | kept hr hn hv => rw [keyInForce_snoc (unjudged hv), h, and_iff_left ⟨hn, hr⟩]
  | reset hr _ hv =>
    rw [keyInForce_snoc (unjudged hv)]
    exact iff_of_false (by simp) fun hk => hk.2.2 hr
  | seeded _ hi hv =>
    rw [keyInForce_snoc (unjudged hv)]
    exact iff_of_false (by simp) fun hk => hk.2.1 hi
  | rejected hr hn hv _ _ _ =>
    have hrejected : ¬ l.keyAccepted := by
      rintro ⟨_, t, ht⟩
      rw [hv] at ht
      simp at ht
    rw [keyInForce_snoc hrejected, h, and_iff_left ⟨hn, hr⟩]
  | accepted _ _ ha _ _ => exact iff_of_true rfl (since_now ha)

theorem unlocked_iff {st : SecurityAccessState} {ls : List Step} (h : Run Level1 {} ls st) :
    st.unlocked = true ↔ KeyInForce ls := by
  refine h.history (fun ls st => st.unlocked = true ↔ KeyInForce ls) ?_ ?_
  · exact iff_of_false (by simp) not_since_nil
  · intro ls st l st' hi hl
    exact unlocked_step hi hl

/-! ## The session record says nothing -/

section
variable {m m' : SessionManager} {tr : Trace}

theorem SessionManager.S3Checked.securityUnlocked {b : Bool} (h : m.S3Checked tr b m')
    (hm : m.session.securityUnlocked = false) : m'.session.securityUnlocked = false := by
  cases h with
  | default _ => exact hm
  | live _ _ => exact hm
  | expired _ _ => rfl

theorem ServiceDispatcher.Dispatched.securityUnlocked {d : ServiceDispatcher} {ms ms' : Managers}
    {request : DiagRequest} {response : DiagResponse}
    (h : Dispatched d ms request tr response ms')
    (hm : ms.sessionMgr.session.securityUnlocked = false) :
    ms'.sessionMgr.session.securityUnlocked = false := by
  cases h with
  | session _ hs =>
    cases hs with
    | occupied _ => exact hm
    | invalid _ _ => exact hm
    | accepted _ _ => simp [SessionManager.switched, hm]
  | testerPresent _ hs => cases hs <;> exact hm
  | _ => exact hm

end

/-- The session record of a view says "locked". -/
def SaysLocked (o : Option View) : Prop :=
  ∀ v, o = some v → v.managers.sessionMgr.session.securityUnlocked = false

theorem saysLocked_step {o o' : Option View} {l : Step} (h : SaysLocked o) (ha : Acts o l o') :
    SaysLocked o' := by
  rintro v' rfl
  cases ha with
  | start _ => rfl
  | keep _ _ => exact h _ rfl
  | @setSec v _ => exact h v rfl
  | poll hm _ => exact hm.securityUnlocked (h _ rfl)
  | serve _ hm _ hd _ => exact hd.securityUnlocked (hm.securityUnlocked (h _ rfl))

theorem saysLocked_run {o : Option View} {ls : List Step} (h : Run Acts none ls o) :
    SaysLocked o := by
  refine h.invariant (I := SaysLocked) ?_ ?_
  · intro v hv
    cases hv
  · intro o l o' hi ha
    exact saysLocked_step hi ha

/-! ## The report -/

/-- The answer `j` gives as `security_unlocked` what `isUnlocked` says of level 1. -/
def ReportsUnlock (s : DiagService) (j : JsonObject) : Prop :=
  ∃ sa unlocked, s.currentSecurity = some sa ∧
    (∃ lg, Exec (sa.isUnlocked UdsSecurityLevel.level1) [] lg unlocked) ∧
    j.get? "security_unlocked" = some (.bool unlocked)

/-- The reported status is the one the routines go by exactly when no accepted key is in force. -/
theorem status_unlocked_iff {s : DiagService} {ls : List Step} {paramsJson : Bytes} {tr : Trace}
    {lg : List LogRecord} {j : JsonObject} (hr : Run Does {} ls s) (hi : s.initialized = true)
    (hx : Exec (DiagIpcDispatcher.dispatch s DiagIpcDispatcher.MethodId.getServiceStatus
      paramsJson) tr lg j) :
    ReportsUnlock s j ↔ ¬ KeyInForce ls := by
  obtain ⟨v, hacts, hshow⟩ := reach_serves hr hi
  obtain ⟨_, hj⟩ := hx.wp (DiagIpcDispatcher.getServiceStatus_wp s paramsJson)
  rw [hshow.getCurrentSession, saysLocked_run hacts v rfl] at hj
  have hsa : s.currentSecurity = some v.managers.securityAccess := hshow.security
  rw [← unlocked_iff (run_level1 hacts), Bool.not_eq_true]
  have hlevel : v.managers.securityAccess.unlocked UdsSecurityLevel.level1 =
      (level1 (some v)).unlocked := rfl
  constructor
  · rintro ⟨sa, unlocked, hsa', hx', hj'⟩
    rw [hsa] at hsa'
    cases hsa'
    rw [hj] at hj'
    cases hj'
    rw [← hlevel]
    exact (SecurityAccess.isUnlocked_exec.mp hx').symm
  · intro hlocked
    exact ⟨_, _, hsa, SecurityAccess.isUnlocked_exec.mpr (hlevel.trans hlocked).symm, hj⟩

/-- The question another process puts to the service. -/
def statusOf (s : DiagService) : JsonObject :=
  ((DiagIpcDispatcher.dispatch s DiagIpcDispatcher.MethodId.getServiceStatus []).run
    (obliging 0)).2.2

theorem status_unlocked_iff_owned :
    ReportsUnlock ownedService (statusOf ownedService) ↔
      ¬ KeyInForce (play {} ownedScript).1 :=
  status_unlocked_iff (play_run {} ownedScript) rfl (exec_run (obliging 0) _)

/-- Tester 1 has unlocked level 1, and the report says that it is locked. -/
theorem unlock_not_reported :
    ownedService.Reachable ∧ ownedService.initialized = true ∧
      (ownedService.securityState 1).unlocked = true ∧
      (statusOf ownedService).get? "security_unlocked" = some (.bool false) ∧
      ¬ ReportsUnlock ownedService (statusOf ownedService) := by
  refine ⟨ownedService_reachable, rfl, rfl, rfl, ?_⟩
  rintro ⟨sa, unlocked, hsa, hx, hj⟩
  have hunlocked := SecurityAccess.isUnlocked_exec.mp hx
  cases hsa
  cases hunlocked
  cases hj

end Diag
end Tbox
