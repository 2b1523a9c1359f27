import TboxDiag.SecurityHistory
import TboxDiag.Ownership

/-!
# Exclusion

Whether the owner of a session has the security level and the routines to itself. Nothing in the
SecurityAccess and RoutineControl handlers asks who sent the request, so another tester's request
does whatever the owner's would: `undisturbed_iff` says exactly when it does nothing.

The answers of the outside are given by an oracle; `exists_heeds` shows that every step has one.
-/

namespace Tbox
namespace Diag

open Effects ServiceDispatcher

/-! ## What a request can do -/

def secReady (o : Oracle) (sec : Option SecHandle) : Prop :=
  ∃ h, sec = some h ∧ (o (.sec h .isAvailable)).reply = true

def provReady (o : Oracle) (prov : Option ProvHandle) : Prop :=
  ∃ h, prov = some h ∧ (o (.prov h .isAvailable)).reply = true

def lockoutHolds (o : Oracle) (st : SecurityAccessState) : Prop :=
  SecurityConfig.maxAttempts ≤ st.attemptCount ∧ (o (.now .lockoutCheck)).time < st.lockedUntil

/-- A requestSeed changes the state: SEC gives a seed, and the level was not already locked with
a seed pending. -/
def seedDisturbs (o : Oracle) (sec : Option SecHandle) (st : SecurityAccessState) : Prop :=
  (∃ h, sec = some h ∧ (o (.sec h .isAvailable)).reply = true ∧
    (o (.sec h (.getSeed 1))).reply.1 = true) ∧
  ¬ lockoutHolds o st ∧ ¬ (st.seedRequested = true ∧ st.unlocked = false)

/-- A sendKey changes the state: a key is judged, with either verdict. -/
def keyDisturbs (o : Oracle) (sec : Option SecHandle) (st : SecurityAccessState) : Prop :=
  secReady o sec ∧ ¬ lockoutHolds o st ∧ st.seedRequested = true

/-- A RoutineControl reaches a downstream operation. -/
def routineDisturbs (o : Oracle) (d : ServiceDispatcher) (st : SecurityAccessState)
    (sessionType : SessionType) (request : DiagRequest) : Prop :=
  st.unlocked = true ∧
  (request.didOrRid = Rid.writeVinRoutine ∧ provReady o d.prov ∧
      vinLength ≤ request.payload.length ∨
    sessionType = .programming ∧ secReady o d.sec ∧
      (request.didOrRid = Rid.generateKeyPair ∨ request.didOrRid = Rid.readCsr ∨
        request.didOrRid = Rid.injectCertificate ∧ request.payload ≠ []))

/-- The fields of a level that decide anything. -/
def sameState (st st' : SecurityAccessState) : Prop :=
  st'.seedRequested = st.seedRequested ∧ st'.unlocked = st.unlocked ∧
    st'.attemptCount = st.attemptCount ∧ st'.lockedUntil = st.lockedUntil

theorem sameState_refl (st : SecurityAccessState) : sameState st st := ⟨rfl, rfl, rfl, rfl⟩

section
variable {o : Oracle} {sa sa' : SecurityAccess} {tr : Trace}

theorem SecurityAccess.LockoutChecked.answered {level : UInt8} {b : Bool}
    (h : sa.LockoutChecked level tr b) (ha : Answers o tr) :
    b = true ↔ lockoutHolds o (sa.entry level) := by
  cases h with
  | few hf => simp [lockoutHolds, UInt32.not_le.mpr hf]
  | lapsed hc ht =>
    obtain ⟨rfl, _⟩ := (answers_cons ..).mp ha
    simp [lockoutHolds, Nat.not_lt.mpr ht]
  | locked hc ht =>
    obtain ⟨rfl, _⟩ := (answers_cons ..).mp ha
    simp [lockoutHolds, hc, ht]

theorem SecurityAccess.LockoutChecked.lockout_over {level : UInt8}
    (h : sa.LockoutChecked level tr false) (ha : Answers o tr) :
    ¬ lockoutHolds o (sa.entry level) := by
  intro hlo
  cases (h.answered ha).mpr hlo

theorem SecurityAccess.SeedRequested.disturbs {result : DiagErrorCode} {seed : Bytes}
    (h : sa.SeedRequested 1 tr result seed sa') (ha : Answers o tr) :
    (∀ level, sameState (sa.entry level) (sa'.entry level)) ↔
      ¬ seedDisturbs o sa.sec (sa.entry 1) := by
  have same (hn : ¬ seedDisturbs o sa.sec (sa.entry 1)) :
      (∀ level, sameState (sa.entry level) (sa.entry level)) ↔
        ¬ seedDisturbs o sa.sec (sa.entry 1) :=
    ⟨fun _ => hn, fun _ _ => sameState_refl _⟩
  cases h with
  | noSec hs =>
    refine same ?_
    rintro ⟨⟨h, hh, _⟩, _⟩
    rw [hs] at hh
    cases hh
  | unavailable hs hx =>
    obtain ⟨rfl, _⟩ := (answers_cons ..).mp ha
    refine same ?_
    rintro ⟨⟨h, hh, havail, _⟩, _⟩
    rw [hs] at hh
    cases hh
    rw [havail] at hx
    cases hx
  | lockedOut hs hx hl =>
    obtain ⟨rfl, hal⟩ := (answers_cons ..).mp ha
    refine same ?_
    rintro ⟨_, hn, _⟩
    exact hn ((hl.answered hal).mp rfl)
  | noSeed hs hx hl hy =>
    simp only [answers_cons, answers_append] at ha
    obtain ⟨rfl, ha, rfl, _⟩ := ha
    refine same ?_
    rintro ⟨⟨h, hh, _, hseed⟩, _⟩
    rw [hs] at hh
    cases hh
    rw [hseed] at hy
    cases hy
  | issued hs hx hl hy =>
    simp only [answers_cons, answers_append] at ha
    obtain ⟨rfl, ha, rfl, _⟩ := ha
    have hopen := hl.lockout_over ha
    constructor
    · intro hsame hd
      have h1 := hsame 1
      rw [seeded_entry] at h1
      exact hd.2.2 ⟨h1.1.symm, h1.2.1.symm⟩
    · intro hn level
      by_cases hlevel : level = 1
      · have hpending : (sa.entry 1).seedRequested = true ∧ (sa.entry 1).unlocked = false := by
          by_contra hp
          exact hn ⟨⟨_, hs, hx, hy⟩, hopen, hp⟩
        rw [hlevel, seeded_entry]
        exact ⟨hpending.1.symm, hpending.2.symm, rfl, rfl⟩
      · rw [seeded, setEntry_entry_ne _ hlevel]
        exact sameState_refl _

theorem SecurityAccess.KeySent.disturbs {key : Bytes} {result : DiagErrorCode}
    (h : sa.KeySent 2 key tr result sa') (ha : Answers o tr) :
    (∀ level, sameState (sa.entry level) (sa'.entry level)) ↔
      ¬ keyDisturbs o sa.sec (sa.entry 1) := by
  have same {sa' : SecurityAccess} (he : ∀ level, sa'.entry level = sa.entry level)
      (hn : ¬ keyDisturbs o sa.sec (sa.entry 1)) :
      (∀ level, sameState (sa.entry level) (sa'.entry level)) ↔
        ¬ keyDisturbs o sa.sec (sa.entry 1) :=
    ⟨fun _ => hn, fun _ level => by rw [he]; exact sameState_refl _⟩
  cases h with
  | noSec hs =>
    refine same (fun _ => rfl) ?_
    rintro ⟨⟨h, hh, _⟩, _⟩
    rw [hs] at hh
    cases hh
  | unavailable hs hx =>
    obtain ⟨rfl, _⟩ := (answers_cons ..).mp ha
    refine same (fun _ => rfl) ?_
    rintro ⟨⟨h, hh, havail⟩, _⟩
    rw [hs] at hh
    cases hh
    rw [havail] at hx
    cases hx
  | lockedOut hs hx hl =>
    obtain ⟨rfl, hal⟩ := (answers_cons ..).mp ha
    refine same (fun _ => rfl) ?_
    rintro ⟨_, hn, _⟩
    exact hn ((hl.answered hal).mp rfl)
  | noSeed hs hx hl hp =>
    refine same (fun level => setEntry_self sa _ level) ?_
    rintro ⟨_, _, hseed⟩
    rw [seedLevelOfKey_two, hseed] at hp
    cases hp
  | rejected hs hx hl hp hy hd =>
    simp only [answers_cons, answers_append] at ha
    obtain ⟨rfl, ha, rfl, _⟩ := ha
    rw [seedLevelOfKey_two] at hl hp ⊢
    constructor
    · intro hsame _
      have h1 := (hsame 1).1
      rw [rejected_entry, hp] at h1
      cases h1
    · intro hn
      exact absurd ⟨⟨_, hs, hx⟩, hl.lockout_over ha, hp⟩ hn
  | accepted hs hx hl hp hy =>
    simp only [answers_cons, answers_append] at ha
    obtain ⟨rfl, ha, rfl, _⟩ := ha
    rw [seedLevelOfKey_two] at hl hp ⊢
    constructor
    · intro hsame _
      have h1 := (hsame 1).1
      rw [accepted_entry, hp] at h1
      cases h1
    · intro hn
      exact absurd ⟨⟨_, hs, hx⟩, hl.lockout_over ha, hp⟩ hn

end

theorem downstream_cons {e : Event outside} {tr : Trace} (h : ¬ e.cmd.downstream) :
    (∃ x ∈ e :: tr, x.cmd.downstream) ↔ ∃ x ∈ tr, x.cmd.downstream := by
  rw [List.exists_mem_cons_iff]
  exact or_iff_right h

/-- A certificate routine reaches SEC exactly when it gets past its checks and `P` holds of the
request. -/
theorem ServiceDispatcher.WithSec.downstream_iff {d : ServiceDispatcher} {sa : SecurityAccess}
    {K : SecHandle → Trace → DiagResponse → Prop} {P : Prop} {o : Oracle} {tr : Trace}
    {response : DiagResponse} (h : d.WithSec sa K tr response) (ha : Answers o tr)
    (hK : ∀ h tr response, K h tr response → ((∃ e ∈ tr, e.cmd.downstream) ↔ P)) :
    (∃ e ∈ tr, e.cmd.downstream) ↔
      sa.unlocked UdsSecurityLevel.level1 = true ∧ secReady o d.sec ∧ P := by
  cases h with
  | locked hu => simp [hu]
  | noSec hs => simp [secReady, hs]
  | unavailable hs hx =>
    obtain ⟨rfl, _⟩ := (answers_cons ..).mp ha
    simp [secReady, hs, hx, Cmd.downstream]
  | ready hu hs hx hk =>
    obtain ⟨rfl, _⟩ := (answers_cons ..).mp ha
    rw [downstream_cons id, hK _ _ _ hk]
    constructor
    · intro hp
      exact ⟨hu, ⟨_, hs, hx⟩, hp⟩
    · rintro ⟨_, _, hp⟩
      exact hp

theorem not_certificateRid {rid : UInt16} (h : ¬ isCertificateRid rid) :
    rid ≠ Rid.generateKeyPair ∧ rid ≠ Rid.readCsr ∧ rid ≠ Rid.injectCertificate := by
  simpa only [isCertificateRid, not_or] using h

theorem ServiceDispatcher.RoutineRun.downstream_iff {d : ServiceDispatcher} {ms : Managers}
    {request : DiagRequest} {o : Oracle} {tr : Trace} {response : DiagResponse}
    (h : d.RoutineRun ms request tr response) (ha : Answers o tr) :
    (∃ e ∈ tr, e.cmd.downstream) ↔
      routineDisturbs o d (ms.securityAccess.entry 1) ms.sessionMgr.session.sessionType
        request := by
  have hu : ms.unlocked = (ms.securityAccess.entry 1).unlocked := rfl
  unfold routineDisturbs
  rw [← hu]
  cases h with
  | wrongSession hc hs =>
    have hv : request.didOrRid ≠ Rid.writeVinRoutine := by
      intro hv
      rw [hv] at hc
      exact absurd hc (by decide)
    simp [hv, hs]
  | generateKeyPair hs hr hw =>
    rw [hw.downstream_iff (P := True) ha fun _ _ _ hk => by cases hk <;> simp [Cmd.downstream]]
    have hv : Rid.generateKeyPair ≠ Rid.writeVinRoutine := by decide
    simp [hs, hr, hv]
  | readCsr hs hr hw =>
    rw [hw.downstream_iff (P := True) ha fun _ _ _ hk => by cases hk <;> simp [Cmd.downstream]]
    have hv : Rid.readCsr ≠ Rid.writeVinRoutine := by decide
    simp [hs, hr, hv]
  | injectCertificate hs hr hw =>
    rw [hw.downstream_iff (P := request.payload ≠ []) ha fun _ _ _ hk => by
      cases hk with
      | empty he => simp [he]
      | failed he _ => simp [he, Cmd.downstream]
      | done he _ => simp [he, Cmd.downstream]]
    have hv : Rid.injectCertificate ≠ Rid.writeVinRoutine ∧
        Rid.injectCertificate ≠ Rid.generateKeyPair ∧ Rid.injectCertificate ≠ Rid.readCsr := by
      decide
    simp [hs, hr, hv]
  | locked _ hl => simp [hl]
  | noProv hc hp =>
    obtain ⟨h1, h2, h3⟩ := not_certificateRid hc
    simp [h1, h2, h3, provReady, hp]
  | unavailable hc hp hx =>
    obtain ⟨rfl, _⟩ := (answers_cons ..).mp ha
    obtain ⟨h1, h2, h3⟩ := not_certificateRid hc
    simp [h1, h2, h3, provReady, hp, hx, Cmd.downstream]
  | writeVin hun hp hx hr hv =>
    obtain ⟨rfl, _⟩ := (answers_cons ..).mp ha
    rw [downstream_cons id]
    have hready : provReady o d.prov := ⟨_, hp, hx⟩
    cases hv with
    | short hl =>
      have hc : ¬ isCertificateRid Rid.writeVinRoutine := by decide
      obtain ⟨h1, h2, h3⟩ := not_certificateRid hc
      simp [hr, Nat.not_le.mpr hl, h1, h2, h3]
    | failed hl _ => simp [hun, hr, hready, hl, Cmd.downstream]
    | done hl _ => simp [hun, hr, hready, hl, Cmd.downstream]
  | outOfRange hc _ hv =>
    obtain ⟨h1, h2, h3⟩ := not_certificateRid hc
    simp [h1, h2, h3, hv, Cmd.downstream]

/-! ## The exact condition -/

/-- The request does something: a security level changes, or a downstream operation is called. -/
def disturbs (o : Oracle) (d : ServiceDispatcher) (st : SecurityAccessState)
    (sessionType : SessionType) (request : DiagRequest) : Prop :=
  request.serviceId = UdsService.securityAccess ∧
    (request.basicSubFunction = 1 ∧ seedDisturbs o d.sec st ∨
      request.basicSubFunction = 2 ∧ keyDisturbs o d.sec st) ∨
  request.serviceId = UdsService.routineControl ∧ routineDisturbs o d st sessionType request

/-- The security state is the same at every level, and no downstream operation was called. -/
def Undisturbed (s : DiagService) (l : DiagService.Step) (s' : DiagService) : Prop :=
  (∀ level, sameState (s.securityState level) (s'.securityState level)) ∧
    ¬ l.calls Cmd.downstream

theorem ServiceDispatcher.Dispatched.undisturbed {d : ServiceDispatcher} {ms ms' : Managers}
    {request : DiagRequest} {o : Oracle} {tr : Trace} {response : DiagResponse}
    (h : Dispatched d ms request tr response ms') (ha : Answers o tr)
    (hsec : d.sec = ms.securityAccess.sec) :
    ((∀ level, sameState (ms.securityAccess.entry level) (ms'.securityAccess.entry level)) ∧
        ¬ ∃ e ∈ tr, e.cmd.downstream) ↔
      ¬ disturbs o d (ms.securityAccess.entry 1) ms.sessionMgr.session.sessionType request := by
  have calls : ∀ {e}, e ∈ tr → e.cmd.downstream →
      request.serviceId = UdsService.routineControl := fun he hd => (h.downstream he hd).1
  have neither (hs : request.serviceId ≠ UdsService.securityAccess)
      (hr : request.serviceId ≠ UdsService.routineControl)
      (hsame : ms'.securityAccess = ms.securityAccess) :
      ((∀ level, sameState (ms.securityAccess.entry level) (ms'.securityAccess.entry level)) ∧
        ¬ ∃ e ∈ tr, e.cmd.downstream) ↔
      ¬ disturbs o d (ms.securityAccess.entry 1) ms.sessionMgr.session.sessionType request := by
    rw [hsame]
    refine iff_of_true ⟨fun _ => sameState_refl _, ?_⟩ ?_
    · rintro ⟨e, he, hd⟩
      exact hr (calls he hd)
    · rintro (hd | hd)
      · exact hs hd.1
      · exact hr hd.1
  have hne : UdsService.securityAccess ≠ UdsService.routineControl := by decide
  cases h with
  | session hs _ => exact neither (by rw [hs]; decide) (by rw [hs]; decide) rfl
  | testerPresent hs _ => exact neither (by rw [hs]; decide) (by rw [hs]; decide) rfl
  | read hs _ => exact neither (by rw [hs]; decide) (by rw [hs]; decide) rfl
  | unsupported _ _ h3 h4 _ => exact neither h3 h4 rfl
  | badLevel hs h1 h2 => simp [disturbs, hs, h1, h2, hne, sameState_refl]
  | seed hs h1 hq =>
    have hno : ¬ ∃ e ∈ tr, e.cmd.downstream := by
      rintro ⟨e, he, hd⟩
      exact hq.plain.not_downstream he hd
    simp [disturbs, hs, h1, hne, hno, hq.disturbs ha, hsec]
  | key hs h2 hq =>
    have hno : ¬ ∃ e ∈ tr, e.cmd.downstream := by
      rintro ⟨e, he, hd⟩
      exact hq.not_downstream he hd
    simp [disturbs, hs, h2, hne, hno, hq.disturbs ha, hsec]
  | routine hs hq =>
    simp [disturbs, hs, hne.symm, sameState_refl, ← hq.downstream_iff ha]

/-! ## Every step has an oracle -/

/-- The oracle gives the answers a handler gets in the trace. -/
def Heeds (o : Oracle) (tr : Trace) : Prop := ∀ e ∈ tr, ¬ e.cmd.aside → e.ans = o e.cmd

theorem exists_answers {tr : Trace} (h : (tr.map Event.cmd).Nodup) :
    ∃ o : Oracle, Answers o tr := by
  induction tr with
  | nil => exact ⟨obliging 0, answers_nil _⟩
  | cons e tr ih =>
    obtain ⟨c, x⟩ := e
    rw [List.map_cons, List.nodup_cons] at h
    obtain ⟨o, ho⟩ := ih h.2
    refine ⟨Function.update o c x, (answers_cons ..).mpr ⟨by simp, ?_⟩⟩
    intro e he
    have hne : e.cmd ≠ c := by
      intro hc
      have hmem := List.mem_map_of_mem (f := Event.cmd) he
      rw [hc] at hmem
      exact h.1 hmem
    rw [Function.update_of_ne hne]
    exact ho e he

/-- Every request was handled against some oracle. -/
theorem exists_heeds {v : View} {o' : Option View} {l : DiagService.Step}
    {x : DiagService.Exchange} (h : Acts (some v) l o') (hx : l.exchange = some x) :
    ∃ o, Heeds o l.trace := by
  cases h with
  | @serve _ _ _ _ _ _ _ tr₀ tr₁ tr₂ tr₃ _ hm hq₁ hd hq₃ =>
    obtain ⟨_, hnodup⟩ := hd.once
    obtain ⟨o, ho⟩ : ∃ o : Oracle, Answers o (tr₀ ++ tr₂) := by
      refine exists_answers ?_
      rcases hm.once with rfl | ⟨y, rfl⟩
      · exact (List.nodup_cons.mp hnodup).2
      · exact hnodup
    rw [answers_append] at ho
    refine ⟨o, ?_⟩
    intro e he hn
    simp only [List.mem_append] at he
    rcases he with he | he | he | he
    · exact ho.1 e he
    · exact absurd (hq₁ e he) hn
    · exact ho.2 e he
    · exact absurd (hq₃ e he) hn
  | _ => cases hx

/-- The answers of the S3 check and of the dispatch are those of an oracle heeded in the step. -/
theorem Heeds.served {o : Oracle} {d : ServiceDispatcher} {m m' : SessionManager}
    {ms ms' : Managers} {request : DiagRequest} {response : DiagResponse} {b : Bool}
    {tr₀ tr₁ tr₂ tr₃ : Trace} (ho : Heeds o (tr₀ ++ (tr₁ ++ (tr₂ ++ tr₃))))
    (hm : m.S3Checked tr₀ b m') (hd : Dispatched d ms request tr₂ response ms') :
    Answers o tr₀ ∧ Answers o tr₂ := by
  constructor
  · intro e he
    refine ho e (by simp [he]) ?_
    rcases hm.once with rfl | ⟨x, rfl⟩
    · cases he
    · rw [List.mem_singleton.mp he]
      exact id
  · intro e he
    exact ho e (by simp [he]) (hd.once.1 e he)

/-- When a request leaves the security level and the downstream operations alone. Its sender does
not come into it: a tester that does not own the session is held off only where the owner
would be. -/
theorem undisturbed_iff {s s' : DiagService} {d : ServiceDispatcher} {l : DiagService.Step}
    {x : DiagService.Exchange} {o : Oracle} (hs : DiagService.Reachable s)
    (hi : s.initialized = true) (hd : s.dispatcher = some d) (h : DiagService.Does s l s')
    (hx : l.exchange = some x) (ho : Heeds o l.trace)
    (hlive : ∀ e ∈ l.trace, e.cmd = .now .s3Check →
      elapsedMs (timeOf e) s.getCurrentSession.lastTesterPresentAt ≤ Timing.s3Default) :
    Undisturbed s l s' ↔
      ¬ disturbs o d (s.securityState 1) s.getCurrentSession.sessionType x.request := by
  obtain ⟨ls, hrun, _⟩ := hs
  obtain ⟨v, _, hshow⟩ := reach_serves hrun hi
  obtain rfl := hshow.dispatcher_eq hd
  obtain ⟨o', hstep, hshow'⟩ := does_acts (o := some v) hshow h
  rw [hshow.getCurrentSession] at hlive ⊢
  cases hstep with
  | @serve _ _ _ _ _ m ms tr₀ tr₁ tr₂ tr₃ _ hm hq₁ hdis hq₃ =>
    cases hx
    obtain rfl := hm.unexpired fun e he => hlive e (List.mem_append_left _ he)
    have hans : Answers o tr₂ := (ho.served hm hdis).2
    rw [Undisturbed]
    simp only [hshow.securityState, Serves.securityState hshow']
    have hcalls : (∃ e ∈ tr₀ ++ (tr₁ ++ (tr₂ ++ tr₃)), e.cmd.downstream) ↔
        ∃ e ∈ tr₂, e.cmd.downstream :=
      downstream_within (fun _ hd => hd) hm.ticks.plain hq₁.plain hq₃.plain
    have key := hdis.undisturbed hans hshow.sec
    rw [← hcalls] at key
    exact key
  | _ => cases hx

/-- Tester 2 asks for a seed. -/
def foreignSeedOp : DiagService.Op :=
  .processRequest { serviceId := 0x27, subFunction := 0x01, sourceAddress := 2 }

theorem undisturbed_iff_foreignSeed :
    let r := ownedService.playOne foreignSeedOp (obliging 0)
    ∃ d, ownedService.dispatcher = some d ∧ (Undisturbed ownedService r.1 r.2 ↔
      ¬ disturbs (obliging 0) d (ownedService.securityState 1)
        ownedService.getCurrentSession.sessionType
        { serviceId := 0x27, subFunction := 0x01, sourceAddress := 2 }) := by
  intro r
  refine ⟨_, rfl, ?_⟩
  refine undisturbed_iff ownedService_reachable rfl rfl
    (ownedService.playOne_does foreignSeedOp (obliging 0)) rfl ?_ ?_
  · intro e he _
    exact ownedService.playOne_answers foreignSeedOp (obliging 0) e he
  · decide

/-- Tester 2 writes a VIN on the unlock of tester 1, who owns the live session. -/
theorem foreign_write_reaches_prov :
    let r := ownedService.playOne (writeVinOp 2) (obliging 0)
    ownedService.Reachable ∧ ownedService.initialized = true ∧
      DiagService.Does ownedService r.1 r.2 ∧
      ownedService.getCurrentSession.sessionType = .extended ∧
      ownedService.getCurrentSession.sourceAddress = 1 ∧
      (∀ e ∈ r.1.trace, e.cmd = .now .s3Check →
        elapsedMs (timeOf e) ownedService.getCurrentSession.lastTesterPresentAt
          ≤ Timing.s3Default) ∧
      ¬ Undisturbed ownedService r.1 r.2 := by
  intro r
  refine ⟨ownedService_reachable, rfl, ownedService.playOne_does (writeVinOp 2) (obliging 0),
    rfl, rfl, by decide, ?_⟩
  rintro ⟨_, hcalls⟩
  exact hcalls ⟨_, List.mem_of_getElem? (i := 2) rfl, trivial⟩

end Diag
end Tbox
