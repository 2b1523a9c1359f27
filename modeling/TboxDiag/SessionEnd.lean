import TboxDiag.UnlockGating
import TboxDiag.Ownership

/-!
# SessionEnd

What is left of an unlock when the session it was obtained in ends, by S3 timeout or by a switch
to the default session. Both paths clear `securityUnlocked` in the session record, and neither
touches the security access object, which is the one the protected routines ask. A timeout is found
by the operation that comes next, before it does anything else (`Serves.timeout_first`).

`reauth_required_iff`: a new seed and key are needed afterwards exactly when there was nothing to
keep, neither an unlock nor a pending seed.
-/

namespace Tbox
namespace Diag

open Effects DiagService ServiceDispatcher

/-! ## The end of a session -/

/-- A step that takes a non-default session back to the default one. The S3 check is a step of its
own: the request it comes before runs in the default session already. -/
inductive EndsSession (s : DiagService) : Trace → DiagService → Prop where
  | timedOut {tr : Trace} {lg : List LogRecord} {s₁ : DiagService} :
      s.getCurrentSession.sessionType ≠ .default → Exec s.checkS3Timeout tr lg s₁ →
      s₁.getCurrentSession.sessionType = .default → EndsSession s tr s₁
  | requested {l : Step} {x : Exchange} {s₁ : DiagService} :
      s.getCurrentSession.sessionType ≠ .default → Does s l s₁ → l.exchange = some x →
      x.request.serviceId = UdsService.diagnosticSessionControl →
      x.request.basicSubFunction = SessionType.default.code → x.response.positive = true →
      EndsSession s l.trace s₁

theorem Serves.checkS3Timeout_default {s : DiagService} {v : View} (h : Serves s v)
    (hdefault : v.managers.sessionMgr.session.sessionType = .default) :
    s.checkS3Timeout = pure s := by
  unfold DiagService.checkS3Timeout SessionManager.checkS3Timeout
  rw [h.session]
  simp only [hdefault, if_true]
  exact congrArg (fun ms => (pure { s with sessionMgrs := ms } : M DiagService))
    (Heap.store_self h.session)

/-- The operations that serve requests are the S3 check and a rest, and in the default session,
where there is nothing to check, only the rest. So what is left of an operation after a timeout is
the operation itself, started over. -/
theorem Serves.check_then_rest {s : DiagService} {v : View} {op : Op} (h : Serves s v)
    (hop : (∃ request, op = .processRequest request) ∨ op = .processPendingRequests) :
    ∃ rest : DiagService → M (Option Exchange × DiagService),
      s.exec op = s.checkS3Timeout >>= rest ∧
      ∀ s₁ v₁, Serves s₁ v₁ → v₁.managers.sessionMgr.session.sessionType = .default →
        s₁.exec op = rest s₁ := by
  have up {s : DiagService} {v : View} (h : Serves s v) : ¬ (!s.initialized) = true := by
    simp [h.initialized]
  rcases hop with ⟨request, rfl⟩ | rfl
  · apply Exists.intro
    constructor
    · simp only [exec, DiagService.processRequest]
      rw [if_neg (up h)]
      exact Prog.bind_assoc _ _ _
    · intro s₁ v₁ h₁ hdefault
      simp only [exec, DiagService.processRequest]
      rw [if_neg (up h₁), h₁.checkS3Timeout_default hdefault]
      rfl
  · apply Exists.intro
    constructor
    · simp only [exec, DiagService.processPendingRequests]
      rw [if_neg (up h)]
    · intro s₁ v₁ h₁ hdefault
      simp only [exec, DiagService.processPendingRequests]
      rw [if_neg (up h₁), h₁.checkS3Timeout_default hdefault]
      rfl

/-- An operation that finds the session timed out ends it and then is the operation itself, in the
default session. -/
theorem Serves.timeout_first {s s' : DiagService} {v : View} {l : Step} (h : Serves s v)
    (hl : Does s l s')
    (hop : (∃ request, l.op = .processRequest request) ∨ l.op = .processPendingRequests)
    (hsession : s.getCurrentSession.sessionType ≠ .default) :
    ∃ tr₀ lg₀ s₁ tr₁, l.trace = tr₀ ++ tr₁ ∧ Exec s.checkS3Timeout tr₀ lg₀ s₁ ∧
      (s₁.getCurrentSession.sessionType = .default →
        EndsSession s tr₀ s₁ ∧ Does s₁ ⟨l.op, tr₁, l.exchange⟩ s') := by
  obtain ⟨lg, hx⟩ := hl
  obtain ⟨rest, hexec, hagain⟩ := h.check_then_rest hop
  rw [hexec] at hx
  obtain ⟨s₁, tr₀, lg₀, tr₁, lg₁, hcheck, hrest, htr, -⟩ := exec_bind_inv hx
  refine ⟨tr₀, lg₀, s₁, tr₁, htr, hcheck, fun hdefault => ⟨.timedOut hsession hcheck hdefault, ?_⟩⟩
  obtain ⟨_, m, -, hs₁, -⟩ := hcheck.wp h.checkS3Timeout_wp
  rw [hs₁.getCurrentSession] at hdefault
  refine ⟨lg₁, ?_⟩
  simp only
  rw [hagain s₁ _ hs₁ hdefault]
  exact hrest

/-- Some step of the history accepted a key, and an earlier one issued a seed. -/
def Reauthenticated : List Step → Prop :=
  Since (fun ls l => l.keyAccepted ∧ Since (fun _ x => x.seedIssued) (fun _ => True) ls)
    fun _ => True

/-- From `s` on, with `tr` the calls made so far: a protected routine is refused and calls
nothing until a new seed and a key accepted for it. -/
def ReauthRequired (tr : Trace) (s : DiagService) : Prop :=
  ∀ ls s', Run Does s ls s' → Clocked (tr ++ traceOf ls) →
    ∀ pre l post, ls = pre ++ l :: post → l.protectedRoutine →
      l.positive ∨ l.calls Cmd.downstream → Reauthenticated pre

/-- After its end the session is the default one, and the security access object is the same. -/
theorem EndsSession.view {s s₁ : DiagService} {v : View} {tr : Trace} (h : EndsSession s tr s₁)
    (hs : Serves s v) : ∃ m : SessionManager, m.session.sessionType = .default ∧
      Serves s₁ (v.withSession m) := by
  cases h with
  | timedOut _ hx hd =>
    obtain ⟨b, m, _, hs₁, _⟩ := hx.wp hs.checkS3Timeout_wp
    rw [hs₁.getCurrentSession] at hd
    exact ⟨m, hd, hs₁⟩
  | @requested l x _ _ hdo hx hsid hsub hpos =>
    obtain ⟨o', hacts, hs₁⟩ := does_acts (o := some v) hs hdo
    cases hacts with
    | serve _ _ _ hdis _ =>
      cases hx
      obtain ⟨_, _, hm, rfl, rfl⟩ := hdis.of_session hsid
      cases hm with
      | @accepted target _ _ _ ht =>
        rw [hsub] at ht
        cases ht
        exact ⟨_, rfl, hs₁⟩
      | _ => cases hpos
    | _ => cases hx

/-! ## When nothing was unlocked -/

theorem Unlocked.reauthenticated {ls : List Step} (h : Unlocked ls) : Reauthenticated ls :=
  Since.mono h (fun _ _ hk => ⟨hk.1, hk.2.mono (fun _ _ hs => hs) fun _ _ => trivial⟩)
    fun _ _ => trivial

theorem reauth_required {s : DiagService} {v : View} {tr : Trace} (hs : Serves s v)
    (hlocked : (v.managers.securityAccess.entry 1).unlocked = false)
    (hseed : (v.managers.securityAccess.entry 1).seedRequested = false) : ReauthRequired tr s := by
  rintro ls s' hrun _ pre l post rfl hroutine huse
  obtain ⟨t, t', hpre, hstep, _⟩ := hrun.at_label
  obtain ⟨o, hacts, hshow⟩ := run_acts (o := some v) hpre hs
  obtain ⟨o', hact, _⟩ := does_acts hshow hstep
  have hgate := gate_run (run_level1 hacts) (gate_nil hseed hlocked)
  refine (hgate.key ?_).reauthenticated
  cases huse with
  | inl hp => exact acts_positive hact hroutine hp
  | inr hd => exact acts_downstream hact hd

/-! ## When something was -/

/-- An unlock or a pending seed comes from SEC, which is still there. -/
def SecPresent (v : View) : Prop :=
  (v.managers.securityAccess.entry 1).unlocked = true ∨
    (v.managers.securityAccess.entry 1).seedRequested = true →
  ∃ h, v.managers.securityAccess.sec = some h

theorem secPresent_dispatched {d : ServiceDispatcher} {ms ms' : Managers} {request : DiagRequest}
    {tr : Trace} {response : DiagResponse} {d' : ServiceDispatcher} (h : SecPresent ⟨d', ms⟩)
    (hd : Dispatched d ms request tr response ms') : SecPresent ⟨d', ms'⟩ := by
  cases hd with
  | seed _ _ hq =>
    cases hq with
    | issued hs _ _ _ => exact fun _ => ⟨_, hs⟩
    | _ => exact h
  | key _ _ hq =>
    cases hq with
    | noSeed hs _ _ _ => exact fun _ => ⟨_, hs⟩
    | rejected hs _ _ _ _ _ => exact fun _ => ⟨_, hs⟩
    | accepted hs _ _ _ _ => exact fun _ => ⟨_, hs⟩
    | _ => exact h
  | _ => exact h

theorem secPresent_run {o : Option View} {ls : List Step} (h : Run Acts none ls o) :
    ∀ v, o = some v → SecPresent v := by
  have fresh {v : View} (hv : v.managers.securityAccess.entry 1 = {}) : SecPresent v := by
    rintro (hu | hu) <;> rw [hv] at hu <;> cases hu
  refine h.invariant (I := fun o => ∀ v, o = some v → SecPresent v) ?_ ?_
  · intro v hv
    cases hv
  · rintro o l _ hi ha v' rfl
    cases ha with
    | start _ => exact fresh rfl
    | keep _ _ => exact hi _ rfl
    | setSec => exact fresh rfl
    | @poll v _ _ _ _ _ _ => exact hi v rfl
    | @serve v _ _ _ _ m _ _ _ _ _ _ _ _ hd _ =>
      have hv : SecPresent ⟨v.dispatcher, (v.withSession m).managers⟩ := hi v rfl
      exact secPresent_dispatched hv hd

/-- What a request does when it is played against an oracle. -/
theorem Serves.play_request {s : DiagService} {v : View} (h : Serves s v) (request : DiagRequest)
    (o : Oracle) : ∃ tr₀ tr₁ b m response ms,
      (s.playOne (.processRequest request) o).1 =
        ⟨.processRequest request, tr₀ ++ tr₁, some ⟨request, response⟩⟩ ∧
      v.managers.sessionMgr.S3Checked tr₀ b m ∧
      Dispatched v.dispatcher (v.withSession m).managers request tr₁ response ms ∧
      Serves (s.playOne (.processRequest request) o).2 { v with managers := ms } ∧
      Answers o tr₀ ∧ Answers o tr₁ := by
  have hx := exec_run o (s.exec (.processRequest request))
  have hwp : wp (s.exec (.processRequest request)) fun tr r => ∃ tr₀ tr₁ b m response ms,
      tr = tr₀ ++ tr₁ ∧ r.1 = some ⟨request, response⟩ ∧
      v.managers.sessionMgr.S3Checked tr₀ b m ∧
      Dispatched v.dispatcher (v.withSession m).managers request tr₁ response ms ∧
      Serves r.2 { v with managers := ms } := by
    simp only [exec, wp_bind, wp_pure, List.append_nil]
    refine wp_mono (h.processRequest_wp request) ?_
    intro tr r hr
    obtain ⟨tr₀, tr₁, b, m, ms, htr, hm, hd, hs⟩ := hr
    exact ⟨tr₀, tr₁, b, m, r.1, ms, htr, rfl, hm, hd, hs⟩
  obtain ⟨tr₀, tr₁, b, m, response, ms, htr, hr, hm, hd, hs⟩ := hx.wp hwp
  have ha : Answers o (tr₀ ++ tr₁) := by
    rw [← htr]
    exact s.playOne_answers _ o
  rw [answers_append] at ha
  refine ⟨tr₀, tr₁, b, m, response, ms, ?_, hm, hd, hs, ha.1, ha.2⟩
  rw [← htr, ← hr]
  rfl

def keyRequest : DiagRequest := { serviceId := 0x27, subFunction := 0x02 }

def programmingRequest : DiagRequest := { serviceId := 0x10, subFunction := 0x02 }

def keyPairRequest : DiagRequest := { serviceId := 0x31, didOrRid := 0xFF01 }

/-- In the default session a pending seed still takes a key. -/
theorem key_after_end {s : DiagService} {v : View} {t : Time} (h : Serves s v)
    (hdefault : v.managers.sessionMgr.session.sessionType = .default)
    (hsec : ∃ h, v.managers.securityAccess.sec = some h)
    (hseed : (v.managers.securityAccess.entry 1).seedRequested = true)
    (ht : (v.managers.securityAccess.entry 1).lockedUntil ≤ t) :
    ∃ ms : Managers, Serves (s.playOne (.processRequest keyRequest) (obliging t)).2
        { v with managers := ms } ∧
      ms.sessionMgr = v.managers.sessionMgr ∧
      (ms.securityAccess.entry 1).unlocked = true ∧
      ∃ response, (s.playOne (.processRequest keyRequest) (obliging t)).1.exchange =
        some ⟨keyRequest, response⟩ := by
  obtain ⟨tr₀, tr₁, b, m, response, ms, hplay, hm, hd, hs, _, ha⟩ :=
    h.play_request keyRequest (obliging t)
  rw [hplay]
  have hm' : m = v.managers.sessionMgr := by
    cases hm with
    | default _ => rfl
    | live hne _ => exact absurd hdefault hne
    | expired hne _ => exact absurd hdefault hne
  subst hm'
  obtain ⟨_, _, hq, rfl, rfl⟩ := hd.of_key rfl rfl
  cases hq with
  | accepted _ _ _ _ _ =>
    refine ⟨_, hs, rfl, ?_, _, rfl⟩
    simp
  | noSec hn =>
    obtain ⟨h, hh⟩ := hsec
    exact absurd hn (by simp [hh])
  | unavailable _ hx =>
    obtain ⟨rfl, _⟩ := (answers_cons ..).mp ha
    cases hx
  | lockedOut _ _ hl =>
    obtain ⟨rfl, hal⟩ := (answers_cons ..).mp ha
    cases hl with
    | locked _ hlt =>
      obtain ⟨rfl, _⟩ := (answers_cons ..).mp hal
      exact absurd ht (Nat.not_le.mpr hlt)
  | noSeed _ _ _ hn =>
    rw [SecurityAccess.seedLevelOfKey_two] at hn
    exact absurd hseed (by simpa using hn)
  | rejected _ _ _ _ hy _ =>
    simp only [answers_cons, answers_append] at ha
    obtain ⟨_, _, rfl, _⟩ := ha
    cases hy

/-- Nobody holds the default session, so any tester may open the programming session. -/
theorem programming_after_end {s : DiagService} {v : View} (h : Serves s v)
    (hdefault : v.managers.sessionMgr.session.sessionType = .default) (t : Time) :
    ∃ m : SessionManager,
      Serves (s.playOne (.processRequest programmingRequest) (obliging t)).2 (v.withSession m) ∧
      m.session.sessionType = .programming ∧ m.session.lastTesterPresentAt = t ∧
      ∃ response, (s.playOne (.processRequest programmingRequest) (obliging t)).1.exchange =
        some ⟨programmingRequest, response⟩ := by
  obtain ⟨tr₀, tr₁, b, m, response, ms, hplay, hm, hd, hs, _, ha⟩ :=
    h.play_request programmingRequest (obliging t)
  rw [hplay]
  have hm' : m.session.sessionType = .default := by
    cases hm with
    | default _ => exact hdefault
    | live _ _ => exact hdefault
    | expired _ _ => rfl
  obtain ⟨_, _, hq, rfl, rfl⟩ := hd.of_session rfl
  cases hq with
  | occupied ho => exact absurd hm' ho.2.2
  | invalid _ hn => cases hn
  | @accepted target t₁ t₂ _ ht =>
    cases ht
    simp only [answers_cons] at ha
    obtain ⟨_, rfl, _⟩ := ha
    exact ⟨_, hs, rfl, rfl, _, rfl⟩

/-- In a live programming session with level 1 unlocked, a key pair is made. -/
theorem keyPair_unlocked {s : DiagService} {v : View} {t : Time} (h : Serves s v)
    (hprogramming : v.managers.sessionMgr.session.sessionType = .programming)
    (hpresent : v.managers.sessionMgr.session.lastTesterPresentAt = t)
    (hsec : ∃ h, v.dispatcher.sec = some h)
    (hunlocked : (v.managers.securityAccess.entry 1).unlocked = true) :
    ∃ response, response.positive = true ∧
      (s.playOne (.processRequest keyPairRequest) (obliging t)).1.exchange =
        some ⟨keyPairRequest, response⟩ := by
  obtain ⟨tr₀, tr₁, b, m, response, ms, hplay, hm, hd, _, ha₀, ha⟩ :=
    h.play_request keyPairRequest (obliging t)
  rw [hplay]
  refine ⟨response, ?_, rfl⟩
  have hm' : m = v.managers.sessionMgr := by
    cases hm with
    | default _ => rfl
    | live _ _ => rfl
    | expired _ he =>
      obtain ⟨rfl, _⟩ := (answers_cons ..).mp ha₀
      have hn : elapsedMs t v.managers.sessionMgr.session.lastTesterPresentAt = 0 := by
        rw [hpresent, elapsedMs, Nat.sub_self, Nat.zero_div]
      rw [SessionManager.s3Expired, obliging_time, hn] at he
      cases he
  subst hm'
  obtain ⟨hr, rfl⟩ := hd.of_routine rfl
  cases hr with
  | generateKeyPair _ _ hw =>
    cases hw with
    | locked hl =>
      have hf : (v.managers.securityAccess.entry 1).unlocked = false := hl
      rw [hunlocked] at hf
      cases hf
    | noSec hn =>
      obtain ⟨h, hh⟩ := hsec
      exact absurd hn (by simp [hh])
    | unavailable _ hx =>
      obtain ⟨rfl, _⟩ := (answers_cons ..).mp ha
      cases hx
    | ready _ _ _ hk =>
      cases hk with
      | done _ => rfl
      | failed hy =>
        simp only [answers_cons] at ha
        obtain ⟨_, rfl, _⟩ := ha
        cases hy
  | wrongSession _ hne => exact absurd hprogramming hne
  | readCsr _ hr _ | injectCertificate _ hr _ => cases hr
  | writeVin _ _ _ hr _ => cases hr
  | locked hc _ | noProv hc _ | outOfRange hc _ _ => exact absurd (.inl rfl) hc
  | unavailable hc _ _ => exact absurd (.inl rfl) hc

/-- What a request that is no requestSeed cannot be. -/
theorem not_seedIssued {l : Step} {request : DiagRequest} {response : DiagResponse}
    (hx : l.exchange = some ⟨request, response⟩)
    (hn : ¬ (request.serviceId = UdsService.securityAccess ∧ request.basicSubFunction = 1)) :
    ¬ l.seedIssued := by
  rintro ⟨y, hy, hs, h1, _⟩
  rw [hx] at hy
  cases hy
  exact hn ⟨hs, h1⟩

theorem Reauthenticated.seedIssued {ls : List Step} (h : Reauthenticated ls) :
    ∃ l ∈ ls, l.seedIssued := by
  obtain ⟨a, _, b, rfl, ⟨_, c, l, d, rfl, hl, _⟩, _⟩ := h
  exact ⟨l, by simp, hl⟩

/-- An unlocked level is used in the next programming session, without a new seed. -/
theorem reuse_unlock {s : DiagService} {v : View} {t : Time} (h : Serves s v)
    (hdefault : v.managers.sessionMgr.session.sessionType = .default)
    (hsec : ∃ h, v.managers.securityAccess.sec = some h)
    (hunlocked : (v.managers.securityAccess.entry 1).unlocked = true) :
    ∃ dsc l s', Run Does s ([dsc] ++ [l]) s' ∧ (∀ e ∈ traceOf ([dsc] ++ [l]), timeOf e = t) ∧
      ¬ dsc.seedIssued ∧ l.protectedRoutine ∧ l.positive := by
  obtain ⟨m, hs, hprogramming, hpresent, _, hx⟩ := programming_after_end h hdefault t
  have hsec' : ∃ h, (v.withSession m).dispatcher.sec = some h := by
    rw [View.withSession_dispatcher, h.sec]
    exact hsec
  obtain ⟨response, hpos, hx'⟩ := keyPair_unlocked hs hprogramming hpresent hsec' hunlocked
  have hopen := playOne_does s (.processRequest programmingRequest) (obliging t)
  have hroutine := playOne_does (s.playOne (.processRequest programmingRequest) (obliging t)).2
    (.processRequest keyPairRequest) (obliging t)
  refine ⟨_, _, _, (Run.single hopen).snoc hroutine, ?_, ?_, ?_, ?_⟩
  · intro e he
    simp only [traceOf, List.flatMap_append, List.flatMap_singleton, List.mem_append] at he
    cases he with
    | inl he => exact timeOf_obliging (playOne_answers _ _ _) e he
    | inr he => exact timeOf_obliging (playOne_answers _ _ _) e he
  · exact not_seedIssued hx (by decide)
  · exact ⟨_, hx', rfl, .inr (.inl rfl)⟩
  · exact ⟨_, hx', hpos⟩

theorem not_reauth_required {s : DiagService} {v : View} {tr : Trace} (h : Serves s v)
    (hdefault : v.managers.sessionMgr.session.sessionType = .default) (hpresent : SecPresent v)
    (hclock : Clocked tr)
    (hkept : (v.managers.securityAccess.entry 1).unlocked = true ∨
      (v.managers.securityAccess.entry 1).seedRequested = true) : ¬ ReauthRequired tr s := by
  intro hreq
  obtain ⟨sec, hsec⟩ := hpresent hkept
  have hlatest : latest tr ≤ max (latest tr) (v.managers.securityAccess.entry 1).lockedUntil :=
    Nat.le_max_left _ _
  have hlocked : (v.managers.securityAccess.entry 1).lockedUntil ≤
      max (latest tr) (v.managers.securityAccess.entry 1).lockedUntil := Nat.le_max_right _ _
  generalize max (latest tr) (v.managers.securityAccess.entry 1).lockedUntil = t at hlatest hlocked
  by_cases hu : (v.managers.securityAccess.entry 1).unlocked = true
  · obtain ⟨dsc, l, s', hrun, htimes, hdsc, hroutine, hpos⟩ :=
      reuse_unlock (t := t) h hdefault ⟨sec, hsec⟩ hu
    have hre := hreq _ s' hrun (hclock.extend hlatest htimes) [dsc] l [] rfl hroutine (.inl hpos)
    obtain ⟨x, hx, hissued⟩ := hre.seedIssued
    rw [List.mem_singleton.mp hx] at hissued
    exact hdsc hissued
  · -- the pending seed first takes its key
    have hseed := hkept.resolve_left hu
    obtain ⟨ms, hs, hsame, hunlocked, _, hx⟩ := key_after_end h hdefault ⟨sec, hsec⟩ hseed hlocked
    have hsec' : ∃ h, ms.securityAccess.sec = some h := by
      have hd := hs.sec
      rw [h.sec, hsec] at hd
      exact ⟨sec, hd.symm⟩
    rw [← hsame] at hdefault
    obtain ⟨dsc, l, s', hrun, htimes, hdsc, hroutine, hpos⟩ :=
      reuse_unlock (t := t) hs hdefault hsec' hunlocked
    have hkey := not_seedIssued hx (by decide)
    have hrun' := Run.cons (playOne_does s (.processRequest keyRequest) (obliging t)) hrun
    have htimes' : ∀ e ∈ traceOf ((s.playOne (.processRequest keyRequest) (obliging t)).1 ::
        ([dsc] ++ [l])), timeOf e = t := by
      intro e he
      rw [traceOf, List.flatMap_cons] at he
      cases List.mem_append.mp he with
      | inl he => exact timeOf_obliging (playOne_answers _ _ _) e he
      | inr he => exact htimes e he
    have hre := hreq _ s' hrun' (hclock.extend hlatest htimes') [_, dsc] l [] rfl hroutine
      (.inl hpos)
    obtain ⟨x, hx', hissued⟩ := hre.seedIssued
    rcases List.mem_pair.mp hx' with rfl | rfl
    · exact hkey hissued
    · exact hdsc hissued

/-! ## The exact condition -/

section
variable {hist : List Step} {s s₁ : DiagService} {tr : Trace}

theorem EndsSession.unlock_kept (h : EndsSession s tr s₁) (hr : Run Does {} hist s)
    (hi : s.initialized = true) (hclock : Clocked (traceOf hist ++ tr))
    (hkept : (s.securityState 1).unlocked = true ∨ (s.securityState 1).seedRequested = true) :
    ¬ ReauthRequired (traceOf hist ++ tr) s₁ := by
  obtain ⟨v, hacts, hshow⟩ := reach_serves hr hi
  obtain ⟨m, hdefault, hs₁⟩ := h.view hshow
  rw [hshow.securityState] at hkept
  exact not_reauth_required hs₁ hdefault (secPresent_run hacts v rfl) hclock hkept

theorem EndsSession.nothing_kept (h : EndsSession s tr s₁) (hr : Run Does {} hist s)
    (hi : s.initialized = true) (hlocked : (s.securityState 1).unlocked = false)
    (hseed : (s.securityState 1).seedRequested = false) :
    ReauthRequired (traceOf hist ++ tr) s₁ := by
  obtain ⟨v, _, hshow⟩ := reach_serves hr hi
  obtain ⟨m, _, hs₁⟩ := h.view hshow
  rw [hshow.securityState] at hlocked hseed
  exact reauth_required hs₁ hlocked hseed

/-- After a session has ended, the protected routines ask for a new seed and key exactly when
level 1 was locked, with no seed pending, before the end. -/
theorem reauth_required_iff (hr : Run Does {} hist s) (hi : s.initialized = true)
    (h : EndsSession s tr s₁) (hclock : Clocked (traceOf hist ++ tr)) :
    ReauthRequired (traceOf hist ++ tr) s₁ ↔
      (s.securityState 1).unlocked = false ∧ (s.securityState 1).seedRequested = false := by
  constructor
  · intro hreq
    have hnot : ¬ ((s.securityState 1).unlocked = true ∨
        (s.securityState 1).seedRequested = true) := by
      intro hkept
      exact h.unlock_kept hr hi hclock hkept hreq
    rwa [not_or, Bool.not_eq_true, Bool.not_eq_true] at hnot
  · rintro ⟨hlocked, hseed⟩
    exact h.nothing_kept hr hi hlocked hseed

end

/-- Tester 1 goes back to the default session. -/
def endOp : Op := .processRequest { serviceId := 0x10, subFunction := 0x01, sourceAddress := 1 }

theorem ends_endOp : EndsSession ownedService (ownedService.playOne endOp (obliging 0)).1.trace
    (ownedService.playOne endOp (obliging 0)).2 :=
  .requested (by decide) (playOne_does ownedService endOp (obliging 0)) rfl rfl (by decide) rfl

theorem reauth_required_iff_endOp :
    let r := ownedService.playOne endOp (obliging 0)
    ReauthRequired (traceOf (play {} ownedScript).1 ++ r.1.trace) r.2 ↔
      (ownedService.securityState 1).unlocked = false ∧
        (ownedService.securityState 1).seedRequested = false :=
  reauth_required_iff (play_run {} ownedScript) rfl ends_endOp (by decide)

/-- The session of tester 1 ends and level 1 stays unlocked. -/
theorem unlock_outlives_session :
    let r := ownedService.playOne endOp (obliging 0)
    ownedService.Reachable ∧ ownedService.initialized = true ∧
      EndsSession ownedService r.1.trace r.2 ∧
      ¬ ReauthRequired (traceOf (play {} ownedScript).1 ++ r.1.trace) r.2 :=
  ⟨ownedService_reachable, rfl, ends_endOp,
    ends_endOp.unlock_kept (play_run {} ownedScript) rfl (by decide) (.inl rfl)⟩

end Diag
end Tbox
