import TboxDiag.SessionLease
import TboxDiag.SecurityHistory

/-!
# Recovery

Whatever has been done to an initialised service, it never shuts everybody out for good: a quiet
time as long as a lockout later, any tester gets through any routine, provided that SEC and PROV
cooperate. `Settled` bounds the two deadlines a run can leave behind by its last reading of the
clock; `recoverable` takes the four requests of a `Procedure` one after the other.
-/

namespace Tbox
namespace Diag

open Effects ServiceDispatcher

/-! ## Cooperation -/

/-- SEC and PROV do what they are asked. -/
def Obliges : Event outside → Prop
  | ⟨.sec _ .isAvailable, x⟩ => x.reply = true
  | ⟨.sec _ (.getSeed _), x⟩ => x.reply.1 = true
  | ⟨.sec _ (.verifyKey _ _), x⟩ => x.reply = true
  | ⟨.sec _ .generateKeyPair, x⟩ => x.reply = true
  | ⟨.sec _ .getCsr, x⟩ => x.reply.1 = true
  | ⟨.sec _ (.injectCertificate _), x⟩ => x.reply.1 = true
  | ⟨.prov _ .isAvailable, x⟩ => x.reply = true
  | ⟨.prov _ (.writeVin _ _), x⟩ => x.reply = .success
  | _ => True

/-- They do so between `t` and the S3 limit later. -/
structure Cooperates (t : Time) (tr : Trace) : Prop where
  works : ∀ e ∈ tr, Obliges e
  notBefore : ∀ e ∈ tr, t ≤ timeOf e
  notAfter : ∀ e ∈ tr, timeOf e ≤ t + millis Timing.s3Default

theorem Cooperates.sub {t : Time} {tr tr' : Trace} (h : Cooperates t tr) (hsub : tr' ⊆ tr) :
    Cooperates t tr' where
  works := fun e he => h.works e (hsub he)
  notBefore := fun e he => h.notBefore e (hsub he)
  notAfter := fun e he => h.notAfter e (hsub he)

theorem obliging_cooperates {t : Time} {tr : Trace} (h : Answers (obliging t) tr) :
    Cooperates t tr where
  works := by
    rintro ⟨c, x⟩ he
    obtain rfl : x = obliging t c := h _ he
    cases c with
    | sec _ q => cases q <;> exact rfl
    | prov _ q => cases q <;> first | exact rfl | exact trivial
    | _ => exact trivial
  notBefore := fun e he => (timeOf_obliging h e he).ge
  notAfter := fun e he => (timeOf_obliging h e he).le.trans (Nat.le_add_right _ _)

/-! ## The procedure -/

/-- A tester opens a session, unlocks level 1 and starts a routine. -/
structure Procedure where
  tester : UInt16
  transport : TransportType
  target : SessionType
  key : Bytes
  controlType : UInt8
  rid : UInt16
  payload : Bytes

namespace Procedure

variable (p : Procedure)

def openRequest : DiagRequest :=
  { serviceId := UdsService.diagnosticSessionControl, subFunction := p.target.code
    sourceAddress := p.tester, transport := p.transport }

def seedRequest : DiagRequest :=
  { serviceId := UdsService.securityAccess, subFunction := 0x01
    sourceAddress := p.tester, transport := p.transport }

def keyRequest : DiagRequest :=
  { serviceId := UdsService.securityAccess, subFunction := 0x02, payload := p.key
    sourceAddress := p.tester, transport := p.transport }

def routineRequest : DiagRequest :=
  { serviceId := UdsService.routineControl, subFunction := p.controlType, didOrRid := p.rid
    payload := p.payload, sourceAddress := p.tester, transport := p.transport }

def requests : List DiagRequest := [p.openRequest, p.seedRequest, p.keyRequest, p.routineRequest]

theorem seedRequest_sub : p.seedRequest.basicSubFunction = 1 := by
  have h : (0x01 : UInt8) &&& 0x7F = 1 := by decide
  exact h

theorem keyRequest_sub : p.keyRequest.basicSubFunction = 2 := by
  have h : (0x02 : UInt8) &&& 0x7F = 2 := by decide
  exact h

/-- The routine can be started in that session, with that payload. -/
def Startable : Prop :=
  p.target ≠ .default ∧
    (p.rid = Rid.writeVinRoutine ∧ vinLength ≤ p.payload.length ∨
      p.target = .programming ∧ (p.rid = Rid.generateKeyPair ∨ p.rid = Rid.readCsr ∨
        p.rid = Rid.injectCertificate ∧ p.payload ≠ []))

/-- The call that carries the routine out. -/
def CarriesOut (c : Cmd) : Prop :=
  (p.rid = Rid.writeVinRoutine ∧
      ∃ h, c = .prov h (.writeVin (p.payload.take vinLength) (p.payload.drop vinLength))) ∨
    (p.rid = Rid.generateKeyPair ∧ ∃ h, c = .sec h .generateKeyPair) ∨
    (p.rid = Rid.readCsr ∧ ∃ h, c = .sec h .getCsr) ∨
    (p.rid = Rid.injectCertificate ∧ ∃ h, c = .sec h (.injectCertificate p.payload))

end Procedure

/-! ## Deadlines -/

/-- What the service still waits for is over soon after `t`. -/
structure Settled (t : Time) (ms : Managers) : Prop where
  session : ms.sessionMgr.session.sessionType ≠ .default →
    ms.sessionMgr.session.lastTesterPresentAt ≤ t
  lockout : (ms.securityAccess.entry 1).lockedUntil ≤ t + millis SecurityConfig.lockoutDurationMs

theorem latest_append (tr tr' : Trace) : latest (tr ++ tr') = max (latest tr) (latest tr') := by
  induction tr with
  | nil => simp [latest]
  | cons e tr ih =>
    simp only [latest, List.cons_append, List.foldr_cons] at ih ⊢
    rw [ih, max_assoc]

section
variable {t t' : Time} {tr : Trace} {m m' : SessionManager} {sa sa' : SecurityAccess}
  {source : UInt16} {result : DiagErrorCode}

theorem Settled.mono {ms : Managers} (h : Settled t ms) (ht : t ≤ t') : Settled t' ms :=
  ⟨fun hne => (h.session hne).trans ht, h.lockout.trans (Nat.add_le_add_right ht _)⟩

theorem Settled.s3Checked {b : Bool} (h : Settled t ⟨m, sa⟩) (hm : m.S3Checked tr b m') :
    Settled t ⟨m', sa⟩ := by
  cases hm with
  | default _ => exact h
  | live _ _ => exact h
  | expired _ _ => exact ⟨fun hne => absurd rfl hne, h.lockout⟩

theorem Settled.switched {sessionType : UInt8} {transport : TransportType}
    (h : Settled t ⟨m, sa⟩) (htr : ∀ e ∈ tr, timeOf e ≤ t)
    (hm : m.Switched sessionType source transport tr result m') : Settled t ⟨m', sa⟩ := by
  cases hm with
  | occupied _ => exact h
  | invalid _ _ => exact h
  | @accepted _ _ t₂ _ _ => exact ⟨fun _ => htr ⟨.now .sessionPresent, t₂⟩ (by simp), h.lockout⟩

theorem Settled.refreshed (h : Settled t ⟨m, sa⟩) (htr : ∀ e ∈ tr, timeOf e ≤ t)
    (hm : m.Refreshed source tr result m') : Settled t ⟨m', sa⟩ := by
  cases hm with
  | idle _ => exact h
  | foreign _ => exact h
  | @accepted t₁ _ _ => exact ⟨fun _ => htr ⟨.now .testerPresent, t₁⟩ (by simp), h.lockout⟩

theorem Settled.seedRequested {seed : Bytes} (h : Settled t ⟨m, sa⟩)
    (hs : sa.SeedRequested 1 tr result seed sa') : Settled t ⟨m, sa'⟩ := by
  refine ⟨h.session, ?_⟩
  have hlockout := h.lockout
  cases hs with
  | issued _ _ _ _ =>
    rw [SecurityAccess.seeded_entry]
    exact hlockout
  | _ => exact hlockout

theorem Settled.keySent {key : Bytes} (h : Settled t ⟨m, sa⟩) (htr : ∀ e ∈ tr, timeOf e ≤ t)
    (hk : sa.KeySent 2 key tr result sa') : Settled t ⟨m, sa'⟩ := by
  refine ⟨h.session, ?_⟩
  have hlockout := h.lockout
  cases hk with
  | noSec _ => exact hlockout
  | unavailable _ _ => exact hlockout
  | lockedOut _ _ _ => exact hlockout
  | noSeed _ _ _ _ =>
    rw [SecurityAccess.setEntry_self]
    exact hlockout
  | rejected _ _ _ _ _ hd =>
    rw [SecurityAccess.seedLevelOfKey_two] at hd ⊢
    rw [SecurityAccess.rejected_entry]
    cases hd with
    | kept _ => exact hlockout
    | @started t₁ _ =>
      have ht₁ := htr ⟨.now .lockoutStart, t₁⟩ (by simp)
      exact Nat.add_le_add_right ht₁ _
  | accepted _ _ _ _ _ =>
    rw [SecurityAccess.seedLevelOfKey_two, SecurityAccess.accepted_entry]
    exact hlockout

end

theorem Settled.dispatched {t : Time} {tr : Trace} {d : ServiceDispatcher} {ms ms' : Managers}
    {request : DiagRequest} {response : DiagResponse} (h : Settled t ms)
    (htr : ∀ e ∈ tr, timeOf e ≤ t) (hd : Dispatched d ms request tr response ms') :
    Settled t ms' := by
  cases hd with
  | session _ hm => exact h.switched htr hm
  | testerPresent _ hm => exact h.refreshed htr hm
  | seed _ _ hs => exact h.seedRequested hs
  | key _ _ hk => exact h.keySent htr hk
  | _ => exact h

theorem settled_step {t : Time} {o o' : Option View} {l : DiagService.Step} (ha : Acts o l o')
    (htr : ∀ e ∈ l.trace, timeOf e ≤ t) (h : ∀ v, o = some v → Settled t v.managers) :
    ∀ v, o' = some v → Settled t v.managers := by
  rintro v' rfl
  cases ha with
  | start _ => exact ⟨fun hne => absurd rfl hne, Nat.zero_le _⟩
  | keep _ _ => exact h _ rfl
  | @setSec v _ => exact ⟨(h v rfl).session, Nat.zero_le _⟩
  | @poll v _ _ _ _ hm _ => exact (h v rfl).s3Checked hm
  | @serve v _ _ _ _ _ _ tr₀ tr₁ tr₂ tr₃ _ hm _ hd _ =>
    refine ((h v rfl).s3Checked hm).dispatched (fun e he => htr e ?_) hd
    simp [he]

/-- A run leaves no deadline later than its last reading of the clock allows. -/
theorem settled_run {o : Option View} {ls : List DiagService.Step} (hr : Run Acts none ls o) :
    ∀ v, o = some v → Settled (latest (DiagService.traceOf ls)) v.managers := by
  refine hr.history (fun ls o => ∀ v, o = some v →
    Settled (latest (DiagService.traceOf ls)) v.managers) (by simp) ?_
  intro ls o l o' h ha
  have htrace : DiagService.traceOf (ls ++ [l]) = DiagService.traceOf ls ++ l.trace := by
    simp [DiagService.traceOf]
  rw [htrace, latest_append]
  refine settled_step ha (fun e he => (le_latest he).trans (Nat.le_max_right _ _)) ?_
  intro v hv
  exact (h v hv).mono (Nat.le_max_left _ _)

/-! ## One request after the other -/

section
variable {t : Time} {tr : Trace} {m m' : SessionManager} {sa sa' : SecurityAccess}
  {result : DiagErrorCode} {h : SecHandle}

/-- The S3 limit is shorter than a lockout. -/
theorem late_of_quiet {since t₀ t now : Nat} (hsince : since ≤ t₀)
    (hquiet : t₀ + millis SecurityConfig.lockoutDurationMs ≤ t) (hnow : t ≤ now) :
    Timing.s3Default < elapsedMs now since := by
  simp only [millis, SecurityConfig.lockoutDurationMs, Timing.s3Default, elapsedMs] at hquiet ⊢
  omega

theorem not_late {since t now : Nat} (hsince : t ≤ since)
    (hnow : now ≤ t + millis Timing.s3Default) : elapsedMs now since ≤ Timing.s3Default := by
  simp only [millis, Timing.s3Default, elapsedMs] at hnow ⊢
  omega

/-- A session nobody has kept alive until then is free. -/
theorem SessionManager.S3Checked.freed {b : Bool} {t₀ : Time} (hm : m.S3Checked tr b m')
    (hc : Cooperates t tr) (hquiet : t₀ + millis SecurityConfig.lockoutDurationMs ≤ t)
    (hsettled : Settled t₀ ⟨m, sa⟩) : m'.session.sessionType = .default := by
  cases hm with
  | default hd => exact hd
  | @live x hd he =>
    have hx : t ≤ x.time := hc.notBefore _ (List.mem_singleton_self _)
    exact absurd (late_of_quiet (hsettled.session hd) hquiet hx) he
  | expired _ _ => rfl

/-- A session opened since `t` does not expire. -/
theorem SessionManager.S3Checked.kept {b : Bool} (hm : m.S3Checked tr b m')
    (hc : Cooperates t tr) (hlast : t ≤ m.session.lastTesterPresentAt) : m' = m := by
  refine hm.unexpired ?_
  intro e he _
  exact not_late hlast (hc.notAfter e he)

theorem SecurityAccess.LockoutChecked.open {b : Bool} (hl : sa.LockoutChecked 1 tr b)
    (hc : Cooperates t tr) (hlock : (sa.entry 1).lockedUntil ≤ t) : b = false := by
  cases hl with
  | few _ => rfl
  | lapsed _ _ => rfl
  | locked _ hlt =>
    have hx := hc.notBefore _ (List.mem_singleton_self _)
    exact absurd hlt (Nat.not_lt.mpr (hlock.trans hx))

theorem SecurityAccess.SeedRequested.cooperative {seed : Bytes}
    (hs : sa.SeedRequested 1 tr result seed sa') (hc : Cooperates t tr) (hsec : sa.sec = some h)
    (hlock : (sa.entry 1).lockedUntil ≤ t) : result = .success ∧ sa' = sa.seeded 1 seed := by
  cases hs with
  | noSec hn => simp [hsec] at hn
  | @unavailable _ x _ hx =>
    have hworks : x.reply = true := hc.works _ (List.mem_singleton_self _)
    simp [hx] at hworks
  | lockedOut _ _ hl =>
    have hopen := hl.open (hc.sub (List.subset_cons_self _ _)) hlock
    cases hopen
  | @noSeed h' _ tr₁ y _ _ _ hy =>
    have hworks : y.reply.1 = true := hc.works ⟨.sec h' (.getSeed 1), y⟩ (by simp)
    simp [hy] at hworks
  | issued _ _ _ _ => exact ⟨rfl, rfl⟩

theorem SecurityAccess.KeySent.cooperative {key : Bytes}
    (hk : sa.KeySent 2 key tr result sa') (hc : Cooperates t tr) (hsec : sa.sec = some h)
    (hlock : (sa.entry 1).lockedUntil ≤ t) (hseed : (sa.entry 1).seedRequested = true) :
    result = .success ∧ sa' = sa.accepted 1 := by
  cases hk with
  | noSec hn => simp [hsec] at hn
  | @unavailable _ x _ hx =>
    have hworks : x.reply = true := hc.works _ (List.mem_singleton_self _)
    simp [hx] at hworks
  | lockedOut _ _ hl =>
    have hopen := SecurityAccess.LockoutChecked.open hl (hc.sub (List.subset_cons_self _ _)) hlock
    cases hopen
  | noSeed _ _ _ hn =>
    rw [SecurityAccess.seedLevelOfKey_two] at hn
    simp [hseed] at hn
  | @rejected h' _ tr₁ tr₂ y _ _ _ _ _ hy _ =>
    have hworks : y.reply = true := hc.works ⟨.sec h' (.verifyKey 2 key), y⟩ (by simp)
    simp [hy] at hworks
  | accepted _ _ _ _ _ => exact ⟨rfl, rfl⟩

end

section
variable {t : Time} {tr : Trace} {d : ServiceDispatcher} {ms : Managers} {request : DiagRequest}
  {response : DiagResponse} {h : SecHandle}

/-- With SEC there, what a certificate routine does is the rest of it. -/
theorem WithSec.cooperative {K : SecHandle → Trace → DiagResponse → Prop}
    (hw : d.WithSec ms.securityAccess K tr response) (hc : Cooperates t tr) (hsec : d.sec = some h)
    (hu : ms.unlocked = true) : ∃ x tr', tr = ⟨.sec h .isAvailable, x⟩ :: tr' ∧ K h tr' response := by
  cases hw with
  | locked hn =>
    have hu' : ms.securityAccess.unlocked UdsSecurityLevel.level1 = true := hu
    simp [hn] at hu'
  | noSec hn => simp [hsec] at hn
  | @unavailable _ x _ hx =>
    have hworks : x.reply = true := hc.works _ (List.mem_singleton_self _)
    simp [hx] at hworks
  | ready _ hs _ hk =>
    rw [hsec] at hs
    obtain rfl := Option.some.inj hs
    exact ⟨_, _, rfl, hk⟩

theorem RoutineRun.cooperative {p : Procedure} {hp : ProvHandle}
    (hr : d.RoutineRun ms request tr response) (hc : Cooperates t tr) (hprov : d.prov = some hp)
    (hsec : d.sec = some h) (hu : ms.unlocked = true)
    (htype : ms.sessionMgr.session.sessionType = p.target) (hrid : request.didOrRid = p.rid)
    (hpayload : request.payload = p.payload) (hstart : p.Startable) :
    response.positive = true ∧ ∃ e ∈ tr, p.CarriesOut e.cmd := by
  obtain ⟨-, hstart⟩ := hstart
  rw [← hrid, ← hpayload, ← htype] at hstart
  unfold Procedure.CarriesOut
  rw [← hrid, ← hpayload]
  cases hr with
  | wrongSession hcert hne =>
    rcases hstart with ⟨hvin, -⟩ | ⟨hprog, -⟩
    · rw [hvin] at hcert
      exact absurd hcert (by decide)
    · exact absurd hprog hne
  | generateKeyPair _ hk hw =>
    obtain ⟨x, tr', rfl, hrun⟩ := WithSec.cooperative hw hc hsec hu
    cases hrun with
    | @failed y hy =>
      have hworks : y.reply = true := hc.works ⟨.sec h .generateKeyPair, y⟩ (by simp)
      simp [hy] at hworks
    | done _ =>
      exact ⟨rfl, _, List.mem_cons_of_mem _ (List.mem_singleton_self _), .inr (.inl ⟨hk, h, rfl⟩)⟩
  | readCsr _ hk hw =>
    obtain ⟨x, tr', rfl, hrun⟩ := WithSec.cooperative hw hc hsec hu
    cases hrun with
    | @failed y hy =>
      have hworks : y.reply.1 = true := hc.works ⟨.sec h .getCsr, y⟩ (by simp)
      simp [hy] at hworks
    | done _ =>
      exact ⟨rfl, _, List.mem_cons_of_mem _ (List.mem_singleton_self _),
        .inr (.inr (.inl ⟨hk, h, rfl⟩))⟩
  | injectCertificate _ hk hw =>
    obtain ⟨x, tr', rfl, hrun⟩ := WithSec.cooperative hw hc hsec hu
    cases hrun with
    | empty hempty =>
      rw [hk, hempty] at hstart
      simp [Rid.injectCertificate, Rid.writeVinRoutine, Rid.generateKeyPair, Rid.readCsr] at hstart
    | @failed y _ hy =>
      have hworks : y.reply.1 = true :=
        hc.works ⟨.sec h (.injectCertificate request.payload), y⟩ (by simp)
      simp [hy] at hworks
    | done _ _ =>
      exact ⟨rfl, _, List.mem_cons_of_mem _ (List.mem_singleton_self _),
        .inr (.inr (.inr ⟨hk, h, rfl⟩))⟩
  | locked _ hn => simp [hn] at hu
  | noProv _ hn => simp [hprov] at hn
  | @unavailable _ x _ _ hx =>
    have hworks : x.reply = true := hc.works _ (List.mem_singleton_self _)
    simp [hx] at hworks
  | @writeVin h' x tr' _ _ _ _ hvin hrun =>
    cases hrun with
    | short hshort =>
      rcases hstart with ⟨-, hlen⟩ | ⟨-, hcert⟩
      · exact absurd hshort (Nat.not_lt.mpr hlen)
      · rw [hvin] at hcert
        simp [Rid.injectCertificate, Rid.writeVinRoutine, Rid.generateKeyPair, Rid.readCsr] at hcert
    | @failed y _ hy =>
      have hworks : y.reply = .success :=
        hc.works _ (List.mem_cons_of_mem _ (List.mem_singleton_self _))
      exact absurd hworks hy
    | done _ _ =>
      exact ⟨rfl, _, List.mem_cons_of_mem _ (List.mem_singleton_self _), .inl ⟨hvin, h', rfl⟩⟩
  | outOfRange hcert _ hne =>
    rcases hstart with ⟨hvin, -⟩ | ⟨-, hk | hk | ⟨hk, -⟩⟩
    · exact absurd hvin hne
    · exact absurd (.inl hk) hcert
    · exact absurd (.inr (.inl hk)) hcert
    · exact absurd (.inr (.inr hk)) hcert

end

/-! ## The whole procedure -/

/-- The tester of `p` has its session since `t`, and no lockout is left. -/
structure UnderWay (t : Time) (p : Procedure) (d : ServiceDispatcher) (h : SecHandle) (v : View) :
    Prop where
  dispatcher : v.dispatcher = d
  sec : v.managers.securityAccess.sec = some h
  target : v.managers.sessionMgr.session.sessionType = p.target
  present : t ≤ v.managers.sessionMgr.session.lastTesterPresentAt
  lockout : (v.managers.securityAccess.entry 1).lockedUntil ≤ t

theorem acts_handled {v : View} {l : DiagService.Step} {o : Option View}
    {x : DiagService.Exchange} (ha : Acts (some v) l o) (hx : l.exchange = some x) :
    ∃ b m ms tr₀ tr₂, tr₀ ⊆ l.trace ∧ tr₂ ⊆ l.trace ∧
      v.managers.sessionMgr.S3Checked tr₀ b m ∧
      Dispatched v.dispatcher (v.withSession m).managers x.request tr₂ x.response ms ∧
      o = some { v with managers := ms } := by
  cases ha with
  | keep _ _ | shutdown _ | setSec | poll _ _ => cases hx
  | serve _ hm _ hd _ =>
    cases hx
    refine ⟨_, _, _, _, _, ?_, ?_, hm, hd, rfl⟩
    · intro e he
      simp [he]
    · intro e he
      simp [he]

theorem ofCode?_code (target : SessionType) :
    SessionType.ofCode? (target.code &&& 0x7F) = some target := by
  cases target <;> rfl

section
variable {t : Time} {p : Procedure} {d : ServiceDispatcher} {h : SecHandle} {v : View}
  {l : DiagService.Step} {o : Option View} {x : DiagService.Exchange}

theorem opened {t₀ : Time} (ha : Acts (some v) l o) (hx : l.exchange = some x)
    (hc : Cooperates t l.trace) (hreq : x.request = p.openRequest) (hd : v.dispatcher = d)
    (hsec : v.managers.securityAccess.sec = some h) (hsettled : Settled t₀ v.managers)
    (hquiet : t₀ + millis SecurityConfig.lockoutDurationMs ≤ t) :
    x.response.positive = true ∧ ∃ v', o = some v' ∧ UnderWay t p d h v' := by
  obtain ⟨b, m, ms, tr₀, tr₂, hsub₀, hsub₂, hm, hdis, rfl⟩ := acts_handled ha hx
  rw [hreq] at hdis
  have hfree := hm.freed (hc.sub hsub₀) hquiet hsettled
  obtain ⟨result, m', hsw, hresp, rfl⟩ := hdis.of_session rfl
  have hsame : (v.withSession m).managers.sessionMgr = m := rfl
  rw [hsame] at hsw
  have htarget : SessionType.ofCode? p.openRequest.basicSubFunction = some p.target :=
    ofCode?_code p.target
  cases hsw with
  | occupied ho => exact absurd hfree ho.2.2
  | invalid _ hn =>
    rw [htarget] at hn
    cases hn
  | @accepted target t₁ t₂ _ ht =>
    rw [htarget] at ht
    obtain rfl := Option.some.inj ht
    refine ⟨?_, _, rfl, ?_⟩
    · rw [hresp]
      rfl
    · have hpresent : t ≤ t₂.time := hc.notBefore ⟨.now .sessionPresent, t₂⟩ (hsub₂ (by simp))
      exact ⟨hd, hsec, rfl, hpresent, hsettled.lockout.trans hquiet⟩

/-- The S3 check before each further request finds the session alive. -/
theorem UnderWay.handled (hv : UnderWay t p d h v) (ha : Acts (some v) l o)
    (hx : l.exchange = some x) (hc : Cooperates t l.trace) :
    ∃ ms tr, tr ⊆ l.trace ∧ Dispatched d v.managers x.request tr x.response ms ∧
      o = some { v with managers := ms } := by
  obtain ⟨b, m, ms, tr₀, tr₂, hsub₀, hsub₂, hm, hdis, rfl⟩ := acts_handled ha hx
  obtain rfl := hm.kept (hc.sub hsub₀) hv.present
  rw [hv.dispatcher] at hdis
  exact ⟨ms, tr₂, hsub₂, hdis, rfl⟩

theorem seeded (hv : UnderWay t p d h v) (ha : Acts (some v) l o) (hx : l.exchange = some x)
    (hc : Cooperates t l.trace) (hreq : x.request = p.seedRequest) :
    x.response.positive = true ∧ ∃ v', o = some v' ∧ UnderWay t p d h v' ∧
      (v'.managers.securityAccess.entry 1).seedRequested = true := by
  obtain ⟨ms, tr, hsub, hdis, rfl⟩ := hv.handled ha hx hc
  rw [hreq] at hdis
  obtain ⟨result, seed, sa, hs, hresp, rfl⟩ := hdis.of_seed rfl p.seedRequest_sub
  obtain ⟨rfl, rfl⟩ := hs.cooperative (hc.sub hsub) hv.sec hv.lockout
  refine ⟨?_, _, rfl, ⟨hv.dispatcher, hv.sec, hv.target, hv.present, ?_⟩, ?_⟩
  · rw [hresp]
    rfl
  · rw [SecurityAccess.seeded_entry]
    exact hv.lockout
  · rw [SecurityAccess.seeded_entry]

theorem unlocked (hv : UnderWay t p d h v)
    (hseed : (v.managers.securityAccess.entry 1).seedRequested = true) (ha : Acts (some v) l o)
    (hx : l.exchange = some x) (hc : Cooperates t l.trace) (hreq : x.request = p.keyRequest) :
    x.response.positive = true ∧ ∃ v', o = some v' ∧ UnderWay t p d h v' ∧
      v'.managers.unlocked = true := by
  obtain ⟨ms, tr, hsub, hdis, rfl⟩ := hv.handled ha hx hc
  rw [hreq] at hdis
  obtain ⟨result, sa, hk, hresp, rfl⟩ := hdis.of_key rfl p.keyRequest_sub
  obtain ⟨rfl, rfl⟩ := hk.cooperative (hc.sub hsub) hv.sec hv.lockout hseed
  have hlevel : SecurityAccess.seedLevelOf UdsSecurityLevel.level1 = 1 := by decide
  refine ⟨?_, _, rfl, ⟨hv.dispatcher, hv.sec, hv.target, hv.present, ?_⟩, ?_⟩
  · rw [hresp]
    rfl
  · rw [SecurityAccess.accepted_entry]
    exact hv.lockout
  · rw [Managers.unlocked, SecurityAccess.unlocked, hlevel, SecurityAccess.accepted_entry]

theorem started {hp : ProvHandle} (hv : UnderWay t p d h v) (hprov : d.prov = some hp)
    (hsec : d.sec = some h) (hu : v.managers.unlocked = true) (ha : Acts (some v) l o)
    (hx : l.exchange = some x) (hc : Cooperates t l.trace) (hreq : x.request = p.routineRequest)
    (hstart : p.Startable) : x.response.positive = true ∧ ∃ e ∈ l.trace, p.CarriesOut e.cmd := by
  obtain ⟨ms, tr, hsub, hdis, rfl⟩ := hv.handled ha hx hc
  rw [hreq] at hdis
  obtain ⟨hr, -⟩ := hdis.of_routine rfl
  obtain ⟨hpos, e, he, hcarry⟩ :=
    RoutineRun.cooperative hr (hc.sub hsub) hprov hsec hu hv.target rfl rfl hstart
  exact ⟨hpos, e, hsub he, hcarry⟩

end

/-- A run of the procedure, one request after the other, with SEC and PROV cooperating from `t`. -/
structure Attempt (s : DiagService) (p : Procedure) (t : Time) (steps : List DiagService.Step)
    (s' : DiagService) : Prop where
  run : Run DiagService.Does s steps s'
  requests : steps.map (fun k => k.exchange.map DiagService.Exchange.request) =
    p.requests.map some
  cooperates : Cooperates t (DiagService.traceOf steps)

/-- Each request was answered positively, and the routine carried out. -/
def Procedure.Succeeds (p : Procedure) (steps : List DiagService.Step) : Prop :=
  (∀ k ∈ steps, ∃ x, k.exchange = some x ∧ x.response.positive = true) ∧
    ∃ e ∈ DiagService.traceOf steps, p.CarriesOut e.cmd

theorem playOne_request (s : DiagService) (request : DiagRequest) (o : Oracle) :
    (s.playOne (.processRequest request) o).1.exchange.map DiagService.Exchange.request =
      some request := by
  have hwp : wp (s.exec (.processRequest request)) fun _ r =>
      r.1.map DiagService.Exchange.request = some request := by
    simp only [DiagService.exec, wp_bind, wp_pure]
    refine wp_of_forall ?_
    intro _ _
    rfl
  exact (exec_run o (s.exec (.processRequest request))).wp hwp

/-- The procedure can be tried at any time. -/
theorem exists_attempt (s : DiagService) (p : Procedure) (t : Time) :
    ∃ steps s', Attempt s p t steps s' ∧ ∀ e ∈ DiagService.traceOf steps, timeOf e = t := by
  let script : List (DiagService.Op × Oracle) :=
    p.requests.map fun request => (.processRequest request, obliging t)
  have hplay (s : DiagService) (requests : List DiagRequest) :
      let r := s.play (requests.map fun request => (.processRequest request, obliging t))
      r.1.map (fun k => k.exchange.map DiagService.Exchange.request) = requests.map some ∧
        Answers (obliging t) (DiagService.traceOf r.1) := by
    induction requests generalizing s with
    | nil => exact ⟨rfl, answers_nil _⟩
    | cons request requests ih =>
      obtain ⟨hmap, hans⟩ := ih (s.playOne (.processRequest request) (obliging t)).2
      refine ⟨?_, ?_⟩
      · simp only [List.map_cons, DiagService.play, playOne_request]
        exact congrArg _ hmap
      · simp only [List.map_cons, DiagService.play, DiagService.traceOf, List.flatMap_cons,
          answers_append]
        exact ⟨s.playOne_answers _ _, hans⟩
  obtain ⟨hmap, hans⟩ := hplay s p.requests
  exact ⟨_, _, ⟨s.play_run script, hmap, obliging_cooperates hans⟩, timeOf_obliging hans⟩

theorem Attempt.succeeds {ls steps : List DiagService.Step} {s s' : DiagService}
    {d : ServiceDispatcher} {p : Procedure} {t : Time} (hr : Run DiagService.Does {} ls s)
    (hi : s.initialized = true) (hd : s.dispatcher = some d) (hprov : d.prov.isSome = true)
    (hsec : d.sec.isSome = true) (hstart : p.Startable)
    (hquiet : latest (DiagService.traceOf ls) + millis SecurityConfig.lockoutDurationMs ≤ t)
    (ha : Attempt s p t steps s') : p.Succeeds steps := by
  obtain ⟨hrun, hreq, hc⟩ := ha
  obtain ⟨v, hacts, hserves⟩ := reach_serves hr hi
  obtain rfl := hserves.dispatcher_eq hd
  obtain ⟨hp, hprov⟩ := Option.isSome_iff_exists.mp hprov
  obtain ⟨h, hsec⟩ := Option.isSome_iff_exists.mp hsec
  obtain ⟨o, hrun, -⟩ := run_acts (o := some v) hrun hserves
  have hpart {k : DiagService.Step} (hk : k ∈ steps) : Cooperates t k.trace :=
    hc.sub fun e he => List.mem_flatMap.mpr ⟨k, hk, he⟩
  obtain ⟨l₁, l₂, l₃, l₄, rfl, hx₁, hx₂, hx₃, hx₄⟩ : ∃ l₁ l₂ l₃ l₄, steps = [l₁, l₂, l₃, l₄] ∧
      l₁.exchange.map DiagService.Exchange.request = some p.openRequest ∧
      l₂.exchange.map DiagService.Exchange.request = some p.seedRequest ∧
      l₃.exchange.map DiagService.Exchange.request = some p.keyRequest ∧
      l₄.exchange.map DiagService.Exchange.request = some p.routineRequest := by
    simpa [Procedure.requests, List.map_eq_cons_iff] using hreq
  obtain ⟨x₁, hx₁, hreq₁⟩ := Option.map_eq_some_iff.mp hx₁
  obtain ⟨x₂, hx₂, hreq₂⟩ := Option.map_eq_some_iff.mp hx₂
  obtain ⟨x₃, hx₃, hreq₃⟩ := Option.map_eq_some_iff.mp hx₃
  obtain ⟨x₄, hx₄, hreq₄⟩ := Option.map_eq_some_iff.mp hx₄
  obtain ⟨o₁, ha₁, hrun⟩ := hrun.cons_inv
  obtain ⟨o₂, ha₂, hrun⟩ := hrun.cons_inv
  obtain ⟨o₃, ha₃, hrun⟩ := hrun.cons_inv
  obtain ⟨o₄, ha₄, -⟩ := hrun.cons_inv
  obtain ⟨hp₁, v₁, rfl, hv₁⟩ := opened ha₁ hx₁ (hpart (by simp)) hreq₁ rfl
    (hserves.sec.symm.trans hsec) (settled_run hacts v rfl) hquiet
  obtain ⟨hp₂, v₂, rfl, hv₂, hseed⟩ := seeded hv₁ ha₂ hx₂ (hpart (by simp)) hreq₂
  obtain ⟨hp₃, v₃, rfl, hv₃, hu⟩ := unlocked hv₂ hseed ha₃ hx₃ (hpart (by simp)) hreq₃
  obtain ⟨hp₄, e, he, hcarry⟩ :=
    started hv₃ hprov hsec hu ha₄ hx₄ (hpart (by simp)) hreq₄ hstart
  refine ⟨?_, e, List.mem_flatMap.mpr ⟨l₄, by simp, he⟩, hcarry⟩
  intro k hk
  simp only [List.mem_cons, List.not_mem_nil, or_false] at hk
  rcases hk with rfl | rfl | rfl | rfl
  · exact ⟨x₁, hx₁, hp₁⟩
  · exact ⟨x₂, hx₂, hp₂⟩
  · exact ⟨x₃, hx₃, hp₃⟩
  · exact ⟨x₄, hx₄, hp₄⟩

/-- Whatever was done to the service: once it has been quiet for as long as a lockout, any tester
can unlock it and start any routine, and if SEC and PROV cooperate, each such attempt succeeds. -/
theorem recoverable {ls : List DiagService.Step} {s : DiagService} {d : ServiceDispatcher}
    {p : Procedure} {t : Time} (hr : Run DiagService.Does {} ls s)
    (hclock : Clocked (DiagService.traceOf ls)) (hi : s.initialized = true)
    (hd : s.dispatcher = some d) (hprov : d.prov.isSome = true) (hsec : d.sec.isSome = true)
    (hstart : p.Startable)
    (hquiet : latest (DiagService.traceOf ls) + millis SecurityConfig.lockoutDurationMs ≤ t) :
    (∃ steps s', Attempt s p t steps s' ∧
        Clocked (DiagService.traceOf ls ++ DiagService.traceOf steps)) ∧
      ∀ steps s', Attempt s p t steps s' → p.Succeeds steps := by
  refine ⟨?_, fun steps s' ha => ha.succeeds hr hi hd hprov hsec hstart hquiet⟩
  obtain ⟨steps, s', ha, htime⟩ := exists_attempt s p t
  exact ⟨steps, s', ha, hclock.extend ((Nat.le_add_right _ _).trans hquiet) htime⟩

/-- Tester 1 has the extended session, and has used up its attempts. -/
def lockedOutScript : List (DiagService.Op × Oracle) :=
  extendedScript ++ (List.replicate 3
    [(.processRequest { serviceId := 0x27, subFunction := 0x01, sourceAddress := 1 },
        obligingNoKey 0),
     (.processRequest { serviceId := 0x27, subFunction := 0x02, sourceAddress := 1 },
        obligingNoKey 0)]).flatten

/-- Tester 2 writes a VIN after that. -/
def otherTester : Procedure where
  tester := 2
  transport := .doip
  target := .extended
  key := [0x5A]
  controlType := 0x01
  rid := Rid.writeVinRoutine
  payload := List.replicate 17 0x41

theorem recoverable_lockedOut :
    let r := DiagService.play {} lockedOutScript
    (∃ steps s', Attempt r.2 otherTester (millis 10000) steps s' ∧
        Clocked (DiagService.traceOf r.1 ++ DiagService.traceOf steps)) ∧
      ∀ steps s', Attempt r.2 otherTester (millis 10000) steps s' →
        otherTester.Succeeds steps := by
  intro r
  have hrun := DiagService.play_run {} lockedOutScript
  have hstart : otherTester.Startable := ⟨by decide, .inl ⟨rfl, by decide⟩⟩
  exact recoverable hrun (by decide) rfl rfl rfl rfl hstart (by decide)

end Diag
end Tbox
