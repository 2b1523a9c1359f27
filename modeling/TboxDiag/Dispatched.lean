import TboxDiag.ServiceDispatcher

/-!
# Dispatched

What one dispatch can do. `RoutineRun` and `DidRead` list the outcomes of a RoutineControl and a
ReadDataByIdentifier request, `Dispatched` those of any request, each with the calls made, the
response and the managers afterwards. `dispatch_wp` says that there are no others; everything
proved about the service rests on it and unfolds no handler.
-/

namespace Tbox
namespace Diag

open Effects

namespace ServiceDispatcher

variable (d : ServiceDispatcher) (ms : Managers) (request : DiagRequest)

/-- Outcomes of a certificate routine from its security check on: refused with at most the
availability of SEC asked, or on to `K` once SEC is there. -/
inductive WithSec (sa : SecurityAccess) (K : SecHandle → Trace → DiagResponse → Prop) :
    Trace → DiagResponse → Prop where
  | locked : sa.unlocked UdsSecurityLevel.level1 = false →
      WithSec sa K [] (routineRefused Nrc.securityAccessDenied .securityAccessDenied)
  | noSec : d.sec = none → WithSec sa K [] (routineRefused Nrc.conditionsNotCorrect .secUnavailable)
  | unavailable {h : SecHandle} {x : Stamped Bool} : d.sec = some h → x.reply = false →
      WithSec sa K [⟨.sec h .isAvailable, x⟩]
        (routineRefused Nrc.conditionsNotCorrect .secUnavailable)
  | ready {h : SecHandle} {x : Stamped Bool} {tr : Trace} {response : DiagResponse} :
      sa.unlocked UdsSecurityLevel.level1 = true → d.sec = some h → x.reply = true →
      K h tr response → WithSec sa K (⟨.sec h .isAvailable, x⟩ :: tr) response

theorem withSec_wp {sa : SecurityAccess} {k : SecHandle → M DiagResponse}
    {K : SecHandle → Trace → DiagResponse → Prop} (hk : ∀ h, wp (k h) (K h)) :
    wp (d.withSec sa k) (WithSec d sa K) := by
  unfold withSec
  simp only [wp_bind, SecurityAccess.isUnlocked_wp, wp_ite, wp_pure, Bool.not_eq_true',
    Bool.not_eq_false, List.nil_append]
  refine ⟨?_, ?_⟩
  · intro hu
    exact .locked hu
  · intro hu
    cases hh : d.sec with
    | none => exact .noSec hh
    | some h =>
      simp only [wp_bind, wp_ite, wp_pure, Bool.not_eq_false]
      intro x
      refine ⟨?_, ?_⟩
      · intro hx
        exact .unavailable hh hx
      · intro hx
        refine wp_mono (hk h) ?_
        intro tr response hK
        exact .ready hu hh hx hK

/-- GENERATE_KEY_PAIR, once SEC is there. -/
inductive KeyPairRun (h : SecHandle) : Trace → DiagResponse → Prop where
  | failed {y : Stamped Bool} : y.reply = false → KeyPairRun h [⟨.sec h .generateKeyPair, y⟩]
      (routineRefused Nrc.generalProgrammingFailure .certGenerationFailed)
  | done {y : Stamped Bool} : y.reply = true → KeyPairRun h [⟨.sec h .generateKeyPair, y⟩]
      (routineDone request [])

/-- READ_CSR, once SEC is there. -/
inductive CsrRun (h : SecHandle) : Trace → DiagResponse → Prop where
  | failed {y : Stamped (Bool × Bytes)} : y.reply.1 = false → CsrRun h [⟨.sec h .getCsr, y⟩]
      (routineRefused Nrc.generalProgrammingFailure .csrCreationFailed)
  | done {y : Stamped (Bool × Bytes)} : y.reply.1 = true → CsrRun h [⟨.sec h .getCsr, y⟩]
      (routineDone request y.reply.2)

/-- INJECT_CERTIFICATE, once SEC is there. -/
inductive InjectionRun (h : SecHandle) : Trace → DiagResponse → Prop where
  | empty : request.payload = [] →
      InjectionRun h [] (routineRefused Nrc.incorrectMessageLength .invalidRequestFormat)
  | failed {y : Stamped (Bool × CertInjectFailure)} : request.payload ≠ [] → y.reply.1 = false →
      InjectionRun h [⟨.sec h (.injectCertificate request.payload), y⟩]
        (routineRefused (injectionFailure y.reply.2).1 (injectionFailure y.reply.2).2)
  | done {y : Stamped (Bool × CertInjectFailure)} : request.payload ≠ [] → y.reply.1 = true →
      InjectionRun h [⟨.sec h (.injectCertificate request.payload), y⟩] (routineDone request [])

/-- WRITE_VIN, once PROV is there. -/
inductive VinRun (h : ProvHandle) : Trace → DiagResponse → Prop where
  | short : request.payload.length < vinLength →
      VinRun h [] (routineRefused Nrc.incorrectMessageLength .invalidRequestFormat)
  | failed {y : Stamped DiagErrorCode} : vinLength ≤ request.payload.length → y.reply ≠ .success →
      VinRun h
        [⟨.prov h (.writeVin (request.payload.take vinLength) (request.payload.drop vinLength)), y⟩]
        (routineRefused Nrc.generalProgrammingFailure y.reply)
  | done {y : Stamped DiagErrorCode} : vinLength ≤ request.payload.length → y.reply = .success →
      VinRun h
        [⟨.prov h (.writeVin (request.payload.take vinLength) (request.payload.drop vinLength)), y⟩]
        (routineDone request [])

theorem handleGenerateKeyPair_wp (sa : SecurityAccess) :
    wp (d.handleGenerateKeyPair sa request) (WithSec d sa (KeyPairRun request)) := by
  unfold handleGenerateKeyPair
  simp only [wp_bind, wp_log, List.nil_append]
  refine d.withSec_wp ?_
  intro h
  simp only [wp_bind, wp_ite, wp_pure, Bool.not_eq_true', Bool.not_eq_false]
  intro y
  refine ⟨?_, ?_⟩
  · intro hy
    exact .failed hy
  · intro hy
    exact .done hy

theorem handleReadCsr_wp (sa : SecurityAccess) :
    wp (d.handleReadCsr sa request) (WithSec d sa (CsrRun request)) := by
  unfold handleReadCsr
  simp only [wp_bind, wp_log, List.nil_append]
  refine d.withSec_wp ?_
  intro h
  simp only [wp_bind, wp_ite, wp_log, wp_pure, Bool.not_eq_true', Bool.not_eq_false]
  intro y
  refine ⟨?_, ?_⟩
  · intro hy
    exact .failed hy
  · intro hy
    exact .done hy

theorem handleInjectCertificate_wp (sa : SecurityAccess) :
    wp (d.handleInjectCertificate sa request) (WithSec d sa (InjectionRun request)) := by
  unfold handleInjectCertificate
  simp only [wp_bind, wp_log, List.nil_append]
  refine d.withSec_wp ?_
  intro h
  simp only [wp_bind, wp_ite, wp_log, wp_pure, Bool.not_eq_true', Bool.not_eq_false,
    List.isEmpty_iff]
  refine ⟨?_, ?_⟩
  · intro he
    exact .empty he
  · intro he y
    refine ⟨?_, ?_⟩
    · intro hy
      exact .failed he hy
    · intro hy
      exact .done he hy

theorem handleWriteVin_wp (h : ProvHandle) : wp (handleWriteVin h request) (VinRun request h) := by
  unfold handleWriteVin
  simp only [wp_bind, wp_ite, wp_log, wp_pure, List.nil_append, Nat.not_lt]
  refine ⟨?_, ?_⟩
  · intro hl
    exact .short hl
  · intro hl y
    refine ⟨?_, ?_⟩
    · intro hy
      exact .failed hl hy
    · intro hy
      exact .done hl (not_not.mp hy)

inductive RoutineRun : Trace → DiagResponse → Prop where
  | wrongSession : isCertificateRid request.didOrRid →
      ms.sessionMgr.session.sessionType ≠ .programming →
      RoutineRun [] (routineRefused Nrc.serviceNotSupportedInSession .sessionStateNotAllowed)
  | generateKeyPair {tr : Trace} {response : DiagResponse} :
      ms.sessionMgr.session.sessionType = .programming → request.didOrRid = Rid.generateKeyPair →
      WithSec d ms.securityAccess (KeyPairRun request) tr response → RoutineRun tr response
  | readCsr {tr : Trace} {response : DiagResponse} :
      ms.sessionMgr.session.sessionType = .programming → request.didOrRid = Rid.readCsr →
      WithSec d ms.securityAccess (CsrRun request) tr response → RoutineRun tr response
  | injectCertificate {tr : Trace} {response : DiagResponse} :
      ms.sessionMgr.session.sessionType = .programming →
      request.didOrRid = Rid.injectCertificate →
      WithSec d ms.securityAccess (InjectionRun request) tr response → RoutineRun tr response
  | locked : ¬ isCertificateRid request.didOrRid → ms.unlocked = false →
      RoutineRun [] (routineRefused Nrc.securityAccessDenied .securityAccessDenied)
  | noProv : ¬ isCertificateRid request.didOrRid → d.prov = none →
      RoutineRun [] (routineRefused Nrc.conditionsNotCorrect .provUnavailable)
  | unavailable {h : ProvHandle} {x : Stamped Bool} : ¬ isCertificateRid request.didOrRid →
      d.prov = some h → x.reply = false →
      RoutineRun [⟨.prov h .isAvailable, x⟩]
        (routineRefused Nrc.conditionsNotCorrect .provUnavailable)
  | writeVin {h : ProvHandle} {x : Stamped Bool} {tr : Trace} {response : DiagResponse} :
      ms.unlocked = true → d.prov = some h → x.reply = true →
      request.didOrRid = Rid.writeVinRoutine → VinRun request h tr response →
      RoutineRun (⟨.prov h .isAvailable, x⟩ :: tr) response
  | outOfRange {h : ProvHandle} {x : Stamped Bool} : ¬ isCertificateRid request.didOrRid →
      d.prov = some h → request.didOrRid ≠ Rid.writeVinRoutine →
      RoutineRun [⟨.prov h .isAvailable, x⟩]
        (createNegativeResponse UdsService.routineControl Nrc.requestOutOfRange "DIAG-1004")

theorem handleRoutineControl_wp :
    wp (d.handleRoutineControl ms request) (RoutineRun d ms request) := by
  unfold handleRoutineControl
  simp only [wp_bind, wp_log, wp_ite, wp_pure, SecurityAccess.isUnlocked_wp, List.nil_append,
    Bool.not_eq_true', Bool.not_eq_false]
  refine ⟨?_, ?_⟩
  · -- the certificate routines
    intro hc
    refine ⟨?_, ?_⟩
    · intro hs
      exact .wrongSession hc hs
    · intro hs
      rw [not_not] at hs
      refine ⟨?_, ?_⟩
      · intro hr
        exact wp_mono (d.handleGenerateKeyPair_wp request _) fun _ _ => .generateKeyPair hs hr
      · intro hr
        refine ⟨?_, ?_⟩
        · intro hr'
          exact wp_mono (d.handleReadCsr_wp request _) fun _ _ => .readCsr hs hr'
        · intro hr'
          have hi : request.didOrRid = Rid.injectCertificate :=
            (hc.resolve_left hr).resolve_left hr'
          exact wp_mono (d.handleInjectCertificate_wp request _) fun _ _ =>
            .injectCertificate hs hi
  · -- WRITE_VIN, and every identifier the service does not know
    intro hc
    refine ⟨?_, ?_⟩
    · intro hu
      exact .locked hc hu
    · intro hu
      cases hh : d.prov with
      | none => exact .noProv hc hh
      | some h =>
        simp only [wp_bind, wp_ite, wp_pure, Bool.not_eq_false]
        intro x
        refine ⟨?_, ?_⟩
        · intro hx
          exact .unavailable hc hh hx
        · intro hx
          refine ⟨?_, ?_⟩
          · intro hr
            exact wp_mono (handleWriteVin_wp request h) fun _ _ => .writeVin hu hh hx hr
          · intro hr
            exact .outOfRange hc hh hr

/-- The identifiers read from PROV. -/
def isProvDid (did : UInt16) : Prop := did = Did.vin ∨ did = Did.bindingState

inductive DidRead : Trace → DiagResponse → Prop where
  | noProv : d.prov = none → DidRead [] (readRefused Nrc.conditionsNotCorrect .provUnavailable)
  | unavailable {h : ProvHandle} {x : Stamped Bool} : d.prov = some h → x.reply = false →
      DidRead [⟨.prov h .isAvailable, x⟩] (readRefused Nrc.conditionsNotCorrect .provUnavailable)
  | invalid {h : ProvHandle} {x : Stamped Bool} {y : Stamped VinReadResult} :
      isProvDid request.didOrRid → d.prov = some h → x.reply = true → y.reply.valid = false →
      DidRead [⟨.prov h .isAvailable, x⟩, ⟨.prov h .readVin, y⟩]
        (readRefused Nrc.conditionsNotCorrect .downstreamExecutionFailed)
  | read {h : ProvHandle} {x : Stamped Bool} {y : Stamped VinReadResult} :
      isProvDid request.didOrRid → d.prov = some h → x.reply = true → y.reply.valid = true →
      DidRead [⟨.prov h .isAvailable, x⟩, ⟨.prov h .readVin, y⟩]
        (createPositiveResponse UdsService.readDataByIdentifier 0
          (didRecord request.didOrRid y.reply))
  | outOfRange : ¬ isProvDid request.didOrRid →
      DidRead [] (createNegativeResponse UdsService.readDataByIdentifier Nrc.requestOutOfRange
        "DIAG-1004")

theorem handleReadDataByIdentifier_wp :
    wp (d.handleReadDataByIdentifier request) (DidRead d request) := by
  unfold handleReadDataByIdentifier handleReadDataByIdentifier.provUnavailable
  simp only [wp_bind, wp_log, wp_ite, wp_pure, List.nil_append]
  refine ⟨?_, ?_⟩
  · intro hd
    cases hh : d.prov with
    | none => exact .noProv hh
    | some h =>
      simp only [wp_bind, wp_log, wp_ite, wp_pure, Bool.not_eq_true', Bool.not_eq_false]
      intro x
      refine ⟨?_, ?_⟩
      · intro hx
        exact .unavailable hh hx
      · intro hx y
        refine ⟨?_, ?_⟩
        · intro hy
          exact .invalid hd hh hx hy
        · intro hy
          exact .read hd hh hx hy
  · intro hd
    exact .outOfRange hd

/-- The outcomes of a dispatch. -/
inductive Dispatched : Trace → DiagResponse → Managers → Prop where
  | session {tr : Trace} {result : DiagErrorCode} {m : SessionManager} :
      request.serviceId = UdsService.diagnosticSessionControl →
      ms.sessionMgr.Switched request.basicSubFunction request.sourceAddress request.transport
        tr result m →
      Dispatched tr (sessionControlResponse request.basicSubFunction result)
        { ms with sessionMgr := m }
  | testerPresent {tr : Trace} {result : DiagErrorCode} {m : SessionManager} :
      request.serviceId = UdsService.testerPresent →
      ms.sessionMgr.Refreshed request.sourceAddress tr result m →
      Dispatched tr (testerPresentResponse request result) { ms with sessionMgr := m }
  | badLevel : request.serviceId = UdsService.securityAccess → request.basicSubFunction ≠ 1 →
      request.basicSubFunction ≠ 2 →
      Dispatched [] (createNegativeResponse UdsService.securityAccess Nrc.subFunctionNotSupported
        "DIAG-1004") ms
  | seed {tr : Trace} {result : DiagErrorCode} {seed : Bytes} {sa : SecurityAccess} :
      request.serviceId = UdsService.securityAccess → request.basicSubFunction = 1 →
      ms.securityAccess.SeedRequested 1 tr result seed sa →
      Dispatched tr (securityAccessResponse request result Nrc.securityAccessDenied seed)
        { ms with securityAccess := sa }
  | key {tr : Trace} {result : DiagErrorCode} {sa : SecurityAccess} :
      request.serviceId = UdsService.securityAccess → request.basicSubFunction = 2 →
      ms.securityAccess.KeySent 2 request.payload tr result sa →
      Dispatched tr (securityAccessResponse request result Nrc.invalidKey [])
        { ms with securityAccess := sa }
  | routine {tr : Trace} {response : DiagResponse} :
      request.serviceId = UdsService.routineControl → RoutineRun d ms request tr response →
      Dispatched tr response ms
  | read {tr : Trace} {response : DiagResponse} :
      request.serviceId = UdsService.readDataByIdentifier → DidRead d request tr response →
      Dispatched tr response ms
  | unsupported : request.serviceId ≠ UdsService.diagnosticSessionControl →
      request.serviceId ≠ UdsService.testerPresent →
      request.serviceId ≠ UdsService.securityAccess →
      request.serviceId ≠ UdsService.routineControl →
      request.serviceId ≠ UdsService.readDataByIdentifier →
      Dispatched [] (createNegativeResponse request.serviceId Nrc.serviceNotSupported "DIAG-1004")
        ms

/-- Of the levels only the two of level 1 are served. -/
theorem handleSecurityAccess_wp (hs : request.serviceId = UdsService.securityAccess) :
    wp (handleSecurityAccess ms.securityAccess request) fun tr r =>
      Dispatched d ms request tr r.1 { ms with securityAccess := r.2 } := by
  unfold handleSecurityAccess
  simp only [wp_ite, wp_bind, wp_log, wp_pure, List.nil_append, List.append_nil]
  refine ⟨?_, ?_⟩
  · intro hl
    exact .badLevel hs hl.1 hl.2
  · intro hl
    have hlevel := not_and_not_right.mp hl
    refine ⟨?_, ?_⟩
    · intro hodd
      have hb : request.basicSubFunction = 1 := by
        by_contra hne
        exact hodd (by rw [hlevel hne]; rfl)
      rw [hb]
      exact wp_mono (ms.securityAccess.requestSeed_wp 1) fun _ _ hq => .seed hs hb hq
    · intro heven
      have hb : request.basicSubFunction = 2 := by
        refine hlevel ?_
        intro he
        exact heven (by rw [he]; decide)
      rw [hb]
      exact wp_mono (ms.securityAccess.sendKey_wp 2 _) fun _ _ hq => .key hs hb hq

theorem route_wp :
    wp (d.route ms request) fun tr r => Dispatched d ms request tr r.1 r.2 := by
  unfold route
  rw [wp_ite]
  refine ⟨?_, ?_⟩
  · intro h1
    unfold handleSessionControl
    simp only [wp_bind, wp_log, wp_pure, List.nil_append, List.append_nil]
    exact wp_mono (ms.sessionMgr.switchSession_wp _ _ _) fun _ _ hs => .session h1 hs
  intro h1
  rw [wp_ite]
  refine ⟨?_, ?_⟩
  · intro h2
    unfold handleTesterPresent
    simp only [wp_bind, wp_pure, List.append_nil]
    exact wp_mono (ms.sessionMgr.handleTesterPresent_wp _) fun _ _ hs => .testerPresent h2 hs
  intro h2
  rw [wp_ite]
  refine ⟨?_, ?_⟩
  · intro h3
    rw [wp_bind]
    refine wp_mono (handleSecurityAccess_wp d ms request h3) ?_
    intro tr r hr
    rwa [wp_pure, List.append_nil]
  intro h3
  rw [wp_ite]
  refine ⟨?_, ?_⟩
  · intro h4
    simp only [wp_bind, wp_pure, List.append_nil]
    exact wp_mono (d.handleRoutineControl_wp ms request) fun _ _ hr => .routine h4 hr
  intro h4
  rw [wp_ite]
  refine ⟨?_, ?_⟩
  · intro h5
    simp only [wp_bind, wp_pure, List.append_nil]
    exact wp_mono (d.handleReadDataByIdentifier_wp request) fun _ _ hr => .read h5 hr
  · intro h5
    exact .unsupported h1 h2 h3 h4 h5

theorem dispatch_wp :
    wp (d.dispatch ms request) fun tr r => Dispatched d ms request tr r.1 r.2 := by
  unfold dispatch
  simp only [wp_bind, wp_log, wp_pure, List.append_nil]
  exact d.route_wp ms request

/-! ## One service at a time -/

section
variable {d : ServiceDispatcher} {ms ms' : Managers} {request : DiagRequest} {tr : Trace}
  {response : DiagResponse}

theorem Dispatched.of_session (h : Dispatched d ms request tr response ms')
    (hs : request.serviceId = UdsService.diagnosticSessionControl) :
    ∃ result m, ms.sessionMgr.Switched request.basicSubFunction request.sourceAddress
        request.transport tr result m ∧
      response = sessionControlResponse request.basicSubFunction result ∧
      ms' = { ms with sessionMgr := m } := by
  cases h with
  | session _ hm => exact ⟨_, _, hm, rfl, rfl⟩
  | unsupported h1 _ _ _ _ => exact absurd hs h1
  | testerPresent hs' _ | routine hs' _ | read hs' _ =>
    rw [hs] at hs'
    cases hs'
  | badLevel hs' _ _ | seed hs' _ _ | key hs' _ _ =>
    rw [hs] at hs'
    cases hs'

theorem Dispatched.of_testerPresent (h : Dispatched d ms request tr response ms')
    (hs : request.serviceId = UdsService.testerPresent) :
    ∃ result m, ms.sessionMgr.Refreshed request.sourceAddress tr result m ∧
      response = testerPresentResponse request result ∧ ms' = { ms with sessionMgr := m } := by
  cases h with
  | testerPresent _ hm => exact ⟨_, _, hm, rfl, rfl⟩
  | unsupported _ h2 _ _ _ => exact absurd hs h2
  | session hs' _ | routine hs' _ | read hs' _ =>
    rw [hs] at hs'
    cases hs'
  | badLevel hs' _ _ | seed hs' _ _ | key hs' _ _ =>
    rw [hs] at hs'
    cases hs'

theorem Dispatched.of_seed (h : Dispatched d ms request tr response ms')
    (hs : request.serviceId = UdsService.securityAccess) (h1 : request.basicSubFunction = 1) :
    ∃ result seed sa, ms.securityAccess.SeedRequested 1 tr result seed sa ∧
      response = securityAccessResponse request result Nrc.securityAccessDenied seed ∧
      ms' = { ms with securityAccess := sa } := by
  cases h with
  | seed _ _ hq => exact ⟨_, _, _, hq, rfl, rfl⟩
  | badLevel _ hn _ => exact absurd h1 hn
  | key _ h2 _ =>
    rw [h1] at h2
    cases h2
  | unsupported _ _ h3 _ _ => exact absurd hs h3
  | session hs' _ | testerPresent hs' _ | routine hs' _ | read hs' _ =>
    rw [hs] at hs'
    cases hs'

theorem Dispatched.of_key (h : Dispatched d ms request tr response ms')
    (hs : request.serviceId = UdsService.securityAccess) (h2 : request.basicSubFunction = 2) :
    ∃ result sa, ms.securityAccess.KeySent 2 request.payload tr result sa ∧
      response = securityAccessResponse request result Nrc.invalidKey [] ∧
      ms' = { ms with securityAccess := sa } := by
  cases h with
  | key _ _ hq => exact ⟨_, _, hq, rfl, rfl⟩
  | badLevel _ _ hn => exact absurd h2 hn
  | seed _ h1 _ =>
    rw [h1] at h2
    cases h2
  | unsupported _ _ h3 _ _ => exact absurd hs h3
  | session hs' _ | testerPresent hs' _ | routine hs' _ | read hs' _ =>
    rw [hs] at hs'
    cases hs'

theorem Dispatched.of_routine (h : Dispatched d ms request tr response ms')
    (hs : request.serviceId = UdsService.routineControl) :
    RoutineRun d ms request tr response ∧ ms' = ms := by
  cases h with
  | routine _ hr => exact ⟨hr, rfl⟩
  | unsupported _ _ _ h4 _ => exact absurd hs h4
  | session hs' _ | testerPresent hs' _ | read hs' _ =>
    rw [hs] at hs'
    cases hs'
  | badLevel hs' _ _ | seed hs' _ _ | key hs' _ _ =>
    rw [hs] at hs'
    cases hs'

theorem Dispatched.of_read (h : Dispatched d ms request tr response ms')
    (hs : request.serviceId = UdsService.readDataByIdentifier) :
    DidRead d request tr response ∧ ms' = ms := by
  cases h with
  | read _ hr => exact ⟨hr, rfl⟩
  | unsupported _ _ _ _ h5 => exact absurd hs h5
  | session hs' _ | testerPresent hs' _ | routine hs' _ =>
    rw [hs] at hs'
    cases hs'
  | badLevel hs' _ _ | seed hs' _ _ | key hs' _ _ =>
    rw [hs] at hs'
    cases hs'

/-- The other services leave the session alone. -/
theorem Dispatched.sessionMgr_eq (h : Dispatched d ms request tr response ms')
    (h1 : request.serviceId ≠ UdsService.diagnosticSessionControl)
    (h2 : request.serviceId ≠ UdsService.testerPresent) : ms'.sessionMgr = ms.sessionMgr := by
  cases h with
  | session hs _ => exact absurd hs h1
  | testerPresent hs _ => exact absurd hs h2
  | _ => rfl

end

end ServiceDispatcher

/-! ## The calls of a handler -/

section
variable {tr tr' : Trace}

/-- Only the clock is read. -/
def Ticks (tr : Trace) : Prop := ∀ e ∈ tr, ∃ site, e.cmd = .now site

@[simp] theorem ticks_nil : Ticks [] := by simp [Ticks]

@[simp] theorem ticks_cons (e : Event outside) :
    Ticks (e :: tr) ↔ (∃ site, e.cmd = .now site) ∧ Ticks tr := by simp [Ticks]

theorem SessionManager.S3Checked.ticks {m m' : SessionManager} {b : Bool}
    (h : m.S3Checked tr b m') : Ticks tr := by
  cases h <;> simp

theorem SessionManager.Switched.ticks {m m' : SessionManager} {sessionType : UInt8}
    {source : UInt16} {transport : TransportType} {result : DiagErrorCode}
    (h : m.Switched sessionType source transport tr result m') : Ticks tr := by
  cases h <;> simp

theorem SessionManager.Refreshed.ticks {m m' : SessionManager} {source : UInt16}
    {result : DiagErrorCode} (h : m.Refreshed source tr result m') : Ticks tr := by
  cases h <;> simp

theorem SecurityAccess.LockoutChecked.ticks {sa : SecurityAccess} {level : UInt8} {b : Bool}
    (h : sa.LockoutChecked level tr b) : Ticks tr := by
  cases h <;> simp

theorem SecurityAccess.Deadline.ticks {st : SecurityAccessState} {d : Time}
    (h : Deadline st tr d) : Ticks tr := by
  cases h <;> simp

end

/-- The methods of SEC that the routines call. -/
def SecCall.ofRoutine : SecCall → Prop
  | .getSeed _ | .verifyKey _ _ => False
  | _ => True

/-- A call of a certificate routine, to the SEC of its dispatcher. -/
def ServiceDispatcher.SecRoutineCall (d : ServiceDispatcher) (c : Cmd) : Prop :=
  ∃ h q, d.sec = some h ∧ q.ofRoutine ∧ c = .sec h q

/-- A call of a routine, to the PROV or the SEC of its dispatcher. -/
def ServiceDispatcher.RoutineCall (d : ServiceDispatcher) (c : Cmd) : Prop :=
  (∃ h p, d.prov = some h ∧ c = .prov h p) ∨ d.SecRoutineCall c

/-- A call that reads a DID. -/
def ServiceDispatcher.ReadCall (d : ServiceDispatcher) (c : Cmd) : Prop :=
  ∃ h, d.prov = some h ∧ (c = .prov h .isAvailable ∨ c = .prov h .readVin)

section
variable {d : ServiceDispatcher} {ms : Managers} {request : DiagRequest} {tr : Trace}
  {response : DiagResponse}

theorem ServiceDispatcher.RoutineCall.prov {h : ProvHandle} (hd : d.prov = some h) (p : ProvCall) :
    d.RoutineCall (.prov h p) := .inl ⟨h, p, hd, rfl⟩

theorem ServiceDispatcher.WithSec.calls {sa : SecurityAccess}
    {K : SecHandle → Trace → DiagResponse → Prop} (h : d.WithSec sa K tr response)
    (hK : ∀ h tr response, K h tr response → ∀ e ∈ tr, ∃ q, q.ofRoutine ∧ e.cmd = .sec h q) :
    ∀ e ∈ tr, d.SecRoutineCall e.cmd := by
  cases h with
  | locked _ => simp
  | noSec _ => simp
  | unavailable hs _ => simp [SecRoutineCall, SecCall.ofRoutine, hs]
  | ready _ hs _ hk =>
    intro e he
    cases List.mem_cons.mp he with
    | inl he =>
      rw [he]
      exact ⟨_, .isAvailable, hs, trivial, rfl⟩
    | inr he =>
      obtain ⟨q, hq, hc⟩ := hK _ _ _ hk e he
      exact ⟨_, q, hs, hq, hc⟩

/-- The certificate routines call SEC only. -/
theorem ServiceDispatcher.RoutineRun.certificate_calls (h : d.RoutineRun ms request tr response)
    (hc : isCertificateRid request.didOrRid) : ∀ e ∈ tr, d.SecRoutineCall e.cmd := by
  cases h with
  | wrongSession _ _ => simp
  | generateKeyPair _ _ hw =>
    refine hw.calls ?_
    intro h tr response hk
    cases hk <;> simp [SecCall.ofRoutine]
  | readCsr _ _ hw =>
    refine hw.calls ?_
    intro h tr response hk
    cases hk <;> simp [SecCall.ofRoutine]
  | injectCertificate _ _ hw =>
    refine hw.calls ?_
    intro h tr response hk
    cases hk <;> simp [SecCall.ofRoutine]
  | writeVin _ _ _ hr _ =>
    rw [hr] at hc
    exact absurd hc (by decide)
  | locked hn _ | noProv hn _ => exact absurd hc hn
  | unavailable hn _ _ | outOfRange hn _ _ => exact absurd hc hn

theorem ServiceDispatcher.RoutineRun.calls (h : d.RoutineRun ms request tr response) :
    ∀ e ∈ tr, d.RoutineCall e.cmd := by
  by_cases hc : isCertificateRid request.didOrRid
  · intro e he
    exact .inr (h.certificate_calls hc e he)
  cases h with
  | writeVin _ hp _ _ hv => cases hv <;> simp [RoutineCall.prov hp]
  | locked _ _ | noProv _ _ => simp
  | unavailable _ hp _ | outOfRange _ hp _ => simp [RoutineCall.prov hp]
  | wrongSession hc' _ => exact absurd hc' hc
  | generateKeyPair _ hr _ => exact absurd (.inl hr) hc
  | readCsr _ hr _ => exact absurd (.inr (.inl hr)) hc
  | injectCertificate _ hr _ => exact absurd (.inr (.inr hr)) hc

theorem ServiceDispatcher.DidRead.calls (h : d.DidRead request tr response) :
    ∀ e ∈ tr, d.ReadCall e.cmd := by
  cases h with
  | unavailable hp _ => simp [ReadCall, hp]
  | invalid _ hp _ _ => simp [ReadCall, hp]
  | read _ hp _ _ => simp [ReadCall, hp]
  | _ => simp

end

/-- The calls of a handler: none of those made aside, none twice, and not the S3 check. -/
def Once (tr : Trace) : Prop :=
  (∀ e ∈ tr, ¬ e.cmd.aside) ∧ (Cmd.now .s3Check :: tr.map Event.cmd).Nodup

theorem ServiceDispatcher.WithSec.once {d : ServiceDispatcher} {sa : SecurityAccess}
    {K : SecHandle → Trace → DiagResponse → Prop} {tr : Trace} {response : DiagResponse}
    (h : d.WithSec sa K tr response)
    (hK : ∀ h tr response, K h tr response → ∀ x, Once (⟨.sec h .isAvailable, x⟩ :: tr)) :
    Once tr := by
  cases h with
  | ready _ _ _ hk => exact hK _ _ _ hk _
  | _ => simp [Once, Cmd.aside]

theorem ServiceDispatcher.RoutineRun.once {d : ServiceDispatcher} {ms : Managers}
    {request : DiagRequest} {tr : Trace} {response : DiagResponse}
    (h : d.RoutineRun ms request tr response) : Once tr := by
  cases h with
  | generateKeyPair _ _ hw =>
    exact hw.once fun _ _ _ hk _ => by cases hk <;> simp [Once, Cmd.aside]
  | readCsr _ _ hw => exact hw.once fun _ _ _ hk _ => by cases hk <;> simp [Once, Cmd.aside]
  | injectCertificate _ _ hw =>
    exact hw.once fun _ _ _ hk _ => by cases hk <;> simp [Once, Cmd.aside]
  | writeVin _ _ _ _ hv => cases hv <;> simp [Once, Cmd.aside]
  | _ => simp [Once, Cmd.aside]

theorem ServiceDispatcher.Dispatched.once {d : ServiceDispatcher} {ms ms' : Managers}
    {request : DiagRequest} {tr : Trace} {response : DiagResponse}
    (h : Dispatched d ms request tr response ms') : Once tr := by
  cases h with
  | session _ hm => cases hm <;> simp [Once, Cmd.aside]
  | testerPresent _ hm => cases hm <;> simp [Once, Cmd.aside]
  | badLevel _ _ _ => simp [Once]
  | seed _ _ hq =>
    cases hq with
    | lockedOut _ _ hl =>
      cases hl
      simp [Once, Cmd.aside]
    | noSeed _ _ hl _ => cases hl <;> simp [Once, Cmd.aside]
    | issued _ _ hl _ => cases hl <;> simp [Once, Cmd.aside]
    | _ => simp [Once, Cmd.aside]
  | key _ _ hq =>
    cases hq with
    | lockedOut _ _ hl =>
      cases hl
      simp [Once, Cmd.aside]
    | noSeed _ _ hl _ => cases hl <;> simp [Once, Cmd.aside]
    | rejected _ _ hl _ _ hd => cases hl <;> cases hd <;> simp [Once, Cmd.aside]
    | accepted _ _ hl _ _ => cases hl <;> simp [Once, Cmd.aside]
    | _ => simp [Once, Cmd.aside]
  | routine _ hq => exact hq.once
  | read _ hq => cases hq <;> simp [Once, Cmd.aside]
  | unsupported _ _ _ _ _ => simp [Once]

theorem SessionManager.S3Checked.once {m m' : SessionManager} {tr : Trace} {b : Bool}
    (h : m.S3Checked tr b m') : (tr = [] ∨ ∃ x, tr = [⟨.now .s3Check, x⟩]) := by
  cases h with
  | default _ => exact .inl rfl
  | live _ _ => exact .inr ⟨_, rfl⟩
  | expired _ _ => exact .inr ⟨_, rfl⟩

end Diag
end Tbox
