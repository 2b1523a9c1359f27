import TboxDiag.ControlType
import TboxDiag.Messages

/-!
# SuppressedReply

With bit 7 of the sub-function a tester asks for no positive response. The handlers mask the bit,
and `processPendingRequests` sends whatever the dispatcher makes of the request.

* `affirms`: what a request needs to be answered positively, for the four services whose requests
  have a sub-function; `Dispatched.positive_iff`: the dispatcher answers it so exactly then.
* `suppressed_reply_iff`: the bit is honoured exactly when there is no positive response.
-/

namespace Tbox
namespace Diag

open Effects ServiceDispatcher DiagService

/-! ## What is answered positively -/

/-- The session manager a request finds: the S3 check comes before it. -/
def managerFound (o : Oracle) (session : DiagSession) : SessionManager :=
  let m : SessionManager := { session }
  if session.sessionType ≠ .default ∧ m.s3Expired (o (.now .s3Check)).time then m.timedOut else m

/-- SEC is there, the level is not locked out, and SEC gives a seed. -/
def seedGiven (o : Oracle) (sec : Option SecHandle) (st : SecurityAccessState) : Prop :=
  ¬ lockoutHolds o st ∧ ∃ h, sec = some h ∧ (o (.sec h .isAvailable)).reply = true ∧
    (o (.sec h (.getSeed 1))).reply.1 = true

/-- SEC is there, the level is not locked out, a seed is pending, and SEC accepts the key. -/
def keyGood (o : Oracle) (sec : Option SecHandle) (st : SecurityAccessState) (key : Bytes) :
    Prop :=
  ¬ lockoutHolds o st ∧ st.seedRequested = true ∧
    ∃ h, sec = some h ∧ (o (.sec h .isAvailable)).reply = true ∧
      (o (.sec h (.verifyKey 2 key))).reply = true

/-- A routine that is there, unlocked, and carried out without an error. -/
def routineSucceeds (o : Oracle) (d : ServiceDispatcher) (st : SecurityAccessState)
    (sessionType : SessionType) (request : DiagRequest) : Prop :=
  st.unlocked = true ∧
  (request.didOrRid = Rid.writeVinRoutine ∧ vinLength ≤ request.payload.length ∧
      (∃ h, d.prov = some h ∧ (o (.prov h .isAvailable)).reply = true ∧
        (o (.prov h (.writeVin (request.payload.take vinLength)
          (request.payload.drop vinLength)))).reply = .success) ∨
    sessionType = .programming ∧ ∃ h, d.sec = some h ∧ (o (.sec h .isAvailable)).reply = true ∧
      (request.didOrRid = Rid.generateKeyPair ∧ (o (.sec h .generateKeyPair)).reply = true ∨
        request.didOrRid = Rid.readCsr ∧ (o (.sec h .getCsr)).reply.1 = true ∨
        request.didOrRid = Rid.injectCertificate ∧ request.payload ≠ [] ∧
          (o (.sec h (.injectCertificate request.payload))).reply.1 = true))

/-- A request of one of the four services that has what it needs. -/
def affirms (o : Oracle) (d : ServiceDispatcher) (m : SessionManager) (st : SecurityAccessState)
    (request : DiagRequest) : Prop :=
  request.serviceId = UdsService.diagnosticSessionControl ∧ ¬ m.occupied request.sourceAddress ∧
      SessionType.ofCode? request.basicSubFunction ≠ none ∨
  request.serviceId = UdsService.testerPresent ∧ m.session.state = .active ∧
      m.session.sourceAddress = request.sourceAddress ∨
  request.serviceId = UdsService.securityAccess ∧
      (request.basicSubFunction = 1 ∧ seedGiven o d.sec st ∨
        request.basicSubFunction = 2 ∧ keyGood o d.sec st request.payload) ∨
  request.serviceId = UdsService.routineControl ∧
      routineSucceeds o d st m.session.sessionType request

theorem SessionManager.S3Checked.managerFound {o : Oracle} {m m' : SessionManager} {tr : Trace}
    {b : Bool} (h : m.S3Checked tr b m') (ha : Answers o tr) :
    m' = Diag.managerFound o m.session := by
  unfold Diag.managerFound
  cases h with
  | default hd => simp [hd]
  | live hn hlive =>
    obtain ⟨rfl, _⟩ := (answers_cons ..).mp ha
    rw [if_neg]
    rintro ⟨_, hexp⟩
    exact hlive hexp
  | expired hn hexp =>
    obtain ⟨rfl, _⟩ := (answers_cons ..).mp ha
    rw [if_pos ⟨hn, hexp⟩]

section
variable {o : Oracle} {d : ServiceDispatcher} {ms ms' : Managers} {request : DiagRequest}
  {tr : Trace} {response : DiagResponse}

theorem sessionControlResponse_positive (sessionType : UInt8) (result : DiagErrorCode) :
    (sessionControlResponse sessionType result).positive = true ↔ result = .success := by
  unfold sessionControlResponse
  by_cases h : result = .success <;> simp [h, createPositiveResponse, createNegativeResponse]

theorem testerPresentResponse_positive (result : DiagErrorCode) :
    (testerPresentResponse request result).positive = true ↔ result = .success := by
  unfold testerPresentResponse
  by_cases h : result = .success <;> simp [h, createPositiveResponse, createNegativeResponse]

theorem securityAccessResponse_positive (result : DiagErrorCode) (refusal : UInt8) (data : Bytes) :
    (securityAccessResponse request result refusal data).positive = true ↔ result = .success := by
  unfold securityAccessResponse
  by_cases h : result = .success <;> simp [h, createPositiveResponse, createNegativeResponse]

theorem SessionManager.Switched.success_iff {m m' : SessionManager} {sessionType : UInt8}
    {source : UInt16} {transport : TransportType} {result : DiagErrorCode}
    (h : m.Switched sessionType source transport tr result m') :
    result = .success ↔ ¬ m.occupied source ∧ SessionType.ofCode? sessionType ≠ none := by
  cases h with
  | occupied ho => simp [ho]
  | invalid ho hs => simp [hs]
  | accepted ho hs => simp [ho, hs]

theorem SessionManager.Refreshed.success_iff {m m' : SessionManager} {source : UInt16}
    {result : DiagErrorCode} (h : m.Refreshed source tr result m') :
    result = .success ↔ m.session.state = .active ∧ m.session.sourceAddress = source := by
  cases h with
  | idle hs => simp [hs]
  | foreign hs => simp [hs]
  | accepted hs hsource => simp [hs, hsource]

theorem SecurityAccess.SeedRequested.success_iff {sa sa' : SecurityAccess}
    {result : DiagErrorCode} {seed : Bytes} (h : sa.SeedRequested 1 tr result seed sa')
    (ha : Answers o tr) : result = .success ↔ seedGiven o sa.sec (sa.entry 1) := by
  unfold seedGiven
  cases h with
  | noSec hs => simp [hs]
  | unavailable hs hx =>
    obtain ⟨rfl, _⟩ := (answers_cons ..).mp ha
    simp [hs, hx]
  | lockedOut hs hx hl =>
    obtain ⟨rfl, hal⟩ := (answers_cons ..).mp ha
    simp [(hl.answered hal).mp rfl]
  | noSeed hs hx hl hy =>
    simp only [answers_cons, answers_append] at ha
    obtain ⟨rfl, _, rfl, _⟩ := ha
    simp [hs, hy]
  | issued hs hx hl hy =>
    simp only [answers_cons, answers_append] at ha
    obtain ⟨rfl, hal, rfl, _⟩ := ha
    simp [hs, hx, hy, hl.lockout_over hal]

theorem SecurityAccess.KeySent.success_iff {sa sa' : SecurityAccess} {key : Bytes}
    {result : DiagErrorCode} (h : sa.KeySent 2 key tr result sa') (ha : Answers o tr) :
    result = .success ↔ keyGood o sa.sec (sa.entry 1) key := by
  unfold keyGood
  cases h with
  | noSec hs => simp [hs]
  | unavailable hs hx =>
    obtain ⟨rfl, _⟩ := (answers_cons ..).mp ha
    simp [hs, hx]
  | lockedOut hs hx hl =>
    obtain ⟨rfl, hal⟩ := (answers_cons ..).mp ha
    rw [seedLevelOfKey_two] at hl
    simp [(hl.answered hal).mp rfl]
  | noSeed hs hx hl hp =>
    rw [seedLevelOfKey_two] at hp
    simp [hp]
  | rejected hs hx hl hp hy hd =>
    simp only [answers_cons, answers_append] at ha
    obtain ⟨rfl, _, rfl, _⟩ := ha
    simp [hs, hy]
  | accepted hs hx hl hp hy =>
    simp only [answers_cons, answers_append] at ha
    obtain ⟨rfl, hal, rfl, _⟩ := ha
    rw [seedLevelOfKey_two] at hl hp
    simp [hs, hx, hy, hp, hl.lockout_over hal]

/-- A certificate routine succeeds once it gets past its checks and `P` holds. -/
theorem ServiceDispatcher.WithSec.positive_iff {sa : SecurityAccess}
    {K : SecHandle → Trace → DiagResponse → Prop} {P : SecHandle → Prop}
    (h : d.WithSec sa K tr response) (ha : Answers o tr)
    (hK : ∀ h tr response, Answers o tr → K h tr response → (response.positive = true ↔ P h)) :
    response.positive = true ↔ sa.unlocked UdsSecurityLevel.level1 = true ∧
      ∃ h, d.sec = some h ∧ (o (.sec h .isAvailable)).reply = true ∧ P h := by
  cases h with
  | locked hu => simp [hu]
  | noSec hs => simp [hs]
  | unavailable hs hx =>
    obtain ⟨rfl, _⟩ := (answers_cons ..).mp ha
    simp [hs, hx]
  | ready hu hs hx hk =>
    obtain ⟨rfl, hans⟩ := (answers_cons ..).mp ha
    rw [hK _ _ _ hans hk]
    simp [hu, hs, hx]

theorem ServiceDispatcher.KeyPairRun.positive_iff {h : SecHandle}
    (hk : KeyPairRun request h tr response) (ha : Answers o tr) :
    response.positive = true ↔ (o (.sec h .generateKeyPair)).reply = true := by
  cases hk with
  | failed hy =>
    obtain ⟨rfl, _⟩ := (answers_cons ..).mp ha
    simp [hy]
  | done hy =>
    obtain ⟨rfl, _⟩ := (answers_cons ..).mp ha
    simp [hy]

theorem ServiceDispatcher.CsrRun.positive_iff {h : SecHandle} (hk : CsrRun request h tr response)
    (ha : Answers o tr) : response.positive = true ↔ (o (.sec h .getCsr)).reply.1 = true := by
  cases hk with
  | failed hy =>
    obtain ⟨rfl, _⟩ := (answers_cons ..).mp ha
    simp [hy]
  | done hy =>
    obtain ⟨rfl, _⟩ := (answers_cons ..).mp ha
    simp [hy]

theorem ServiceDispatcher.InjectionRun.positive_iff {h : SecHandle}
    (hk : InjectionRun request h tr response) (ha : Answers o tr) :
    response.positive = true ↔ request.payload ≠ [] ∧
      (o (.sec h (.injectCertificate request.payload))).reply.1 = true := by
  cases hk with
  | empty he => simp [he]
  | failed he hy =>
    obtain ⟨rfl, _⟩ := (answers_cons ..).mp ha
    simp [hy]
  | done he hy =>
    obtain ⟨rfl, _⟩ := (answers_cons ..).mp ha
    simp [he, hy]

theorem ServiceDispatcher.VinRun.positive_iff {h : ProvHandle} (hv : VinRun request h tr response)
    (ha : Answers o tr) :
    response.positive = true ↔ vinLength ≤ request.payload.length ∧
      (o (.prov h (.writeVin (request.payload.take vinLength)
        (request.payload.drop vinLength)))).reply = .success := by
  cases hv with
  | short hl => simp [Nat.not_le.mpr hl]
  | failed hl hy =>
    obtain ⟨rfl, _⟩ := (answers_cons ..).mp ha
    simp [hy]
  | done hl hy =>
    obtain ⟨rfl, _⟩ := (answers_cons ..).mp ha
    simp [hl, hy]

theorem ServiceDispatcher.RoutineRun.positive_iff (h : d.RoutineRun ms request tr response)
    (ha : Answers o tr) :
    response.positive = true ↔ routineSucceeds o d (ms.securityAccess.entry 1)
      ms.sessionMgr.session.sessionType request := by
  have hu : ms.unlocked = (ms.securityAccess.entry 1).unlocked := rfl
  have hl1 : ms.securityAccess.unlocked UdsSecurityLevel.level1 =
    (ms.securityAccess.entry 1).unlocked := rfl
  unfold routineSucceeds
  cases h with
  | wrongSession hc hs =>
    have hv : request.didOrRid ≠ Rid.writeVinRoutine := by
      intro hv
      rw [hv] at hc
      exact absurd hc (by decide)
    simp [hv, hs]
  | generateKeyPair hs hr hw =>
    rw [hw.positive_iff ha fun _ _ _ ha hk => hk.positive_iff ha, hl1]
    have hv : Rid.generateKeyPair ≠ Rid.writeVinRoutine ∧ Rid.generateKeyPair ≠ Rid.readCsr ∧
        Rid.generateKeyPair ≠ Rid.injectCertificate := by decide
    simp [hs, hr, hv]
  | readCsr hs hr hw =>
    rw [hw.positive_iff ha fun _ _ _ ha hk => hk.positive_iff ha, hl1]
    have hv : Rid.readCsr ≠ Rid.writeVinRoutine ∧ Rid.readCsr ≠ Rid.generateKeyPair ∧
        Rid.readCsr ≠ Rid.injectCertificate := by decide
    simp [hs, hr, hv]
  | injectCertificate hs hr hw =>
    rw [hw.positive_iff ha fun _ _ _ ha hk => hk.positive_iff ha, hl1]
    have hv : Rid.injectCertificate ≠ Rid.writeVinRoutine ∧
        Rid.injectCertificate ≠ Rid.generateKeyPair ∧ Rid.injectCertificate ≠ Rid.readCsr := by
      decide
    simp [hs, hr, hv]
  | locked _ hl =>
    rw [hu] at hl
    simp [hl]
  | noProv hc hp =>
    obtain ⟨h1, h2, h3⟩ := not_certificateRid hc
    simp [h1, h2, h3, hp]
  | unavailable hc hp hx =>
    obtain ⟨rfl, _⟩ := (answers_cons ..).mp ha
    obtain ⟨h1, h2, h3⟩ := not_certificateRid hc
    simp [h1, h2, h3, hp, hx]
  | writeVin hun hp hx hr hv =>
    obtain ⟨rfl, hans⟩ := (answers_cons ..).mp ha
    have hc : ¬ isCertificateRid Rid.writeVinRoutine := by decide
    obtain ⟨h1, h2, h3⟩ := not_certificateRid hc
    rw [hu] at hun
    rw [hv.positive_iff hans]
    simp [hun, hr, hp, hx, h1, h2, h3]
  | outOfRange hc _ hv =>
    obtain ⟨h1, h2, h3⟩ := not_certificateRid hc
    simp [h1, h2, h3, hv]

/-- The services whose requests begin with a sub-function. -/
def takesSubFunction (serviceId : UInt8) : Prop :=
  serviceId = UdsService.diagnosticSessionControl ∨ serviceId = UdsService.testerPresent ∨
    serviceId = UdsService.securityAccess ∨ serviceId = UdsService.routineControl

theorem ServiceDispatcher.Dispatched.positive_iff (h : Dispatched d ms request tr response ms')
    (ha : Answers o tr) (hsec : d.sec = ms.securityAccess.sec)
    (hsub : takesSubFunction request.serviceId) :
    response.positive = true ↔
      affirms o d ms.sessionMgr (ms.securityAccess.entry 1) request := by
  have distinct : UdsService.diagnosticSessionControl ≠ UdsService.testerPresent ∧
      UdsService.diagnosticSessionControl ≠ UdsService.securityAccess ∧
      UdsService.diagnosticSessionControl ≠ UdsService.routineControl ∧
      UdsService.testerPresent ≠ UdsService.securityAccess ∧
      UdsService.testerPresent ≠ UdsService.routineControl ∧
      UdsService.securityAccess ≠ UdsService.routineControl := by decide
  obtain ⟨n1, n2, n3, n4, n5, n6⟩ := distinct
  unfold affirms
  cases h with
  | session hs hm =>
    rw [sessionControlResponse_positive, hm.success_iff]
    simp [hs, n1, n2, n3]
  | testerPresent hs hm =>
    rw [testerPresentResponse_positive, hm.success_iff]
    simp [hs, n1.symm, n4, n5]
  | badLevel hs h1 h2 => simp [hs, h1, h2, n2.symm, n4.symm, n6]
  | seed hs h1 hq =>
    rw [securityAccessResponse_positive, hq.success_iff ha, hsec]
    simp [hs, h1, n2.symm, n4.symm, n6]
  | key hs h2 hq =>
    rw [securityAccessResponse_positive, hq.success_iff ha, hsec]
    simp [hs, h2, n2.symm, n4.symm, n6]
  | routine hs hr =>
    rw [hr.positive_iff ha]
    simp [hs, n3.symm, n5.symm, n6.symm]
  | read hs _ =>
    rw [hs] at hsub
    exact absurd hsub (by unfold takesSubFunction; decide)
  | unsupported h1 h2 h3 h4 _ => simp [h1, h2, h3, h4]

end

/-! ## What is sent -/

/-- The UDS bytes of a frame, when it is a diagnostic message. -/
def udsOf : Bytes → Option Bytes
  | _ :: _ :: t₁ :: t₀ :: _ :: _ :: _ :: _ :: _ :: _ :: _ :: _ :: uds =>
    if ofBytes16 t₁ t₀ = DoIpAdapter.diagnosticMessage then some uds else none
  | _ => none

/-- The responses in a trace: the UDS bytes of the diagnostic messages that are sent. -/
def responsesOf (tr : Trace) : List Bytes :=
  tr.filterMap fun
    | ⟨.sock (.send _ data), _⟩ => udsOf data
    | _ => none

@[simp] theorem responsesOf_append (tr tr' : Trace) :
    responsesOf (tr ++ tr') = responsesOf tr ++ responsesOf tr' := List.filterMap_append

/-- The call is no response. -/
def Cmd.unanswering : Cmd → Prop
  | .sock (.send _ data) => udsOf data = none
  | _ => True

theorem responsesOf_unanswering {tr : Trace} (h : ∀ e ∈ tr, e.cmd.unanswering) :
    responsesOf tr = [] := by
  refine List.filterMap_eq_nil_iff.mpr ?_
  intro e he
  have hc := h e he
  obtain ⟨c, x⟩ := e
  cases c with
  | sock c =>
    cases c with
    | send fd data => exact hc
    | _ => rfl
  | _ => rfl

theorem Cmd.unanswering_of_attended {c : Cmd} (h : ¬ c.aside) : c.unanswering := by
  cases c with
  | sock c => exact absurd trivial h
  | _ => trivial

theorem Cmd.unanswering_send {fd : Int} {data : Bytes} (h : udsOf data = none) :
    (Cmd.sock (.send fd data)).unanswering := h

namespace DoIpAdapter

variable (a : DoIpAdapter)

theorem udsOf_messageFrame (target : UInt16) (data : Bytes) :
    udsOf (a.messageFrame target data) = some data := by
  simp [messageFrame, buildDoipFrame, udsOf]

theorem udsOf_ackFrame (source : UInt16) : udsOf (a.ackFrame source) = none := by
  have hne : diagnosticMessageAck ≠ diagnosticMessage := by decide
  simp [ackFrame, buildDoipFrame, udsOf, hne]

theorem udsOf_activationFrame (testerAddr : UInt16) :
    udsOf (a.activationFrame testerAddr) = none := by
  have hne : routingActivationResponse ≠ diagnosticMessage := by decide
  simp [activationFrame, buildDoipFrame, udsOf, hne]

/-- A call of `receive` answers nothing, and what it returns came from a client that is still
there. -/
def Delivers (tr : Trace) (r : Bytes × DoIpAdapter) : Prop :=
  (∀ e ∈ tr, e.cmd.unanswering) ∧ (r.1 ≠ [] → r.2.Up)

theorem delivers_nothing (a' : DoIpAdapter) : Delivers [] ([], a') :=
  ⟨by simp, fun h => absurd rfl h⟩

theorem delivers_up {a' : DoIpAdapter} (hup : a'.Up) (data : Bytes) : Delivers [] (data, a') :=
  ⟨by simp, fun _ => hup⟩

theorem Delivers.cons {e : Event outside} {tr : Trace} {r : Bytes × DoIpAdapter}
    (he : e.cmd.unanswering) (h : Delivers tr r) : Delivers (e :: tr) r :=
  ⟨List.forall_mem_cons.mpr ⟨he, h.1⟩, h.2⟩

theorem receiveActivation_delivers (payloadLen : Nat) :
    wp (a.receiveActivation payloadLen) Delivers := by
  unfold receiveActivation
  refine wp_ask_bind.mpr ?_
  intro x
  split
  · exact (delivers_nothing a).cons trivial
  rw [wp_ite]
  refine ⟨?_, ?_⟩
  · intro _
    exact (delivers_nothing a).cons trivial
  · intro _
    refine wp_ask_bind.mpr ?_
    intro y
    refine ((delivers_nothing a).cons ?_).cons trivial
    exact Cmd.unanswering_send (a.udsOf_activationFrame _)

variable {a}

theorem receiveMessage_delivers (hup : a.Up) (payloadLen : Nat) :
    wp (a.receiveMessage payloadLen) Delivers := by
  unfold receiveMessage
  refine wp_ask_bind.mpr ?_
  intro x
  split
  · exact (delivers_nothing a).cons trivial
  rw [wp_ite]
  refine ⟨?_, ?_⟩
  · intro _
    exact (delivers_nothing a).cons trivial
  intro _
  split
  · refine wp_ask_bind.mpr ?_
    intro y
    refine ((delivers_up (hup.remote _) _).cons ?_).cons trivial
    exact Cmd.unanswering_send (a.udsOf_ackFrame _)
  · exact (delivers_up hup _).cons trivial

theorem receive_delivers (timeoutMs : UInt32) : wp (a.receive timeoutMs) Delivers := by
  unfold receive
  rw [wp_ite]
  refine ⟨?_, ?_⟩
  · intro _
    exact delivers_nothing a
  intro hdown
  have hup : a.Up := by
    rw [not_or, Bool.not_eq_true', Bool.not_eq_false, Int.not_lt] at hdown
    exact ⟨hdown.1, hdown.2⟩
  refine wp_ask_bind.mpr ?_
  intro x
  rw [wp_ite]
  refine ⟨?_, ?_⟩
  · intro _
    exact (delivers_nothing a).cons trivial
  intro _
  refine wp_ask_bind.mpr ?_
  intro y
  have behind {p : M (Bytes × DoIpAdapter)} (hp : wp p Delivers) : wp p fun tr r =>
      Delivers (⟨.sock (.poll a.clientFd timeoutMs), x⟩ ::
        ⟨.sock (.recv a.clientFd 8), y⟩ :: tr) r := by
    refine wp_mono hp ?_
    intro tr r hr
    refine Delivers.cons ?_ (Delivers.cons ?_ hr)
    · exact trivial
    · exact trivial
  split
  · refine behind ?_
    simp only [wp_ite, wp_bind, wp_log, wp_pure]
    refine ⟨fun _ => delivers_nothing a, fun _ => ⟨fun _ => ?_, fun _ => ⟨?_, fun _ => ?_⟩⟩⟩
    · exact a.receiveActivation_delivers _
    · intro _
      exact delivers_nothing a
    · exact receiveMessage_delivers hup _
  · exact behind (delivers_nothing _)

theorem send_responds (hup : a.Up) (data : Bytes) :
    wp (a.send data) fun tr _ => responsesOf tr = [data] := by
  unfold send
  rw [if_neg hup.not_down]
  refine wp_ask_bind.mpr ?_
  intro x
  simp [responsesOf, a.udsOf_messageFrame]

end DoIpAdapter

/-! ## The exact condition -/

/-- The tester asks for no positive response. -/
def DiagRequest.suppressesPositive (r : DiagRequest) : Prop :=
  takesSubFunction r.serviceId ∧ r.subFunction &&& 0x80 ≠ 0

/-- A positive response is kept back, a negative one is sent, once. -/
def ReplySuppressed (tr : Trace) (x : Exchange) : Prop :=
  (x.response.positive = true → responsesOf tr = []) ∧
    (x.response.positive = false → responsesOf tr = [UdsCodec.encode x.response])

/-- Whatever the dispatcher answers is sent. -/
theorem Serves.Pending.responses {s s' : DiagService} {v : View} {tr : Trace} {x : Exchange}
    (h : Serves.Pending s v tr (some x) s') : responsesOf tr = [UdsCodec.encode x.response] := by
  cases h with
  | @answered t t' tr₀ tr₁ tr₂ tr₃ b sent m lg lg' raw request response ms _ _ _ hm hr hd hdis
      hsend =>
    have h₀ : responsesOf tr₀ = [] := by
      refine responsesOf_unanswering fun e he => ?_
      obtain ⟨site, hc⟩ := hm.ticks e he
      rw [hc]
      trivial
    have h₂ : responsesOf tr₂ = [] :=
      responsesOf_unanswering fun e he => Cmd.unanswering_of_attended (hdis.once.1 e he)
    have hraw : raw ≠ [] := by
      rintro rfl
      cases hd
    cases t with
    | doCan c =>
      cases hr
      exact absurd rfl hraw
    | doip a =>
      obtain ⟨a', lg'', rfl, hr'⟩ := receive_doip hr
      obtain ⟨h₁, hup⟩ := hr'.wp (DoIpAdapter.receive_delivers 0)
      have h₃ : responsesOf tr₃ = [UdsCodec.encode response] :=
        hsend.wp (DoIpAdapter.send_responds (hup hraw) _)
      rw [responsesOf_append, responsesOf_append, responsesOf_append, h₀,
        responsesOf_unanswering h₁, h₂, h₃]
      rfl

/-- A request that asks for no positive response gets what it asks for exactly when it is not
answered positively. -/
theorem suppressed_reply_iff {s s' : DiagService} {d : ServiceDispatcher} {tr : Trace}
    {x : Exchange} {o : Oracle} (hs : s.Reachable) (hi : s.initialized = true)
    (hd : s.dispatcher = some d) (h : Does s ⟨.processPendingRequests, tr, some x⟩ s')
    (hsup : x.request.suppressesPositive) (ho : Heeds o tr) :
    ReplySuppressed tr x ↔
      ¬ affirms o d (managerFound o s.getCurrentSession) (s.securityState 1) x.request := by
  obtain ⟨ls, hrun, _⟩ := hs
  obtain ⟨v, _, hserves⟩ := reach_serves hrun hi
  obtain rfl := hserves.dispatcher_eq hd
  obtain ⟨lg, hx⟩ := h
  have hp : Serves.Pending s v tr (some x) s' := hx.wp hserves.processPendingRequests_wp
  have hsent : responsesOf tr = [UdsCodec.encode x.response] := hp.responses
  have hpositive : x.response.positive = true ↔
      affirms o v.dispatcher (managerFound o s.getCurrentSession) (s.securityState 1)
        x.request := by
    rw [hserves.getCurrentSession, hserves.securityState]
    cases hp with
    | answered _ _ hm hr _ hdis hsend =>
      obtain ⟨hans₀, hans₂⟩ := ho.served hm hdis
      rw [← hm.managerFound hans₀]
      exact hdis.positive_iff hans₂ hserves.sec hsup.1
  unfold ReplySuppressed
  rw [hsent, ← hpositive]
  cases x.response.positive <;> simp

/-- Tester 1 opens the extended session and asks for no positive response. -/
def quietMessage : Message where
  source := 1
  target := 0x0001
  uds := [0x10, 0x83]
  nonempty := by simp
  short := by simp

theorem linkedService_reachable : linkedService.Reachable :=
  ⟨_, play_run {} linkedScript, by decide⟩

theorem suppressed_reply_iff_quiet :
    let l := (lookOn linkedService quietMessage.frame).1
    ∃ d x, linkedService.dispatcher = some d ∧ l.exchange = some x ∧
      (ReplySuppressed l.trace x ↔ ¬ affirms (sending quietMessage.frame 0) d
        (managerFound (sending quietMessage.frame 0) linkedService.getCurrentSession)
        (linkedService.securityState 1) x.request) := by
  intro l
  refine ⟨_, _, rfl, rfl, ?_⟩
  refine suppressed_reply_iff linkedService_reachable rfl rfl
    (linkedService.playOne_does .processPendingRequests (sending quietMessage.frame 0)) ?_ ?_
  · exact ⟨.inl rfl, by decide⟩
  · intro e he _
    exact linkedService.playOne_answers .processPendingRequests _ e he

/-- The positive response to it is sent all the same. -/
theorem quiet_message_answered :
    let r := lookOn linkedService quietMessage.frame
    linkedService.Reachable ∧ Does linkedService ⟨.processPendingRequests, r.1.trace, r.1.exchange⟩
        r.2 ∧
      ∃ x, r.1.exchange = some x ∧ x.request.suppressesPositive ∧ x.response.positive = true ∧
        responsesOf r.1.trace = [[0x50, 0x03, 0x13, 0x88, 0x01, 0xF4]] ∧
        ¬ ReplySuppressed r.1.trace x := by
  intro r
  have hsent : responsesOf r.1.trace = [[0x50, 0x03, 0x13, 0x88, 0x01, 0xF4]] := by decide
  refine ⟨linkedService_reachable,
    linkedService.playOne_does .processPendingRequests (sending quietMessage.frame 0), _, rfl,
    ⟨.inl rfl, by decide⟩, rfl, hsent, ?_⟩
  intro h
  have hnone := h.1 rfl
  rw [hsent] at hnone
  cases hnone

end Diag
end Tbox
