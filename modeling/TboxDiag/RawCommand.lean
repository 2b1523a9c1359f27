import TboxDiag.DiagService

/-!
# RawCommand

The `raw` command of the command line client. It has one layout for every service, the one of
RoutineControl, where `UdsCodec::decode` has a layout for each. `raw_agrees_iff`: which requests the
two have in common as far as the service reads them.
-/

namespace Tbox
namespace Diag

open Effects

namespace DiagCli

/-- A fresh request of the client: tester 0x0E80, over DoIP. -/
def cliRequest : DiagRequest := { sourceAddress := 0x0E80, transport := .doip }

/-- `none` where the client says "Invalid hex request". -/
def rawRequest : Bytes → Option DiagRequest
  | [] => none
  | [sid] => some { cliRequest with serviceId := sid }
  | [sid, sub] => some { cliRequest with serviceId := sid, subFunction := sub }
  | [sid, sub, _] => some { cliRequest with serviceId := sid, subFunction := sub }
  | sid :: sub :: hi :: lo :: payload =>
    some { cliRequest with
      serviceId := sid, subFunction := sub, didOrRid := ofBytes16 hi lo, payload }

end DiagCli

open DiagCli ServiceDispatcher

/-- The two requests have in common what the handler of their service reads. -/
@[mk_iff]
structure SameForHandler (x y : DiagRequest) : Prop where
  serviceId : x.serviceId = y.serviceId
  session : x.serviceId = UdsService.diagnosticSessionControl ∨
    x.serviceId = UdsService.testerPresent → x.subFunction = y.subFunction
  /-- Only a sendKey has its payload read. -/
  security : x.serviceId = UdsService.securityAccess → x.subFunction = y.subFunction ∧
    (x.basicSubFunction = UdsSecurityLevel.level1 + 1 → x.payload = y.payload)
  routine : x.serviceId = UdsService.routineControl →
    x.subFunction = y.subFunction ∧ x.didOrRid = y.didOrRid ∧ x.payload = y.payload
  read : x.serviceId = UdsService.readDataByIdentifier → x.didOrRid = y.didOrRid

namespace SameForHandler

variable {x y : DiagRequest}

theorem handleSessionControl_eq (hsub : x.subFunction = y.subFunction)
    (hsource : x.sourceAddress = y.sourceAddress) (htransport : x.transport = y.transport)
    (m : SessionManager) : handleSessionControl m x = handleSessionControl m y := by
  simp only [handleSessionControl, DiagRequest.basicSubFunction, hsub, hsource, htransport]

theorem handleTesterPresent_eq (hsub : x.subFunction = y.subFunction)
    (hsource : x.sourceAddress = y.sourceAddress) (m : SessionManager) :
    handleTesterPresent m x = handleTesterPresent m y := by
  simp only [handleTesterPresent, testerPresentResponse, hsub, hsource]

theorem handleSecurityAccess_eq (hsub : x.subFunction = y.subFunction)
    (hkey : x.basicSubFunction = UdsSecurityLevel.level1 + 1 → x.payload = y.payload)
    (sa : SecurityAccess) : handleSecurityAccess sa x = handleSecurityAccess sa y := by
  have hbasic : y.basicSubFunction = x.basicSubFunction := by
    simp only [DiagRequest.basicSubFunction, hsub]
  simp only [handleSecurityAccess, securityAccessResponse, hbasic, hsub]
  by_cases hlevel : x.basicSubFunction = UdsSecurityLevel.level1 + 1
  · rw [hkey hlevel]
  by_cases hseed : x.basicSubFunction = UdsSecurityLevel.level1
  · rw [hseed]
    rfl
  · rw [if_pos ⟨hseed, hlevel⟩, if_pos ⟨hseed, hlevel⟩]

theorem handleRoutineControl_eq (hsub : x.subFunction = y.subFunction)
    (hrid : x.didOrRid = y.didOrRid) (hpayload : x.payload = y.payload) (d : ServiceDispatcher)
    (ms : Managers) : d.handleRoutineControl ms x = d.handleRoutineControl ms y := by
  -- the commands depend on the payload, and so do the types of their answers
  cases x
  cases y
  cases hsub
  cases hrid
  cases hpayload
  rfl

theorem handleReadDataByIdentifier_eq (hdid : x.didOrRid = y.didOrRid)
    (hsource : x.sourceAddress = y.sourceAddress) (htransport : x.transport = y.transport)
    (d : ServiceDispatcher) : d.handleReadDataByIdentifier x = d.handleReadDataByIdentifier y := by
  simp only [handleReadDataByIdentifier, hdid, hsource, htransport]

/-- Two such requests of one tester on one transport are routed alike. -/
theorem route_eq (h : SameForHandler x y) (hsource : x.sourceAddress = y.sourceAddress)
    (htransport : x.transport = y.transport) (d : ServiceDispatcher) (ms : Managers) :
    d.route ms x = d.route ms y := by
  unfold route
  rw [← h.serviceId]
  split
  · next hsid => rw [handleSessionControl_eq (h.session (.inl hsid)) hsource htransport]
  split
  · next hsid => rw [handleTesterPresent_eq (h.session (.inr hsid)) hsource]
  split
  · next hsid =>
    obtain ⟨hsub, hkey⟩ := h.security hsid
    rw [handleSecurityAccess_eq hsub hkey]
  split
  · next hsid =>
    obtain ⟨hsub, hrid, hpayload⟩ := h.routine hsid
    rw [handleRoutineControl_eq hsub hrid hpayload]
  split
  · next hsid => rw [handleReadDataByIdentifier_eq (h.read hsid) hsource htransport]
  · rfl

theorem dispatch_eq (h : SameForHandler x y) (hsource : x.sourceAddress = y.sourceAddress)
    (htransport : x.transport = y.transport) (s : DiagService) : s.dispatch x = s.dispatch y := by
  have hroute (d : ServiceDispatcher) (ms : Managers) : d.dispatch ms x = d.dispatch ms y := by
    simp only [ServiceDispatcher.dispatch, h.route_eq hsource htransport, h.serviceId]
  simp only [DiagService.dispatch, hroute]

theorem processRequest_eq (h : SameForHandler x y) (hsource : x.sourceAddress = y.sourceAddress)
    (htransport : x.transport = y.transport) (s : DiagService) :
    s.processRequest x = s.processRequest y := by
  simp only [DiagService.processRequest, h.dispatch_eq hsource htransport]

theorem refl (x : DiagRequest) : SameForHandler x x where
  serviceId := rfl
  session _ := rfl
  security _ := ⟨rfl, fun _ => rfl⟩
  routine _ := ⟨rfl, rfl, rfl⟩
  read _ := rfl

/-! Each service has its own fields to compare. -/

section
variable (hsame : x.serviceId = y.serviceId)
include hsame

theorem session_iff (hsid : x.serviceId = UdsService.diagnosticSessionControl ∨
    x.serviceId = UdsService.testerPresent) :
    SameForHandler x y ↔ x.subFunction = y.subFunction := by
  rcases hsid with hsid | hsid <;>
    simp +decide [sameForHandler_iff, ← hsame, hsid]

theorem security_iff (hsid : x.serviceId = UdsService.securityAccess) : SameForHandler x y ↔
    x.subFunction = y.subFunction ∧
      (x.basicSubFunction = UdsSecurityLevel.level1 + 1 → x.payload = y.payload) := by
  simp +decide [sameForHandler_iff, ← hsame, hsid]

theorem read_iff (hsid : x.serviceId = UdsService.readDataByIdentifier) :
    SameForHandler x y ↔ x.didOrRid = y.didOrRid := by
  simp +decide [sameForHandler_iff, ← hsame, hsid]

theorem of_other (hsession : ¬ (x.serviceId = UdsService.diagnosticSessionControl ∨
    x.serviceId = UdsService.testerPresent)) (hsecurity : x.serviceId ≠ UdsService.securityAccess)
    (hread : x.serviceId ≠ UdsService.readDataByIdentifier)
    (hroutine : x.serviceId ≠ UdsService.routineControl) : SameForHandler x y where
  serviceId := hsame
  session h := absurd h hsession
  security h := absurd h hsecurity
  routine h := absurd h hroutine
  read h := absurd h hread

end

end SameForHandler

/-- Where the layouts part. The client has the key begin two bytes late, and a DID one byte late, if
there is such a byte. -/
def Misread : Bytes → Prop
  | sid :: sub :: x :: rest =>
    sid = UdsService.securityAccess ∧ sub &&& 0x7F = UdsSecurityLevel.level1 + 1 ∨
      sid = UdsService.readDataByIdentifier ∧
        match rest with
        | [] => ¬ (sub = 0 ∧ x = 0)
        | y :: _ => ¬ (sub = x ∧ x = y)
  | _ => False

section
variable {b : Bytes} {q r : DiagRequest}

theorem rawRequest_addressing (h : rawRequest b = some q) :
    q.sourceAddress = 0x0E80 ∧ q.transport = .doip := by
  unfold rawRequest at h
  split at h <;> cases h <;> exact ⟨rfl, rfl⟩

/-- With at most two bytes there is nothing to place but the service and its sub-function. -/
theorem raw_eq_of_short (hshort : b.length ≤ 2) (hq : rawRequest b = some q)
    (hr : UdsCodec.decode b cliRequest = some r) : q = r := by
  match b with
  | [] => cases hq
  | [sid] =>
    cases hq
    simp only [UdsCodec.decode] at hr
    split_ifs at hr
    cases hr
    rfl
  | [sid, sub] =>
    cases hq
    simp only [UdsCodec.decode] at hr
    split_ifs at hr <;> cases hr <;> rfl
  | _ :: _ :: _ :: _ =>
    simp only [List.length_cons] at hshort
    omega

variable {sid sub x : UInt8} {rest : Bytes}

/-- The DID or RID of the client, which needs a fourth byte. -/
def rawDid (x : UInt8) : Bytes → UInt16
  | [] => 0
  | y :: _ => ofBytes16 x y

theorem rawRequest_long : rawRequest (sid :: sub :: x :: rest) =
    some { cliRequest with
      serviceId := sid, subFunction := sub, didOrRid := rawDid x rest, payload := rest.tail } := by
  cases rest <;> rfl

theorem rawDid_eq_iff : rawDid x rest = ofBytes16 sub x ↔
    match rest with
    | [] => sub = 0 ∧ x = 0
    | y :: _ => sub = x ∧ x = y := by
  cases rest with
  | nil =>
    rw [rawDid, eq_comm, ofBytes16_eq_iff]
    exact Iff.rfl
  | cons y rest =>
    rw [rawDid, ofBytes16_eq_iff, hiByte_ofBytes16, loByte_ofBytes16]
    constructor <;> rintro ⟨rfl, rfl⟩ <;> exact ⟨rfl, rfl⟩

theorem misread_security : Misread (UdsService.securityAccess :: sub :: x :: rest) ↔
    sub &&& 0x7F = UdsSecurityLevel.level1 + 1 := by
  simp +decide [Misread]

theorem misread_read : Misread (UdsService.readDataByIdentifier :: sub :: x :: rest) ↔
    rawDid x rest ≠ ofBytes16 sub x := by
  rw [ne_eq, rawDid_eq_iff]
  cases rest <;> simp +decide [Misread]

theorem not_misread (hsecurity : sid ≠ UdsService.securityAccess)
    (hread : sid ≠ UdsService.readDataByIdentifier) :
    ¬ Misread (sid :: sub :: x :: rest) := by
  simp [Misread, hsecurity, hread]

theorem same_iff (hq : rawRequest b = some q) (hr : UdsCodec.decode b cliRequest = some r) :
    SameForHandler q r ↔ ¬ Misread b := by
  match b with
  | [] => cases hq
  | [_] | [_, _] =>
    cases raw_eq_of_short (by simp) hq hr
    exact iff_of_true (.refl q) id
  | sid :: sub :: x :: rest =>
    rw [rawRequest_long] at hq
    cases hq
    simp only [UdsCodec.decode] at hr
    split_ifs at hr with hsession hsecurity hread hroutine
    · cases hr
      refine Iff.trans (SameForHandler.session_iff rfl hsession) ?_
      refine iff_of_true rfl (not_misread ?_ ?_) <;> rcases hsession with rfl | rfl <;> decide
    · cases hr
      subst hsecurity
      have hlen : rest.tail ≠ x :: rest := by
        intro h
        have := congrArg List.length h
        simp at this
      refine Iff.trans (SameForHandler.security_iff rfl rfl) ?_
      rw [misread_security]
      simp [hlen, DiagRequest.basicSubFunction]
    · cases hr
      subst hread
      refine Iff.trans (SameForHandler.read_iff rfl rfl) ?_
      rw [misread_read, not_not]
    · have hlayout : r = { cliRequest with
          serviceId := sid, subFunction := sub, didOrRid := rawDid x rest, payload := rest.tail } := by
        match rest with
        | [] => cases hr
        | [_] | _ :: _ :: _ => exact (Option.some.inj hr).symm
      rw [hlayout]
      exact iff_of_true (.refl _) (not_misread hsecurity hread)
    · cases hr
      exact iff_of_true (SameForHandler.of_other rfl hsession hsecurity hread hroutine)
        (not_misread hsecurity hread)

end

/-- The client's request stands for the bytes exactly where the layouts do not part. -/
theorem raw_agrees_iff {b : Bytes} {r : DiagRequest}
    (hr : UdsCodec.decode b cliRequest = some r) :
    (∃ q, rawRequest b = some q ∧ SameForHandler q r ∧
      ∀ s : DiagService, s.processRequest q = s.processRequest r ∧ s.dispatch q = s.dispatch r) ↔
      ¬ Misread b := by
  obtain ⟨hsource, htransport⟩ := UdsCodec.decode_addressing hr
  constructor
  · rintro ⟨q, hq, hsame, _⟩
    exact (same_iff hq hr).mp hsame
  · intro hagree
    have hsome : ∃ q, rawRequest b = some q := by
      match b with
      | [] => cases hr
      | [_] | [_, _] | [_, _, _] | _ :: _ :: _ :: _ :: _ => exact ⟨_, rfl⟩
    obtain ⟨q, hq⟩ := hsome
    obtain ⟨hsource', htransport'⟩ := rawRequest_addressing hq
    have hsame := (same_iff hq hr).mpr hagree
    have hs := hsource'.trans hsource.symm
    have ht := htransport'.trans htransport.symm
    exact ⟨q, hq, hsame, fun s => ⟨hsame.processRequest_eq hs ht s, hsame.dispatch_eq hs ht s⟩⟩

/-- A routine call with a payload. -/
theorem raw_agrees_iff_routine : (∃ q, rawRequest [0x31, 0x01, 0xFF, 0x00, 0x41] = some q ∧
    SameForHandler q { cliRequest with
      serviceId := 0x31, subFunction := 0x01, didOrRid := 0xFF00, payload := [0x41] } ∧
    ∀ s : DiagService,
      s.processRequest q = s.processRequest { cliRequest with
        serviceId := 0x31, subFunction := 0x01, didOrRid := 0xFF00, payload := [0x41] } ∧
      s.dispatch q = s.dispatch { cliRequest with
        serviceId := 0x31, subFunction := 0x01, didOrRid := 0xFF00, payload := [0x41] }) ↔
      ¬ Misread [0x31, 0x01, 0xFF, 0x00, 0x41] :=
  raw_agrees_iff rfl

/-- A key of four bytes loses the first two, and the VIN is asked for under another DID. -/
theorem raw_misreads :
    (∃ q r, rawRequest [0x27, 0x02, 1, 2, 3, 4] = some q ∧
      UdsCodec.decode [0x27, 0x02, 1, 2, 3, 4] cliRequest = some r ∧
      q.payload = [3, 4] ∧ r.payload = [1, 2, 3, 4] ∧ ¬ SameForHandler q r) ∧
    ∃ q r, rawRequest [0x22, 0xF1, 0x90] = some q ∧
      UdsCodec.decode [0x22, 0xF1, 0x90] cliRequest = some r ∧
      q.didOrRid = 0 ∧ r.didOrRid = Did.vin ∧ ¬ SameForHandler q r := by
  refine ⟨⟨_, _, rfl, rfl, rfl, rfl, ?_⟩, ⟨_, _, rfl, rfl, rfl, rfl, ?_⟩⟩
  · intro h
    exact absurd ((h.security rfl).2 rfl) (by decide)
  · intro h
    exact absurd (h.read rfl) (by decide)

end Diag
end Tbox
