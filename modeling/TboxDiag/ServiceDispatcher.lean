import TboxDiag.Lib.Heap
import TboxDiag.SessionManager
import TboxDiag.SecurityAccess

/-!
# ServiceDispatcher

The dispatcher and its handlers, one for each UDS service. The session manager and the security
access object are shared with the service and live behind pointers; the handlers are written on
their contents (`Managers`), which `DiagService` loads before a dispatch and stores after it.
-/

namespace Tbox
namespace Diag

open Effects

structure ServiceDispatcher where
  prov : Option ProvHandle
  sec : Option SecHandle
  sessionMgr : Option Ref
  securityAccess : Option Ref
  routingTable : List RoutingEntry := []

/-- The contents of the two objects the dispatcher points to. -/
structure Managers where
  sessionMgr : SessionManager
  securityAccess : SecurityAccess

/-- The level-1 state, which the protected routines ask for. -/
abbrev Managers.unlocked (ms : Managers) : Bool :=
  ms.securityAccess.unlocked UdsSecurityLevel.level1

namespace ServiceDispatcher

def registerRoute (d : ServiceDispatcher) (serviceId : UInt8) (didOrRid : UInt16)
    (downstream : String) (requiresUnlock : Bool) : ServiceDispatcher :=
  { d with routingTable := d.routingTable ++ [⟨serviceId, didOrRid, downstream, requiresUnlock⟩] }

def createPositiveResponse (serviceId subFunction : UInt8) (data : Bytes) : DiagResponse :=
  { positive := true, serviceId := serviceId + 0x40, subFunction, payload := data, nrc := 0 }

def createNegativeResponse (serviceId nrc : UInt8) (diagErrorCode : String) : DiagResponse :=
  { positive := false, serviceId := 0x7F, subFunction := serviceId, nrc, diagErrorCode }

/-! ## Session control and TesterPresent -/

/-- `[P2(2)] [P2*(2)]`, P2 in ms and P2* in units of 10 ms. -/
def sessionTimings : Bytes :=
  let p2Server := Timing.p2Default.toUInt16
  let p2StarServer := (Timing.p2Star / 10).toUInt16
  [hiByte p2Server, loByte p2Server, hiByte p2StarServer, loByte p2StarServer]

def sessionControlResponse (sessionType : UInt8) (result : DiagErrorCode) : DiagResponse :=
  if result ≠ .success then
    let nrc := if result = .sessionStateNotAllowed then Nrc.conditionsNotCorrect
      else Nrc.incorrectMessageLength
    createNegativeResponse UdsService.diagnosticSessionControl nrc (errorCodeToString result)
  else
    createPositiveResponse UdsService.diagnosticSessionControl sessionType sessionTimings

def handleSessionControl (m : SessionManager) (request : DiagRequest) :
    M (DiagResponse × SessionManager) := do
  let sessionType := request.basicSubFunction
  log .session .info "diag.session.changed" "SessionControl request"
    [("sub_function", .string (hex2 request.subFunction)),
     ("target_session", .string (hex2 sessionType))]
  let (result, m) ← m.switchSession sessionType request.sourceAddress request.transport
  pure (sessionControlResponse sessionType result, m)

def testerPresentResponse (request : DiagRequest) (result : DiagErrorCode) : DiagResponse :=
  if result ≠ .success then
    createNegativeResponse UdsService.testerPresent Nrc.conditionsNotCorrect
      (errorCodeToString result)
  else
    createPositiveResponse UdsService.testerPresent request.subFunction []

def handleTesterPresent (m : SessionManager) (request : DiagRequest) :
    M (DiagResponse × SessionManager) := do
  let (result, m) ← m.handleTesterPresent request.sourceAddress
  pure (testerPresentResponse request result, m)

/-! ## Security access -/

/-- The response to a requestSeed (`refusal` is NRC 0x33) or a sendKey (NRC 0x35). -/
def securityAccessResponse (request : DiagRequest) (result : DiagErrorCode) (refusal : UInt8)
    (data : Bytes) : DiagResponse :=
  if result ≠ .success then
    let nrc := if result = .secUnavailable then Nrc.conditionsNotCorrect else refusal
    createNegativeResponse UdsService.securityAccess nrc (errorCodeToString result)
  else
    createPositiveResponse UdsService.securityAccess request.subFunction data

def handleSecurityAccess (sa : SecurityAccess) (request : DiagRequest) :
    M (DiagResponse × SecurityAccess) :=
  let rawLevel := request.basicSubFunction
  if rawLevel ≠ UdsSecurityLevel.level1 ∧ rawLevel ≠ UdsSecurityLevel.level1 + 1 then
    pure (createNegativeResponse UdsService.securityAccess Nrc.subFunctionNotSupported "DIAG-1004",
      sa)
  else if rawLevel &&& 0x01 ≠ 0 then do
    log .session .info "diag.security_access.succeeded" "Security access request_seed"
      [("sub_function", .string (hex2 request.subFunction))]
    let (result, seed, sa) ← sa.requestSeed rawLevel
    pure (securityAccessResponse request result Nrc.securityAccessDenied seed, sa)
  else do
    let (result, sa) ← sa.sendKey rawLevel request.payload
    pure (securityAccessResponse request result Nrc.invalidKey [], sa)

/-! ## Routine control -/

def ridEcho (request : DiagRequest) : Bytes := [hiByte request.didOrRid, loByte request.didOrRid]

def routineRefused (nrc : UInt8) (code : DiagErrorCode) : DiagResponse :=
  createNegativeResponse UdsService.routineControl nrc (errorCodeToString code)

def routineDone (request : DiagRequest) (data : Bytes) : DiagResponse :=
  createPositiveResponse UdsService.routineControl request.subFunction (ridEcho request ++ data)

/-- The two checks each certificate routine begins with: level 1 is unlocked, SEC is there. -/
def withSec (d : ServiceDispatcher) (sa : SecurityAccess) (k : SecHandle → M DiagResponse) :
    M DiagResponse := do
  let unlocked ← sa.isUnlocked UdsSecurityLevel.level1
  if !unlocked then
    pure (routineRefused Nrc.securityAccessDenied .securityAccessDenied)
  else match d.sec with
    | none => pure (routineRefused Nrc.conditionsNotCorrect .secUnavailable)
    | some h => do
      let available ← ask (.sec h .isAvailable)
      if !available then
        pure (routineRefused Nrc.conditionsNotCorrect .secUnavailable)
      else k h

def handleGenerateKeyPair (d : ServiceDispatcher) (sa : SecurityAccess) (request : DiagRequest) :
    M DiagResponse := do
  log .udsRouter .info "diag.uds.generate_key_pair" "GenerateKeyPair request"
    [("did_or_rid", .string (hex4 request.didOrRid))]
  d.withSec sa fun h => do
    let ok ← ask (.sec h .generateKeyPair)
    if !ok then
      pure (routineRefused Nrc.generalProgrammingFailure .certGenerationFailed)
    else
      pure (routineDone request [])

def handleReadCsr (d : ServiceDispatcher) (sa : SecurityAccess) (request : DiagRequest) :
    M DiagResponse := do
  log .udsRouter .info "diag.uds.read_csr" "ReadCSR request"
    [("did_or_rid", .string (hex4 request.didOrRid))]
  d.withSec sa fun h => do
    let (ok, csrDer) ← ask (.sec h .getCsr)
    log .downstream .debug "diag.downstream.get_csr_result" "get_csr result"
      [("success", .bool ok), ("csr_size", .int csrDer.length)]
    if !ok then
      pure (routineRefused Nrc.generalProgrammingFailure .csrCreationFailed)
    else do
      log .response .debug "diag.uds.read_csr_response" "ReadCSR response built"
        [("payload_size", .int (ridEcho request ++ csrDer).length)]
      pure (routineDone request csrDer)

/-- The NRC and the error code for a certificate SEC did not take. -/
def injectionFailure : CertInjectFailure → UInt8 × DiagErrorCode
  | .secUnavailable => (Nrc.conditionsNotCorrect, .secUnavailable)
  | .stateNotAllowed => (Nrc.requestSequenceError, .sessionStateNotAllowed)
  | .invalidFormat | .keyMismatch | .certExpired => (Nrc.requestOutOfRange, .certInjectionFailed)
  | .storageFailed | .unknown | .none => (Nrc.generalProgrammingFailure, .certInjectionFailed)

def handleInjectCertificate (d : ServiceDispatcher) (sa : SecurityAccess) (request : DiagRequest) :
    M DiagResponse := do
  log .udsRouter .info "diag.uds.inject_certificate" "InjectCertificate request"
    [("did_or_rid", .string (hex4 request.didOrRid)),
     ("payload_size", .int request.payload.length)]
  d.withSec sa fun h => do
    if request.payload.isEmpty then
      pure (routineRefused Nrc.incorrectMessageLength .invalidRequestFormat)
    else do
      let (ok, failure) ← ask (.sec h (.injectCertificate request.payload))
      if !ok then do
        let (nrc, err) := injectionFailure failure
        log .udsRouter .warn "diag.uds.inject_certificate_failed" "InjectCertificate rejected"
          [("failure_reason", .string (certInjectFailureName failure)), ("nrc", .int nrc.toNat)]
        pure (routineRefused nrc err)
      else
        pure (routineDone request [])

/-- The bytes of the VIN at the head of a WRITE_VIN payload. -/
abbrev vinLength : Nat := 17

def handleWriteVin (h : ProvHandle) (request : DiagRequest) : M DiagResponse :=
  if request.payload.length < vinLength then do
    log .udsRouter .warn "diag.uds.request.rejected" "RoutineControl: payload too small for VIN"
      [("payload_size", .int request.payload.length), ("required_size", .int vinLength)]
    pure (routineRefused Nrc.incorrectMessageLength .invalidRequestFormat)
  else do
    let vin := request.payload.take vinLength
    let extraPayload := request.payload.drop vinLength
    let result ← ask (.prov h (.writeVin vin extraPayload))
    if result ≠ .success then
      pure (routineRefused Nrc.generalProgrammingFailure result)
    else
      pure (routineDone request [])

def isCertificateRid (rid : UInt16) : Prop :=
  rid = Rid.generateKeyPair ∨ rid = Rid.readCsr ∨ rid = Rid.injectCertificate

instance (rid : UInt16) : Decidable (isCertificateRid rid) :=
  inferInstanceAs (Decidable (_ ∨ _ ∨ _))

def handleRoutineControl (d : ServiceDispatcher) (ms : Managers) (request : DiagRequest) :
    M DiagResponse := do
  let rid := request.didOrRid
  log .udsRouter .info "diag.uds.routine_control" "RoutineControl request"
    [("did_or_rid", .string (hex4 rid)), ("payload_size", .int request.payload.length)]
  if isCertificateRid rid then do
    let currentSession := ms.sessionMgr.session
    log .udsRouter .debug "diag.uds.certificate_session_check" "Certificate RID session check"
      [("current_session", .string (hex2 currentSession.sessionType.code)),
       ("expected_session", .string (hex2 SessionType.programming.code))]
    if currentSession.sessionType ≠ .programming then
      pure (routineRefused Nrc.serviceNotSupportedInSession .sessionStateNotAllowed)
    else if rid = Rid.generateKeyPair then d.handleGenerateKeyPair ms.securityAccess request
    else if rid = Rid.readCsr then d.handleReadCsr ms.securityAccess request
    else d.handleInjectCertificate ms.securityAccess request
  else do
    let unlocked ← ms.securityAccess.isUnlocked UdsSecurityLevel.level1
    if !unlocked then
      pure (routineRefused Nrc.securityAccessDenied .securityAccessDenied)
    else match d.prov with
      | none => pure (routineRefused Nrc.conditionsNotCorrect .provUnavailable)
      | some h => do
        let available ← ask (.prov h .isAvailable)
        if !available then
          pure (routineRefused Nrc.conditionsNotCorrect .provUnavailable)
        else if rid = Rid.writeVinRoutine then
          handleWriteVin h request
        else
          pure (createNegativeResponse UdsService.routineControl Nrc.requestOutOfRange "DIAG-1004")

/-! ## Reading data -/

def readRefused (nrc : UInt8) (code : DiagErrorCode) : DiagResponse :=
  createNegativeResponse UdsService.readDataByIdentifier nrc (errorCodeToString code)

/-- The DID echo and the field of the PROV record it names. -/
def didRecord (did : UInt16) (r : VinReadResult) : Bytes :=
  [hiByte did, loByte did] ++ if did = Did.vin then r.vin else r.bindState

def handleReadDataByIdentifier (d : ServiceDispatcher) (request : DiagRequest) :
    M DiagResponse := do
  let did := request.didOrRid
  log .udsRouter .info "diag.uds.read_did" "ReadDID request"
    [("did_or_rid", .string (hex4 did)), ("source_address", .string (hex4 request.sourceAddress)),
     ("transport", .int (match request.transport with | .doip => 0 | .doCan => 1))]
  if did = Did.vin ∨ did = Did.bindingState then
    match d.prov with
    | none => provUnavailable
    | some h => do
      let available ← ask (.prov h .isAvailable)
      if !available then provUnavailable
      else do
        log .downstream .debug "diag.downstream.read_vin" "Calling prov->read_vin()" []
        let readResult ← ask (.prov h .readVin)
        log .downstream .debug "diag.downstream.read_vin_result" "read_vin returned"
          [("valid", .bool readResult.valid)]
        if !readResult.valid then
          pure (readRefused Nrc.conditionsNotCorrect .downstreamExecutionFailed)
        else do
          let data := didRecord did readResult
          log .response .debug "diag.uds.read_did_response" "ReadDID positive response"
            [("payload_size", .int data.length)]
          pure (createPositiveResponse UdsService.readDataByIdentifier 0 data)
  else do
    log .udsRouter .warn "diag.uds.request.rejected" "ReadDID: DID out of range"
      [("nrc", .string "0x31")]
    pure (createNegativeResponse UdsService.readDataByIdentifier Nrc.requestOutOfRange "DIAG-1004")
where
  provUnavailable : M DiagResponse := do
    log .downstream .warn "diag.downstream.call_failed" "ReadDID: PROV unavailable"
      [("downstream", .string "prov")]
    pure (readRefused Nrc.conditionsNotCorrect .provUnavailable)

/-! ## Dispatch -/

def route (d : ServiceDispatcher) (ms : Managers) (request : DiagRequest) :
    M (DiagResponse × Managers) :=
  if request.serviceId = UdsService.diagnosticSessionControl then do
    let (response, m) ← handleSessionControl ms.sessionMgr request
    pure (response, { ms with sessionMgr := m })
  else if request.serviceId = UdsService.testerPresent then do
    let (response, m) ← handleTesterPresent ms.sessionMgr request
    pure (response, { ms with sessionMgr := m })
  else if request.serviceId = UdsService.securityAccess then do
    let (response, sa) ← handleSecurityAccess ms.securityAccess request
    pure (response, { ms with securityAccess := sa })
  else if request.serviceId = UdsService.routineControl then do
    let response ← d.handleRoutineControl ms request
    pure (response, ms)
  else if request.serviceId = UdsService.readDataByIdentifier then do
    let response ← d.handleReadDataByIdentifier request
    pure (response, ms)
  else
    pure (createNegativeResponse request.serviceId Nrc.serviceNotSupported "DIAG-1004", ms)

def dispatch (d : ServiceDispatcher) (ms : Managers) (request : DiagRequest) :
    M (DiagResponse × Managers) := do
  let (response, ms) ← d.route ms request
  log .udsRouter .debug "diag.uds.request.completed" "UDS request completed"
    [("service_id", .string (zeroXDec request.serviceId)), ("positive", .bool response.positive),
     ("nrc", .string (zeroXDec response.nrc))]
  pure (response, ms)

end ServiceDispatcher
end Diag
end Tbox
