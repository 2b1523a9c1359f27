import TboxDiag.Dispatched
import TboxDiag.DoIpAdapter
import TboxDiag.UdsCodec
import TboxDiag.Lib.Run

/-!
# DiagService

The service object: its dependencies, its life from `initializeService` to `shutdown`, and the two
ways a request reaches it, `processRequest` from inside the process and `processPendingRequests`
from the transport. Every public method runs under the mutex of the service, so a run of the service
is a sequence of `Op`s.

The session manager and the security access object are shared between the service and its
dispatcher; replaced ones may live on behind an old pointer, so both are kept in heaps. The IPC
server is left out.
-/

namespace Tbox
namespace Diag

open Effects

structure DiagService where
  initialized : Bool := false
  transport : Option TransportAdapter := none
  prov : Option ProvHandle := none
  sec : Option SecHandle := none
  sessionMgr : Option Ref := none
  securityAccess : Option Ref := none
  dispatcher : Option ServiceDispatcher := none
  sessionMgrs : Heap SessionManager := {}
  securityAccesses : Heap SecurityAccess := {}

namespace DiagService

/-! ## Initialisation -/

def registerDefaultRoutes (d : ServiceDispatcher) : ServiceDispatcher :=
  d.registerRoute UdsService.routineControl Rid.writeVinRoutine "PROV" true
    |>.registerRoute UdsService.routineControl Rid.generateKeyPair "SEC" true
    |>.registerRoute UdsService.routineControl Rid.readCsr "SEC" true
    |>.registerRoute UdsService.routineControl Rid.injectCertificate "SEC" true
    |>.registerRoute UdsService.readDataByIdentifier Did.vin "PROV" false
    |>.registerRoute UdsService.readDataByIdentifier Did.bindingState "PROV" false

/-- Look the sections up in turn; an exception ends the loop. -/
def applySections : List String → M DiagErrorCode
  | [] => pure .success
  | name :: names => do
    match ← ask (.getSection name) with
    | .threw what => do
      log .udsRouter .error "diag.config.loaded" "Exception during configuration application"
        [("exception", .string what)]
      pure .configLoadFailed
    | .absent => applySections names
    | .present => do
      log .udsRouter .info "diag.config.loaded" ("Loaded " ++ name ++ " configuration")
        [("section", .string name)]
      applySections names

def applyConfig : M DiagErrorCode := applySections ["timing", "security", "transport"]

def loadConfig : M DiagErrorCode := do
  match ← ask .loadConfig with
  | .notOk errorCode => do
    log .udsRouter .warn "diag.config.loaded" "Failed to load configuration, using defaults"
      [("error_code", .int errorCode.toNat)]
    pure .success
  | .noSnapshot => do
    log .udsRouter .warn "diag.config.loaded"
      "Failed to get configuration snapshot, using defaults" []
    pure .success
  | .threw what => do
    log .udsRouter .error "diag.config.loaded"
      "Exception during configuration loading, using defaults" [("exception", .string what)]
    pure .success
  | .snapshot => applyConfig

def initializeSubmodules (s : DiagService) : M (DiagErrorCode × DiagService) := do
  let m ← SessionManager.create
  let (sessionMgr, sessionMgrs) := s.sessionMgrs.alloc m
  let s := { s with sessionMgr := some sessionMgr, sessionMgrs }
  match s.sec with
  | none => do
    log .udsRouter .error "diag.downstream.call_failed" "SEC interface not set"
      [("downstream", .string "sec"), ("failure_reason", .string "interface_not_set")]
    pure (.secUnavailable, s)
  | some _ => do
    let (securityAccess, securityAccesses) :=
      s.securityAccesses.alloc (SecurityAccess.create s.sec)
    let s := { s with securityAccess := some securityAccess, securityAccesses }
    match s.prov with
    | none => do
      log .downstream .error "diag.downstream.call_failed" "PROV interface not set"
        [("downstream", .string "prov"), ("failure_reason", .string "interface_not_set")]
      pure (.provUnavailable, s)
    | some _ =>
      let d := registerDefaultRoutes
        { prov := s.prov, sec := s.sec, sessionMgr := s.sessionMgr,
          securityAccess := s.securityAccess }
      pure (.success, { s with dispatcher := some d, initialized := true })

/-- `initialize`, a reserved word here. -/
def initializeService (s : DiagService) : M (DiagErrorCode × DiagService) :=
  if s.initialized then
    pure (.success, s)
  else do
    let result ← loadConfig
    if result ≠ .success then
      pure (result, s)
    else
      s.initializeSubmodules

/-! ## Requests -/

/-- `session_mgr_->check_s3_timeout()`. A null pointer has no behaviour in the source; none is
met while the service is initialised (`Serves.session`). -/
def checkS3Timeout (s : DiagService) : M DiagService :=
  match s.sessionMgrs.deref s.sessionMgr with
  | none => pure s
  | some m => do
    let (_, m) ← m.checkS3Timeout
    pure { s with sessionMgrs := s.sessionMgrs.store s.sessionMgr m }

/-- `dispatcher_->dispatch(request)`, on the objects the dispatcher points to. -/
def dispatch (s : DiagService) (request : DiagRequest) : M (DiagResponse × DiagService) :=
  match s.dispatcher with
  | none => pure ({}, s)
  | some d =>
    match s.sessionMgrs.deref d.sessionMgr, s.securityAccesses.deref d.securityAccess with
    | some m, some sa => do
      let (response, ms) ← d.dispatch ⟨m, sa⟩ request
      pure (response,
        { s with
          sessionMgrs := s.sessionMgrs.store d.sessionMgr ms.sessionMgr
          securityAccesses := s.securityAccesses.store d.securityAccess ms.securityAccess })
    | _, _ => pure ({}, s)

def notInitializedResponse : DiagResponse :=
  { positive := false, serviceId := 0x7F, nrc := Nrc.conditionsNotCorrect,
    diagErrorCode := errorCodeToString .notInitialized }

def processRequest (s : DiagService) (request : DiagRequest) : M (DiagResponse × DiagService) :=
  if !s.initialized then
    pure (notInitializedResponse, s)
  else do
    let s ← s.checkS3Timeout
    s.dispatch request

/-- A request and the response to it. -/
structure Exchange where
  request : DiagRequest
  response : DiagResponse
  deriving DecidableEq, Repr

/-- Answer the bytes `raw` that came in on `transport`. -/
def processRaw (s : DiagService) (transport : TransportAdapter) (raw : Bytes) :
    M (Option Exchange × DiagService) := do
  match ← UdsCodec.decodeLogged raw { transport := transport.getTransportType } with
  | none => do
    log .udsRouter .error "diag.uds.decode_failed" "Failed to decode UDS request"
      [("payload_size", .int raw.length)]
    pure (none, s)
  | some request => do
    log .udsRouter .info "diag.uds.request.completed" "UDS request received"
      [("service_id", .string (hex2 request.serviceId)),
       ("sub_function", .string (hex2 request.subFunction)),
       ("did_or_rid", .string (hex4 request.didOrRid)), ("payload_size", .int raw.length)]
    let (response, s) ← s.dispatch request
    let respRaw := UdsCodec.encode response
    let sent ← transport.send respRaw
    if !sent then
      log .response .error "diag.uds.send_failed" "Failed to send UDS response" []
    log .response .info "diag.uds.response.sent" "UDS response sent"
      [("positive", .bool response.positive), ("service_id", .string (hex2 response.serviceId)),
       ("nrc", .string (hex2 response.nrc)), ("payload_size", .int respRaw.length)]
    pure (some ⟨request, response⟩, s)

/-- The source returns nothing; the exchange, if there was one, is kept for the statements. -/
def processPendingRequests (s : DiagService) : M (Option Exchange × DiagService) :=
  if !s.initialized then
    pure (none, s)
  else do
    let s ← s.checkS3Timeout
    match s.transport with
    | none => pure (none, s)
    | some transport =>
      if !transport.isConnected then do
        let (_, transport) ← transport.connect
        pure (none, { s with transport := some transport })
      else do
        let (raw, transport) ← transport.receive 0
        let s := { s with transport := some transport }
        if raw.isEmpty then
          pure (none, s)
        else
          s.processRaw transport raw

/-! ## Shutdown and dependencies -/

def disconnectTransport : Option TransportAdapter → M (Option TransportAdapter)
  | none => pure none
  | some transport => do
    let transport ← transport.disconnect
    pure (some transport)

def shutdown (s : DiagService) : M DiagService := do
  let transport ← disconnectTransport s.transport
  pure { s with
    transport
    sessionMgrs := match s.sessionMgrs.deref s.sessionMgr with
      | none => s.sessionMgrs
      | some m => s.sessionMgrs.store s.sessionMgr m.releaseSession
    securityAccesses := match s.securityAccesses.deref s.securityAccess with
      | none => s.securityAccesses
      | some sa => s.securityAccesses.store s.securityAccess sa.reset
    initialized := false }

def setTransport (s : DiagService) (transport : Option TransportAdapter) : DiagService :=
  { s with transport }

def setProv (s : DiagService) (prov : Option ProvHandle) : DiagService := { s with prov }

def setSec (s : DiagService) (sec : Option SecHandle) : DiagService :=
  let s := { s with sec }
  let s := match s.securityAccess with
    | none => s
    | some _ =>
      let (securityAccess, securityAccesses) := s.securityAccesses.alloc (SecurityAccess.create sec)
      { s with securityAccess := some securityAccess, securityAccesses }
  match s.dispatcher with
  | none => s
  | some _ =>
    { s with dispatcher := some (registerDefaultRoutes
        { prov := s.prov, sec := s.sec, sessionMgr := s.sessionMgr,
          securityAccess := s.securityAccess }) }

def getCurrentSession (s : DiagService) : DiagSession :=
  match s.sessionMgrs.deref s.sessionMgr with
  | none => {}
  | some m => m.session

/-- The security access object of the service, if it has one. -/
def currentSecurity (s : DiagService) : Option SecurityAccess :=
  s.securityAccesses.deref s.securityAccess

/-- The security access state kept for a level. -/
def securityState (s : DiagService) (level : UInt8) : SecurityAccessState :=
  match s.currentSecurity with
  | none => {}
  | some sa => sa.entry level

/-! ## Runs -/

inductive Op where
  | initializeService
  | processRequest (request : DiagRequest)
  | processPendingRequests
  | shutdown
  | setTransport (transport : Option TransportAdapter)
  | setProv (prov : Option ProvHandle)
  | setSec (sec : Option SecHandle)
  deriving DecidableEq, Repr

/-- Run one operation; the exchange is the request it handled, if any, with its response. -/
def exec (s : DiagService) : Op → M (Option Exchange × DiagService)
  | .initializeService => do
    let (_, s) ← s.initializeService
    pure (none, s)
  | .processRequest request => do
    let (response, s) ← s.processRequest request
    pure (some ⟨request, response⟩, s)
  | .processPendingRequests => s.processPendingRequests
  | .shutdown => do
    let s ← s.shutdown
    pure (none, s)
  | .setTransport transport => pure (none, s.setTransport transport)
  | .setProv prov => pure (none, s.setProv prov)
  | .setSec sec => pure (none, s.setSec sec)

/-- What is seen of one operation: its calls with their answers, and the exchange. -/
structure Step where
  op : Op
  trace : Trace
  exchange : Option Exchange

/-- One operation of the service. -/
def Does (s : DiagService) (l : Step) (s' : DiagService) : Prop :=
  ∃ lg, Exec (s.exec l.op) l.trace lg (l.exchange, s')

/-- The calls of a whole run. -/
def traceOf (ls : List Step) : Trace := ls.flatMap Step.trace

/-- A service after any run of its operations from construction on, on a clock that never goes
back. -/
def Reachable (s : DiagService) : Prop :=
  ∃ ls, Run Does {} ls s ∧ Clocked (traceOf ls)

/-- Run one operation against an oracle. -/
def playOne (s : DiagService) (op : Op) (o : Oracle) : Step × DiagService :=
  let r := (s.exec op).run o
  (⟨op, r.1, r.2.2.1⟩, r.2.2.2)

theorem playOne_does (s : DiagService) (op : Op) (o : Oracle) :
    Does s (s.playOne op o).1 (s.playOne op o).2 := by
  have h := exec_run o (s.exec op)
  exact ⟨_, h⟩

theorem playOne_answers (s : DiagService) (op : Op) (o : Oracle) :
    Answers o (s.playOne op o).1.trace := answers_run o (s.exec op)

/-- Run a list of operations, each against its own oracle. -/
def play (s : DiagService) : List (Op × Oracle) → List Step × DiagService
  | [] => ([], s)
  | (op, o) :: rest =>
    let r := s.playOne op o
    let q := play r.2 rest
    (r.1 :: q.1, q.2)

theorem play_run (s : DiagService) (script : List (Op × Oracle)) :
    Run Does s (s.play script).1 (s.play script).2 := by
  induction script generalizing s with
  | nil => exact .nil
  | cons x rest ih => exact .cons (s.playOne_does x.1 x.2) (ih _)

end DiagService

/-! ## Scenarios -/

/-- The obliging outside, but SEC rejects every key. -/
def obligingNoKey (t : Time) : Oracle
  | .sec _ (.verifyKey _ _) => ⟨t, false⟩
  | c => obliging t c

/-- A service with SEC and PROV is initialised. -/
def startScript : List (DiagService.Op × Oracle) :=
  [(.setSec (some 0), obliging 0), (.setProv (some 0), obliging 0),
   (.initializeService, obliging 0)]

/-- Tester 1 opens the extended session. -/
def extendedScript : List (DiagService.Op × Oracle) :=
  startScript ++
  [(.processRequest { serviceId := 0x10, subFunction := 0x03, sourceAddress := 1 }, obliging 0)]

/-- It then unlocks level 1. -/
def ownedScript : List (DiagService.Op × Oracle) :=
  extendedScript ++
  [(.processRequest { serviceId := 0x27, subFunction := 0x01, sourceAddress := 1 }, obliging 0),
   (.processRequest { serviceId := 0x27, subFunction := 0x02, sourceAddress := 1 }, obliging 0)]

def ownedService : DiagService := (DiagService.play {} ownedScript).2

theorem ownedService_reachable : ownedService.Reachable :=
  ⟨_, DiagService.play_run {} ownedScript, by decide⟩

/-- A tester writes a VIN. -/
def writeVinOp (sourceAddress : UInt16) : DiagService.Op :=
  .processRequest
    { serviceId := 0x31, didOrRid := 0xFF00, payload := List.replicate 17 0x41, sourceAddress }

end Diag
end Tbox
