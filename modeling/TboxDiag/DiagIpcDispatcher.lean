import TboxDiag.DiagService

/-!
# DiagIpcDispatcher

The queries other processes of the box may put to the service, and the JSON answers to them. JSON
objects are kept as values: what is dumped and parsed again is the same object, and `dumps` says
when a dump goes through. Text of the source is `text`; strings that come from PROV are `bytes`,
which may be no UTF-8.

The transport of the answers belongs to the IPC framework. The two texts of an exception are left
out of its log records.
-/

namespace Tbox
namespace Diag

open Effects

/-! ## JSON -/

inductive JsonValue where
  | bool (b : Bool)
  | int (n : Int)
  | text (s : String)
  | bytes (b : Bytes)
  deriving DecidableEq, Repr

abbrev JsonObject := List (String × JsonValue)

namespace JsonObject

/-- `j[key] = value`. -/
def set (j : JsonObject) (key : String) (value : JsonValue) : JsonObject :=
  j.filter (fun p => p.1 ≠ key) ++ [(key, value)]

def get? (j : JsonObject) (key : String) : Option JsonValue := j.lookup key

/-- `dump` throws on a string that is not UTF-8. -/
def dumps (j : JsonObject) : Bool :=
  j.all fun p =>
    match p.2 with
    | .bytes b => (ByteArray.mk b.toArray).validateUTF8
    | _ => true

end JsonObject

/-! ## The queries of the service -/

namespace DiagService

def isInitialized (s : DiagService) : Bool := s.initialized

def isTesterConnected (s : DiagService) : Bool :=
  match s.transport with
  | none => false
  | some transport => transport.isConnected

def getVehicleInfo (s : DiagService) : M VinReadResult :=
  match s.prov with
  | none => pure {}
  | some h => ask (.prov h .readVin)

end DiagService

/-! ## The dispatcher -/

namespace DiagIpcDispatcher

namespace MethodId
abbrev getServiceStatus : UInt32 := 1
abbrev getVehicleInfo : UInt32 := 2
abbrev isTesterConnected : UInt32 := 3
end MethodId

abbrev fwSerializationFailed : Int := 305
abbrev fwHandlerFailed : Int := 306

/-- `DiagErrorCode::SUCCESS`. -/
abbrev statusSuccess : Int := 0

def makeJsonResponse (status : Int) (payload : JsonObject) : JsonObject :=
  payload.set "status" (.int status)

/-- What a handler may throw. -/
inductive Thrown where
  | json
  | exception
  | other
  deriving DecidableEq, Repr

/-- How a handler ends: with a status and an object, or with an exception. -/
abbrev Outcome := Except Thrown (Int × JsonObject)

/-- The end of each handler, `return {status, j.dump()}`. -/
def dumped (j : JsonObject) : Outcome :=
  if j.dumps then .ok (statusSuccess, j) else .error .json

def sessionStateText : SessionState → String
  | .idle => "IDLE"
  | .active => "ACTIVE"
  | .securityUnlocked => "SECURITY_UNLOCKED"
  | .timedOut => "TIMED_OUT"

def handleGetServiceStatus (s : DiagService) : Outcome :=
  let initialized := s.isInitialized
  let session := s.getCurrentSession
  dumped [("initialized", .bool initialized),
    ("session_type", .text (sessionToString session.sessionType)),
    ("session_state", .text (sessionStateText session.state)),
    ("security_unlocked", .bool session.securityUnlocked),
    ("transport", .text (if session.transport = .doip then "DOIP" else "DOCAN"))]

def handleGetVehicleInfo (s : DiagService) : M Outcome := do
  let info ← s.getVehicleInfo
  if info.valid then
    pure (dumped [("valid", .bool info.valid), ("vin", .bytes info.vin),
      ("bind_state", .bytes info.bindState)])
  else
    pure (dumped [("valid", .bool info.valid)])

def handleIsTesterConnected (s : DiagService) : Outcome :=
  dumped [("connected", .bool s.isTesterConnected)]

/-- The catch clauses of `dispatch`. -/
def caught (methodId : UInt32) : Outcome → M (Int × JsonObject)
  | .ok result => pure result
  | .error .json => do
    log .ipc .error "diag.ipc.json_error" "JSON serialization error in dispatch"
      [("method_id", .int methodId.toInt32.toInt)]
    pure (fwSerializationFailed, [("error", .text "JSON error")])
  | .error .exception => do
    log .ipc .error "diag.ipc.dispatch_exception" "Exception in dispatch"
      [("method_id", .int methodId.toInt32.toInt)]
    pure (fwHandlerFailed, [("error", .text "Internal error")])
  | .error .other => do
    log .ipc .error "diag.ipc.dispatch_exception" "Unknown exception in dispatch"
      [("method_id", .int methodId.toInt32.toInt)]
    pure (fwHandlerFailed, [("error", .text "Unknown exception")])

/-- The handler of a method. -/
def handle (s : DiagService) (methodId : UInt32) : M Outcome :=
  if methodId = MethodId.getServiceStatus then
    pure (handleGetServiceStatus s)
  else if methodId = MethodId.getVehicleInfo then
    handleGetVehicleInfo s
  else if methodId = MethodId.isTesterConnected then
    pure (handleIsTesterConnected s)
  else do
    log .ipc .warn "diag.ipc.unknown_method" "Unknown method ID"
      [("method_id", .int methodId.toInt32.toInt)]
    pure (.ok (fwHandlerFailed, [("error", .text "Unknown method")]))

def dispatch (s : DiagService) (methodId : UInt32) (paramsJson : Bytes) : M JsonObject := do
  log .ipc .debug "diag.ipc.dispatch" "Dispatching request"
    [("method_id", .int methodId.toInt32.toInt), ("payload_bytes", .int paramsJson.length)]
  let outcome ← handle s methodId
  let (status, payload) ← caught methodId outcome
  log .ipc .debug "diag.ipc.dispatched" "Request dispatched"
    [("method_id", .int methodId.toInt32.toInt), ("status", .int status)]
  pure (makeJsonResponse status payload)

/-- The answer to GET_SERVICE_STATUS. -/
theorem getServiceStatus_wp (s : DiagService) (paramsJson : Bytes) :
    wp (dispatch s MethodId.getServiceStatus paramsJson) fun tr j => tr = [] ∧
      j.get? "security_unlocked" = some (.bool s.getCurrentSession.securityUnlocked) := by
  have hdumped : handleGetServiceStatus s = .ok (statusSuccess, _) := rfl
  unfold dispatch handle
  simp only [if_true, wp_bind, wp_log, wp_pure, hdumped, caught]
  exact ⟨rfl, rfl⟩

end DiagIpcDispatcher
end Diag
end Tbox
