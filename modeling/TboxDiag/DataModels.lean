import TboxDiag.Lib.Bytes

/-!
# DataModels

The constants and records of the diagnostic service: UDS service ids, sub-functions, identifiers
and negative response codes, timing limits, error codes, the session and security-access records,
requests and responses.

Times are readings of the steady clock in nanoseconds, its resolution; `elapsedMs` is the
`duration_cast` to whole milliseconds.
-/

namespace Tbox
namespace Diag

open Effects

abbrev Time := Nat

/-- Nanoseconds in `ms` milliseconds. -/
def millis (ms : Nat) : Time := ms * 1000000

/-- Whole milliseconds from `since` to `now`. -/
def elapsedMs (now since : Time) : Nat := (now - since) / 1000000

/-! ## Constants -/

namespace UdsService
abbrev diagnosticSessionControl : UInt8 := 0x10
abbrev testerPresent : UInt8 := 0x3E
abbrev securityAccess : UInt8 := 0x27
abbrev readDataByIdentifier : UInt8 := 0x22
abbrev routineControl : UInt8 := 0x31
end UdsService

namespace UdsSecurityLevel
/-- The level-1 requestSeed sub-function, and the key of the level-1 state. -/
abbrev level1 : UInt8 := 0x01
end UdsSecurityLevel

namespace Did
abbrev vin : UInt16 := 0xF190
abbrev bindingState : UInt16 := 0xF191
end Did

namespace Rid
abbrev writeVinRoutine : UInt16 := 0xFF00
abbrev generateKeyPair : UInt16 := 0xFF01
abbrev readCsr : UInt16 := 0xFF02
abbrev injectCertificate : UInt16 := 0xFF03
end Rid

namespace Nrc
abbrev generalReject : UInt8 := 0x10
abbrev serviceNotSupported : UInt8 := 0x11
abbrev subFunctionNotSupported : UInt8 := 0x12
abbrev incorrectMessageLength : UInt8 := 0x13
abbrev conditionsNotCorrect : UInt8 := 0x22
abbrev requestSequenceError : UInt8 := 0x24
abbrev requestOutOfRange : UInt8 := 0x31
abbrev securityAccessDenied : UInt8 := 0x33
abbrev invalidKey : UInt8 := 0x35
abbrev generalProgrammingFailure : UInt8 := 0x72
abbrev responsePending : UInt8 := 0x78
abbrev serviceNotSupportedInSession : UInt8 := 0x7F
end Nrc

namespace Timing
abbrev p2Default : UInt32 := 5000
abbrev p2Star : UInt32 := 5000
abbrev s3Default : Nat := 5000
end Timing

namespace SecurityConfig
abbrev maxAttempts : UInt32 := 3
abbrev lockoutDurationMs : Nat := 10000
end SecurityConfig

inductive TransportType where
  | doip
  | doCan
  deriving DecidableEq, Repr

/-! ## Error codes -/

inductive DiagErrorCode where
  | success
  | transportConnectionFailed
  | sessionStateNotAllowed
  | securityAccessDenied
  | invalidRequestFormat
  | downstreamExecutionFailed
  | requestTimeout
  | certGenerationFailed
  | csrCreationFailed
  | certSubmissionFailed
  | certInjectionFailed
  | configLoadFailed
  | provIpcConnectionFailed
  | provIpcTimeout
  | provIpcDisconnected
  | internalError
  | notInitialized
  | routingNotFound
  | secUnavailable
  | provUnavailable
  deriving DecidableEq, Repr

def errorCodeToString : DiagErrorCode → String
  | .success => "SUCCESS"
  | .transportConnectionFailed => "DIAG-1001"
  | .sessionStateNotAllowed => "DIAG-1002"
  | .securityAccessDenied => "DIAG-1003"
  | .invalidRequestFormat => "DIAG-1004"
  | .downstreamExecutionFailed => "DIAG-1005"
  | .requestTimeout => "DIAG-1006"
  | .certGenerationFailed => "DIAG-1007"
  | .csrCreationFailed => "DIAG-1008"
  | .certSubmissionFailed => "DIAG-1009"
  | .certInjectionFailed => "DIAG-1010"
  | .configLoadFailed => "DIAG-1011"
  | .provIpcConnectionFailed => "DIAG-9994"
  | .provIpcTimeout => "DIAG-9993"
  | .provIpcDisconnected => "DIAG-9992"
  | .internalError => "INTERNAL-9999"
  | .notInitialized => "INTERNAL-9998"
  | .routingNotFound => "INTERNAL-9997"
  | .secUnavailable => "INTERNAL-9996"
  | .provUnavailable => "INTERNAL-9995"

/-- The number of the enumerator. -/
def errorCodeValue : DiagErrorCode → Nat
  | .success => 0
  | .transportConnectionFailed => 1001
  | .sessionStateNotAllowed => 1002
  | .securityAccessDenied => 1003
  | .invalidRequestFormat => 1004
  | .downstreamExecutionFailed => 1005
  | .requestTimeout => 1006
  | .certGenerationFailed => 1007
  | .csrCreationFailed => 1008
  | .certSubmissionFailed => 1009
  | .certInjectionFailed => 1010
  | .configLoadFailed => 1011
  | .provIpcConnectionFailed => 9994
  | .provIpcTimeout => 9993
  | .provIpcDisconnected => 9992
  | .internalError => 9999
  | .notInitialized => 9998
  | .routingNotFound => 9997
  | .secUnavailable => 9996
  | .provUnavailable => 9995

/-! ## Sessions and security access -/

inductive SessionType where
  | default
  | programming
  | extended
  deriving DecidableEq, Repr

namespace SessionType

/-- The byte of the enumeration. -/
def code : SessionType → UInt8
  | .default => 0x01
  | .programming => 0x02
  | .extended => 0x03

/-- The session a byte names; every other byte is an invalid session type. -/
def ofCode? (b : UInt8) : Option SessionType :=
  if b = 0x01 then some .default
  else if b = 0x03 then some .extended
  else if b = 0x02 then some .programming
  else none

theorem ofCode?_some {b : UInt8} {s : SessionType} (h : ofCode? b = some s) : b = s.code := by
  unfold ofCode? at h
  split at h
  · cases h; assumption
  split at h
  · cases h; assumption
  split at h
  · cases h; assumption
  · cases h

end SessionType

def sessionToString : SessionType → String
  | .default => "DEFAULT"
  | .programming => "PROGRAMMING"
  | .extended => "EXTENDED"

inductive SessionState where
  | idle
  | active
  | securityUnlocked
  | timedOut
  deriving DecidableEq, Repr

def SessionState.code : SessionState → UInt8
  | .idle => 0
  | .active => 1
  | .securityUnlocked => 2
  | .timedOut => 3

structure DiagSession where
  sourceAddress : UInt16 := 0
  sessionType : SessionType := .default
  state : SessionState := .idle
  securityUnlocked : Bool := false
  transport : TransportType := .doip
  lastTesterPresentAt : Time := 0
  sessionStartedAt : Time := 0
  deriving DecidableEq, Repr

structure SecurityAccessState where
  level : UInt8 := 0
  seedRequested : Bool := false
  unlocked : Bool := false
  attemptCount : UInt32 := 0
  lockedUntil : Time := 0
  requestedSeed : Bytes := []
  deriving DecidableEq, Repr

/-! ## Routing, requests and responses -/

structure RoutingEntry where
  serviceId : UInt8
  didOrRid : UInt16
  downstream : String
  requiresUnlock : Bool
  deriving DecidableEq, Repr

structure DiagRequest where
  serviceId : UInt8 := 0
  subFunction : UInt8 := 0
  didOrRid : UInt16 := 0
  payload : Bytes := []
  sourceAddress : UInt16 := 0
  transport : TransportType := .doip
  deriving DecidableEq, Repr

structure DiagResponse where
  positive : Bool := true
  payload : Bytes := []
  nrc : UInt8 := 0
  diagErrorCode : String := ""
  serviceId : UInt8 := 0
  subFunction : UInt8 := 0
  deriving DecidableEq, Repr

/-- The sub-function without its bit 7, `suppressPosRspMsgIndicationBit`. -/
def DiagRequest.basicSubFunction (r : DiagRequest) : UInt8 := r.subFunction &&& 0x7F

end Diag
end Tbox
