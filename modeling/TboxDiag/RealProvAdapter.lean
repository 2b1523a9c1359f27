import TboxDiag.Outside
import TboxDiag.Lib.Handler

/-!
# RealProvAdapter

The PROV object of the service: an adapter over the client of the PROV process. Like the SEC
adapter it makes sure of the connection at the head of every method, reconnecting at most once in
500 ms; `reconnect` does so at any time.

WRITE_VIN is up to two calls of the client, the VIN and then the vehicle configuration. The client
is part of the outside, behind the interface `provIpc`; `RealProvAdapter.handle` answers the PROV
calls of the service on the adapter and passes every other call on.
-/

namespace Tbox
namespace Diag

open Effects

/-! ## The client -/

/-- `prov::ErrorCode`. -/
abbrev ProvError := UInt32

namespace ProvError
abbrev success : ProvError := 0
end ProvError

/-- `prov::ProvisionState`. -/
inductive ProvisionState where
  | none
  | vinWritten
  | bound
  | failed
  | other
  deriving DecidableEq, Repr

/-- The object behind a `std::shared_ptr<prov::ProvClient>`. -/
abbrev ProvClientHandle := Nat

/-- The methods of `prov::ProvClient` the adapter calls. -/
inductive ProvClientCall where
  | isConnected
  | connect
  | disconnect
  | writeVin (vin : Bytes)
  | writeVehicleConfig (payload : Bytes)
  | readVin
  | getProvisionState
  deriving DecidableEq, Repr

abbrev ProvClientCall.Reply : ProvClientCall → Type
  | .isConnected => Bool
  | .connect => Bool
  | .disconnect => Unit
  | .writeVin _ => ProvError
  | .writeVehicleConfig _ => ProvError
  | .readVin => Bytes
  | .getProvisionState => ProvisionState

inductive ProvIpcCmd where
  | outer (c : Cmd)
  | client (h : ProvClientHandle) (c : ProvClientCall)
  /-- `steady_clock::now()` in `ensure_connected` and `reconnect`. -/
  | reconnectCheck
  deriving DecidableEq, Repr

abbrev ProvIpcCmd.Reply : ProvIpcCmd → Type
  | .outer c => c.Reply
  | .client _ c => c.Reply
  | .reconnectCheck => Unit

/-- The outside of the service and of the adapter. -/
abbrev provIpc : Sig := ⟨ProvIpcCmd, fun c => Stamped c.Reply⟩

abbrev ProvTrace := List (Event provIpc)

/-- Code over the client. -/
abbrev ProvIpc := Prog provIpc LogRecord

namespace ProvIpc

def ask (h : ProvClientHandle) (c : ProvClientCall) : ProvIpc c.Reply :=
  .call (.client h c) fun x => .pure x.reply

def now : ProvIpc Time := .call .reconnectCheck fun x => .pure x.time

/-- The adapter writes with the downstream logger. -/
def log (level : LogLevel) (event message : String) (fields : List (String × FieldValue)) :
    ProvIpc Unit :=
  Prog.emit ⟨.downstream, level, event, message, fields⟩

@[simp] theorem wp_now (Q : ProvTrace → Time → Prop) :
    wp now Q ↔ ∀ x : Stamped Unit, Q [⟨.reconnectCheck, x⟩] x.time := Iff.rfl

@[simp] theorem wp_log (level : LogLevel) (event message : String)
    (fields : List (String × FieldValue)) (Q : ProvTrace → Unit → Prop) :
    wp (log level event message fields) Q ↔ Q [] () := Iff.rfl

end ProvIpc

/-! ## Codes and texts -/

namespace NrcMapper

def provErrorToDiag (provErrorCode : UInt32) : DiagErrorCode :=
  if provErrorCode = 1001 then .securityAccessDenied
  else if provErrorCode = 1002 then .invalidRequestFormat
  else if 1003 ≤ provErrorCode ∧ provErrorCode ≤ 1010 then .downstreamExecutionFailed
  -- 9996 to 9999 are named in the source, and end like all the others
  else .internalError

/-- No code of PROV is taken for a success. -/
theorem provErrorToDiag_ne_success (provErrorCode : UInt32) :
    provErrorToDiag provErrorCode ≠ .success := by
  unfold provErrorToDiag
  split
  · simp
  split
  · simp
  split
  · simp
  · simp

end NrcMapper

/-- The bytes of a `std::string`, each as a character. -/
def bytesText (bs : Bytes) : String := String.ofList (bs.map fun b => Char.ofNat b.toNat)

def asciiBytes (s : String) : Bytes := s.toList.map fun c => UInt8.ofNat c.toNat

def bindStateName : ProvisionState → String
  | .none => "NONE"
  | .vinWritten => "VIN_WRITTEN"
  | .bound => "BOUND"
  | .failed => "FAILED"
  | .other => "UNKNOWN"

/-! ## The adapter -/

structure RealProvAdapter where
  client : Option ProvClientHandle
  connectAttempted : Bool := false
  lastConnectAttempt : Time := 0
  deriving DecidableEq, Repr

namespace RealProvAdapter

/-- `kReconnectMinInterval`, in ms. -/
abbrev reconnectMinInterval : Nat := 500

def ensureConnected (a : RealProvAdapter) : ProvIpc (Bool × RealProvAdapter) :=
  match a.client with
  | none => pure (false, a)
  | some h => do
    let connected ← ProvIpc.ask h .isConnected
    if connected then
      pure (true, a)
    else do
      -- asked again under the lock: another caller may have reconnected
      let connected ← ProvIpc.ask h .isConnected
      if connected then
        pure (true, a)
      else do
        let t ← ProvIpc.now
        if a.connectAttempted ∧ t - a.lastConnectAttempt < millis reconnectMinInterval then
          pure (false, a)
        else do
          let ok ← ProvIpc.ask h .connect
          if ok then
            ProvIpc.log .info "diag.prov.connected" "PROV IPC reconnected"
              [("downstream", .string "prov")]
          else
            ProvIpc.log .warn "diag.prov.connection_failed" "PROV IPC reconnect failed"
              [("downstream", .string "prov")]
          pure (ok, { a with connectAttempted := true, lastConnectAttempt := t })

def isAvailable (a : RealProvAdapter) : ProvIpc (Bool × RealProvAdapter) := a.ensureConnected

/-- Disconnect and connect, whenever the last attempt was. -/
def reconnect (a : RealProvAdapter) : ProvIpc (Bool × RealProvAdapter) :=
  match a.client with
  | none => pure (false, a)
  | some h => do
    let t ← ProvIpc.now
    ProvIpc.ask h .disconnect
    let ok ← ProvIpc.ask h .connect
    pure (ok, { a with connectAttempted := true, lastConnectAttempt := t })

/-- The record of a call that found no connection. -/
def logDisconnected (message operation : String) : ProvIpc Unit :=
  ProvIpc.log .error "diag.downstream.call_failed" message
    [("downstream", .string "prov"), ("operation", .string operation)]

/-- The second write; `errorText` is `prov::error_code_to_string`. -/
def writeVehicleConfig (errorText : ProvError → String) (h : ProvClientHandle) (payload : Bytes) :
    ProvIpc DiagErrorCode := do
  ProvIpc.log .info "diag.downstream.write_vehicle_config" "PROV write_vehicle_config"
    [("payload_size", .int payload.length)]
  let configResult ← ProvIpc.ask h (.writeVehicleConfig payload)
  if configResult ≠ ProvError.success then do
    ProvIpc.log .error "diag.downstream.call_failed" "PROV write_vehicle_config failed"
      [("downstream", .string "prov"), ("operation", .string "write_vehicle_config"),
       ("downstream_error_code", .string (errorText configResult))]
    pure (NrcMapper.provErrorToDiag configResult)
  else
    pure .success

def writeVin (errorText : ProvError → String) (a : RealProvAdapter) (vin payload : Bytes) :
    ProvIpc (DiagErrorCode × RealProvAdapter) := do
  let (available, a) ← a.isAvailable
  match available, a.client with
  | true, some h => do
    ProvIpc.log .info "diag.downstream.write_vin" "PROV write_vin"
      [("vin", .string (bytesText vin))]
    let result ← ProvIpc.ask h (.writeVin vin)
    if result ≠ ProvError.success then do
      ProvIpc.log .error "diag.downstream.call_failed" "PROV IPC call failed"
        [("downstream", .string "prov"), ("operation", .string "write_vin"),
         ("downstream_error_code", .int result.toInt32.toInt)]
      pure (NrcMapper.provErrorToDiag result, a)
    else if !payload.isEmpty then do
      let code ← writeVehicleConfig errorText h payload
      pure (code, a)
    else
      pure (.success, a)
  | _, _ => do
    logDisconnected "PROV IPC not connected" "write_vin"
    pure (.provIpcDisconnected, a)

def readVin (a : RealProvAdapter) : ProvIpc (VinReadResult × RealProvAdapter) := do
  let (available, a) ← a.isAvailable
  match available, a.client with
  | true, some h => do
    ProvIpc.log .debug "diag.downstream.read_vin" "Calling PROV IPC read_vin" []
    let vin ← ProvIpc.ask h .readVin
    ProvIpc.log .info "diag.downstream.read_vin_result" "PROV IPC read_vin returned" []
    let state ← ProvIpc.ask h .getProvisionState
    ProvIpc.log .debug "diag.downstream.get_provision_state" "PROV get_provision_state returned" []
    let bindState := bindStateName state
    ProvIpc.log .info "diag.downstream.read_vin_complete" "PROV read_vin complete"
      [("bind_state", .string bindState)]
    pure ({ vin, bindState := asciiBytes bindState, valid := true }, a)
  | _, _ => do
    logDisconnected "PROV IPC not connected for read" "read_vin"
    pure ({ valid := false }, a)

/-! ## Under the service -/

/-- Answer a call of `ProvInterface`. -/
def answer (errorText : ProvError → String) (a : RealProvAdapter) :
    (c : ProvCall) → ProvIpc (c.Reply × RealProvAdapter)
  | .isAvailable => a.isAvailable
  | .writeVin vin payload => writeVin errorText a vin payload
  | .readVin => a.readVin

/-- Hand a call on to the outside. -/
def passOn (a : RealProvAdapter) (c : Cmd) : ProvIpc (Stamped c.Reply × RealProvAdapter) :=
  .call (.outer c) fun x => .pure (x, a)

/-- The adapter is the one PROV object of the process. Nobody looks at the time of its answers. -/
def handle (errorText : ProvError → String) : Handler outside provIpc LogRecord RealProvAdapter
  | .prov _ c, a => do
    let (reply, a) ← answer errorText a c
    pure (⟨0, reply⟩, a)
  | c, a => a.passOn c

/-! ## What the operations can do -/

inductive Ensured (a : RealProvAdapter) : ProvTrace → Bool → RealProvAdapter → Prop where
  | noClient : a.client = none → Ensured a [] false a
  | connected {h : ProvClientHandle} {x : Stamped Bool} : a.client = some h → x.reply = true →
      Ensured a [⟨.client h .isConnected, x⟩] true a
  | reconnected {h : ProvClientHandle} {x y : Stamped Bool} : a.client = some h →
      x.reply = false → y.reply = true →
      Ensured a [⟨.client h .isConnected, x⟩, ⟨.client h .isConnected, y⟩] true a
  | throttled {h : ProvClientHandle} {x y : Stamped Bool} {t : Stamped Unit} :
      a.client = some h → x.reply = false → y.reply = false →
      a.connectAttempted = true ∧ t.time - a.lastConnectAttempt < millis reconnectMinInterval →
      Ensured a
        [⟨.client h .isConnected, x⟩, ⟨.client h .isConnected, y⟩, ⟨.reconnectCheck, t⟩] false a
  | attempted {h : ProvClientHandle} {x y z : Stamped Bool} {t : Stamped Unit} :
      a.client = some h → x.reply = false → y.reply = false →
      ¬ (a.connectAttempted = true ∧ t.time - a.lastConnectAttempt < millis reconnectMinInterval) →
      Ensured a
        [⟨.client h .isConnected, x⟩, ⟨.client h .isConnected, y⟩, ⟨.reconnectCheck, t⟩,
          ⟨.client h .connect, z⟩] z.reply
        { a with connectAttempted := true, lastConnectAttempt := t.time }

theorem ensureConnected_wp (a : RealProvAdapter) :
    wp a.ensureConnected fun tr r => Ensured a tr r.1 r.2 := by
  unfold ensureConnected
  cases hc : a.client with
  | none => exact .noClient hc
  | some h =>
    simp only [wp_bind, wp_ite, wp_pure, ProvIpc.wp_now, ProvIpc.wp_log,
      Bool.not_eq_true, List.append_nil, List.nil_append, List.cons_append]
    intro x
    refine ⟨?_, ?_⟩
    · intro hx
      exact .connected hc hx
    · intro hx y
      refine ⟨?_, ?_⟩
      · intro hy
        exact .reconnected hc hx hy
      · intro hy t
        refine ⟨?_, ?_⟩
        · intro ht
          exact .throttled hc hx hy ht
        · intro ht z
          have hend : Ensured a _ z.reply _ := .attempted hc hx hy ht
          rw [hc] at hend
          exact ⟨fun _ => hend, fun _ => hend⟩

theorem Ensured.client {a a' : RealProvAdapter} {tr : ProvTrace} {b : Bool}
    (h : Ensured a tr b a') : a'.client = a.client := by
  cases h <;> rfl

theorem Ensured.some_client {a a' : RealProvAdapter} {tr : ProvTrace}
    (h : Ensured a tr true a') : ∃ h, a.client = some h := by
  generalize hb : true = b at h
  cases h with
  | noClient _ => cases hb
  | throttled _ _ _ _ => cases hb
  | connected hc _ => exact ⟨_, hc⟩
  | reconnected hc _ _ => exact ⟨_, hc⟩
  | attempted hc _ _ _ => exact ⟨_, hc⟩

/-- The writes of WRITE_VIN, once there is a connection. -/
inductive VinWritten (vin payload : Bytes) (h : ProvClientHandle) :
    ProvTrace → DiagErrorCode → Prop where
  | refused {x : Stamped ProvError} : x.reply ≠ .success →
      VinWritten vin payload h [⟨.client h (.writeVin vin), x⟩]
        (NrcMapper.provErrorToDiag x.reply)
  | vinOnly {x : Stamped ProvError} : x.reply = .success → payload = [] →
      VinWritten vin payload h [⟨.client h (.writeVin vin), x⟩] .success
  | configRefused {x y : Stamped ProvError} : x.reply = .success → payload ≠ [] →
      y.reply ≠ .success →
      VinWritten vin payload h
        [⟨.client h (.writeVin vin), x⟩, ⟨.client h (.writeVehicleConfig payload), y⟩]
        (NrcMapper.provErrorToDiag y.reply)
  | both {x y : Stamped ProvError} : x.reply = .success → payload ≠ [] → y.reply = .success →
      VinWritten vin payload h
        [⟨.client h (.writeVin vin), x⟩, ⟨.client h (.writeVehicleConfig payload), y⟩] .success

inductive VinWrite (a : RealProvAdapter) (vin payload : Bytes) :
    ProvTrace → DiagErrorCode → Prop where
  | disconnected {tr : ProvTrace} {a' : RealProvAdapter} : Ensured a tr false a' →
      VinWrite a vin payload tr .provIpcDisconnected
  | written {h : ProvClientHandle} {tr tr' : ProvTrace} {code : DiagErrorCode}
      {a' : RealProvAdapter} : Ensured a tr true a' → VinWritten vin payload h tr' code →
      VinWrite a vin payload (tr ++ tr') code

theorem writeVin_wp (errorText : ProvError → String) (a : RealProvAdapter) (vin payload : Bytes) :
    wp (writeVin errorText a vin payload) fun tr r => VinWrite a vin payload tr r.1 := by
  unfold writeVin isAvailable
  rw [wp_bind]
  refine wp_mono a.ensureConnected_wp ?_
  rintro tr ⟨available, a'⟩ he
  cases available with
  | false => simpa [logDisconnected] using VinWrite.disconnected he
  | true =>
    obtain ⟨h, hc⟩ := he.some_client
    have hc' : a'.client = some h := he.client.trans hc
    simp only [hc', wp_bind, wp_ite, wp_pure, ProvIpc.wp_log, List.append_nil, List.nil_append,
      writeVehicleConfig, Bool.not_eq_true', List.isEmpty_eq_false_iff]
    intro x
    refine ⟨?_, ?_⟩
    · intro hx
      exact .written he (.refused hx)
    · intro hx
      rw [ne_eq, not_not] at hx
      refine ⟨?_, ?_⟩
      · intro hp y
        refine ⟨?_, ?_⟩
        · intro hy
          exact .written he (.configRefused hx hp hy)
        · intro hy
          exact .written he (.both hx hp (not_not.mp hy))
      · intro hp
        exact .written he (.vinOnly hx (not_not.mp hp))

end RealProvAdapter
end Diag
end Tbox
