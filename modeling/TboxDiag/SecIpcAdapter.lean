import TboxDiag.Outside
import TboxDiag.Lib.Handler

/-!
# SecIpcAdapter

The SEC object of the service: an adapter over the client of the SEC process. Every method begins
by making sure that the client is connected, reconnecting at most once in 500 ms, and turns the
client's error code into the `bool` of the interface.

The client is part of the outside, behind the interface `ipc`; `SecIpcAdapter.handle` answers the
SEC calls of the service on the adapter and passes every other call on. The mutex is not modelled:
every caller holds the mutex of the service.
-/

namespace Tbox
namespace Diag

open Effects

/-! ## The client -/

/-- `tbox::sec::ErrorCode`. -/
abbrev SecError := UInt32

namespace SecError
abbrev success : SecError := 0
abbrev connectionFailed : SecError := 8005
end SecError

/-- The object behind a `std::shared_ptr<sec::SecClient>`. -/
abbrev ClientHandle := Nat

/-- The methods of `sec::SecClient` the adapter calls. -/
inductive ClientCall where
  | isConnected
  | connect
  | getSeed (level : UInt8)
  | verifyKey (level : UInt8) (key : Bytes)
  | generateKeyPair
  | getCsr
  | injectCertificate (certDer : Bytes)
  deriving DecidableEq, Repr

/-- What a method returns, its output parameters included. -/
abbrev ClientCall.Reply : ClientCall → Type
  | .isConnected => Bool
  | .connect => Bool
  | .getSeed _ => SecError × Bytes
  | .verifyKey _ _ => SecError
  | .generateKeyPair => SecError
  | .getCsr => SecError × Bytes
  | .injectCertificate _ => SecError

inductive IpcCmd where
  | outer (c : Cmd)
  | client (h : ClientHandle) (c : ClientCall)
  /-- `steady_clock::now()` in `ensure_connected`. -/
  | reconnectCheck
  deriving DecidableEq, Repr

abbrev IpcCmd.Reply : IpcCmd → Type
  | .outer c => c.Reply
  | .client _ c => c.Reply
  | .reconnectCheck => Unit

/-- The outside of the service and of the adapter. -/
abbrev ipc : Sig := ⟨IpcCmd, fun c => Stamped c.Reply⟩

abbrev IpcTrace := List (Event ipc)

/-- Code over the client. -/
abbrev Ipc := Prog ipc LogRecord

def askClient (h : ClientHandle) (c : ClientCall) : Ipc c.Reply :=
  .call (.client h c) fun x => .pure x.reply

def reconnectCheck : Ipc Time := .call .reconnectCheck fun x => .pure x.time

/-- The adapter writes with the downstream logger. -/
def logDownstream (level : LogLevel) (event message : String)
    (fields : List (String × FieldValue)) : Ipc Unit :=
  Prog.emit ⟨.downstream, level, event, message, fields⟩

@[simp] theorem wp_reconnectCheck (Q : IpcTrace → Time → Prop) :
    wp reconnectCheck Q ↔ ∀ x : Stamped Unit, Q [⟨.reconnectCheck, x⟩] x.time := Iff.rfl

@[simp] theorem wp_logDownstream (level : LogLevel) (event message : String)
    (fields : List (String × FieldValue)) (Q : IpcTrace → Unit → Prop) :
    wp (logDownstream level event message fields) Q ↔ Q [] () := Iff.rfl

/-! ## The adapter -/

structure SecIpcAdapter where
  client : Option ClientHandle
  connectAttempted : Bool := false
  lastConnectAttempt : Time := 0
  deriving DecidableEq, Repr

namespace SecIpcAdapter

/-- `kReconnectMinInterval`, in ms. -/
abbrev reconnectMinInterval : Nat := 500

def ensureConnected (a : SecIpcAdapter) : Ipc (Bool × SecIpcAdapter) :=
  match a.client with
  | none => pure (false, a)
  | some h => do
    let connected ← askClient h .isConnected
    if connected then
      pure (true, a)
    else do
      -- asked again under the lock: another caller may have reconnected
      let connected ← askClient h .isConnected
      if connected then
        pure (true, a)
      else do
        let t ← reconnectCheck
        if a.connectAttempted ∧ t - a.lastConnectAttempt < millis reconnectMinInterval then
          pure (false, a)
        else do
          let ok ← askClient h .connect
          if ok then
            logDownstream .info "diag.sec.connected" "SEC IPC reconnected"
              [("downstream", .string "sec-ipc")]
          else
            logDownstream .warn "diag.sec.connection_failed" "SEC IPC reconnect failed"
              [("downstream", .string "sec-ipc")]
          pure (ok, { a with connectAttempted := true, lastConnectAttempt := t })

def isAvailable (a : SecIpcAdapter) : Ipc (Bool × SecIpcAdapter) := a.ensureConnected

/-- How every operation begins: without a connection it gives up. -/
def withClient {α : Type} (a : SecIpcAdapter) (operation : String) (refused : α)
    (k : ClientHandle → SecIpcAdapter → Ipc (α × SecIpcAdapter)) :
    Ipc (α × SecIpcAdapter) := do
  let (available, a) ← a.isAvailable
  match available, a.client with
  | true, some h => k h a
  | _, _ => do
    logDownstream .error "diag.downstream.call_failed" "SEC IPC client not connected"
      [("downstream", .string "sec-ipc"), ("operation", .string operation)]
    pure (refused, a)

/-- The record of an operation the client did not succeed with. -/
def logFailed (operation : String) (result : SecError)
    (reason : List (String × FieldValue)) : Ipc Unit :=
  logDownstream .error "diag.downstream.call_failed" ("SEC IPC " ++ operation ++ " failed")
    ([("downstream", .string "sec-ipc"), ("operation", .string operation),
      ("downstream_error_code", .int result.toInt32.toInt)] ++ reason)

def logSucceeded (operation : String) (fields : List (String × FieldValue)) : Ipc Unit :=
  logDownstream .info ("diag.downstream.sec_ipc_" ++ operation)
    ("SEC IPC " ++ operation ++ " succeeded") fields

/-- A connection that SEC closed while it was idle is found out by the first call on it; asking for
a seed once more does no harm. -/
def retrySeed (a : SecIpcAdapter) (h : ClientHandle) (level : UInt8) (result : SecError × Bytes) :
    Ipc ((SecError × Bytes) × SecIpcAdapter) :=
  if result.1 = SecError.connectionFailed then do
    let (connected, a) ← a.ensureConnected
    if connected then do
      logDownstream .warn "diag.downstream.call_failed"
        "SEC IPC get_seed hit a stale connection, retrying once after reconnect"
        [("downstream", .string "sec-ipc"), ("operation", .string "get_seed")]
      let result ← askClient h (.getSeed level)
      pure (result, a)
    else
      pure (result, a)
  else
    pure (result, a)

def getSeed (a : SecIpcAdapter) (level : UInt8) : Ipc ((Bool × Bytes) × SecIpcAdapter) :=
  a.withClient "get_seed" (false, []) fun h a => do
    let result ← askClient h (.getSeed level)
    let ((result, seed), a) ← a.retrySeed h level result
    if result ≠ SecError.success then do
      logFailed "get_seed" result []
      pure ((false, seed), a)
    else do
      logSucceeded "get_seed"
        [("security_level", .string (hex2 level)), ("seed_size", .int seed.length)]
      pure ((true, seed), a)

/-- Never tried again: a key that is replayed would count twice. -/
def verifyKey (a : SecIpcAdapter) (level : UInt8) (key : Bytes) : Ipc (Bool × SecIpcAdapter) :=
  a.withClient "verify_key" false fun h a => do
    let result ← askClient h (.verifyKey level key)
    if result ≠ SecError.success then do
      logFailed "verify_key" result []
      pure (false, a)
    else do
      logSucceeded "verify_key" [("security_level", .string (hex2 level))]
      pure (true, a)

def generateKeyPair (a : SecIpcAdapter) : Ipc (Bool × SecIpcAdapter) :=
  a.withClient "generate_key_pair" false fun h a => do
    let result ← askClient h .generateKeyPair
    if result ≠ SecError.success then do
      logFailed "generate_key_pair" result []
      pure (false, a)
    else do
      logSucceeded "generate_key_pair" []
      pure (true, a)

def getCsr (a : SecIpcAdapter) : Ipc ((Bool × Bytes) × SecIpcAdapter) :=
  a.withClient "get_csr" (false, []) fun h a => do
    let (result, csrDer) ← askClient h .getCsr
    if result ≠ SecError.success then do
      logFailed "get_csr" result []
      pure ((false, csrDer), a)
    else do
      logSucceeded "get_csr" [("csr_size", .int csrDer.length)]
      pure ((true, csrDer), a)

def mapSecError (code : SecError) : CertInjectFailure :=
  if code = 8001 then .stateNotAllowed
  else if code = 8002 ∨ code = 8005 then .secUnavailable
  else if code = 1003 then .stateNotAllowed
  else if code = 4001 then .invalidFormat
  else if code = 4002 then .keyMismatch
  else if code = 4003 then .certExpired
  else if code = 4004 then .storageFailed
  else .unknown

def injectCertificate (a : SecIpcAdapter) (certDer : Bytes) :
    Ipc ((Bool × CertInjectFailure) × SecIpcAdapter) :=
  a.withClient "inject_certificate" (false, .secUnavailable) fun h a => do
    let result ← askClient h (.injectCertificate certDer)
    if result ≠ SecError.success then do
      let failure := mapSecError result
      logFailed "inject_certificate" result
        [("failure_reason", .string (certInjectFailureName failure))]
      pure ((false, failure), a)
    else do
      logSucceeded "inject_certificate" []
      pure ((true, .none), a)

/-! ## Under the service -/

/-- Answer a call of `SecInterface`. -/
def answer (a : SecIpcAdapter) : (c : SecCall) → Ipc (c.Reply × SecIpcAdapter)
  | .isAvailable => a.isAvailable
  | .getSeed level => a.getSeed level
  | .verifyKey level key => a.verifyKey level key
  | .generateKeyPair => a.generateKeyPair
  | .getCsr => a.getCsr
  | .injectCertificate certDer => a.injectCertificate certDer

/-- Hand a call on to the outside. -/
def passOn (a : SecIpcAdapter) (c : Cmd) : Ipc (Stamped c.Reply × SecIpcAdapter) :=
  .call (.outer c) fun x => .pure (x, a)

/-- The adapter is the one SEC object of the process. Nobody looks at the time of its answers. -/
def handle : Handler outside ipc LogRecord SecIpcAdapter
  | .sec _ c, a => do
    let (reply, a) ← a.answer c
    pure (⟨0, reply⟩, a)
  | c, a => a.passOn c

/-! ## What the operations can do -/

inductive Ensured (a : SecIpcAdapter) : IpcTrace → Bool → SecIpcAdapter → Prop where
  | noClient : a.client = none → Ensured a [] false a
  | connected {h : ClientHandle} {x : Stamped Bool} : a.client = some h → x.reply = true →
      Ensured a [⟨.client h .isConnected, x⟩] true a
  | reconnected {h : ClientHandle} {x y : Stamped Bool} : a.client = some h → x.reply = false →
      y.reply = true →
      Ensured a [⟨.client h .isConnected, x⟩, ⟨.client h .isConnected, y⟩] true a
  | throttled {h : ClientHandle} {x y : Stamped Bool} {t : Stamped Unit} : a.client = some h →
      x.reply = false → y.reply = false →
      a.connectAttempted = true ∧ t.time - a.lastConnectAttempt < millis reconnectMinInterval →
      Ensured a
        [⟨.client h .isConnected, x⟩, ⟨.client h .isConnected, y⟩, ⟨.reconnectCheck, t⟩] false a
  | attempted {h : ClientHandle} {x y z : Stamped Bool} {t : Stamped Unit} : a.client = some h →
      x.reply = false → y.reply = false →
      ¬ (a.connectAttempted = true ∧ t.time - a.lastConnectAttempt < millis reconnectMinInterval) →
      Ensured a
        [⟨.client h .isConnected, x⟩, ⟨.client h .isConnected, y⟩, ⟨.reconnectCheck, t⟩,
          ⟨.client h .connect, z⟩] z.reply
        { a with connectAttempted := true, lastConnectAttempt := t.time }

theorem ensureConnected_wp (a : SecIpcAdapter) :
    wp a.ensureConnected fun tr r => Ensured a tr r.1 r.2 := by
  unfold ensureConnected
  cases hc : a.client with
  | none => exact .noClient hc
  | some h =>
    simp only [wp_bind, wp_ite, wp_pure, wp_reconnectCheck, wp_logDownstream,
      Bool.not_eq_true, List.append_nil, List.nil_append, List.cons_append]
    intro x
    refine ⟨?_, ?_⟩
    · intro hx
      exact .connected hc hx
    · intro hx y
      refine ⟨?_, ?_⟩
      · intro hy
        exact .reconnected hc hx hy
      · intro hy t
        refine ⟨?_, ?_⟩
        · intro ht
          exact .throttled hc hx hy ht
        · intro ht z
          have hend : Ensured a _ z.reply _ := .attempted hc hx hy ht
          rw [hc] at hend
          exact ⟨fun _ => hend, fun _ => hend⟩

theorem Ensured.client {a a' : SecIpcAdapter} {tr : IpcTrace} {b : Bool}
    (h : Ensured a tr b a') : a'.client = a.client := by
  cases h <;> rfl

theorem Ensured.some_client {a a' : SecIpcAdapter} {tr : IpcTrace}
    (h : Ensured a tr true a') : ∃ h, a.client = some h := by
  generalize hb : true = b at h
  cases h with
  | noClient _ => cases hb
  | throttled _ _ _ _ => cases hb
  | connected hc _ => exact ⟨_, hc⟩
  | reconnected hc _ _ => exact ⟨_, hc⟩
  | attempted hc _ _ _ => exact ⟨_, hc⟩

/-- An operation after the availability check: refused without a connection, or on to `K`. -/
inductive WithClient {α : Type} (a : SecIpcAdapter) (refused : α)
    (K : ClientHandle → IpcTrace → α → Prop) : IpcTrace → α → Prop where
  | unavailable {tr : IpcTrace} {a' : SecIpcAdapter} : Ensured a tr false a' →
      WithClient a refused K tr refused
  | ready {h : ClientHandle} {tr tr' : IpcTrace} {r : α} {a' : SecIpcAdapter} :
      a.client = some h → Ensured a tr true a' → K h tr' r → WithClient a refused K (tr ++ tr') r

theorem withClient_wp {α : Type} (a : SecIpcAdapter) {operation : String} {refused : α}
    {k : ClientHandle → SecIpcAdapter → Ipc (α × SecIpcAdapter)}
    {K : ClientHandle → IpcTrace → α → Prop}
    (hk : ∀ h a, wp (k h a) fun tr r => K h tr r.1) :
    wp (a.withClient operation refused k) fun tr r => WithClient a refused K tr r.1 := by
  unfold withClient isAvailable
  rw [wp_bind]
  refine wp_mono a.ensureConnected_wp ?_
  rintro tr ⟨available, a'⟩ he
  cases available with
  | false => simpa using WithClient.unavailable (K := K) he
  | true =>
    obtain ⟨h, hc⟩ := he.some_client
    have hc' : a'.client = some h := he.client.trans hc
    simp only [hc']
    refine wp_mono (hk h a') ?_
    intro tr' r hK
    exact .ready hc he hK

/-- The one call behind `verify_key`. -/
inductive KeyAsked (level : UInt8) (key : Bytes) (h : ClientHandle) : IpcTrace → Bool → Prop where
  | accepted {x : Stamped SecError} : x.reply = .success →
      KeyAsked level key h [⟨.client h (.verifyKey level key), x⟩] true
  | failed {x : Stamped SecError} : x.reply ≠ .success →
      KeyAsked level key h [⟨.client h (.verifyKey level key), x⟩] false

theorem verifyKey_wp (a : SecIpcAdapter) (level : UInt8) (key : Bytes) :
    wp (a.verifyKey level key) fun tr r => WithClient a false (KeyAsked level key) tr r.1 := by
  unfold verifyKey
  refine a.withClient_wp ?_
  intro h a
  simp only [wp_bind, wp_ite, wp_pure, logFailed, logSucceeded, wp_logDownstream,
    List.append_nil]
  intro x
  refine ⟨?_, ?_⟩
  · intro hx
    exact .failed hx
  · intro hx
    exact .accepted (not_not.mp hx)

end SecIpcAdapter
end Diag
end Tbox
