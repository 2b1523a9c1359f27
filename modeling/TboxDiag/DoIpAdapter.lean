import TboxDiag.Outside

/-!
# DoIpAdapter

The DoIP transport: one TCP client, accepted and activated by `connect`, whose frames `receive`
reads and `send` answers. A frame is an eight-byte header (version, inverse version, type and
length, big-endian) and its payload; a diagnostic message carries the source and the target
address in its first four payload bytes.

`startServer` is not modelled: `listening` says that it has succeeded. The `MSG_WAITALL` flag of
every `recv` is part of the meaning of `SockCall.recv`: a trace has only the calls that came back,
and a call that asks for no bytes waits for one like any other (`Io.Prompt`).
-/

namespace Tbox
namespace Diag

open Effects

structure DoIpConfig where
  localAddress : UInt16 := 0x0001
  acceptTimeoutMs : UInt32 := 1000
  deriving DecidableEq, Repr

structure DoIpAdapter where
  config : DoIpConfig := {}
  serverFd : Int := -1
  clientFd : Int := -1
  connected : Bool := false
  listening : Bool := false
  remoteAddress : UInt16 := 0x0000
  deriving DecidableEq, Repr

/-- `%016x` of the hash of the address, which is the address itself. -/
def hashSourceAddress (address : UInt16) : String :=
  let ds := Nat.toDigits 16 address.toNat
  String.ofList (List.replicate (16 - ds.length) '0' ++ ds)

namespace DoIpAdapter

/-! ## Frames -/

abbrev routingActivationRequest : UInt16 := 0x0005
abbrev routingActivationResponse : UInt16 := 0x0006
abbrev diagnosticMessage : UInt16 := 0x8001
abbrev diagnosticMessageAck : UInt16 := 0x8002

/-- The largest payload `receive` takes. -/
abbrev maxPayload : UInt32 := 4096

def buildDoipFrame (payloadType : UInt16) (payload : Bytes) : Bytes :=
  let len := UInt32.ofNat payload.length
  [0x02, 0xFD, hiByte payloadType, loByte payloadType,
   byteAt len 24, byteAt len 16, byteAt len 8, byteAt len 0] ++ payload

/-- What `parseDoipFrame` gives back; a byte of the payload is `none` when it was read from beyond
the end of the vector. -/
structure ParsedFrame where
  payloadType : UInt16 := 0
  payload : List (Option UInt8) := []
  deriving DecidableEq, Repr

def parseDoipFrame (raw : Bytes) (out : ParsedFrame) : Bool × ParsedFrame :=
  match raw with
  | _ :: _ :: t₁ :: t₀ :: l₃ :: l₂ :: l₁ :: l₀ :: _ =>
    let out := { out with payloadType := ofBytes16 t₁ t₀ }
    let len := ofBytes32 l₃ l₂ l₁ l₀
    -- the sum has 32 bits
    if raw.length < (8 + len).toNat then
      (false, out)
    else
      (true, { out with payload := readFrom raw 8 len.toNat })
  | _ => (false, out)

/-- `[tester_addr(2)] [entity_addr(2)] [resp_code(1)] [reserved(4)] [oem(4)]`. -/
def activationFrame (a : DoIpAdapter) (testerAddr : UInt16) : Bytes :=
  buildDoipFrame routingActivationResponse
    ([hiByte testerAddr, loByte testerAddr,
      hiByte a.config.localAddress, loByte a.config.localAddress, 0x10] ++ List.replicate 8 0)

/-- `[source(2)] [target(2)] [ack_code(1)]`. -/
def ackFrame (a : DoIpAdapter) (srcAddr : UInt16) : Bytes :=
  buildDoipFrame diagnosticMessageAck
    [hiByte a.config.localAddress, loByte a.config.localAddress, hiByte srcAddr, loByte srcAddr,
     0x00]

/-- A UDS message to `target`, with the DoIP addressing before it. -/
def messageFrame (a : DoIpAdapter) (target : UInt16) (data : Bytes) : Bytes :=
  buildDoipFrame diagnosticMessage
    ([hiByte a.config.localAddress, loByte a.config.localAddress, hiByte target, loByte target]
      ++ data)

/-! ## Connection -/

def closeClient (a : DoIpAdapter) : M DoIpAdapter := do
  if 0 ≤ a.clientFd then
    ask (.sock (.close a.clientFd))
  log .transport .info "diag.transport.disconnected" "DoIP client disconnected" []
  pure { a with clientFd := -1, connected := false }

def disconnect (a : DoIpAdapter) : M DoIpAdapter := a.closeClient

/-- Answer a routing activation during the handshake. -/
def activate (a : DoIpAdapter) (testerAddr : UInt16) : M Bool := do
  let _ ← ask (.sock (.send a.clientFd (a.activationFrame testerAddr)))
  log .transport .info "diag.transport.routing_activated" "DoIP routing activation accepted" []
  pure true

/-- A buffer of `len` zero bytes after `recv` wrote into it. -/
def received (len : Nat) (data : Option Bytes) : Bytes :=
  let data := (data.getD []).take len
  data ++ List.replicate (len - data.length) 0

def doipHandshake (a : DoIpAdapter) : M Bool := do
  let ret ← ask (.sock (.poll a.clientFd 3000))
  if ret ≤ 0 then do
    log .transport .error "diag.transport.handshake_failed" "DoIP handshake timeout" []
    pure false
  else do
    let header ← ask (.sock (.recv a.clientFd 8))
    match header with
    | some [_, _, t₁, t₀, l₃, l₂, l₁, l₀] => do
      let payloadType := ofBytes16 t₁ t₀
      let payloadLen := ofBytes32 l₃ l₂ l₁ l₀
      if 0 < payloadLen then do
        let data ← ask (.sock (.recv a.clientFd payloadLen.toNat))
        if payloadType = routingActivationRequest then
          match received payloadLen.toNat data with
          | b₁ :: b₀ :: _ => a.activate (ofBytes16 b₁ b₀)
          | _ => a.activate 0x0000
        else unexpected payloadType
      else if payloadType = routingActivationRequest then
        a.activate 0x0000
      else unexpected payloadType
    | _ => pure false
where
  unexpected (payloadType : UInt16) : M Bool := do
    log .transport .error "diag.transport.handshake_failed"
      "Unexpected DoIP payload type during handshake" [("payload_type", .string (hex4 payloadType))]
    pure false

def connect (a : DoIpAdapter) : M (Bool × DoIpAdapter) :=
  if a.connected then
    pure (true, a)
  else if !a.listening then do
    log .transport .error "diag.transport.connection_failed" "DoIP server not started" []
    pure (false, a)
  else do
    let ret ← ask (.sock (.poll a.serverFd a.config.acceptTimeoutMs))
    if ret ≤ 0 then
      pure (false, a)
    else do
      let peer ← ask (.sock (.accept a.serverFd))
      let a := { a with clientFd := peer.fd }
      if peer.fd < 0 then do
        log .transport .error "diag.transport.accept_failed" "Failed to accept DoIP connection" []
        pure (false, a)
      else do
        log .transport .info "diag.transport.connected" "DoIP client connected"
          [("client_ip", .string peer.clientIp), ("client_port", .int peer.clientPort.toNat)]
        let a := { a with connected := true }
        log .transport .info "diag.transport.connected" "DoIP connection established"
          [("transport", .string "doip"),
           ("source_hash", .string (hashSourceAddress a.remoteAddress))]
        let ok ← a.doipHandshake
        if !ok then do
          log .transport .error "diag.transport.handshake_failed" "DoIP handshake failed" []
          let a ← a.closeClient
          pure (false, a)
        else
          pure (true, a)

/-! ## Messages -/

def send (a : DoIpAdapter) (data : Bytes) : M Bool :=
  if !a.connected ∨ a.clientFd < 0 then
    pure false
  else do
    let frame := a.messageFrame a.remoteAddress data
    let sent ← ask (.sock (.send a.clientFd frame))
    pure (decide (sent = frame.length))

/-- The payload of a routing activation request, read and answered. -/
def receiveActivation (a : DoIpAdapter) (payloadLen : Nat) : M (Bytes × DoIpAdapter) := do
  let reqPayload ← ask (.sock (.recv a.clientFd payloadLen))
  match reqPayload with
  | none => pure ([], a)
  | some payload =>
    if payload.length ≠ payloadLen then
      pure ([], a)
    else do
      let testerAddr := match payload with
        | b₁ :: b₀ :: _ => ofBytes16 b₁ b₀
        | _ => 0x0000
      let _ ← ask (.sock (.send a.clientFd (a.activationFrame testerAddr)))
      pure ([], a)

/-- The payload of a diagnostic message, read and acknowledged; the UDS bytes follow the
addresses. -/
def receiveMessage (a : DoIpAdapter) (payloadLen : Nat) : M (Bytes × DoIpAdapter) := do
  let payload ← ask (.sock (.recv a.clientFd payloadLen))
  match payload with
  | none => pure ([], a)
  | some payload =>
    if payload.length ≠ payloadLen then
      pure ([], a)
    else match payload with
      | s₁ :: s₀ :: _ :: _ :: u :: us => do
        let srcAddr := ofBytes16 s₁ s₀
        let _ ← ask (.sock (.send a.clientFd (a.ackFrame srcAddr)))
        pure (u :: us, { a with remoteAddress := srcAddr })
      -- at most four bytes: returned as they are
      | payload => pure (payload, a)

def receive (a : DoIpAdapter) (timeoutMs : UInt32) : M (Bytes × DoIpAdapter) :=
  if !a.connected ∨ a.clientFd < 0 then
    pure ([], a)
  else do
    let ret ← ask (.sock (.poll a.clientFd timeoutMs))
    if ret ≤ 0 then
      pure ([], a)
    else do
      let header ← ask (.sock (.recv a.clientFd 8))
      match header with
      | some [_, _, t₁, t₀, l₃, l₂, l₁, l₀] =>
        let payloadLen := ofBytes32 l₃ l₂ l₁ l₀
        let payloadType := ofBytes16 t₁ t₀
        if maxPayload < payloadLen then do
          log .transport .error "diag.transport.payload_too_large" "DoIP payload too large"
            [("payload_size", .int payloadLen.toNat)]
          pure ([], a)
        else if payloadType = routingActivationRequest then
          a.receiveActivation payloadLen.toNat
        else if payloadType ≠ diagnosticMessage then
          pure ([], a)
        else
          a.receiveMessage payloadLen.toNat
      | _ => pure ([], { a with connected := false })

end DoIpAdapter

/-! ## Transports -/

/-- The DoCAN adapter, whose socket code is not written yet. -/
structure DoCanAdapter where
  connected : Bool := false
  deriving DecidableEq, Repr

/-- The objects behind a `std::shared_ptr<TransportAdapter>`. -/
inductive TransportAdapter where
  | doip (a : DoIpAdapter)
  | doCan (a : DoCanAdapter)
  deriving DecidableEq, Repr

namespace TransportAdapter

def isConnected : TransportAdapter → Bool
  | .doip a => a.connected
  | .doCan a => a.connected

def getTransportType : TransportAdapter → TransportType
  | .doip _ => .doip
  | .doCan _ => .doCan

def connect : TransportAdapter → M (Bool × TransportAdapter)
  | .doip a => do
    let (ok, a) ← a.connect
    pure (ok, .doip a)
  | .doCan a => pure (true, .doCan { a with connected := true })

def disconnect : TransportAdapter → M TransportAdapter
  | .doip a => do
    let a ← a.disconnect
    pure (.doip a)
  | .doCan a => pure (.doCan { a with connected := false })

def send : TransportAdapter → Bytes → M Bool
  | .doip a, data => a.send data
  | .doCan a, _ => pure a.connected

def receive : TransportAdapter → UInt32 → M (Bytes × TransportAdapter)
  | .doip a, timeoutMs => do
    let (data, a) ← a.receive timeoutMs
    pure (data, .doip a)
  | .doCan a, _ => pure ([], .doCan a)

end TransportAdapter

/-! ## What the transport calls

Nothing but sockets, and once a client is accepted nothing but polls, reads and writes of its
socket, up to the moment it is closed. -/

namespace DoIpAdapter

/-- `P` holds of polling, reading and writing the socket `fd`. -/
structure Talks (P : Cmd → Prop) (fd : Int) : Prop where
  poll (timeoutMs : UInt32) : P (.sock (.poll fd timeoutMs))
  recv (len : Nat) : P (.sock (.recv fd len))
  send (data : Bytes) : P (.sock (.send fd data))

theorem talks_aside (fd : Int) : Talks Cmd.aside fd :=
  ⟨fun _ => trivial, fun _ => trivial, fun _ => trivial⟩

section
variable {P : Cmd → Prop} {a : DoIpAdapter} (h : Talks P a.clientFd)
include h

theorem activate_issues (testerAddr : UInt16) : Issues P (a.activate testerAddr) := by
  unfold activate
  refine issues_bind (issues_ask (h.send _)) fun _ => ?_
  exact issues_bind issues_log fun _ => issues_pure

theorem doipHandshake_issues : Issues P a.doipHandshake := by
  have unexpected (payloadType : UInt16) : Issues P (doipHandshake.unexpected payloadType) :=
    issues_bind issues_log fun _ => issues_pure
  unfold doipHandshake
  refine issues_bind (issues_ask (h.poll _)) fun ret => issues_ite ?_ ?_
  · exact issues_bind issues_log fun _ => issues_pure
  refine issues_bind (issues_ask (h.recv _)) fun header => ?_
  split
  · refine issues_ite ?_ ?_
    · refine issues_bind (issues_ask (h.recv _)) fun data => issues_ite ?_ (unexpected _)
      split
      · exact activate_issues h _
      · exact activate_issues h _
    · exact issues_ite (activate_issues h _) (unexpected _)
  · exact issues_pure

theorem send_issues (data : Bytes) : Issues P (a.send data) := by
  unfold send
  refine issues_ite issues_pure ?_
  exact issues_bind (issues_ask (h.send _)) fun _ => issues_pure

theorem receiveActivation_issues (payloadLen : Nat) :
    Issues P (a.receiveActivation payloadLen) := by
  unfold receiveActivation
  refine issues_bind (issues_ask (h.recv _)) fun reqPayload => ?_
  split
  · exact issues_pure
  · refine issues_ite issues_pure ?_
    exact issues_bind (issues_ask (h.send _)) fun _ => issues_pure

theorem receiveMessage_issues (payloadLen : Nat) : Issues P (a.receiveMessage payloadLen) := by
  unfold receiveMessage
  refine issues_bind (issues_ask (h.recv _)) fun payload => ?_
  split
  · exact issues_pure
  · refine issues_ite issues_pure ?_
    split
    · exact issues_bind (issues_ask (h.send _)) fun _ => issues_pure
    · exact issues_pure

theorem receive_issues (timeoutMs : UInt32) : Issues P (a.receive timeoutMs) := by
  unfold receive
  refine issues_ite issues_pure ?_
  refine issues_bind (issues_ask (h.poll _)) fun ret => issues_ite issues_pure ?_
  refine issues_bind (issues_ask (h.recv _)) fun header => ?_
  split
  · refine issues_ite (issues_bind issues_log fun _ => issues_pure) ?_
    refine issues_ite (receiveActivation_issues h _) (issues_ite issues_pure ?_)
    exact receiveMessage_issues h _
  · exact issues_pure

end

variable (a : DoIpAdapter)

theorem closeClient_aside : Aside a.closeClient := by
  unfold closeClient
  refine issues_ite (issues_bind aside_sock fun _ => ?_) ?_
  · exact issues_bind aside_log fun _ => issues_pure
  · exact issues_bind aside_log fun _ => issues_pure

theorem connect_aside : Aside a.connect := by
  unfold connect
  refine issues_ite issues_pure (issues_ite ?_ ?_)
  · exact issues_bind aside_log fun _ => issues_pure
  refine issues_bind aside_sock fun ret => issues_ite issues_pure ?_
  refine issues_bind aside_sock fun peer => issues_ite ?_ ?_
  · exact issues_bind aside_log fun _ => issues_pure
  refine issues_bind aside_log fun _ => issues_bind aside_log fun _ => ?_
  refine issues_bind (doipHandshake_issues (talks_aside _)) fun ok => issues_ite ?_ issues_pure
  refine issues_bind aside_log fun _ => ?_
  exact issues_bind (closeClient_aside _) fun _ => issues_pure

end DoIpAdapter

namespace TransportAdapter

variable (a : TransportAdapter)

theorem connect_aside : Aside a.connect := by
  cases a with
  | doip a => exact issues_bind a.connect_aside fun _ => issues_pure
  | doCan a => exact issues_pure

theorem disconnect_aside : Aside a.disconnect := by
  cases a with
  | doip a => exact issues_bind a.closeClient_aside fun _ => issues_pure
  | doCan a => exact issues_pure

theorem send_aside (data : Bytes) : Aside (a.send data) := by
  cases a with
  | doip a => exact DoIpAdapter.send_issues (DoIpAdapter.talks_aside _) data
  | doCan a => exact issues_pure

theorem receive_aside (timeoutMs : UInt32) :
    Aside (a.receive timeoutMs) := by
  cases a with
  | doip a =>
    refine issues_bind ?_ fun _ => issues_pure
    exact DoIpAdapter.receive_issues (DoIpAdapter.talks_aside _) timeoutMs
  | doCan a => exact issues_pure

end TransportAdapter
end Diag
end Tbox
