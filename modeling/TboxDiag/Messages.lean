import TboxDiag.Frames
import TboxDiag.Ownership

/-!
# Messages

The initialised service at work on the byte stream of one client. A `Message` is a diagnostic
message a tester sends; each `processPendingRequests` that finds one answers it (`Handled`), and
one that finds nothing leaves the connection as it was.

* `Looks`: one call of `processPendingRequests` with the bytes that wait to be read.
* `Linked`: what stays true of the service: it is initialised, and its transport is the adapter it
  started with, up to the remote address.
* `Linked.idle`, `Linked.message`: what one look does.
-/

namespace Tbox
namespace Diag

open Effects DiagService DoIpAdapter

/-- A diagnostic message as a tester sends it: the addresses, and at least one byte of UDS. -/
structure Message where
  version : UInt8 := 0x02
  inverse : UInt8 := 0xFD
  source : UInt16
  target : UInt16
  uds : Bytes
  nonempty : uds ≠ []
  short : uds.length ≤ 4092

namespace Message

def payload (m : Message) : Bytes :=
  [hiByte m.source, loByte m.source, hiByte m.target, loByte m.target] ++ m.uds

theorem payload_length (m : Message) : m.payload.length = m.uds.length + 4 := by
  simp [payload]

def frame (m : Message) : Frame where
  version := m.version
  inverse := m.inverse
  payloadType := diagnosticMessage
  payload := m.payload
  fits := by
    have := m.short
    rw [payload_length]
    omega

/-- What the service decodes the message into, if it does. -/
def decoded (m : Message) : Option DiagRequest := UdsCodec.decode m.uds { transport := .doip }

end Message

/-- The messages, one after the other. -/
abbrev streamOf (ms : List Message) : Bytes := stream (ms.map Message.frame)

/-- A message is read to its end and acknowledged, and its UDS bytes are returned. -/
theorem DoIpAdapter.Took.message_inv {a a' : DoIpAdapter} {m : Message} {ios : List Io}
    {raw left : Bytes} (h : Took a m.frame ios raw a' left) :
    (∃ sent, ios = [.other, .read 8 (some m.frame.header),
        .read m.payload.length (some m.payload), .write (a.ackFrame m.source) sent]) ∧
      raw = m.uds ∧ a' = { a with remoteAddress := m.source } ∧ left = [] := by
  have hlen : m.frame.payload.length = m.uds.length + 4 := m.payload_length
  have hshort := m.short
  cases h with
  | oversized hbig => omega
  | activation _ htype => cases htype
  | unknown _ _ htype => exact absurd rfl htype
  | @message s₁ s₀ t₁ t₀ u us sent _ _ hp =>
    have hp : m.payload = s₁ :: s₀ :: t₁ :: t₀ :: u :: us := hp
    rw [Message.payload, List.cons_append, List.cons_append, List.cons_append, List.cons_append,
      List.nil_append] at hp
    injection hp with h₁ hp
    injection hp with h₂ hp
    injection hp with _ hp
    injection hp with _ hp
    have hsource : ofBytes16 s₁ s₀ = m.source := by rw [← h₁, ← h₂, ofBytes16_hi_lo]
    rw [hsource]
    exact ⟨⟨sent, rfl⟩, hp.symm, rfl, rfl⟩
  | tiny hfour _ =>
    have hpos := List.length_pos_of_ne_nil m.nonempty
    omega

/-! ## The trace of a look -/

section
variable (fd : Int) {tr : Trace}

/-- What handlers call is no act on the connection. -/
theorem ioOf_attended {e : Event outside} (h : ¬ e.cmd.aside) :
    ioOf fd e = .other ∧ foundOf fd e = false := by
  obtain ⟨c, x⟩ := e
  cases c with
  | sock c => exact absurd trivial h
  | _ => exact ⟨rfl, rfl⟩

theorem idle_attended (h : ∀ e ∈ tr, ¬ e.cmd.aside) :
    Idle (iosOf fd tr) ∧ found fd tr = false := by
  refine ⟨?_, ?_⟩
  · intro io hio
    obtain ⟨e, he, rfl⟩ := List.mem_map.mp hio
    exact (ioOf_attended fd (h e he)).1
  · refine List.any_eq_false.mpr fun e he => ?_
    rw [(ioOf_attended fd (h e he)).2]
    simp

theorem SessionManager.S3Checked.idle {m m' : SessionManager} {b : Bool}
    (h : m.S3Checked tr b m') : Idle (iosOf fd tr) ∧ found fd tr = false := by
  refine idle_attended fd fun e he => ?_
  rcases h.once with rfl | ⟨x, rfl⟩
  · cases he
  · rw [List.mem_singleton.mp he]
    exact id

end

theorem send_found (fd : Int) (a : DoIpAdapter) (data : Bytes) :
    wp (a.send data) fun tr _ => found fd tr = false := by
  unfold send
  rw [wp_ite]
  refine ⟨?_, ?_⟩
  · intro _
    rfl
  · intro _
    refine wp_ask_bind.mpr ?_
    intro _
    rfl

theorem send_acts {a : DoIpAdapter} (hup : a.Up) (data : Bytes) : wp (a.send data) fun tr _ =>
    ∃ sent, iosOf a.clientFd tr = [.write (a.messageFrame a.remoteAddress data) sent] := by
  unfold send
  rw [if_neg hup.not_down]
  refine wp_ask_bind.mpr fun x => ⟨x.reply, ?_⟩
  simp

/-! ## One look -/

/-- A call of `processPendingRequests`: the service before it, its calls, and the exchange if there
was one. -/
structure Look where
  before : DiagService
  trace : Trace
  exchange : Option Exchange

/-- The session record before the look. -/
def Look.session (l : Look) : DiagSession := l.before.getCurrentSession

/-- One call on the bytes that wait to be read on `fd`. -/
def Looks (fd : Int) (s : DiagService × Bytes) (l : Look) (s' : DiagService × Bytes) : Prop :=
  Does s.1 ⟨.processPendingRequests, l.trace, l.exchange⟩ s'.1 ∧
    l.before = s.1 ∧ Wire s.2 (iosOf fd l.trace) s'.2

/-- Every send in the look goes out whole. -/
def Look.Whole (fd : Int) (l : Look) : Prop := ∀ io ∈ iosOf fd l.trace, io.Whole

/-- The service serves `v`, and its transport is `a` up to the remote address. -/
structure Linked (a : DoIpAdapter) (s : DiagService) (v : View) : Prop where
  serves : Serves s v
  transport : ∃ remoteAddress, s.transport = some (.doip { a with remoteAddress })
  active : Active v.managers.sessionMgr

/-- What a look makes of the message `m`, on a service that serves `v`. -/
inductive Handled (a : DoIpAdapter) (v : View) (m : Message) (l : Look) : Prop where
  | dropped : m.decoded = none → l.exchange = none →
      (l.Whole a.clientFd → written (iosOf a.clientFd l.trace) = a.ackFrame m.source) →
      Handled a v m l
  | answered {request : DiagRequest} {response : DiagResponse} {tr₀ tr : Trace} {b : Bool}
      {sm : SessionManager} {ms : Managers} :
      m.decoded = some request → l.exchange = some ⟨request, response⟩ →
      v.managers.sessionMgr.S3Checked tr₀ b sm → (∀ e ∈ tr₀, e ∈ l.trace) →
      v.dispatcher.Dispatched (v.withSession sm).managers request tr response ms →
      (l.Whole a.clientFd → written (iosOf a.clientFd l.trace) =
        a.ackFrame m.source ++ a.messageFrame m.source (UdsCodec.encode response)) →
      Handled a v m l

section
variable {a : DoIpAdapter} {s s' : DiagService} {v : View} {l : Look} {input tail rest : Bytes}

/-- One look at an adapter with a client: `Serves.Pending` on a service that is `Linked`. -/
inductive Looked (a : DoIpAdapter) (v : View) :
    Trace → Option Exchange → DiagService → Prop where
  | dropped {remoteAddress : UInt16} {a' : DoIpAdapter} {tr₀ tr₁ : Trace} {b : Bool}
      {sm : SessionManager} {lg : List LogRecord} {raw : Bytes} {s' : DiagService} :
      v.managers.sessionMgr.S3Checked tr₀ b sm →
      Exec (DoIpAdapter.receive { a with remoteAddress } 0) tr₁ lg (raw, a') →
      UdsCodec.decode raw { transport := .doip } = none →
      Serves s' (v.withSession sm) → s'.transport = some (.doip a') →
      Looked a v (tr₀ ++ tr₁) none s'
  | answered {remoteAddress : UInt16} {a' : DoIpAdapter} {tr₀ tr₁ tr₂ tr₃ : Trace} {b sent : Bool}
      {sm : SessionManager} {lg lg' : List LogRecord} {raw : Bytes} {request : DiagRequest}
      {response : DiagResponse} {ms : Managers} {s' : DiagService} :
      v.managers.sessionMgr.S3Checked tr₀ b sm →
      Exec (DoIpAdapter.receive { a with remoteAddress } 0) tr₁ lg (raw, a') →
      UdsCodec.decode raw { transport := .doip } = some request →
      v.dispatcher.Dispatched (v.withSession sm).managers request tr₂ response ms →
      Exec (a'.send (UdsCodec.encode response)) tr₃ lg' sent →
      Serves s' { v with managers := ms } → s'.transport = some (.doip a') →
      Looked a v (tr₀ ++ (tr₁ ++ (tr₂ ++ tr₃))) (some ⟨request, response⟩) s'

theorem receive_doip {t : TransportAdapter} {tr : Trace} {lg : List LogRecord} {raw : Bytes}
    (h : Exec ((TransportAdapter.doip a).receive 0) tr lg (raw, t)) :
    ∃ a' lg', t = .doip a' ∧ Exec (a.receive 0) tr lg' (raw, a') := by
  have hwp : wp ((TransportAdapter.doip a).receive 0) fun tr r =>
      ∃ a' lg', r.2 = .doip a' ∧ Exec (a.receive 0) tr lg' (r.1, a') := by
    unfold TransportAdapter.receive
    simp only [wp_bind, wp_pure, List.append_nil]
    refine wp_mono (wp_exec _) fun tr r hr => ?_
    obtain ⟨lg', hr⟩ := hr
    exact ⟨r.2, lg', rfl, hr⟩
  exact h.wp hwp

theorem Linked.looked (hl : Linked a s v) (hup : a.Up)
    (h : Looks a.clientFd (s, input) l (s', rest)) : Looked a v l.trace l.exchange s' := by
  obtain ⟨before, tr, x⟩ := l
  obtain ⟨⟨lg, hx⟩, _, _⟩ := h
  have hp : Serves.Pending s v tr x s' := hx.wp hl.serves.processPendingRequests_wp
  clear hx
  obtain ⟨remote, ht⟩ := hl.transport
  cases hp with
  | idle hnone _ _ _ =>
    rw [hnone] at ht
    cases ht
  | connect hsome hdown _ _ _ _ =>
    rw [hsome] at ht
    cases ht
    have hdown : a.connected = false := hdown
    rw [hup.connected] at hdown
    cases hdown
  | dropped hsome _ hm hr hd hs ht' =>
    rw [hsome] at ht
    cases ht
    obtain ⟨a', lg', rfl, hr'⟩ := receive_doip hr
    exact .dropped hm hr' hd hs ht'
  | answered hsome _ hm hr hd hdis hsend hs ht' =>
    rw [hsome] at ht
    cases ht
    obtain ⟨a', lg', rfl, hr'⟩ := receive_doip hr
    exact .answered hm hr' hd hdis hsend hs ht'

/-- The adapter is up whatever the remote address is. -/
theorem DoIpAdapter.Up.remote (h : a.Up) (remoteAddress : UInt16) :
    DoIpAdapter.Up { a with remoteAddress } := ⟨h.connected, h.clientFd⟩

/-- A look that finds nothing. -/
theorem Linked.idle (hl : Linked a s v) (hup : a.Up) (h : Looks a.clientFd (s, input) l (s', rest))
    (hf : found a.clientFd l.trace = false) :
    rest = input ∧ written (iosOf a.clientFd l.trace) = [] ∧ ∃ v', Linked a s' v' := by
  obtain ⟨before, tr, x⟩ := l
  have hlook : Looked a v tr x s' := hl.looked hup h
  obtain ⟨_, _, hw⟩ := h
  simp only at hf hw ⊢
  cases hlook with
  | @dropped remote a' tr₀ tr₁ b sm lg raw _ hm hr _ hs ht =>
    obtain ⟨hidle, _⟩ := hm.idle a.clientFd
    rw [found_append, Bool.or_eq_false_iff] at hf
    obtain ⟨hios, ha'⟩ := hr.wp (receive_idle (hup.remote remote) 0) hf.2
    cases ha'
    rw [iosOf_append] at hw ⊢
    have hw := hw.drop_idle hidle
    rw [hios] at hw ⊢
    rw [written_append, hidle.written]
    exact ⟨(hw.skip (by simp)).done, rfl, _, hs, ⟨remote, ht⟩, hl.active.s3Checked hm⟩
  | @answered remote a' tr₀ tr₁ tr₂ tr₃ b sent sm lg lg' raw request response ms _ _ hr hd =>
    -- nothing was received, and nothing decodes to no request
    rw [found_append, Bool.or_eq_false_iff, found_append, Bool.or_eq_false_iff] at hf
    obtain ⟨_, ha'⟩ := hr.wp (receive_idle (hup.remote remote) 0) hf.2.1
    cases ha'
    cases hd

/-- In a look that is answered the client is read by `receive` alone. -/
theorem answered_took {f : Frame} {remoteAddress : UInt16} {a' : DoIpAdapter}
    {d : ServiceDispatcher} {m sm : SessionManager} {ms ms' : Managers} {tr₀ tr₁ tr₂ tr₃ : Trace}
    {b sent : Bool} {lg lg' : List LogRecord} {raw data : Bytes} {request : DiagRequest}
    {response : DiagResponse} (hup : a.Up) (hm : m.S3Checked tr₀ b sm)
    (hr : Exec (DoIpAdapter.receive { a with remoteAddress } 0) tr₁ lg (raw, a'))
    (hdis : d.Dispatched ms request tr₂ response ms') (hsend : Exec (a'.send data) tr₃ lg' sent)
    (hf : found a.clientFd (tr₀ ++ (tr₁ ++ (tr₂ ++ tr₃))) = true)
    (hw : Wire (f.bytes ++ tail) (iosOf a.clientFd (tr₀ ++ (tr₁ ++ (tr₂ ++ tr₃)))) rest) :
    ∃ left, Took { a with remoteAddress } f (iosOf a.clientFd tr₁) raw a' left ∧
      Wire (left ++ tail) (iosOf a.clientFd tr₃) rest := by
  obtain ⟨hidle₀, hnot₀⟩ := hm.idle a.clientFd
  obtain ⟨hidle₂, hnot₂⟩ := idle_attended a.clientFd hdis.once.1
  have hnot₃ : found a.clientFd tr₃ = false := hsend.wp (send_found _ _ _)
  rw [iosOf_append, iosOf_append] at hw
  obtain ⟨mid, hw₁, hw₂⟩ := (hw.drop_idle hidle₀).split
  rw [found_append, found_append, found_append, hnot₀, hnot₂, hnot₃, Bool.false_or, Bool.or_false,
    Bool.or_false] at hf
  obtain ⟨left, htook, rfl⟩ := hr.wp (receive_frame (hup.remote remoteAddress) 0 f tail) mid hw₁ hf
  rw [iosOf_append] at hw₂
  exact ⟨left, htook, Wire.drop_idle hw₂ hidle₂⟩

/-- A look that finds a message. -/
theorem Linked.message {m : Message} (hl : Linked a s v) (hup : a.Up)
    (h : Looks a.clientFd (s, m.frame.bytes ++ tail) l (s', rest))
    (hf : found a.clientFd l.trace = true) :
    rest = tail ∧ Handled a v m l ∧ ∃ v', Linked a s' v' := by
  obtain ⟨before, tr, x⟩ := l
  have hlook : Looked a v tr x s' := hl.looked hup h
  obtain ⟨_, _, hw⟩ := h
  simp only at hf hw ⊢
  cases hlook with
  | @dropped remote a' tr₀ tr₁ b sm lg raw _ hm hr hd hs ht =>
    obtain ⟨hidle, hnot⟩ := hm.idle a.clientFd
    rw [found_append, hnot, Bool.false_or] at hf
    rw [iosOf_append] at hw
    obtain ⟨left, htook, rfl⟩ := hr.wp (receive_frame (hup.remote remote) 0 m.frame tail) rest
      (hw.drop_idle hidle) hf
    obtain ⟨⟨sent, hios⟩, rfl, rfl, rfl⟩ := htook.message_inv
    refine ⟨rfl, .dropped hd rfl fun hwhole => ?_, _, hs, ⟨m.source, ht⟩, hl.active.s3Checked hm⟩
    have hwhole : ∀ io ∈ iosOf a.clientFd tr₁, io.Whole := by
      intro io hio
      refine hwhole io ?_
      rw [iosOf_append]
      exact List.mem_append_right _ hio
    rw [iosOf_append, written_append, hidle.written, written_whole hwhole, hios]
    exact List.append_nil _
  | @answered remote a' tr₀ tr₁ tr₂ tr₃ b sent sm lg lg' raw request response ms _ hm hr hd hdis
      hsend hs ht =>
    obtain ⟨hidle₀, _⟩ := hm.idle a.clientFd
    obtain ⟨hidle₂, _⟩ := idle_attended a.clientFd hdis.once.1
    obtain ⟨left, htook, hw₃⟩ := answered_took hup hm hr hdis hsend hf hw
    obtain ⟨⟨sent', hios⟩, rfl, rfl, rfl⟩ := htook.message_inv
    obtain ⟨sent'', hios₃⟩ := hsend.wp (send_acts (hup.remote m.source) _)
    rw [hios₃] at hw₃
    refine ⟨(hw₃.skip (by simp)).done, .answered hd rfl hm ?_ hdis fun hwhole => ?_, _, hs,
      ⟨m.source, ht⟩, Active.dispatched (hl.active.s3Checked hm) hdis⟩
    · intro e he
      exact List.mem_append_left _ he
    · rw [Look.Whole] at hwhole
      simp only [iosOf_append, List.forall_mem_append] at hwhole
      obtain ⟨_, hwhole₁, _, hwhole₃⟩ := hwhole
      have hack : written (iosOf a.clientFd tr₁) = a.ackFrame m.source := by
        rw [written_whole hwhole₁, hios]
        exact List.append_nil _
      have hreply : written (iosOf a.clientFd tr₃) =
          a.messageFrame m.source (UdsCodec.encode response) := by
        rw [written_whole hwhole₃, hios₃]
        exact List.append_nil _
      rw [iosOf_append, iosOf_append, iosOf_append, written_append, written_append, written_append,
        hidle₀.written, hidle₂.written, hack, hreply, List.nil_append, List.nil_append]

/-! ## Looks, one after the other -/

/-- The looks that find something. -/
abbrev foundLooks (fd : Int) (ls : List Look) : List Look := ls.filter fun l => found fd l.trace

/-- An initialised service with a client is linked to it. -/
theorem linked_start {ls : List Step} (hr : Run Does {} ls s) (hi : s.initialized = true)
    (ht : s.transport = some (.doip a)) : ∃ v, Linked a s v := by
  obtain ⟨v, hacts, hshow⟩ := reach_serves hr hi
  exact ⟨v, hshow, ⟨a.remoteAddress, ht⟩, active_run hacts v rfl⟩

/-- The looks that find something meet the messages in their order, each on a service in a state
that its own record shows. -/
theorem Linked.each {ls : List Look} {ms : List Message} (hl : Linked a s v) (hup : a.Up)
    (h : Run (Looks a.clientFd) (s, streamOf ms) ls (s', rest)) :
    ∀ p ∈ (foundLooks a.clientFd ls).zip ms, ∃ v,
      Active v.managers.sessionMgr ∧ p.1.session = v.managers.sessionMgr.session ∧
        Handled a v p.2 p.1 := by
  induction ls generalizing s v ms with
  | nil => simp
  | cons l ls ih =>
    obtain ⟨⟨s₁, input₁⟩, hstep, hrun⟩ := h.cons_inv
    cases hf : found a.clientFd l.trace with
    | false =>
      obtain ⟨rfl, _, v₁, hl₁⟩ := hl.idle hup hstep hf
      rw [foundLooks, List.filter_cons_of_neg (by rw [hf]; simp)]
      exact ih hl₁ hrun
    | true =>
      rw [foundLooks, List.filter_cons_of_pos (by exact hf)]
      cases ms with
      | nil => simp
      | cons m ms =>
        obtain ⟨rfl, hm, v₁, hl₁⟩ := hl.message hup hstep hf
        rw [List.zip_cons_cons, List.forall_mem_cons]
        have hsession : l.session = v.managers.sessionMgr.session := by
          rw [Look.session, hstep.2.1]
          exact hl.serves.getCurrentSession
        exact ⟨⟨v, hl.active, hsession, hm⟩, ih hl₁ hrun⟩

end

/-! ## Scenarios -/

/-- An initialised service with a client. -/
def linkedScript : List (Op × Oracle) :=
  startScript ++ [(.setTransport (some (.doip clientUp)), obliging 0)]

def linkedService : DiagService := (play {} linkedScript).2

/-- The look that meets `f`. -/
def lookOn (s : DiagService) (f : Frame) : Look × DiagService :=
  let r := s.playOne .processPendingRequests (sending f 0)
  (⟨s, r.1.trace, r.1.exchange⟩, r.2)

theorem looks_lookOn {s : DiagService} {f : Frame} {fd : Int} {input rest : Bytes}
    (hw : Wire input (iosOf fd (lookOn s f).1.trace) rest) :
    Looks fd (s, input) (lookOn s f).1 ((lookOn s f).2, rest) :=
  ⟨s.playOne_does .processPendingRequests (sending f 0), rfl, hw⟩

theorem lookOn_whole (s : DiagService) (f : Frame) (fd : Int) : (lookOn s f).1.Whole fd :=
  sending_whole (s.playOne_answers .processPendingRequests (sending f 0))

/-- Tester `source` asks for the session `sub`. -/
def sessionMessage (source : UInt16) (sub : UInt8) : Message where
  source := source
  target := 0x0001
  uds := [0x10, sub]
  nonempty := by simp
  short := by simp

/-- Tester 1 opens the extended session, and tester 2 asks for the programming session. -/
def twoMessages : List Message := [sessionMessage 1 0x03, sessionMessage 2 0x02]

def firstLook : Look × DiagService := lookOn linkedService (sessionMessage 1 0x03).frame

def secondLook : Look × DiagService := lookOn firstLook.2 (sessionMessage 2 0x02).frame

theorem twoLooks_run : Run (Looks 5) (linkedService, streamOf twoMessages)
    [firstLook.1, secondLook.1] (secondLook.2, []) := by
  have header {input rest : Bytes} (n : Nat) (data : Bytes) (hn : data.length = n)
      (h : input = data ++ rest) : Io.Moves input (.read n (some data)) rest :=
    ⟨h, hn.le, fun _ => hn⟩
  refine .cons (t := (firstLook.2, (sessionMessage 2 0x02).frame.bytes)) ?_ (.single ?_)
  · exact looks_lookOn (.cons rfl (.cons (header _ _ rfl rfl) (.cons (header _ _ rfl rfl)
      (.cons rfl (.cons rfl (.cons rfl (.single rfl)))))))
  · exact looks_lookOn (.cons rfl (.cons rfl (.cons (header _ _ rfl rfl) (.cons (header _ _ rfl rfl)
      (.cons rfl (.cons rfl (.cons rfl (.single rfl))))))))

theorem twoLooks_whole : ∀ l ∈ [firstLook.1, secondLook.1], l.Whole 5 := by
  intro l hl
  rcases List.mem_pair.mp hl with rfl | rfl
  · exact lookOn_whole _ _ _
  · exact lookOn_whole _ _ _

end Diag
end Tbox
