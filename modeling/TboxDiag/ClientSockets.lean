import TboxDiag.DoIpAdapter
import TboxDiag.Lib.History
import TboxDiag.Lib.Resource

/-!
# ClientSockets

The sockets that `accept` returned and that are not closed. The adapter means to hold one at a
time, the one in `clientFd`. A receive that gets a short header clears `connected` and leaves the
socket in `clientFd`, though (`Stranded`), and a connect that then finds another client overwrites
it. `one_socket_iff` says that nothing else ever leaks a socket.
-/

namespace Tbox
namespace Diag

open Effects DoIpAdapter

/-! ## Sockets of a trace -/

/-- `accept` returned a socket. -/
def socketOpened : Event outside → Option Int
  | ⟨.sock (.accept _), x⟩ => if 0 ≤ x.reply.fd then some x.reply.fd else none
  | _ => none

def socketClosed : Event outside → Option Int
  | ⟨.sock (.close fd), _⟩ => some fd
  | _ => none

/-- The accepted sockets that are open after the calls. -/
def openSockets (tr : Trace) : List Int := live socketOpened socketClosed [] tr

section
variable {held : List Int} {fd : Int}

@[simp] theorem liveAfter_poll {timeoutMs : UInt32} (x : Stamped Int) :
    liveAfter socketOpened socketClosed held ⟨.sock (.poll fd timeoutMs), x⟩ = held := rfl

theorem liveAfter_accept {y : Stamped Accepted} (h : 0 ≤ y.reply.fd) :
    liveAfter socketOpened socketClosed held ⟨.sock (.accept fd), y⟩ = held ++ [y.reply.fd] :=
  liveAfter_open (if_pos h)

theorem liveAfter_acceptFailed {y : Stamped Accepted} (h : y.reply.fd < 0) :
    liveAfter socketOpened socketClosed held ⟨.sock (.accept fd), y⟩ = held :=
  liveAfter_idle (if_neg (not_le.mpr h)) rfl

@[simp] theorem liveAfter_closeSocket (z : Stamped Unit) :
    liveAfter socketOpened socketClosed held ⟨.sock (.close fd), z⟩ = held.erase fd :=
  liveAfter_close rfl rfl

end

/-- Neither `accept` nor `close`. -/
def Cmd.keepsSockets : Cmd → Prop
  | .sock (.accept _) | .sock (.close _) => False
  | _ => True

/-- The bytes of the first `recv` of a trace. -/
def firstRead (tr : Trace) : Option (Option Bytes) :=
  tr.findSome? fun
    | ⟨.sock (.recv _ _), x⟩ => some x.reply
    | _ => none

def Trace.accepts (tr : Trace) : Prop := ∃ e ∈ tr, ∃ fd, e.cmd = .sock (.accept fd)

section
variable {tr : Trace}

theorem idle_of_keepsSockets (h : ∀ e ∈ tr, e.cmd.keepsSockets) :
    ∀ e ∈ tr, socketOpened e = none ∧ socketClosed e = none := by
  intro e he
  have hc := h e he
  obtain ⟨c, x⟩ := e
  cases c with
  | sock c =>
    cases c with
    | accept _ | close _ => cases hc
    | _ => exact ⟨rfl, rfl⟩
  | _ => exact ⟨rfl, rfl⟩

theorem not_accepts (h : ∀ e ∈ tr, e.cmd.keepsSockets) : ¬ Trace.accepts tr := by
  rintro ⟨e, he, fd, hc⟩
  have hk := h e he
  rw [hc] at hk
  exact hk

theorem talks_keepsSockets (fd : Int) : Talks Cmd.keepsSockets fd :=
  ⟨fun _ => trivial, fun _ => trivial, fun _ => trivial⟩

end

/-! ## The operations -/

inductive AdapterOp where
  | connect
  | receive (timeoutMs : UInt32)
  | send (data : Bytes)
  | disconnect
  deriving DecidableEq, Repr

def DoIpAdapter.use (a : DoIpAdapter) : AdapterOp → M DoIpAdapter
  | .connect => do
    let (_, a) ← a.connect
    pure a
  | .receive timeoutMs => do
    let (_, a) ← a.receive timeoutMs
    pure a
  | .send data => do
    let _ ← a.send data
    pure a
  | .disconnect => a.disconnect

/-- What is seen of one operation: its calls with their answers, and the adapter after it. -/
structure AdapterStep where
  op : AdapterOp
  trace : Trace
  after : DoIpAdapter

def Uses (a : DoIpAdapter) (l : AdapterStep) (a' : DoIpAdapter) : Prop :=
  l.after = a' ∧ ∃ lg, Exec (a.use l.op) l.trace lg a'

def adapterCalls (ls : List AdapterStep) : Trace := ls.flatMap AdapterStep.trace

namespace AdapterStep

/-- The operation asked the server socket for a client, and got to `accept`. -/
def accepts (l : AdapterStep) : Prop := l.trace.accepts

/-- A receive whose header was not the eight bytes of one: the peer closed, or the read failed. -/
def shortHeader (l : AdapterStep) : Prop :=
  (∃ timeoutMs, l.op = .receive timeoutMs) ∧
    ∃ header, firstRead l.trace = some header ∧ header.map List.length ≠ some 8

end AdapterStep

/-- There was a short header, and neither a disconnect nor an `accept` since. -/
def Stranded (ls : List AdapterStep) : Prop :=
  Since (fun _ l => l.shortHeader) (fun l => l.op ≠ .disconnect ∧ ¬ l.accepts) ls

/-- What an operation does to `clientFd` and `connected`. -/
inductive SocketMove (a : DoIpAdapter) : AdapterOp → Trace → DoIpAdapter → Prop where
  | keep {op : AdapterOp} {tr : Trace} {a' : DoIpAdapter} : op ≠ .disconnect →
      (∀ e ∈ tr, e.cmd.keepsSockets) →
      ((∃ timeoutMs, op = .receive timeoutMs) → ∀ header, firstRead tr = some header →
        header.map List.length = some 8) →
      a'.clientFd = a.clientFd → a'.connected = a.connected → SocketMove a op tr a'
  | short {timeoutMs : UInt32} {x : Stamped Int} {y : Stamped (Option Bytes)} :
      0 ≤ a.clientFd → y.reply.map List.length ≠ some 8 →
      SocketMove a (.receive timeoutMs)
        [⟨.sock (.poll a.clientFd timeoutMs), x⟩, ⟨.sock (.recv a.clientFd 8), y⟩]
        { a with connected := false }
  | failed {x : Stamped Int} {y : Stamped Accepted} : a.connected = false → y.reply.fd < 0 →
      SocketMove a .connect
        [⟨.sock (.poll a.serverFd a.config.acceptTimeoutMs), x⟩,
          ⟨.sock (.accept a.serverFd), y⟩]
        { a with clientFd := y.reply.fd }
  | up {x : Stamped Int} {y : Stamped Accepted} {tr : Trace} : a.connected = false →
      0 ≤ y.reply.fd → (∀ e ∈ tr, e.cmd.keepsSockets) →
      SocketMove a .connect
        (⟨.sock (.poll a.serverFd a.config.acceptTimeoutMs), x⟩ ::
          ⟨.sock (.accept a.serverFd), y⟩ :: tr)
        { a with clientFd := y.reply.fd, connected := true }
  | down {x : Stamped Int} {y : Stamped Accepted} {z : Stamped Unit} {tr : Trace} :
      a.connected = false → 0 ≤ y.reply.fd → (∀ e ∈ tr, e.cmd.keepsSockets) →
      SocketMove a .connect
        (⟨.sock (.poll a.serverFd a.config.acceptTimeoutMs), x⟩ ::
          ⟨.sock (.accept a.serverFd), y⟩ :: (tr ++ [⟨.sock (.close y.reply.fd), z⟩]))
        { a with clientFd := -1, connected := false }
  | closed {z : Stamped Unit} : 0 ≤ a.clientFd →
      SocketMove a .disconnect [⟨.sock (.close a.clientFd), z⟩]
        { a with clientFd := -1, connected := false }
  | unopened : a.clientFd < 0 →
      SocketMove a .disconnect [] { a with clientFd := -1, connected := false }

section
variable (a : DoIpAdapter)

theorem closeClient_wp : wp a.closeClient fun tr a' =>
    a' = { a with clientFd := -1, connected := false } ∧
      (0 ≤ a.clientFd ∧ (∃ z, tr = [⟨.sock (.close a.clientFd), z⟩]) ∨
        a.clientFd < 0 ∧ tr = []) := by
  unfold closeClient
  rw [wp_ite]
  refine ⟨?_, ?_⟩
  · intro h
    simp only [wp_bind, wp_log, wp_pure, List.append_nil, true_and]
    intro z
    exact .inl ⟨h, z, rfl⟩
  · intro h
    simp only [wp_bind, wp_log, wp_pure, List.append_nil, true_and]
    exact .inr ⟨not_le.mp h, trivial⟩

theorem connect_move : wp a.connect fun tr r => SocketMove a .connect tr r.2 := by
  have still (tr : Trace) (h : ∀ e ∈ tr, e.cmd.keepsSockets) : SocketMove a .connect tr a := by
    refine .keep (by simp) h ?_ rfl rfl
    rintro ⟨_, hop⟩
    cases hop
  unfold connect
  simp only [wp_ite, wp_bind, wp_log, wp_pure, List.nil_append, List.append_nil]
  refine ⟨fun _ => still [] (by simp), ?_⟩
  intro hc
  rw [Bool.not_eq_true] at hc
  refine ⟨fun _ => still [] (by simp), ?_⟩
  intro _ x
  refine ⟨fun _ => still _ (by simp [Cmd.keepsSockets]), ?_⟩
  intro _ y
  refine ⟨fun hy => .failed hc hy, ?_⟩
  intro hy
  rw [not_lt] at hy
  refine wp_mono (doipHandshake_issues (talks_keepsSockets _)) ?_
  intro tr ok htr
  refine ⟨?_, ?_⟩
  · intro _
    refine wp_mono (closeClient_wp _) ?_
    rintro tr' a' ⟨rfl, ⟨_, z, rfl⟩ | ⟨hneg, _⟩⟩
    · exact .down hc hy htr
    · exact absurd hneg (not_lt.mpr hy)
  · intro _
    exact .up hc hy htr

theorem receiveActivation_frame (n : Nat) : wp (a.receiveActivation n) fun _ r => r.2 = a := by
  unfold receiveActivation
  refine wp_ask_bind.mpr ?_
  intro x
  split
  · rfl
  · rw [wp_ite]
    refine ⟨fun _ => rfl, ?_⟩
    intro _ y
    rfl

theorem receiveMessage_frame (n : Nat) : wp (a.receiveMessage n) fun _ r =>
    r.2.clientFd = a.clientFd ∧ r.2.connected = a.connected := by
  unfold receiveMessage
  refine wp_ask_bind.mpr ?_
  intro x
  split
  · exact ⟨rfl, rfl⟩
  · rw [wp_ite]
    refine ⟨fun _ => ⟨rfl, rfl⟩, ?_⟩
    intro _
    split
    · intro y
      exact ⟨rfl, rfl⟩
    · exact ⟨rfl, rfl⟩

theorem eight_bytes {data : Bytes} (h : data.length = 8) :
    ∃ b₀ b₁ b₂ b₃ b₄ b₅ b₆ b₇, data = [b₀, b₁, b₂, b₃, b₄, b₅, b₆, b₇] := by
  match data, h with
  | [b₀, b₁, b₂, b₃, b₄, b₅, b₆, b₇], _ => exact ⟨b₀, b₁, b₂, b₃, b₄, b₅, b₆, b₇, rfl⟩

theorem receive_move (timeoutMs : UInt32) :
    wp (a.receive timeoutMs) fun tr r => SocketMove a (.receive timeoutMs) tr r.2 := by
  unfold receive
  rw [wp_ite]
  refine ⟨?_, ?_⟩
  · intro _
    exact .keep (by simp) (by simp) (by simp [firstRead]) rfl rfl
  intro hup
  rw [not_or, not_lt] at hup
  refine wp_ask_bind.mpr ?_
  intro x
  rw [wp_ite]
  refine ⟨?_, ?_⟩
  · intro _
    exact .keep (by simp) (by simp [Cmd.keepsSockets]) (by simp [firstRead]) rfl rfl
  intro _
  refine wp_ask_bind.mpr ?_
  intro y
  -- what follows a header of eight bytes
  have full {tr : Trace} {a' : DoIpAdapter} (hy : y.reply.map List.length = some 8)
      (htr : ∀ e ∈ tr, e.cmd.keepsSockets)
      (ha : a'.clientFd = a.clientFd ∧ a'.connected = a.connected) :
      SocketMove a (.receive timeoutMs)
        (⟨.sock (.poll a.clientFd timeoutMs), x⟩ :: ⟨.sock (.recv a.clientFd 8), y⟩ :: tr) a' := by
    refine .keep (by simp) ?_ ?_ ha.1 ha.2
    · simpa [Cmd.keepsSockets] using htr
    · rintro - header hh
      cases hh
      exact hy
  split
  · rename_i hy
    have hlen : y.reply.map List.length = some 8 := by rw [hy]; rfl
    simp only [wp_ite, wp_bind, wp_log, wp_pure]
    refine ⟨fun _ => full hlen (by simp) ⟨rfl, rfl⟩, ?_⟩
    intro _
    refine ⟨?_, ?_⟩
    · intro _
      refine wp_mono (wp_and (receiveActivation_issues (talks_keepsSockets _) _)
        (receiveActivation_frame a _)) ?_
      rintro tr r ⟨htr, ha⟩
      exact full hlen htr (by rw [ha]; exact ⟨rfl, rfl⟩)
    · intro _
      refine ⟨fun _ => full hlen (by simp) ⟨rfl, rfl⟩, ?_⟩
      intro _
      refine wp_mono (wp_and (receiveMessage_issues (talks_keepsSockets _) _)
        (receiveMessage_frame a _)) ?_
      rintro tr r ⟨htr, ha⟩
      exact full hlen htr ha
  · rename_i hy
    refine .short hup.2 ?_
    intro hlen
    obtain ⟨data, hdata, hl⟩ := Option.map_eq_some_iff.mp hlen
    obtain ⟨b₀, b₁, b₂, b₃, b₄, b₅, b₆, b₇, rfl⟩ := eight_bytes hl
    exact hy _ _ _ _ _ _ _ _ hdata

/-- The operations do no more than that to the sockets. -/
theorem use_move (op : AdapterOp) : wp (a.use op) fun tr a' => SocketMove a op tr a' := by
  cases op with
  | connect =>
    simp only [DoIpAdapter.use, wp_bind, wp_pure, List.append_nil]
    exact connect_move a
  | receive timeoutMs =>
    simp only [DoIpAdapter.use, wp_bind, wp_pure, List.append_nil]
    exact receive_move a timeoutMs
  | send data =>
    simp only [DoIpAdapter.use, wp_bind, wp_pure, List.append_nil]
    refine wp_mono (send_issues (talks_keepsSockets _) data) ?_
    intro tr _ htr
    refine .keep (by simp) htr ?_ rfl rfl
    rintro ⟨_, hop⟩
    cases hop
  | disconnect =>
    refine wp_mono (closeClient_wp a) ?_
    rintro tr a' ⟨rfl, ⟨hfd, z, rfl⟩ | ⟨hfd, rfl⟩⟩
    · exact .closed hfd
    · exact .unopened hfd

end

/-! ## What a short header leaves behind -/

/-- The adapter after `startServer`. -/
def DoIpAdapter.started (config : DoIpConfig) (serverFd : Int) : DoIpAdapter :=
  { config, serverFd, listening := true }

section
variable {a a' : DoIpAdapter} {ls : List AdapterStep} {l : AdapterStep}

theorem Uses.move (h : Uses a l a') : SocketMove a l.op l.trace a' := by
  obtain ⟨_, lg, hx⟩ := h
  exact hx.wp (use_move a l.op)

/-- The socket of a client is held, and `connected` says whether the adapter still talks to it. -/
structure Tracked (ls : List AdapterStep) (a : DoIpAdapter) : Prop where
  client : a.connected = true → 0 ≤ a.clientFd
  stranded : Stranded ls ↔ 0 ≤ a.clientFd ∧ a.connected = false

theorem stranded_snoc : Stranded (ls ++ [l]) ↔
    l.shortHeader ∨ Stranded ls ∧ l.op ≠ .disconnect ∧ ¬ l.accepts := since_snoc_iff

theorem tracked_nil {config : DoIpConfig} {serverFd : Int} :
    Tracked [] (started config serverFd) where
  client h := by cases h
  stranded := by
    refine iff_of_false not_since_nil ?_
    rintro ⟨hle, _⟩
    change (0 : Int) ≤ -1 at hle
    omega

/-- An `accept` ends whatever a short header left, and a disconnect does. -/
theorem Tracked.ended (hshort : ¬ l.shortHeader) (hend : l.op = .disconnect ∨ l.accepts)
    (hclient : a'.connected = true → 0 ≤ a'.clientFd)
    (ha' : ¬ (0 ≤ a'.clientFd ∧ a'.connected = false)) : Tracked (ls ++ [l]) a' where
  client := hclient
  stranded := by
    refine iff_of_false ?_ ha'
    rw [stranded_snoc]
    rintro (hs | ⟨_, hop, hacc⟩)
    · exact hshort hs
    · exact hend.elim hop hacc

theorem Tracked.snoc (h : Tracked ls a) (hm : SocketMove a l.op l.trace a') :
    Tracked (ls ++ [l]) a' := by
  obtain ⟨op, trace, after⟩ := l
  have notReceive {op : AdapterOp} {tr : Trace} (hop : ∀ timeoutMs, op ≠ .receive timeoutMs) :
      ¬ AdapterStep.shortHeader ⟨op, tr, after⟩ := by
    rintro ⟨⟨timeoutMs, heq⟩, _⟩
    exact hop timeoutMs heq
  cases hm with
  | keep hop htr hread hfd hcon =>
    refine ⟨?_, ?_⟩
    · rw [hcon, hfd]
      exact h.client
    · rw [stranded_snoc, hfd, hcon, ← h.stranded]
      constructor
      · rintro (⟨hop', header, hfirst, hne⟩ | ⟨hs, _⟩)
        · exact absurd (hread hop' header hfirst) hne
        · exact hs
      · intro hs
        exact .inr ⟨hs, hop, not_accepts htr⟩
  | @short timeoutMs x y hfd hy =>
    refine ⟨?_, ?_⟩
    · intro hc
      cases hc
    · refine iff_of_true ?_ ⟨hfd, rfl⟩
      rw [stranded_snoc]
      exact .inl ⟨⟨timeoutMs, rfl⟩, y.reply, rfl, hy⟩
  | @failed x y hcon hfd =>
    refine .ended (notReceive (by simp)) (.inr ⟨⟨.sock (.accept a.serverFd), y⟩, by simp, _, rfl⟩)
      ?_ ?_
    · intro hc
      rw [hcon] at hc
      cases hc
    · rintro ⟨hle, _⟩
      exact absurd hfd (not_lt.mpr hle)
  | @up x y tr hcon hfd htr =>
    refine .ended (notReceive (by simp)) (.inr ⟨⟨.sock (.accept a.serverFd), y⟩, by simp, _, rfl⟩)
      (fun _ => hfd) ?_
    rintro ⟨_, hc⟩
    cases hc
  | @down x y z tr hcon hfd htr =>
    refine .ended (notReceive (by simp)) (.inr ⟨⟨.sock (.accept a.serverFd), y⟩, by simp, _, rfl⟩)
      ?_ ?_
    · intro hc
      cases hc
    · rintro ⟨hle, _⟩
      change (0 : Int) ≤ -1 at hle
      omega
  | closed hfd =>
    refine .ended (notReceive (by simp)) (.inl rfl) ?_ ?_
    · intro hc
      cases hc
    · rintro ⟨hle, _⟩
      change (0 : Int) ≤ -1 at hle
      omega
  | unopened hfd =>
    refine .ended (notReceive (by simp)) (.inl rfl) ?_ ?_
    · intro hc
      cases hc
    · rintro ⟨hle, _⟩
      change (0 : Int) ≤ -1 at hle
      omega

theorem tracked_run {config : DoIpConfig} {serverFd : Int}
    (h : Run Uses (started config serverFd) ls a) : Tracked ls a := by
  refine h.history Tracked tracked_nil ?_
  intro ls a l a' ht hl
  exact ht.snoc hl.move

/-! ## One socket at a time -/

/-- The socket of the client, if there is one. -/
def DoIpAdapter.client (a : DoIpAdapter) : List Int := if 0 ≤ a.clientFd then [a.clientFd] else []

theorem client_open (h : 0 ≤ a.clientFd) : a.client = [a.clientFd] := if_pos h

theorem client_none (h : a.clientFd < 0) : a.client = [] := if_neg (not_le.mpr h)

theorem client_down : client { a with clientFd := -1, connected := false } = [] := if_neg (by simp)

theorem client_length : a.client.length ≤ 1 := by
  unfold DoIpAdapter.client
  split <;> simp

/-- A move that does not strand a socket turns the socket held before into the one held after,
with no second one in between. -/
theorem SocketMove.sound {op : AdapterOp} {tr : Trace} (h : SocketMove a op tr a')
    (hfree : tr.accepts → a.clientFd < 0) :
    live socketOpened socketClosed a.client tr = a'.client ∧
      Within socketOpened socketClosed 1 a.client tr := by
  have accepted {x : Stamped Int} {y : Stamped Accepted} {timeoutMs : UInt32} {fd : Int}
      {tr : Trace} (hfree : Trace.accepts (⟨.sock (.poll fd timeoutMs), x⟩ ::
        ⟨.sock (.accept fd), y⟩ :: tr) → a.clientFd < 0) : a.client = [] :=
    client_none (hfree ⟨⟨.sock (.accept fd), y⟩, by simp, fd, rfl⟩)
  cases h with
  | keep _ htr _ hfd _ =>
    have hidle := idle_of_keepsSockets htr
    refine ⟨?_, within_idle hidle client_length⟩
    rw [live_idle hidle, DoIpAdapter.client, DoIpAdapter.client, hfd]
  | @short timeoutMs x y _ _ =>
    have hidle : ∀ e ∈ [(⟨.sock (.poll a.clientFd timeoutMs), x⟩ : Event outside),
        ⟨.sock (.recv a.clientFd 8), y⟩], socketOpened e = none ∧ socketClosed e = none := by
      refine idle_of_keepsSockets ?_
      simp [Cmd.keepsSockets]
    exact ⟨live_idle hidle, within_idle hidle client_length⟩
  | @failed x y _ hfd =>
    rw [accepted hfree, client_none (a := { a with clientFd := y.reply.fd }) hfd]
    simp [liveAfter_acceptFailed hfd, within_cons, within_nil]
  | @up x y tr _ hfd htr =>
    have hidle := idle_of_keepsSockets htr
    have hnew : client { a with clientFd := y.reply.fd, connected := true } = [y.reply.fd] :=
      client_open hfd
    rw [accepted hfree, hnew]
    simp [liveAfter_accept hfd, live_idle hidle, within_cons, within_idle hidle]
  | @down x y z tr _ hfd htr =>
    have hidle := idle_of_keepsSockets htr
    rw [accepted hfree, client_down]
    simp [liveAfter_accept hfd, live_idle hidle, within_cons, within_append, within_nil,
      within_idle hidle]
  | @closed z hfd =>
    rw [client_open hfd, client_down]
    simp [within_cons, within_nil]
  | unopened hfd =>
    rw [client_none hfd, client_down]
    simp [within_nil]

/-- A move that does strand one shows it. -/
theorem SocketMove.leaks {op : AdapterOp} {tr : Trace} (h : SocketMove a op tr a')
    (hacc : tr.accepts) (hfd : 0 ≤ a.clientFd) :
    live socketOpened socketClosed a.client tr ≠ a'.client ∨
      ¬ Within socketOpened socketClosed 1 a.client tr := by
  rw [client_open hfd]
  cases h with
  | keep _ htr _ _ _ => exact absurd hacc (not_accepts htr)
  | short _ _ =>
    obtain ⟨e, he, fd, hc⟩ := hacc
    simp only [List.mem_cons, List.not_mem_nil, or_false] at he
    rcases he with rfl | rfl <;> cases hc
  | @failed x y _ hneg =>
    left
    rw [client_none (a := { a with clientFd := y.reply.fd }) hneg]
    simp [liveAfter_acceptFailed hneg]
  | @up x y tr _ hpos _ =>
    right
    simp only [within_cons, liveAfter_poll, liveAfter_accept hpos]
    rintro ⟨_, _, hw⟩
    exact absurd (hw [] tr rfl) (by simp)
  | @down x y z tr _ hpos _ =>
    right
    simp only [within_cons, liveAfter_poll, liveAfter_accept hpos]
    rintro ⟨_, _, hw⟩
    exact absurd (hw [] _ rfl) (by simp)
  | closed _ =>
    obtain ⟨e, he, fd, hc⟩ := hacc
    rw [List.mem_singleton.mp he] at hc
    cases hc
  | unopened _ =>
    obtain ⟨e, he, _⟩ := hacc
    cases he

theorem SocketMove.disconnected {op : AdapterOp} {tr : Trace} (h : SocketMove a op tr a')
    (hacc : tr.accepts) : a.connected = false := by
  cases h with
  | keep _ htr _ _ _ => exact absurd hacc (not_accepts htr)
  | short _ _ =>
    obtain ⟨e, he, fd, hc⟩ := hacc
    simp only [List.mem_cons, List.not_mem_nil, or_false] at he
    rcases he with rfl | rfl <;> cases hc
  | failed hcon _ => exact hcon
  | up hcon _ _ => exact hcon
  | down hcon _ _ => exact hcon
  | closed _ =>
    obtain ⟨e, he, fd, hc⟩ := hacc
    rw [List.mem_singleton.mp he] at hc
    cases hc
  | unopened _ =>
    obtain ⟨e, he, _⟩ := hacc
    cases he

/-- At every point at most one accepted socket is open, and after each operation it is the one in
`clientFd`. -/
structure OneSocket (ls : List AdapterStep) : Prop where
  within : Within socketOpened socketClosed 1 [] (adapterCalls ls)
  client : ∀ pre l post, ls = pre ++ l :: post →
    openSockets (adapterCalls (pre ++ [l])) = l.after.client

/-- No connect gets to `accept` after a short header. -/
def NeverStranded (ls : List AdapterStep) : Prop :=
  ∀ pre l post, ls = pre ++ l :: post → l.accepts → ¬ Stranded pre

theorem openSockets_snoc : openSockets (adapterCalls (ls ++ [l])) =
    live socketOpened socketClosed (openSockets (adapterCalls ls)) l.trace := by
  simp [openSockets, adapterCalls]

theorem within_calls {ls' : List AdapterStep} :
    Within socketOpened socketClosed 1 [] (adapterCalls (ls ++ l :: ls')) ↔
      Within socketOpened socketClosed 1 [] (adapterCalls ls) ∧
      Within socketOpened socketClosed 1 (openSockets (adapterCalls ls)) l.trace ∧
      Within socketOpened socketClosed 1 (openSockets (adapterCalls (ls ++ [l])))
        (adapterCalls ls') := by
  rw [openSockets_snoc, adapterCalls, List.flatMap_append, List.flatMap_cons, ← adapterCalls,
    within_append, within_append]
  rfl

theorem NeverStranded.left (h : NeverStranded (ls ++ [l])) : NeverStranded ls := by
  rintro pre x post rfl
  exact h pre x (post ++ [l]) (by simp)

/-- Where no socket is stranded, the open one is the client's. -/
theorem OneSocket.snoc (h : OneSocket ls) (hopen : openSockets (adapterCalls ls) = a.client)
    (hl : Uses a l a') (hfree : l.accepts → a.clientFd < 0) :
    OneSocket (ls ++ [l]) ∧ openSockets (adapterCalls (ls ++ [l])) = a'.client := by
  obtain ⟨hlive, hwithin⟩ := hl.move.sound hfree
  have hafter : openSockets (adapterCalls (ls ++ [l])) = a'.client := by
    rw [openSockets_snoc, hopen, hlive]
  refine ⟨⟨?_, ?_⟩, hafter⟩
  · rw [within_calls, hopen, hafter]
    exact ⟨h.within, hwithin, within_nil.mpr client_length⟩
  · intro pre x post heq
    induction post using List.reverseRecOn with
    | nil =>
      obtain ⟨rfl, hx⟩ := List.append_inj' heq rfl
      obtain rfl := List.singleton_inj.mp hx
      rw [hafter, hl.1]
    | append_singleton post y _ =>
      have heq' : ls ++ [l] = (pre ++ x :: post) ++ [y] := by simpa using heq
      obtain ⟨rfl, _⟩ := List.append_inj' heq' rfl
      exact h.client pre x post rfl

/-- After a run, the open socket is the client's, if it is so after every operation. -/
theorem OneSocket.open_eq {config : DoIpConfig} {serverFd : Int} {ls' : List AdapterStep}
    (h : OneSocket (ls ++ l :: ls')) (hr : Run Uses (started config serverFd) ls a) :
    openSockets (adapterCalls ls) = a.client := by
  induction ls using List.reverseRecOn with
  | nil =>
    obtain rfl := hr.nil_inv
    rfl
  | append_singleton ls y _ =>
    obtain ⟨t, _, hy⟩ := hr.snoc_inv
    rw [h.client ls y (l :: ls') (by simp), hy.1]

end

theorem one_socket_iff {config : DoIpConfig} {serverFd : Int} {ls : List AdapterStep}
    {a : DoIpAdapter} (h : Run Uses (started config serverFd) ls a) :
    OneSocket ls ↔ NeverStranded ls := by
  constructor
  · rintro hone pre l post rfl hacc hstranded
    obtain ⟨t, t', hpre, hl, _⟩ := h.at_label
    have hfd := ((tracked_run hpre).stranded.mp hstranded).1
    have hopen := hone.open_eq hpre
    rcases hl.move.leaks hacc hfd with hne | hw
    · refine hne ?_
      have hclient := hone.client pre l post rfl
      rw [openSockets_snoc, hopen, hl.1] at hclient
      exact hclient
    · refine hw ?_
      have hwithin := hone.within
      rw [within_calls, hopen] at hwithin
      exact hwithin.2.1
  · intro hnever
    have hinv := h.history (fun ls a => NeverStranded ls → Tracked ls a ∧ OneSocket ls ∧
      openSockets (adapterCalls ls) = a.client) ?_ ?_
    · exact (hinv hnever).2.1
    · intro _
      have hone : OneSocket [] := by
        refine ⟨within_nil.mpr (by simp), ?_⟩
        intro pre l post hnil
        cases pre <;> cases hnil
      exact ⟨tracked_nil, hone, rfl⟩
    · intro ls a l a' ih hl hnever
      obtain ⟨htracked, hone, hopen⟩ := ih hnever.left
      refine ⟨htracked.snoc hl.move, hone.snoc hopen hl ?_⟩
      intro hacc
      have hfree := hnever ls l [] rfl hacc
      rw [htracked.stranded] at hfree
      by_contra hfd
      exact hfree ⟨not_lt.mp hfd, hl.move.disconnected hacc⟩

/-- Run one operation against an oracle. -/
def DoIpAdapter.playUse (a : DoIpAdapter) (op : AdapterOp) (o : Oracle) :
    AdapterStep × DoIpAdapter :=
  let r := (a.use op).run o
  (⟨op, r.1, r.2.2⟩, r.2.2)

theorem playUse_uses (a : DoIpAdapter) (op : AdapterOp) (o : Oracle) :
    Uses a (a.playUse op o).1 (a.playUse op o).2 := by
  have hx := exec_run o (a.use op)
  exact ⟨rfl, _, hx⟩

/-- A peer on the socket `fd` that sends `header`. -/
def peer (fd : Int) (header : Bytes) : Oracle
  | .sock (.poll _ _) => ⟨0, 1⟩
  | .sock (.accept _) => ⟨0, ⟨fd, "", 0⟩⟩
  | .sock (.recv _ _) => ⟨0, some header⟩
  | c => obliging 0 c

/-- A routing activation request without a payload. -/
def activationHeader : Bytes := [0x02, 0xFD, 0x00, 0x05, 0x00, 0x00, 0x00, 0x00]

/-- A peer on the socket `fd` that sends a TesterPresent. -/
def presentPeer (fd : Int) : Oracle
  | .sock (.recv _ 8) => ⟨0, some [0x02, 0xFD, 0x80, 0x01, 0x00, 0x00, 0x00, 0x06]⟩
  | .sock (.recv _ _) => ⟨0, some [0x0E, 0x80, 0x00, 0x01, 0x3E, 0x00]⟩
  | c => peer fd [] c

/-- A client that is received from, and lost, and another one after the adapter has disconnected. -/
theorem one_socket_iff_twoClients :
    let r₁ := (started {} 3).playUse .connect (peer 7 activationHeader)
    let r₂ := r₁.2.playUse (.receive 0) (presentPeer 7)
    let r₃ := r₂.2.playUse (.receive 0) (peer 7 [])
    let r₄ := r₃.2.playUse .disconnect (peer 7 [])
    let r₅ := r₄.2.playUse .connect (peer 8 activationHeader)
    let ls := [r₁.1, r₂.1, r₃.1, r₄.1, r₅.1]
    (OneSocket ls ↔ NeverStranded ls) ∧ openSockets (adapterCalls [r₁.1, r₂.1, r₃.1]) = [7] ∧
      openSockets (adapterCalls ls) = [8] := by
  intro r₁ r₂ r₃ r₄ r₅ ls
  have hrun : Run Uses (started {} 3) ls r₅.2 :=
    .cons (playUse_uses _ _ _) (.cons (playUse_uses _ _ _) (.cons (playUse_uses _ _ _)
      (.cons (playUse_uses _ _ _) (.cons (playUse_uses _ _ _) .nil))))
  exact ⟨one_socket_iff hrun, by decide, by decide⟩

/-- The client closes its connection, the adapter notices, and the next client takes its place:
both sockets are open. -/
theorem closed_client_leaks :
    let r₁ := (started {} 3).playUse .connect (peer 7 activationHeader)
    let r₂ := r₁.2.playUse (.receive 0) (peer 7 [])
    let r₃ := r₂.2.playUse .connect (peer 8 activationHeader)
    Run Uses (started {} 3) [r₁.1, r₂.1, r₃.1] r₃.2 ∧ ¬ OneSocket [r₁.1, r₂.1, r₃.1] := by
  intro r₁ r₂ r₃
  refine ⟨?_, ?_⟩
  · exact ((Run.single (playUse_uses _ _ _)).snoc (playUse_uses _ _ _)).snoc (playUse_uses _ _ _)
  · intro hone
    have hopen := hone.client [r₁.1, r₂.1] r₃.1 [] rfl
    exact absurd hopen (by decide)

end Diag
end Tbox
