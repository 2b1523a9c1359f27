import TboxDiag.ProvTwins
import TboxDiag.ServiceTwins
import TboxDiag.Dispatched
import TboxDiag.Lib.Observer

/-!
# TakenMessages

The UDS messages a service takes from its socket, read off what the outside answered: `messages`
above the PROV adapter, `provMessages` below it. A message is taken where the service polls for one,
finds the header of a diagnostic message and reads the whole payload; what comes in the handshake,
or cut short, is not.

`takeBytes_hears`: the messages taken in the first half of a call are what that half returns.
-/

namespace Tbox
namespace Diag

open Effects

/-! ## The messages that are taken -/

/-- The UDS message in a payload: what follows the addresses, if anything does. -/
def udsPart (payload : Bytes) : Bytes :=
  if 4 < payload.length then payload.drop 4 else payload

/-- A message of no bytes is none. -/
def heard (raw : Bytes) : List Bytes := if raw.isEmpty then [] else [raw]

/-- The message taken with an event: a whole payload that is read where the service polls for
messages. One in the handshake, or cut short, is dropped. -/
def Reading.taken : Reading → Event outside → List Bytes
  | .message timeoutMs, ⟨.sock (.recv _ n), x⟩ =>
    match x.reply with
    | some payload => if timeoutMs = 0 ∧ payload.length = n then heard (udsPart payload) else []
    | none => []
  | _, _ => []

/-- Anything but a read of the socket. -/
def Cmd.readless : Cmd → Prop
  | .sock (.recv _ _) => False
  | _ => True

theorem Reading.taken_readless {c : Cmd} (hc : c.readless) (r : Reading) (x : Stamped c.Reply) :
    r.taken ⟨c, x⟩ = [] := by
  cases r with
  | message timeoutMs =>
    cases c with
    | sock c =>
      cases c with
      | recv fd n => exact hc.elim
      | _ => rfl
    | _ => rfl
  | _ => rfl

/-- The messages the service takes, in order. -/
abbrev messages : Observer outside Reading Bytes := ⟨Reading.next, Reading.taken⟩

def ProvReading.taken : Reading → Event provIpc → List Bytes
  | r, ⟨.outer c, x⟩ => r.taken ⟨c, x⟩
  | _, _ => []

/-- The same, below the adapter. -/
abbrev provMessages : Observer provIpc Reading Bytes := ⟨ProvReading.next, ProvReading.taken⟩

theorem provMessages_below {errorText : ProvError → String} :
    provMessages.Below messages (RealProvAdapter.handle errorText) := by
  have pass (r : Reading) (c : Cmd) (a : RealProvAdapter) :
      wp (a.passOn c) fun lo y =>
        provMessages.notes r lo = r.taken ⟨c, y.1⟩ ∧
          provMessages.after r lo = r.next ⟨c, y.1⟩ :=
    fun _ => ⟨List.append_nil _, rfl⟩
  intro r c a
  cases c with
  | prov h c =>
    refine (wp_bind _ _ _).mpr (wp_mono RealProvAdapter.answer_only.issues ?_)
    intro lo y hinner
    have hnotes : provMessages.notes r lo = [] := by
      refine Observer.notes_eq_nil ?_
      rintro ⟨c, x⟩ he r
      have hc := hinner _ he
      cases c with
      | outer c => exact hc.elim
      | client h c => rfl
      | reconnectCheck => rfl
    have hafter : provMessages.after r lo = r :=
      Observer.after_eq fun e he => RealProvAdapter.next_inner (hinner e he) e.ans
    rw [wp_pure, List.append_nil, hnotes, hafter]
    have hread : r.taken ⟨.prov h c, ⟨0, y.1⟩⟩ = [] := r.taken_readless (c := .prov h c) trivial _
    exact ⟨hread.symm, by cases r <;> rfl⟩
  | _ => exact pass r _ a

/-! ### What a call takes -/

theorem Cmd.readless_of_harmless {c : Cmd} (hc : c.harmless) : c.readless := by
  cases c with
  | sock c =>
    cases c with
    | recv fd n => exact hc.elim
    | _ => trivial
  | _ => trivial

/-- No handler reads the socket. -/
theorem Cmd.readless_of_attended {c : Cmd} (hc : ¬ c.aside) : c.readless := by
  cases c with
  | sock c => exact absurd trivial hc
  | _ => trivial

section
variable {α β : Type} {r : Reading} {Q : α → List Bytes}

/-- From the reading `r` on, the messages `p` takes are read off what it returns. -/
def Hears (r : Reading) (p : M α) (Q : α → List Bytes) : Prop :=
  wp p fun tr y => messages.notes r tr = Q y

theorem hears_pure {y : α} (h : Q y = []) : Hears r (pure y) Q := h.symm

theorem hears_ite {c : Prop} [Decidable c] {p q : M α} (hp : c → Hears r p Q)
    (hq : ¬ c → Hears r q Q) : Hears r (if c then p else q) Q :=
  (wp_ite c p q _).mpr ⟨hp, hq⟩

theorem hears_ask {c : Cmd} {k : c.Reply → M α} (hc : ∀ x, r.taken ⟨c, x⟩ = [])
    (h : ∀ x, Hears (r.next ⟨c, x⟩) (k x.reply) Q) : Hears r (ask c >>= k) Q := by
  refine wp_ask_bind.mpr ?_
  intro x
  refine wp_mono (h x) ?_
  intro tr y hy
  show r.taken ⟨c, x⟩ ++ messages.notes (r.next ⟨c, x⟩) tr = Q y
  rw [hc, hy]
  rfl

/-- A program that does not read the socket. -/
theorem hears_nothing {p : M α} (hp : Issues Cmd.readless p) : Hears r p fun _ => [] := by
  refine wp_mono hp ?_
  intro tr _ htr
  exact Observer.notes_eq_nil fun e he r => r.taken_readless (htr e he) e.ans

theorem hears_harmless {p : M α} (hp : Only Cmd.harmless p) : Hears r p fun _ => [] :=
  hears_nothing (hp.mono fun _ => Cmd.readless_of_harmless).issues

theorem Hears.bind {p : M β} {f : β → M α} (hp : Hears r p fun _ => [])
    (hf : ∀ r y, Hears r (f y) Q) : Hears r (p >>= f) Q := by
  refine (wp_bind _ _ _).mpr (wp_mono hp ?_)
  intro tr y htr
  refine wp_mono (hf (messages.after r tr) y) ?_
  intro tr' z htr'
  rw [Observer.notes_append, htr, htr']
  rfl

theorem hears_log {logger : Logger} {level : LogLevel} {event message : String}
    {fields : List (String × FieldValue)} {k : Unit → M α} (h : Hears r (k ()) Q) :
    Hears r (log logger level event message fields >>= k) Q := h

theorem hears_poll {fd : Int} {timeoutMs : UInt32} {k : Int → M α}
    (h : ∀ ret, Hears (.polled timeoutMs) (k ret) Q) :
    Hears r (ask (.sock (.poll fd timeoutMs)) >>= k) Q := by
  refine hears_ask (r.taken_readless (c := .sock (.poll fd timeoutMs)) trivial) ?_
  intro x
  have hnext : r.next ⟨.sock (.poll fd timeoutMs), x⟩ = .polled timeoutMs := by cases r <;> rfl
  rw [hnext]
  exact h _

theorem hears_send {fd : Int} {data : Bytes} {k : Int → M α} (h : ∀ sent, Hears .idle (k sent) Q) :
    Hears r (ask (.sock (.send fd data)) >>= k) Q := by
  refine hears_ask (r.taken_readless (c := .sock (.send fd data)) trivial) ?_
  intro x
  have hnext : r.next ⟨.sock (.send fd data), x⟩ = .idle := by cases r <;> rfl
  rw [hnext]
  exact h _

end

namespace DoIpAdapter

variable {a : DoIpAdapter} {r : Reading}

/-- The header that follows a poll. -/
theorem next_header (timeoutMs : UInt32) (fd : Int) (n : Nat) (x : Stamped (Option Bytes)) :
    (Reading.polled timeoutMs).next ⟨.sock (.recv fd n), x⟩ = .message timeoutMs ∨
      (Reading.polled timeoutMs).next ⟨.sock (.recv fd n), x⟩ = .idle := by
  simp only [Reading.next]
  split
  · split
    · exact .inl rfl
    · exact .inr rfl
  · exact .inr rfl

/-- What comes after a poll with a timeout is not taken. -/
theorem taken_handshake {timeoutMs : UInt32} {fd : Int} {n m : Nat}
    {header x : Stamped (Option Bytes)} (ht : timeoutMs ≠ 0) :
    ((Reading.polled timeoutMs).next ⟨.sock (.recv fd n), header⟩).taken
      ⟨.sock (.recv fd m), x⟩ = [] := by
  obtain hr | hr := next_header timeoutMs fd n header
  · rw [hr]
    simp only [Reading.taken, ht, false_and, if_false]
    split
    · rfl
    · rfl
  · rw [hr]
    rfl

theorem doipHandshake_hears : Hears r a.doipHandshake fun _ => [] := by
  unfold doipHandshake
  refine hears_poll fun ret => hears_ite (fun _ => hears_log (hears_pure rfl)) fun _ => ?_
  refine hears_ask (fun _ => rfl) fun header => ?_
  split
  · refine hears_ite (fun _ => hears_ask (fun x => taken_handshake (by decide)) fun data => ?_)
      fun _ => ?_
    · refine hears_ite (fun _ => ?_) fun _ => hears_harmless unexpected_only
      split
      · exact hears_harmless activate_only
      · exact hears_harmless activate_only
    · refine hears_ite (fun _ => hears_harmless activate_only) fun _ => ?_
      exact hears_harmless unexpected_only
  · exact hears_pure rfl

theorem connect_hears : Hears r a.connect fun _ => [] := by
  unfold connect
  refine hears_ite (fun _ => hears_pure rfl) fun _ => ?_
  refine hears_ite (fun _ => hears_log (hears_pure rfl)) fun _ => ?_
  refine hears_poll fun ret => hears_ite (fun _ => hears_pure rfl) fun _ => ?_
  refine hears_ask (fun _ => rfl) fun peer => ?_
  refine hears_ite (fun _ => hears_log (hears_pure rfl)) fun _ => ?_
  refine hears_log (hears_log (doipHandshake_hears.bind fun r ok => ?_))
  refine hears_ite (fun _ => ?_) fun _ => ?_
  · exact hears_log ((hears_harmless closeClient_only).bind fun r a => hears_pure rfl)
  · exact hears_pure rfl

theorem receiveActivation_hears {n : Nat} (hr : ∀ timeoutMs, r ≠ .message timeoutMs) :
    Hears r (a.receiveActivation n) fun y => heard y.1 := by
  have hunread (x : Stamped (Option Bytes)) : r.taken ⟨.sock (.recv a.clientFd n), x⟩ = [] := by
    cases r with
    | message timeoutMs => exact absurd rfl (hr timeoutMs)
    | _ => rfl
  unfold receiveActivation
  refine hears_ask hunread fun x => ?_
  split
  · exact hears_pure rfl
  · refine hears_ite (fun _ => hears_pure rfl) fun _ => ?_
    exact hears_send fun _ => hears_pure rfl

theorem udsPart_long {b₁ b₂ b₃ b₄ u : UInt8} {us : Bytes} :
    udsPart (b₁ :: b₂ :: b₃ :: b₄ :: u :: us) = u :: us := by
  simp [udsPart]

theorem udsPart_short : ∀ {payload : Bytes},
    (∀ b₁ b₂ b₃ b₄ u us, payload = b₁ :: b₂ :: b₃ :: b₄ :: u :: us → False) →
    udsPart payload = payload
  | [], _ | [_], _ | [_, _], _ | [_, _, _], _ | [_, _, _, _], _ => rfl
  | _ :: _ :: _ :: _ :: _ :: _, h => (h _ _ _ _ _ _ rfl).elim

theorem receiveMessage_hears {n : Nat} :
    Hears (.message 0) (a.receiveMessage n) fun y => heard y.1 := by
  unfold receiveMessage
  refine wp_ask_bind.mpr ?_
  rintro ⟨t, payload⟩
  cases payload with
  | none => exact hears_pure rfl
  | some payload =>
    have hnotes (tr : Trace) : messages.notes (.message 0)
        (⟨.sock (.recv a.clientFd n), ⟨t, some payload⟩⟩ :: tr) =
          (if payload.length = n then heard (udsPart payload) else []) ++
            messages.notes .idle tr := by
      simp [Reading.taken, Reading.next]
    simp only [hnotes]
    refine (wp_ite _ _ _ _).mpr ⟨fun hn => ?_, fun hn => ?_⟩
    · rw [if_neg hn]
      rfl
    · rw [if_pos (not_not.mp hn)]
      split
      · intro sent
        rw [udsPart_long]
        exact List.append_nil _
      next hshort =>
        rw [udsPart_short hshort]
        exact List.append_nil _

theorem receive_hears : Hears r (a.receive 0) fun y => heard y.1 := by
  unfold receive
  refine hears_ite (fun _ => hears_pure rfl) fun _ => hears_poll fun ret => ?_
  refine hears_ite (fun _ => hears_pure rfl) fun _ => hears_ask (fun _ => rfl) fun header => ?_
  split
  next _ _ t₁ t₀ l₃ l₂ l₁ l₀ hheader =>
    have hnext : Reading.next (.polled 0) ⟨.sock (.recv a.clientFd 8), header⟩ =
        if ofBytes16 t₁ t₀ = diagnosticMessage then .message 0 else .idle := by
      simp [Reading.next, hheader]
    rw [hnext]
    refine hears_ite (fun _ => hears_log (hears_pure rfl)) fun _ => ?_
    refine hears_ite (fun htype => ?_) fun _ => hears_ite (fun _ => hears_pure rfl) fun htype => ?_
    · rw [htype, if_neg (by decide)]
      exact receiveActivation_hears (by simp)
    · rw [if_pos (not_not.mp htype)]
      exact receiveMessage_hears
  · exact hears_pure rfl

end DoIpAdapter

theorem Hears.map {α β : Type} {r : Reading} {p : M β} {f : β → α} {P : β → List Bytes}
    {Q : α → List Bytes} (hp : Hears r p P) (h : ∀ y, P y = Q (f y)) :
    Hears r (p >>= fun y => pure (f y)) Q := by
  refine (wp_bind _ _ _).mpr (wp_mono hp ?_)
  intro tr y hy
  rw [wp_pure, List.append_nil, ← h]
  exact hy

namespace TransportAdapter

variable {r : Reading}

theorem connect_hears (a : TransportAdapter) : Hears r a.connect fun _ => [] := by
  cases a with
  | doip a => exact DoIpAdapter.connect_hears.map fun _ => rfl
  | doCan a => exact hears_pure rfl

theorem receive_hears (a : TransportAdapter) : Hears r (a.receive 0) fun y => heard y.1 := by
  cases a with
  | doip a => exact DoIpAdapter.receive_hears.map fun _ => rfl
  | doCan a => exact hears_pure rfl

theorem send_readless (a : TransportAdapter) (data : Bytes) :
    Issues (S := outside) Cmd.readless (a.send data) := by
  cases a with
  | doip a =>
    refine issues_ite issues_pure ?_
    exact issues_bind (issues_ask trivial) fun _ => issues_pure
  | doCan a => exact issues_pure

end TransportAdapter

namespace DiagService

variable {r : Reading}

theorem checkS3Timeout_hears (s : DiagService) : Hears r s.checkS3Timeout fun _ => [] := by
  unfold checkS3Timeout
  split
  · exact hears_pure rfl
  · exact (hears_harmless s3_only).map fun _ => rfl

/-- What `takeBytes` returns is what there was to take. -/
theorem takeBytes_hears (s : DiagService) :
    Hears r s.takeBytes fun y => (y.1.map Prod.snd).toList := by
  unfold takeBytes
  refine hears_ite (fun _ => hears_pure rfl) fun _ => s.checkS3Timeout_hears.bind fun r s => ?_
  split
  · exact hears_pure rfl
  next transport _ =>
    refine hears_ite (fun _ => (transport.connect_hears).bind fun r y => hears_pure rfl) fun _ => ?_
    refine transport.receive_hears.map ?_
    intro y
    rw [heard]
    split
    · rfl
    · rfl

theorem dispatch_readless (s : DiagService) (request : DiagRequest) :
    Issues (S := outside) Cmd.readless (s.dispatch request) := by
  unfold dispatch
  cases s.dispatcher with
  | none => exact issues_pure
  | some d =>
    dsimp only
    split
    · refine issues_bind (wp_mono (d.dispatch_wp _ request) ?_) fun _ => issues_pure
      intro tr y hy e he
      exact Cmd.readless_of_attended (hy.once.1 e he)
    · exact issues_pure

theorem processRaw_readless (s : DiagService) (transport : TransportAdapter) (raw : Bytes) :
    Issues (S := outside) Cmd.readless (s.processRaw transport raw) := by
  unfold processRaw
  refine issues_bind ((UdsCodec.decodeLogged_wp _ _ _).mpr (by simp)) fun request => ?_
  split
  · exact issues_bind issues_log fun _ => issues_pure
  · refine issues_bind issues_log fun _ => issues_bind (s.dispatch_readless _) fun _ => ?_
    refine issues_bind (transport.send_readless _) fun _ => issues_ite ?_ ?_
    · exact issues_bind issues_log fun _ => issues_bind issues_log fun _ => issues_pure
    · exact issues_bind issues_log fun _ => issues_pure

/-- Nothing more is taken when a message is answered. -/
theorem answerBytes_hears (y : Option (TransportAdapter × Bytes) × DiagService) :
    Hears r (answerBytes y) fun _ => [] := by
  unfold answerBytes
  split
  · exact hears_pure rfl
  · exact hears_nothing (processRaw_readless _ _ _)

end DiagService

end Diag
end Tbox
