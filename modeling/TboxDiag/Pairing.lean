import TboxDiag.Messages
import TboxDiag.Lib.History

/-!
# Pairing

Requests and replies on the connection of one client: every message is acknowledged, and answered
if and only if it decodes, in the order in which the messages came and to the tester that sent
each. `replies_paired` says so of any sequence of looks at the transport, those that find nothing
included.
-/

namespace Tbox
namespace Diag

open Effects DiagService DoIpAdapter ServiceDispatcher

/-- What is to be sent for the message `m`: the acknowledgement, and the response if there is
one. -/
def reply (a : DoIpAdapter) (m : Message) (x : Option Exchange) : Bytes :=
  ackBytes a.config.localAddress m.source ++ match x with
    | none => []
    | some x => messageBytes a.config.localAddress m.source (UdsCodec.encode x.response)

/-- The dispatcher makes `response` of `request`, on the service as the look has it after the S3
check and with calls that are among those of the look. -/
def Look.Dispatches (l : Look) (request : DiagRequest) (response : DiagResponse) : Prop :=
  ∃ s₀ transport s₁ tr₀ tr₁ tr tr₂ lg₀ lg, Exec l.before.checkS3Timeout tr₀ lg₀ s₀ ∧
    Exec ((s₀.setTransport transport).dispatch request) tr lg (response, s₁) ∧
    l.trace = tr₀ ++ (tr₁ ++ (tr ++ tr₂))

/-- The look answers `m`: not at all if it does not decode, and else with what the dispatcher
makes of the request. -/
def Look.Answers (l : Look) (m : Message) : Prop :=
  match m.decoded with
  | none => l.exchange = none
  | some request => ∃ response, l.exchange = some ⟨request, response⟩ ∧
      l.Dispatches request response

/-! ## The response to a message -/

theorem processRaw_dispatches (s : DiagService) (transport : TransportAdapter) (raw : Bytes) :
    wp (s.processRaw transport raw) fun tr r => ∀ x, r.1 = some x → ∃ s₁ tr₁ tr₂ lg,
      Exec (s.dispatch x.request) tr₁ lg (x.response, s₁) ∧ tr = tr₁ ++ tr₂ := by
  unfold DiagService.processRaw
  simp only [wp_bind, UdsCodec.decodeLogged_wp, List.nil_append]
  cases UdsCodec.decode raw { transport := transport.getTransportType } with
  | none => simp
  | some request =>
    simp only [wp_bind, wp_log, List.nil_append]
    refine wp_mono (wp_exec (s.dispatch request)) ?_
    intro tr₁ r hr
    obtain ⟨lg, hr⟩ := hr
    refine wp_of_forall ?_
    intro tr₂ sent
    have hdispatch : ∀ x, some (Exchange.mk request r.1) = some x → ∃ s₁ tr₁' tr₂' lg,
        Exec (s.dispatch x.request) tr₁' lg (x.response, s₁) ∧ tr₁ ++ tr₂ = tr₁' ++ tr₂' := by
      rintro x ⟨⟩
      exact ⟨r.2, tr₁, tr₂, lg, hr, rfl⟩
    simp only [wp_ite, wp_bind, wp_log, wp_pure, List.append_nil]
    exact ⟨fun _ => hdispatch, fun _ => hdispatch⟩

/-- The exchange of a look is what its dispatch was given and what it returned. -/
theorem Look.dispatches {l : Look} {s' : DiagService} {x : Exchange}
    (h : Does l.before ⟨.processPendingRequests, l.trace, l.exchange⟩ s')
    (hx : l.exchange = some x) : l.Dispatches x.request x.response := by
  obtain ⟨s, tr, _⟩ := l
  obtain ⟨lg, hexec⟩ := h
  cases hx
  suffices hwp : wp s.processPendingRequests fun tr r => ∀ x, r.1 = some x →
      Look.Dispatches ⟨s, tr, r.1⟩ x.request x.response from hexec.wp hwp x rfl
  have silent (p : Exchange → Prop) : ∀ x, (none : Option Exchange) = some x → p x := by
    intro x hx
    cases hx
  unfold DiagService.processPendingRequests
  simp only [wp_ite, wp_bind, wp_pure]
  refine ⟨fun _ => silent _, ?_⟩
  intro _
  refine wp_mono (wp_exec s.checkS3Timeout) ?_
  intro tr₀ s₀ hs₀
  obtain ⟨lg₀, hs₀⟩ := hs₀
  cases s₀.transport with
  | none => exact silent _
  | some t =>
    simp only [wp_ite, wp_bind, wp_pure]
    refine ⟨?_, ?_⟩
    · intro _
      exact wp_of_forall fun _ _ => silent _
    · intro _
      refine wp_of_forall ?_
      intro tr₁ r
      refine ⟨fun _ => silent _, ?_⟩
      intro _
      refine wp_mono (processRaw_dispatches (s₀.setTransport (some r.2)) r.2 r.1) ?_
      intro tr₂ q hq x hx
      obtain ⟨s₁, tr, tr₂, lg, hdispatch, rfl⟩ := hq x hx
      exact ⟨s₀, some r.2, s₁, tr₀, tr₁, tr, tr₂, lg₀, lg, hs₀, hdispatch, rfl⟩

section
variable {a : DoIpAdapter} {v : View} {m : Message} {l : Look}

theorem Handled.answers {s' : DiagService} (h : Handled a v m l)
    (hdoes : Does l.before ⟨.processPendingRequests, l.trace, l.exchange⟩ s') : l.Answers m := by
  unfold Look.Answers
  cases h with
  | dropped hd hx _ =>
    rw [hd]
    exact hx
  | answered hd hx _ _ _ _ =>
    rw [hd]
    exact ⟨_, hx, Look.dispatches hdoes hx⟩

theorem Handled.sends_reply (h : Handled a v m l) (hw : l.Whole a.clientFd) :
    written (iosOf a.clientFd l.trace) = reply a m l.exchange := by
  cases h with
  | dropped _ hx hsent =>
    rw [hsent hw, hx, reply, ackFrame_eq, List.append_nil]
  | answered _ hx _ _ _ hsent =>
    rw [hsent hw, hx, reply, ackFrame_eq, messageFrame_eq]

end

/-- What is read and what is sent, over a run of looks. -/
theorem Linked.replies {a : DoIpAdapter} {s s' : DiagService} {v : View} {ls : List Look}
    {ms : List Message} {rest : Bytes} (hl : Linked a s v) (hup : a.Up)
    (h : Run (Looks a.clientFd) (s, streamOf ms) ls (s', rest))
    (hw : ∀ l ∈ ls, l.Whole a.clientFd) (hn : (foundLooks a.clientFd ls).length ≤ ms.length) :
    rest = streamOf (ms.drop (foundLooks a.clientFd ls).length) ∧
      written (iosOf a.clientFd (ls.flatMap Look.trace)) =
        ((foundLooks a.clientFd ls).zip ms).flatMap fun p => reply a p.2 p.1.exchange := by
  induction ls generalizing s v ms with
  | nil => exact ⟨congrArg Prod.snd h.nil_inv, rfl⟩
  | cons l ls ih =>
    obtain ⟨⟨s₁, input₁⟩, hstep, hrun⟩ := h.cons_inv
    rw [List.forall_mem_cons] at hw
    rw [List.flatMap_cons, iosOf_append, written_append]
    cases hf : found a.clientFd l.trace with
    | false =>
      obtain ⟨rfl, hsent, v₁, hl₁⟩ := hl.idle hup hstep hf
      rw [foundLooks, List.filter_cons_of_neg (by rw [hf]; simp)] at hn ⊢
      rw [hsent, List.nil_append]
      exact ih hl₁ hrun hw.2 hn
    | true =>
      rw [foundLooks, List.filter_cons_of_pos (by exact hf)] at hn ⊢
      cases ms with
      | nil => simp at hn
      | cons m ms =>
        obtain ⟨rfl, hm, v₁, hl₁⟩ := hl.message hup hstep hf
        rw [List.length_cons, List.length_cons] at hn
        obtain ⟨hrest, hsent⟩ := ih hl₁ hrun hw.2 (Nat.le_of_succ_le_succ hn)
        refine ⟨hrest, ?_⟩
        rw [List.zip_cons_cons, List.flatMap_cons, hm.sends_reply hw.1, hsent]

/-- Every message a client sends is read, acknowledged and, if it decodes, answered, in its turn;
nothing else is sent. -/
theorem replies_paired {a : DoIpAdapter} {s s' : DiagService} {hist : List Step} {ls : List Look}
    {ms : List Message} {rest : Bytes} (hr : Run Does {} hist s) (hi : s.initialized = true)
    (ht : s.transport = some (.doip a)) (hup : a.Up)
    (h : Run (Looks a.clientFd) (s, streamOf ms) ls (s', rest))
    (hw : ∀ l ∈ ls, l.Whole a.clientFd) (hn : (foundLooks a.clientFd ls).length ≤ ms.length) :
    rest = streamOf (ms.drop (foundLooks a.clientFd ls).length) ∧
      written (iosOf a.clientFd (ls.flatMap Look.trace)) =
        ((foundLooks a.clientFd ls).zip ms).flatMap (fun p => reply a p.2 p.1.exchange) ∧
      ∀ p ∈ (foundLooks a.clientFd ls).zip ms, p.1.Answers p.2 := by
  obtain ⟨v, hl⟩ := linked_start hr hi ht
  obtain ⟨hrest, hsent⟩ := hl.replies hup h hw hn
  refine ⟨hrest, hsent, ?_⟩
  intro p hp
  obtain ⟨_, _, _, hhandled⟩ := hl.each hup h p hp
  have hmem : p.1 ∈ ls := List.mem_of_mem_filter (List.of_mem_zip hp).1
  obtain ⟨t, t', hdoes, hbefore, _⟩ := h.of_mem hmem
  rw [← hbefore] at hdoes
  exact hhandled.answers hdoes

/-- Two testers are answered, each with its own address: the acknowledgement and the positive
response to 10 03, and then those to 10 02. -/
theorem replies_paired_two :
    written (iosOf 5 ([firstLook.1, secondLook.1].flatMap Look.trace)) =
      [0x02, 0xFD, 0x80, 0x02, 0x00, 0x00, 0x00, 0x05, 0x00, 0x01, 0x00, 0x01, 0x00] ++
      [0x02, 0xFD, 0x80, 0x01, 0x00, 0x00, 0x00, 0x0A, 0x00, 0x01, 0x00, 0x01,
        0x50, 0x03, 0x13, 0x88, 0x01, 0xF4] ++
      [0x02, 0xFD, 0x80, 0x02, 0x00, 0x00, 0x00, 0x05, 0x00, 0x01, 0x00, 0x02, 0x00] ++
      [0x02, 0xFD, 0x80, 0x01, 0x00, 0x00, 0x00, 0x0A, 0x00, 0x01, 0x00, 0x02,
        0x50, 0x02, 0x13, 0x88, 0x01, 0xF4] := by
  obtain ⟨_, hsent, _⟩ := replies_paired (play_run {} linkedScript) rfl rfl clientUp_up
    twoLooks_run twoLooks_whole (by decide)
  exact hsent

end Diag
end Tbox
