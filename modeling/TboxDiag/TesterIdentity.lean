import TboxDiag.Messages
import TboxDiag.Conformance

/-!
# TesterIdentity

Who the service takes a tester on the wire to be. The source address of a message goes to the
adapter, which addresses the replies with it, but not to the request: `processPendingRequests`
decodes into a fresh one, whose source address is 0x0000. `identified_iff`: the session layer
tells testers apart exactly as long as every message it handles comes from that address.
-/

namespace Tbox
namespace Diag

open Effects DiagService DoIpAdapter ServiceDispatcher

/-- The session is not expired when the look checks it. -/
def Look.Unexpired (l : Look) : Prop := ∀ e ∈ l.trace, e.cmd = .now .s3Check →
  elapsedMs (timeOf e) l.session.lastTesterPresentAt ≤ Timing.s3Default

/-- The sender of `m` reaches the session layer: the request has its address, and while another
tester holds a session it is turned away on the wire. -/
def Look.Identifies (a : DoIpAdapter) (l : Look) (m : Message) : Prop :=
  ∀ x, l.exchange = some x →
    x.request.sourceAddress = m.source ∧
    (l.session.sessionType ≠ .default → l.session.sourceAddress ≠ m.source → l.Unexpired →
      x.request.addressesSession →
      written (iosOf a.clientFd l.trace) = ackBytes a.config.localAddress m.source ++
        messageBytes a.config.localAddress m.source [0x7F, x.request.serviceId, 0x22])

/-- A refusal that conforms to a message names its service. -/
theorem Conforms.refused {sid sid' nrc : UInt8} {rest : Bytes}
    (h : Conforms (sid :: rest) [0x7F, sid', nrc]) : sid' = sid := by
  cases h
  rfl

section
variable {a : DoIpAdapter} {v : View} {m : Message} {l : Look}

/-- The decoder leaves the source address of a message at 0x0000. -/
theorem Handled.sourceAddress (h : Handled a v m l) {x : Exchange} (hx : l.exchange = some x) :
    x.request.sourceAddress = 0 := by
  cases h with
  | dropped _ hnone _ =>
    rw [hnone] at hx
    cases hx
  | answered hd hsome _ _ _ _ =>
    rw [hsome] at hx
    cases hx
    exact (UdsCodec.decode_addressing hd).1

theorem Handled.exchange_of_decoded (h : Handled a v m l) (hd : m.decoded ≠ none) :
    ∃ x, l.exchange = some x := by
  cases h with
  | dropped hnone _ _ => exact absurd hnone hd
  | answered _ hsome _ _ _ _ => exact ⟨_, hsome⟩

theorem Handled.decoded_of_exchange (h : Handled a v m l) {x : Exchange}
    (hx : l.exchange = some x) : m.decoded ≠ none := by
  cases h with
  | dropped _ hnone _ =>
    rw [hnone] at hx
    cases hx
  | answered hd _ _ _ _ _ => simp [hd]

/-- A message the session layer takes to be from its sender is turned away while the session
belongs to another tester. -/
theorem Handled.turned_away (h : Handled a v m l) (hw : l.Whole a.clientFd)
    (hactive : Active v.managers.sessionMgr) (hsession : l.session = v.managers.sessionMgr.session)
    {x : Exchange} (hx : l.exchange = some x) (hne : l.session.sessionType ≠ .default)
    (hsource : x.request.sourceAddress ≠ l.session.sourceAddress) (hlive : l.Unexpired)
    (haddr : x.request.addressesSession) :
    written (iosOf a.clientFd l.trace) = ackBytes a.config.localAddress m.source ++
      messageBytes a.config.localAddress m.source [0x7F, x.request.serviceId, 0x22] := by
  cases h with
  | dropped _ hnone _ =>
    rw [hnone] at hx
    cases hx
  | @answered request response tr₀ tr b sm ms hd hsome hm htr hdis hsent =>
    rw [hsome] at hx
    cases hx
    rw [Look.Unexpired, hsession] at hlive
    rw [hsession] at hne hsource
    obtain rfl := hm.unexpired fun e he => hlive e (htr e he)
    obtain ⟨hneg, hnrc⟩ := (hdis.foreign hactive hne hsource).2 haddr
    have hconf := hdis.conforms hd
    have henc : UdsCodec.encode response = [0x7F, response.subFunction, response.nrc] := by
      rw [UdsCodec.encode, hneg]
      rfl
    obtain ⟨rest, huds⟩ := UdsCodec.decode_head hd
    rw [huds, henc] at hconf
    rw [hsent hw, henc, hconf.refused, hnrc, ackFrame_eq, messageFrame_eq]

end

/-- The members of a list that are paired off with another list. -/
theorem mem_take_iff_zip {α β : Type} {xs : List α} {ys : List β} {y : β} :
    y ∈ ys.take xs.length ↔ ∃ x, (x, y) ∈ xs.zip ys := by
  induction xs generalizing ys with
  | nil => simp
  | cons x xs ih =>
    cases ys with
    | nil => simp
    | cons z ys =>
      rw [List.length_cons, List.take_succ_cons, List.mem_cons, ih, List.zip_cons_cons]
      constructor
      · rintro (rfl | ⟨x', hx'⟩)
        · exact ⟨x, List.mem_cons_self⟩
        · exact ⟨x', List.mem_cons_of_mem _ hx'⟩
      · rintro ⟨x', hx'⟩
        cases List.mem_cons.mp hx' with
        | inl h =>
          cases h
          exact .inl rfl
        | inr h => exact .inr ⟨x', h⟩

/-- The session layer tells the testers apart exactly when every message that decodes comes from
the address 0x0000. -/
theorem identified_iff {a : DoIpAdapter} {s s' : DiagService} {hist : List Step} {ls : List Look}
    {ms : List Message} {rest : Bytes} (hr : Run Does {} hist s) (hi : s.initialized = true)
    (ht : s.transport = some (.doip a)) (hup : a.Up)
    (h : Run (Looks a.clientFd) (s, streamOf ms) ls (s', rest))
    (hw : ∀ l ∈ ls, l.Whole a.clientFd) :
    (∀ p ∈ (foundLooks a.clientFd ls).zip ms, p.1.Identifies a p.2) ↔
      ∀ m ∈ ms.take (foundLooks a.clientFd ls).length, m.decoded ≠ none → m.source = 0 := by
  obtain ⟨v, hl⟩ := linked_start hr hi ht
  have heach := hl.each hup h
  constructor
  · intro hall m hm hd
    obtain ⟨l, hlm⟩ := mem_take_iff_zip.mp hm
    obtain ⟨_, _, _, hhandled⟩ := heach _ hlm
    obtain ⟨x, hx⟩ := hhandled.exchange_of_decoded hd
    rw [← (hall _ hlm x hx).1]
    exact hhandled.sourceAddress hx
  · rintro hzero ⟨l, m⟩ hlm x hx
    obtain ⟨v', hactive, hsession, hhandled⟩ := heach _ hlm
    have hm := mem_take_iff_zip.mpr ⟨l, hlm⟩
    have hsource : x.request.sourceAddress = m.source := by
      rw [hzero m hm (hhandled.decoded_of_exchange hx)]
      exact hhandled.sourceAddress hx
    refine ⟨hsource, ?_⟩
    intro hne hother hlive haddr
    have hfound : l ∈ foundLooks a.clientFd ls := (List.of_mem_zip hlm).1
    have hwhole : l.Whole a.clientFd := hw l (List.mem_of_mem_filter hfound)
    refine hhandled.turned_away hwhole hactive hsession hx hne ?_ hlive haddr
    rw [hsource]
    exact hother.symm

theorem identified_iff_two :
    (∀ p ∈ (foundLooks 5 [firstLook.1, secondLook.1]).zip twoMessages,
      p.1.Identifies clientUp p.2) ↔
    ∀ m ∈ twoMessages.take (foundLooks 5 [firstLook.1, secondLook.1]).length,
      m.decoded ≠ none → m.source = 0 :=
  identified_iff (play_run {} linkedScript) rfl rfl clientUp_up twoLooks_run twoLooks_whole

/-- Tester 2 opens the programming session while tester 1 holds the extended one; the requests
of both come from address 0x0000. -/
theorem second_tester_takes_session :
    Run Does {} (play {} linkedScript).1 linkedService ∧ linkedService.initialized = true ∧
      linkedService.transport = some (.doip clientUp) ∧
      Run (Looks 5) (linkedService, streamOf twoMessages) [firstLook.1, secondLook.1]
        (secondLook.2, []) ∧
      secondLook.1.session.sessionType = .extended ∧
      (∃ x, secondLook.1.exchange = some x ∧ x.response.positive = true) ∧
      ¬ ∀ p ∈ (foundLooks 5 [firstLook.1, secondLook.1]).zip twoMessages,
        p.1.Identifies clientUp p.2 := by
  refine ⟨play_run {} linkedScript, rfl, rfl, twoLooks_run, rfl, ⟨_, rfl, rfl⟩, ?_⟩
  intro h
  have hmem : (secondLook.1, sessionMessage 2 0x02) ∈
      (foundLooks 5 [firstLook.1, secondLook.1]).zip twoMessages :=
    List.mem_of_getElem? (i := 1) rfl
  have hsource := (h _ hmem _ rfl).1
  cases hsource

end Diag
end Tbox
