import TboxDiag.FrameParsing
import TboxDiag.Messages

/-!
# Addressing

A diagnostic message begins with four bytes of addresses. `addressing_stripped_iff`: `receive`
hands the service what follows them, and takes over the address of the sender, unless there are
one to four bytes in all; these it hands over as if they were a request, and the service answers
it to the tester before.
-/

namespace Tbox
namespace Diag

open Effects DiagService DoIpAdapter

namespace DoIpAdapter

/-- What `receive` makes of a diagnostic message: the bytes behind the addresses with the address
of the sender, or all of a payload that has no more than four. -/
theorem Took.diagnostic {a a' : DoIpAdapter} {f : Frame} {ios : List Io} {raw left : Bytes}
    (h : Took a f ios raw a' left) (htype : f.payloadType = diagnosticMessage)
    (hlen : f.payload.length ≤ 4096) :
    (4 < f.payload.length ∧ raw = f.payload.drop 4 ∧
        a'.remoteAddress = leadingAddress f.payload) ∨
      (f.payload.length ≤ 4 ∧ raw = f.payload) := by
  cases h with
  | oversized hbig => omega
  | activation _ htype' =>
    rw [htype] at htype'
    cases htype'
  | unknown _ _ hne => exact absurd htype hne
  | message _ _ hp =>
    rw [hp]
    exact .inl ⟨by simp, rfl, rfl⟩
  | tiny hfour _ => exact .inr ⟨hfour, rfl⟩

/-- Of a diagnostic message `f`, `receive` returns the bytes behind the addresses and no others; a
request it returns is answered to the sender of `f`; and a service with this adapter dispatches
nothing when there are no such bytes. -/
structure Strips (a : DoIpAdapter) (f : Frame) : Prop where
  receive {timeoutMs : UInt32} {tail rest raw : Bytes} {tr : Trace} {lg : List LogRecord}
    {a' : DoIpAdapter} : Exec (a.receive timeoutMs) tr lg (raw, a') → found a.clientFd tr = true →
    Wire (f.bytes ++ tail) (iosOf a.clientFd tr) rest →
    raw = f.payload.drop 4 ∧ (raw ≠ [] → a'.remoteAddress = leadingAddress f.payload)
  dispatch {hist : List Step} {s s' : DiagService} {l : Look} {tail rest : Bytes} :
    Run Does {} hist s → s.initialized = true → s.transport = some (.doip a) →
    Looks a.clientFd (s, f.bytes ++ tail) l (s', rest) → found a.clientFd l.trace = true →
    f.payload.length ≤ 4 → l.exchange = none

section
variable {a : DoIpAdapter} {f : Frame}

/-- An empty message is dispatched by no service. -/
theorem empty_silent {s s' : DiagService} {v : View} {l : Look} {tail rest : Bytes}
    (hl : Linked a s v) (hup : a.Up) (h : Looks a.clientFd (s, f.bytes ++ tail) l (s', rest))
    (hf : found a.clientFd l.trace = true) (htype : f.payloadType = diagnosticMessage)
    (hempty : f.payload = []) : l.exchange = none := by
  have hlook := hl.looked hup h
  obtain ⟨before, tr, x⟩ := l
  obtain ⟨_, _, hw⟩ := h
  simp only at hf hw hlook ⊢
  cases hlook with
  | dropped => rfl
  | @answered _ _ _ _ _ _ _ _ _ _ _ raw _ _ _ _ hm hr hd hdis hsend =>
    obtain ⟨left, htook, _⟩ := answered_took hup hm hr hdis hsend hf hw
    have hlen : f.payload.length = 0 := by rw [hempty]; rfl
    rcases htook.diagnostic htype (by omega) with ⟨hlong, _⟩ | ⟨_, hraw⟩
    · omega
    · -- nothing was received, and nothing decodes to no request
      have hraw : raw = [] := hraw.trans hempty
      rw [hraw] at hd
      cases hd

/-- A message of four bytes or less is returned as it is. -/
theorem receiveMessage_short {n : Nat} {payload : Bytes} (hn : n = payload.length)
    (hfour : payload.length ≤ 4) :
    Exec (a.receiveMessage n) [⟨.sock (.recv a.clientFd n), ⟨0, some payload⟩⟩] []
      (payload, a) := by
  unfold receiveMessage
  rw [exec_ask_bind]
  simp only [hn, ne_eq, not_true_eq_false, if_false]
  split
  · simp only [List.length_cons] at hfour
    omega
  · exact .pure

/-- There is a call that receives a short message. -/
theorem receive_short_run (hup : a.Up) (htype : f.payloadType = diagnosticMessage)
    (hfour : f.payload.length ≤ 4) :
    ∃ tr lg, Exec (a.receive 0) tr lg (f.payload, a) ∧ found a.clientFd tr = true ∧
      Wire (f.bytes ++ []) (iosOf a.clientFd tr) [] := by
  have hn : (UInt32.ofNat f.payload.length).toNat = f.payload.length := f.len_toNat
  have hfits : ¬ maxPayload < UInt32.ofNat f.payload.length := by
    rw [UInt32.lt_iff_toNat_lt, hn, show maxPayload.toNat = 4096 from rfl]
    omega
  have hx : Exec (a.receivePayload f.payloadType (UInt32.ofNat f.payload.length))
      [⟨.sock (.recv a.clientFd f.payload.length), ⟨0, some f.payload⟩⟩] [] (f.payload, a) := by
    unfold receivePayload
    rw [htype, if_neg hfits, if_neg (by decide), if_neg (by decide), hn]
    exact receiveMessage_short rfl hfour
  have hcall := (receive_decodes f hup 0 ⟨0, 1⟩ ⟨0, some f.header⟩ _ [] (f.payload, a)
    Int.one_pos rfl).mpr hx
  refine ⟨_, [], hcall, ?_, ?_⟩
  · rw [found_cons, foundOf_poll]
    rfl
  · simp only [iosOf_cons, iosOf_nil, ioOf_poll, ioOf_recv, List.append_nil]
    exact .cons rfl (.cons ⟨rfl, le_rfl, fun _ => rfl⟩
      (.single ⟨(List.append_nil _).symm, le_rfl, fun _ => rfl⟩))

/-- The addresses of a diagnostic message stay out of the request exactly when it has none or more
than four bytes. -/
theorem addressing_stripped_iff (hup : a.Up) (htype : f.payloadType = diagnosticMessage)
    (hlen : f.payload.length ≤ 4096) : a.Strips f ↔ f.payload = [] ∨ 4 < f.payload.length := by
  constructor
  · intro h
    by_cases hfour : f.payload.length ≤ 4
    · obtain ⟨tr, lg, hx, hf, hw⟩ := receive_short_run hup htype hfour
      obtain ⟨hraw, _⟩ := h.receive hx hf hw
      rw [List.drop_eq_nil_of_le hfour] at hraw
      exact .inl hraw
    · exact .inr (Nat.not_le.mp hfour)
  · intro hcond
    refine ⟨?_, ?_⟩
    · intro timeoutMs tail rest raw tr lg a' hx hf hw
      obtain ⟨left, htook, _⟩ := hx.wp (receive_frame hup timeoutMs f tail) rest hw hf
      rcases htook.diagnostic htype hlen with ⟨_, hraw, haddr⟩ | ⟨hfour, hraw⟩
      · exact ⟨hraw, fun _ => haddr⟩
      · have hempty : f.payload = [] := by
          rcases hcond with h | h
          · exact h
          · omega
        have hraw : raw = [] := hraw.trans hempty
        rw [hraw, hempty]
        exact ⟨rfl, fun h => absurd rfl h⟩
    · intro hist s s' l tail rest hr hi ht h hf hfour
      obtain ⟨v, hl⟩ := linked_start hr hi ht
      rcases hcond with hempty | hlong
      · exact empty_silent hl hup h hf htype hempty
      · omega

theorem addressing_stripped_iff_present :
    clientUp.Strips (sessionMessage 1 0x03).frame ↔
      (sessionMessage 1 0x03).frame.payload = [] ∨
        4 < (sessionMessage 1 0x03).frame.payload.length :=
  addressing_stripped_iff clientUp_up rfl (by decide)

/-- The two bytes of a tester present, without addresses. -/
def tinyFrame : Frame := { payloadType := 0x8001, payload := [0x3E, 0x00], fits := by norm_num }

/-- The service executes it as a request. -/
theorem tiny_frame_dispatched :
    Run Does {} (play {} linkedScript).1 linkedService ∧ linkedService.initialized = true ∧
      linkedService.transport = some (.doip clientUp) ∧
      Looks 5 (linkedService, tinyFrame.bytes ++ []) (lookOn linkedService tinyFrame).1
        ((lookOn linkedService tinyFrame).2, []) ∧
      (∃ x, (lookOn linkedService tinyFrame).1.exchange = some x ∧ x.request.serviceId = 0x3E) ∧
      ¬ clientUp.Strips tinyFrame := by
  have hlook : Looks 5 (linkedService, tinyFrame.bytes ++ []) (lookOn linkedService tinyFrame).1
      ((lookOn linkedService tinyFrame).2, []) :=
    looks_lookOn (.cons rfl (.cons ⟨rfl, by decide, fun _ => rfl⟩
      (.cons ⟨rfl, by decide, fun _ => rfl⟩ (.single rfl))))
  refine ⟨play_run {} linkedScript, rfl, rfl, hlook, ⟨_, rfl, rfl⟩, ?_⟩
  intro h
  have hnone := h.dispatch (play_run {} linkedScript) rfl rfl hlook rfl (by decide)
  cases hnone

end

end DoIpAdapter
end Diag
end Tbox
