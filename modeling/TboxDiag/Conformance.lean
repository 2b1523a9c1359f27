import TboxDiag.Lifecycle

/-!
# Conformance

What the bytes of a response have to do with the bytes of its request. `Conforms` is the UDS rule:
a negative response names the service, a positive one carries the service id plus 0x40 and echoes
what the request addressed. `response_conforms` shows it of every request the decoder accepts,
through the decoder, the dispatcher and the encoder.

The proof goes from both ends: what the bytes must have been for the decoder to read a request of
a service, and what the outcomes of a dispatch answer.
-/

namespace Tbox
namespace Diag

open Effects ServiceDispatcher

/-- `Conforms raw out`: `out` is an answer to `raw`. Only five services are ever answered
positively. -/
inductive Conforms : Bytes → Bytes → Prop where
  | negative {sid nrc : UInt8} {rest : Bytes} : nrc ≠ 0 →
      Conforms (sid :: rest) [0x7F, sid, nrc]
  | session {sub : UInt8} {rest data : Bytes} :
      Conforms (0x10 :: sub :: rest) ((0x10 + 0x40) :: (sub &&& 0x7F) :: data)
  | testerPresent {sub : UInt8} {rest data : Bytes} :
      Conforms (0x3E :: sub :: rest) ((0x3E + 0x40) :: sub :: data)
  | securityAccess {sub : UInt8} {rest data : Bytes} :
      Conforms (0x27 :: sub :: rest) ((0x27 + 0x40) :: sub :: data)
  | routine {sub hi lo : UInt8} {rest data : Bytes} :
      Conforms (0x31 :: sub :: hi :: lo :: rest) ((0x31 + 0x40) :: sub :: hi :: lo :: data)
  | read {hi lo : UInt8} {rest data : Bytes} :
      Conforms (0x22 :: hi :: lo :: rest) ((0x22 + 0x40) :: hi :: lo :: data)

/-! ## What the decoder read -/

namespace UdsCodec

variable {raw : Bytes} {base r : DiagRequest}

theorem decode_head (h : decode raw base = some r) : ∃ rest, raw = r.serviceId :: rest := by
  have hh := decode_serviceId h
  cases raw with
  | nil => cases hh
  | cons sid rest =>
    rw [List.head?_cons, Option.some.injEq] at hh
    exact ⟨rest, by rw [hh]⟩

theorem decode_sub (h : decode raw base = some r)
    (hs : r.serviceId = UdsService.diagnosticSessionControl ∨
      r.serviceId = UdsService.testerPresent ∨ r.serviceId = UdsService.securityAccess) :
    ∃ rest, raw = r.serviceId :: r.subFunction :: rest := by
  obtain ⟨tail, rfl⟩ := decode_head h
  generalize hsid : r.serviceId = sid at h hs ⊢
  cases tail with
  | nil => rcases hs with rfl | rfl | rfl <;> cases h
  | cons sub rest =>
    suffices hsub : sub = r.subFunction from ⟨rest, by rw [hsub]⟩
    rcases hs with rfl | rfl | rfl
    · cases h
      rfl
    · cases h
      rfl
    · cases rest with
      | nil =>
        cases h
        rfl
      | cons u us =>
        cases h
        rfl

theorem decode_routine (h : decode raw base = some r)
    (hs : r.serviceId = UdsService.routineControl) :
    ∃ hi lo rest, raw = UdsService.routineControl :: r.subFunction :: hi :: lo :: rest ∧
      r.didOrRid = ofBytes16 hi lo ∧ (base.payload = [] → r.payload = rest) := by
  obtain ⟨tail, rfl⟩ := decode_head h
  rw [hs] at h ⊢
  match tail with
  | [] | [_] | [_, _] => cases h
  | [sub, hi, lo] =>
    cases h
    exact ⟨hi, lo, [], rfl, rfl, fun hp => hp⟩
  | sub :: hi :: lo :: u :: us =>
    cases h
    exact ⟨hi, lo, u :: us, rfl, rfl, fun _ => rfl⟩

theorem decode_read (h : decode raw base = some r)
    (hs : r.serviceId = UdsService.readDataByIdentifier) :
    ∃ hi lo rest, raw = UdsService.readDataByIdentifier :: hi :: lo :: rest ∧
      r.didOrRid = ofBytes16 hi lo := by
  obtain ⟨tail, rfl⟩ := decode_head h
  rw [hs] at h ⊢
  match tail with
  | [] | [_] => cases h
  | hi :: lo :: rest =>
    cases h
    exact ⟨hi, lo, rest, rfl, rfl⟩

end UdsCodec

/-! ## What the dispatcher answers -/

namespace ServiceDispatcher

/-- The response turns down a request for the service `sid`. -/
def Refuses (sid : UInt8) (response : DiagResponse) : Prop :=
  ∃ nrc code, nrc ≠ 0 ∧ response = createNegativeResponse sid nrc code

theorem Refuses.conforms {sid : UInt8} {response : DiagResponse} (h : Refuses sid response)
    (rest : Bytes) : Conforms (sid :: rest) (UdsCodec.encode response) := by
  obtain ⟨nrc, code, hn, rfl⟩ := h
  exact .negative hn

theorem negative_refuses {sid nrc : UInt8} {code : String} (h : nrc ≠ 0 := by decide) :
    Refuses sid (createNegativeResponse sid nrc code) := ⟨nrc, code, h, rfl⟩

theorem injectionFailure_nrc (f : CertInjectFailure) : (injectionFailure f).1 ≠ 0 := by
  cases f <;> decide

variable {d : ServiceDispatcher} {ms : Managers} {request : DiagRequest} {tr : Trace}
  {response : DiagResponse}

/-- A routine either refuses or answers with the echo of the request. -/
def RoutineAnswer (request : DiagRequest) (response : DiagResponse) : Prop :=
  Refuses UdsService.routineControl response ∨ ∃ data, response = routineDone request data

theorem WithSec.answer {sa : SecurityAccess} {K : SecHandle → Trace → DiagResponse → Prop}
    (h : WithSec d sa K tr response)
    (hK : ∀ h tr response, K h tr response → RoutineAnswer request response) :
    RoutineAnswer request response := by
  cases h with
  | locked _ => exact .inl negative_refuses
  | noSec _ => exact .inl negative_refuses
  | unavailable _ _ => exact .inl negative_refuses
  | ready _ _ _ hk => exact hK _ _ _ hk

theorem RoutineRun.answer (h : RoutineRun d ms request tr response) :
    RoutineAnswer request response := by
  cases h with
  | wrongSession _ _ => exact .inl negative_refuses
  | generateKeyPair _ _ hw =>
    refine hw.answer fun _ _ _ hk => ?_
    cases hk with
    | failed _ => exact .inl negative_refuses
    | done _ => exact .inr ⟨_, rfl⟩
  | readCsr _ _ hw =>
    refine hw.answer fun _ _ _ hk => ?_
    cases hk with
    | failed _ => exact .inl negative_refuses
    | done _ => exact .inr ⟨_, rfl⟩
  | injectCertificate _ _ hw =>
    refine hw.answer fun _ _ _ hk => ?_
    cases hk with
    | empty _ => exact .inl negative_refuses
    | failed _ _ => exact .inl (negative_refuses (injectionFailure_nrc _))
    | done _ _ => exact .inr ⟨_, rfl⟩
  | locked _ _ => exact .inl negative_refuses
  | noProv _ _ => exact .inl negative_refuses
  | unavailable _ _ _ => exact .inl negative_refuses
  | writeVin _ _ _ _ hv =>
    cases hv with
    | short _ => exact .inl negative_refuses
    | failed _ _ => exact .inl negative_refuses
    | done _ _ => exact .inr ⟨_, rfl⟩
  | outOfRange _ _ _ => exact .inl negative_refuses

theorem DidRead.answer (h : DidRead d request tr response) :
    Refuses UdsService.readDataByIdentifier response ∨ ∃ reply, response =
      createPositiveResponse UdsService.readDataByIdentifier 0
        (didRecord request.didOrRid reply) := by
  cases h with
  | noProv _ => exact .inl negative_refuses
  | unavailable _ _ => exact .inl negative_refuses
  | invalid _ _ _ _ => exact .inl negative_refuses
  | read _ _ _ _ => exact .inr ⟨_, rfl⟩
  | outOfRange _ => exact .inl negative_refuses

/-- SecurityAccess answers both of its requests in one way. -/
theorem securityAccessResponse_conforms {result : DiagErrorCode} {refusal : UInt8} {data : Bytes}
    (hr : refusal ≠ 0) (rest : Bytes) :
    Conforms (UdsService.securityAccess :: request.subFunction :: rest)
      (UdsCodec.encode (securityAccessResponse request result refusal data)) := by
  by_cases h : result = .success
  · rw [securityAccessResponse, if_neg (not_not.mpr h)]
    exact .securityAccess
  · rw [securityAccessResponse, if_pos h]
    refine Refuses.conforms ⟨_, _, ?_, rfl⟩ _
    by_cases hu : result = .secUnavailable
    · rw [if_pos hu]
      decide
    · rw [if_neg hu]
      exact hr

/-- What the dispatcher answers to a decoded request conforms to the bytes it was decoded from. -/
theorem Dispatched.conforms {ms' : Managers} {raw : Bytes} {base : DiagRequest}
    (h : Dispatched d ms request tr response ms') (hd : UdsCodec.decode raw base = some request) :
    Conforms raw (UdsCodec.encode response) := by
  cases h with
  | @session _ result _ hs _ =>
    obtain ⟨rest, rfl⟩ := UdsCodec.decode_sub hd (.inl hs)
    rw [hs]
    by_cases hr : result = .success
    · rw [sessionControlResponse, if_neg (not_not.mpr hr)]
      exact .session
    · rw [sessionControlResponse, if_pos hr]
      refine Refuses.conforms ⟨_, _, ?_, rfl⟩ _
      split <;> decide
  | @testerPresent _ result _ hs _ =>
    obtain ⟨rest, rfl⟩ := UdsCodec.decode_sub hd (.inr (.inl hs))
    rw [hs]
    by_cases hr : result = .success
    · rw [testerPresentResponse, if_neg (not_not.mpr hr)]
      exact .testerPresent
    · rw [testerPresentResponse, if_pos hr]
      exact Refuses.conforms negative_refuses _
  | badLevel hs _ _ =>
    obtain ⟨rest, rfl⟩ := UdsCodec.decode_head hd
    rw [hs]
    exact Refuses.conforms negative_refuses _
  | seed hs _ _ =>
    obtain ⟨rest, rfl⟩ := UdsCodec.decode_sub hd (.inr (.inr hs))
    rw [hs]
    exact securityAccessResponse_conforms (by decide) _
  | key hs _ _ =>
    obtain ⟨rest, rfl⟩ := UdsCodec.decode_sub hd (.inr (.inr hs))
    rw [hs]
    exact securityAccessResponse_conforms (by decide) _
  | routine hs hr =>
    obtain ⟨hi, lo, rest, rfl, hrid, _⟩ := UdsCodec.decode_routine hd hs
    rcases hr.answer with hr | ⟨data, rfl⟩
    · exact hr.conforms _
    · rw [routineDone, ridEcho, hrid, hiByte_ofBytes16, loByte_ofBytes16]
      exact .routine
  | read hs hr =>
    obtain ⟨hi, lo, rest, rfl, hdid⟩ := UdsCodec.decode_read hd hs
    rcases hr.answer with hr | ⟨reply, rfl⟩
    · exact hr.conforms _
    · rw [didRecord, hdid, hiByte_ofBytes16, loByte_ofBytes16]
      exact .read
  | unsupported _ _ _ _ _ =>
    obtain ⟨rest, rfl⟩ := UdsCodec.decode_head hd
    exact Refuses.conforms negative_refuses _

end ServiceDispatcher

/-- Every request the decoder accepts is answered as it should be, from every state of an
initialised service and whatever SEC and PROV say. -/
theorem response_conforms {s s' : DiagService} {ls : List DiagService.Step} {raw : Bytes}
    {request : DiagRequest} {response : DiagResponse} {tr : Trace} {lg : List LogRecord}
    (hr : Run DiagService.Does {} ls s) (hi : s.initialized = true)
    (hd : UdsCodec.decode raw {} = some request)
    (hx : Exec (s.dispatch request) tr lg (response, s')) :
    Conforms raw (UdsCodec.encode response) := by
  obtain ⟨v, _, hshow⟩ := reach_serves hr hi
  obtain ⟨ms, hdis, _, _⟩ := hx.wp (hshow.dispatch_wp request)
  exact hdis.conforms hd

/-- Reading the VIN. -/
theorem response_conforms_readVin : ∃ response, Conforms [0x22, 0xF1, 0x90]
    (UdsCodec.encode response) ∧ response.positive = true := by
  let request : DiagRequest := { serviceId := 0x22, didOrRid := 0xF190 }
  have hd : UdsCodec.decode [0x22, 0xF1, 0x90] {} = some request := rfl
  have hx := exec_run (obliging 0) (ownedService.dispatch request)
  exact ⟨_, response_conforms (DiagService.play_run {} ownedScript) rfl hd hx, rfl⟩

end Diag
end Tbox
