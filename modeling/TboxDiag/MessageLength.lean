import TboxDiag.UdsCodec

/-!
# MessageLength

The decoder takes a message for at least as long as its service needs, and does not look whether it
is longer. SecurityAccess and RoutineControl have a payload for what follows; the other services
drop it. `decode_drops_nothing_iff`: two messages are confused exactly when they differ behind what
the decoder keeps of them.
-/

namespace Tbox
namespace Diag

open Effects

namespace UdsCodec

/-- The services the dispatcher has a handler for. -/
def IsSupported (serviceId : UInt8) : Prop :=
  serviceId = UdsService.diagnosticSessionControl ∨ serviceId = UdsService.testerPresent ∨
    serviceId = UdsService.securityAccess ∨ serviceId = UdsService.readDataByIdentifier ∨
    serviceId = UdsService.routineControl

/-- The bytes of a message that the decoder has a place for. -/
def kept : Bytes → Bytes
  | [] => []
  | sid :: rest =>
    if sid = UdsService.diagnosticSessionControl ∨ sid = UdsService.testerPresent then
      sid :: rest.take 1
    else if sid = UdsService.readDataByIdentifier then
      sid :: rest.take 2
    else
      sid :: rest

/-- The message that says what the request holds, in the layout of its service. -/
def message (r : DiagRequest) : Bytes :=
  if r.serviceId = UdsService.diagnosticSessionControl ∨ r.serviceId = UdsService.testerPresent then
    [r.serviceId, r.subFunction]
  else if r.serviceId = UdsService.readDataByIdentifier then
    [r.serviceId, hiByte r.didOrRid, loByte r.didOrRid]
  else if r.serviceId = UdsService.routineControl then
    r.serviceId :: r.subFunction :: hiByte r.didOrRid :: loByte r.didOrRid :: r.payload
  else
    r.serviceId :: r.subFunction :: r.payload

variable {b b' : Bytes} {request r r' : DiagRequest}

/-- The rest of a message plays no part. -/
theorem decode_kept : decode (kept b) request = decode b request := by
  cases b with
  | nil => rfl
  | cons sid rest =>
    simp only [kept]
    split_ifs with hsession hread
    · cases rest with
      | nil => rfl
      | cons sub rest => simp only [decode, if_pos hsession, List.take]
    · subst hread
      cases rest with
      | nil => rfl
      | cons hi rest => cases rest <;> rfl
    · rfl

/-- What is kept is in the request. -/
theorem message_decode (hs : ∃ sid ∈ b.head?, IsSupported sid) (h : decode b {} = some r) :
    message r = kept b := by
  obtain ⟨sid, hsid, hs⟩ := hs
  cases b with
  | nil => cases h
  | cons sid' rest =>
    cases hsid
    rcases hs with rfl | rfl | rfl | rfl | rfl
    · cases rest with
      | nil => cases h
      | cons sub rest =>
        cases h
        rfl
    · cases rest with
      | nil => cases h
      | cons sub rest =>
        cases h
        rfl
    · match rest with
      | [] => cases h
      | [_] | _ :: _ :: _ =>
        cases h
        rfl
    · match rest with
      | [] | [_] => cases h
      | hi :: lo :: _ =>
        cases h
        simp +decide [message, kept]
    · match rest with
      | [] | [_] | [_, _] => cases h
      | [_, _, _] | _ :: _ :: _ :: _ :: _ =>
        cases h
        simp +decide [message, kept]

/-- Two messages make the same request exactly when the same is kept of them. -/
theorem decode_eq_iff (hs : ∃ sid ∈ b.head?, IsSupported sid)
    (hs' : ∃ sid ∈ b'.head?, IsSupported sid) (h : decode b {} = some r)
    (h' : decode b' {} = some r') : r = r' ↔ kept b = kept b' := by
  constructor
  · rintro rfl
    rw [← message_decode hs h, message_decode hs' h']
  · intro hkept
    have hsame : decode b {} = decode b' {} := by rw [← decode_kept, hkept, decode_kept]
    exact Option.some.inj (by rw [← h, hsame, h'])

/-- Two messages are told apart unless they differ only behind what is kept; and a request says all
of its message exactly when all of it is kept. -/
theorem decode_drops_nothing_iff (hs : ∃ sid ∈ b.head?, IsSupported sid)
    (hs' : ∃ sid ∈ b'.head?, IsSupported sid) (h : decode b {} = some r)
    (h' : decode b' {} = some r') :
    ((b ≠ b' → r ≠ r') ↔ ¬ (b ≠ b' ∧ kept b = kept b')) ∧ (message r = b ↔ kept b = b) := by
  refine ⟨?_, by rw [message_decode hs h]⟩
  rw [ne_eq r r', decode_eq_iff hs hs' h h']
  tauto

/-- A VIN read and a routine call. -/
theorem decode_drops_nothing_iff_apart :
    ((([0x22, 0xF1, 0x90] : Bytes) ≠ [0x31, 0x01, 0xFF, 0x00] →
        ({ serviceId := 0x22, didOrRid := 0xF190 } : DiagRequest) ≠
          { serviceId := 0x31, subFunction := 0x01, didOrRid := 0xFF00 }) ↔
      ¬ (([0x22, 0xF1, 0x90] : Bytes) ≠ [0x31, 0x01, 0xFF, 0x00] ∧
        kept [0x22, 0xF1, 0x90] = kept [0x31, 0x01, 0xFF, 0x00])) ∧
      (message { serviceId := 0x22, didOrRid := 0xF190 } = [0x22, 0xF1, 0x90] ↔
        kept [0x22, 0xF1, 0x90] = [0x22, 0xF1, 0x90]) :=
  decode_drops_nothing_iff ⟨0x22, rfl, by simp [IsSupported]⟩ ⟨0x31, rfl, by simp [IsSupported]⟩
    rfl rfl

/-- A read of two DIDs is taken for a read of the first. -/
theorem second_did_dropped :
    ∃ r, decode [0x22, 0xF1, 0x90] {} = some r ∧ decode [0x22, 0xF1, 0x90, 0xF1, 0x8C] {} = some r ∧
      decode [0x10, 0x03] {} = decode [0x10, 0x03, 0x00] {} :=
  ⟨_, rfl, rfl, rfl⟩

end UdsCodec
end Diag
end Tbox
