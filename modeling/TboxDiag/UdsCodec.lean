import TboxDiag.Outside

/-!
# UdsCodec

The UDS wire format: requests decoded from bytes, responses encoded to bytes. `decode` is the
decoder, `decodeLogged` the decoder with the record it writes for a RoutineControl message.
-/

namespace Tbox
namespace Diag

open Effects

namespace UdsCodec

/-- Decode `raw` into `request`; `none` where the source returns `false`. -/
def decode (raw : Bytes) (request : DiagRequest) : Option DiagRequest :=
  match raw with
  | [] => none
  | sid :: rest =>
    let request := { request with serviceId := sid }
    if sid = UdsService.diagnosticSessionControl ∨ sid = UdsService.testerPresent then
      match rest with
      | [] => none
      | sub :: _ => some { request with subFunction := sub }
    else if sid = UdsService.securityAccess then
      match rest with
      | [] => none
      | [sub] => some { request with subFunction := sub }
      | sub :: payload => some { request with subFunction := sub, payload }
    else if sid = UdsService.readDataByIdentifier then
      match rest with
      | hi :: lo :: _ => some { request with didOrRid := ofBytes16 hi lo }
      | _ => none
    else if sid = UdsService.routineControl then
      match rest with
      | [sub, hi, lo] => some { request with subFunction := sub, didOrRid := ofBytes16 hi lo }
      | sub :: hi :: lo :: payload =>
        some { request with subFunction := sub, didOrRid := ofBytes16 hi lo, payload }
      | _ => none
    else
      match rest with
      | [] => some request
      | [sub] => some { request with subFunction := sub }
      | sub :: payload => some { request with subFunction := sub, payload }

/-- `%02x `, for each byte. -/
def rawHex (raw : Bytes) : String :=
  raw.foldl (fun s b =>
    let ds := Nat.toDigits 16 b.toNat
    s ++ String.ofList (List.replicate (2 - ds.length) '0' ++ ds) ++ " ") ""

def decodeLogged (raw : Bytes) (request : DiagRequest) : M (Option DiagRequest) := do
  if raw.head? = some UdsService.routineControl then
    log .udsRouter .debug "diag.uds.routine_control_raw" "RoutineControl raw decode"
      [("payload_size", .int raw.length), ("raw_hex", .string (rawHex raw))]
  pure (decode raw request)

@[simp] theorem decodeLogged_wp (raw : Bytes) (request : DiagRequest)
    (Q : Trace → Option DiagRequest → Prop) :
    wp (decodeLogged raw request) Q ↔ Q [] (decode raw request) := by
  unfold decodeLogged
  by_cases h : raw.head? = some UdsService.routineControl <;> simp [h]

def encode (response : DiagResponse) : Bytes :=
  if response.positive then
    -- the positive response to ReadDataByIdentifier has no sub-function byte
    if response.serviceId ≠ UdsService.readDataByIdentifier + 0x40 then
      response.serviceId :: response.subFunction :: response.payload
    else
      response.serviceId :: response.payload
  else
    [0x7F, response.subFunction, response.nrc]

theorem decode_serviceId {raw : Bytes} {request r : DiagRequest} (h : decode raw request = some r) :
    raw.head? = some r.serviceId := by
  unfold decode at h
  grind

/-- The decoder leaves the addressing alone. -/
theorem decode_addressing {raw : Bytes} {request r : DiagRequest}
    (h : decode raw request = some r) :
    r.sourceAddress = request.sourceAddress ∧ r.transport = request.transport := by
  unfold decode at h
  grind

end UdsCodec
end Diag
end Tbox
