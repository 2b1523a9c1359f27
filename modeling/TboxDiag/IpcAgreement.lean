import TboxDiag.DiagClient
import TboxDiag.StatusReport

/-!
# IpcAgreement

The dispatcher and its client agree. `dispatchText` is the dispatcher down to the text it returns,
with a service that may throw; `client_agrees`: what a query of the client reports as a success is
what the service holds, and every answer has a status, zero only for a query that went through.
-/

namespace Tbox
namespace Diag

open Effects

/-! ## The dispatcher, to its text -/

namespace DiagIpcDispatcher

def known (methodId : UInt32) : Prop :=
  methodId = MethodId.getServiceStatus ∨ methodId = MethodId.getVehicleInfo ∨
    methodId = MethodId.isTesterConnected

instance (methodId : UInt32) : Decidable (known methodId) :=
  inferInstanceAs (Decidable (_ ∨ _ ∨ _))

/-- The handler of a method, left where the service throws. -/
def handleRaising (raised : Option Thrown) (s : DiagService) (methodId : UInt32) : M Outcome :=
  match raised with
  | some e => if known methodId then pure (.error e) else handle s methodId
  | none => handle s methodId

/-- The end of `dispatch`: the text of the handler is parsed, given its status and dumped. -/
def respond (lib : JsonLib) (status : Int) (payload : JsonObject) : Option lib.Text :=
  let text := lib.dump payload >>= lib.parse >>= fun j => lib.dump (makeJsonResponse status j)
  match text with
  | some t => some t
  | none => lib.dump (makeJsonResponse status [("error", .text "Invalid response")])

def dispatchText (lib : JsonLib) (raised : Option Thrown) (s : DiagService) (methodId : UInt32)
    (paramsJson : Bytes) : M (Option lib.Text) := do
  log .ipc .debug "diag.ipc.dispatch" "Dispatching request"
    [("method_id", .int methodId.toInt32.toInt), ("payload_bytes", .int paramsJson.length)]
  let outcome ← handleRaising raised s methodId
  let (status, payload) ← caught methodId outcome
  log .ipc .debug "diag.ipc.dispatched" "Request dispatched"
    [("method_id", .int methodId.toInt32.toInt), ("status", .int status)]
  pure (respond lib status payload)

/-! ### What it returns -/

/-- What the catch clauses make of the end of a handler. -/
def settled : Outcome → Int × JsonObject
  | .ok result => result
  | .error .json => (fwSerializationFailed, [("error", .text "JSON error")])
  | .error .exception => (fwHandlerFailed, [("error", .text "Internal error")])
  | .error .other => (fwHandlerFailed, [("error", .text "Unknown exception")])

section
variable {lib : JsonLib} {raised : Option Thrown} {s : DiagService} {methodId : UInt32}
  {paramsJson : Bytes} {o : Oracle}

theorem caught_result (outcome : Outcome) :
    (caught methodId outcome).result o = settled outcome := by
  cases outcome with
  | ok result => rfl
  | error e => cases e <;> rfl

theorem dispatchText_result (outcome : Outcome)
    (h : (handleRaising raised s methodId).result o = outcome) :
    (dispatchText lib raised s methodId paramsJson).result o =
      respond lib (settled outcome).1 (settled outcome).2 := by
  unfold dispatchText
  rw [result_bind, result_bind, h, result_bind, caught_result, result_bind, result_pure]

theorem dispatch_result (outcome : Outcome) (h : (handle s methodId).result o = outcome) :
    (dispatch s methodId paramsJson).result o =
      makeJsonResponse (settled outcome).1 (settled outcome).2 := by
  unfold dispatch
  rw [result_bind, result_bind, h, result_bind, caught_result, result_bind, result_pure]

theorem dumped_dumps {j : JsonObject} {r : Int × JsonObject} (h : dumped j = .ok r) :
    r = (statusSuccess, j) ∧ j.dumps = true := by
  unfold dumped at h
  split at h
  next hd =>
    cases h
    exact ⟨rfl, hd⟩
  · cases h

/-- The end of the handler of GET_VEHICLE_INFO. -/
def vehicleInfoOutcome (info : VinReadResult) : Outcome :=
  if info.valid then
    dumped [("valid", .bool info.valid), ("vin", .bytes info.vin),
      ("bind_state", .bytes info.bindState)]
  else
    dumped [("valid", .bool info.valid)]

theorem handle_getVehicleInfo :
    (handle s MethodId.getVehicleInfo).result o =
      vehicleInfoOutcome (s.getVehicleInfo.result o) := by
  have hm : (handle s MethodId.getVehicleInfo) = handleGetVehicleInfo s := rfl
  rw [hm, handleGetVehicleInfo, result_bind, vehicleInfoOutcome]
  split <;> rfl

theorem vehicleInfoOutcome_ok {info : VinReadResult} {r : Int × JsonObject}
    (h : vehicleInfoOutcome info = .ok r) : r.1 = statusSuccess ∧ r.2.dumps = true := by
  unfold vehicleInfoOutcome at h
  split at h
  · obtain ⟨rfl, hd⟩ := dumped_dumps h
    exact ⟨rfl, hd⟩
  · obtain ⟨rfl, hd⟩ := dumped_dumps h
    exact ⟨rfl, hd⟩

/-- How a handler ends: with the object of a known method, or with the refusal of another. -/
theorem handle_ok {r : Int × JsonObject} (h : (handle s methodId).result o = .ok r) :
    r.2.dumps = true ∧
      (known methodId ∧ r.1 = statusSuccess ∨ ¬ known methodId ∧ r.1 = fwHandlerFailed) := by
  by_cases h1 : methodId = MethodId.getServiceStatus
  · subst h1
    have hs : handleGetServiceStatus s = .ok r := h
    obtain ⟨rfl, hd⟩ := dumped_dumps hs
    exact ⟨hd, .inl ⟨.inl rfl, rfl⟩⟩
  by_cases h2 : methodId = MethodId.getVehicleInfo
  · subst h2
    rw [handle_getVehicleInfo] at h
    obtain ⟨hr, hd⟩ := vehicleInfoOutcome_ok h
    exact ⟨hd, .inl ⟨.inr (.inl rfl), hr⟩⟩
  by_cases h3 : methodId = MethodId.isTesterConnected
  · subst h3
    have hs : handleIsTesterConnected s = .ok r := h
    obtain ⟨rfl, hd⟩ := dumped_dumps hs
    exact ⟨hd, .inl ⟨.inr (.inr rfl), rfl⟩⟩
  · unfold handle at h
    rw [if_neg h1, if_neg h2, if_neg h3] at h
    cases h
    exact ⟨rfl, .inr ⟨by simp [known, h1, h2, h3], rfl⟩⟩

/-- A known method that answers with a success ran its handler to the end. -/
theorem handleRaising_ok {r : Int × JsonObject}
    (h : (handleRaising raised s methodId).result o = .ok r) :
    (handle s methodId).result o = .ok r ∧ (known methodId → raised = none) := by
  unfold handleRaising at h
  split at h
  · split at h
    · cases h
    next hm => exact ⟨h, fun hk => absurd hk hm⟩
  · exact ⟨h, fun _ => rfl⟩

variable (raised s methodId o) in
/-- The status and the object that are sent. -/
theorem settled_spec :
    (settled ((handleRaising raised s methodId).result o)).2.dumps = true ∧
      ((settled ((handleRaising raised s methodId).result o)).1 = statusSuccess ↔
        known methodId ∧ ∃ r, (handleRaising raised s methodId).result o = .ok r) ∧
      (settled ((handleRaising raised s methodId).result o)).1 ∈
        [statusSuccess, fwSerializationFailed, fwHandlerFailed] := by
  generalize h : (handleRaising raised s methodId).result o = outcome
  cases outcome with
  | ok r =>
    obtain ⟨hd, ⟨hk, hr⟩ | ⟨hk, hr⟩⟩ := handle_ok (handleRaising_ok h).1
    · simp [settled, hd, hk, hr]
    · simp [settled, hd, hk, hr]
  | error e => cases e <;> simp [settled, JsonObject.dumps]

/-- What comes out of `respond` is read as what went into it. -/
theorem respond_same (hlib : lib.Lawful) {status : Int} {payload : JsonObject}
    (hd : payload.dumps = true) : ∃ t j, respond lib status payload = some t ∧
      lib.parse t = some j ∧ j.Same (makeJsonResponse status payload) := by
  obtain ⟨t₀, ht₀⟩ := Option.isSome_iff_exists.mp ((hlib.dump_isSome payload).trans hd)
  obtain ⟨p, hp, hsame⟩ := hlib.parse_dump ht₀
  have hpd : (makeJsonResponse status p).dumps = true :=
    JsonObject.dumps_set (hlib.parse_dumps hp) status
  obtain ⟨t, ht⟩ := Option.isSome_iff_exists.mp ((hlib.dump_isSome _).trans hpd)
  obtain ⟨j, hj, hjsame⟩ := hlib.parse_dump ht
  refine ⟨t, j, ?_, hj, hjsame.trans (hsame.set _ _)⟩
  simp [respond, ht₀, hp, ht]

/-- The text of the dispatcher is that of its object. -/
theorem dispatchText_same (hlib : lib.Lawful) :
    ∃ t j, (dispatchText lib none s methodId paramsJson).result o = some t ∧
      lib.parse t = some j ∧ j.Same ((dispatch s methodId paramsJson).result o) := by
  have hh : (handleRaising none s methodId).result o = (handle s methodId).result o := rfl
  rw [dispatchText_result _ hh, dispatch_result _ rfl]
  exact respond_same hlib (settled_spec none s methodId o).1

variable (raised s methodId paramsJson o) in
/-- Every answer is an object with a status. -/
theorem dispatchText_answer (hlib : lib.Lawful) :
    ∃ t j, (dispatchText lib raised s methodId paramsJson).result o = some t ∧
      lib.parse t = some j ∧
      j.Same (makeJsonResponse (settled ((handleRaising raised s methodId).result o)).1
        (settled ((handleRaising raised s methodId).result o)).2) := by
  rw [dispatchText_result _ rfl]
  exact respond_same hlib (settled_spec raised s methodId o).1

end
end DiagIpcDispatcher

/-! ## What arrives -/

open DiagIpcDispatcher DiagClient

/-- The framework delivers the texts of the dispatcher, unchanged. -/
def FwClient.Delivers {lib : JsonLib} (fw : FwClient lib.Text) (raised : Option Thrown)
    (s : DiagService) (o : Oracle) : Prop :=
  ∀ methodId params response,
    fw.call methodId params = (0, response) ∨ fw.callOnce methodId params = (0, response) →
    (dispatchText lib raised s methodId params).result o = some response

/-- The status of the service, as its own methods give it. -/
def DiagService.status (s : DiagService) : DiagServiceStatus where
  initialized := s.isInitialized
  sessionType := utf8 (sessionToString s.getCurrentSession.sessionType)
  sessionState := utf8 (sessionStateText s.getCurrentSession.state)
  securityUnlocked := s.getCurrentSession.securityUnlocked
  transport := utf8 (if s.getCurrentSession.transport = .doip then "DOIP" else "DOCAN")

/-- The client has what PROV returned; of an invalid result, only that it is. -/
def VehicleInfo.Shows (info : VehicleInfo) (held : VinReadResult) : Prop :=
  info.valid = held.valid ∧
    (held.valid = true → info.vin = held.vin ∧ info.bindState = held.bindState)

section
variable {lib : JsonLib} {fw : FwClient lib.Text} {raised : Option Thrown} {s : DiagService}
  {o : Oracle} {methodId : UInt32} {params : Bytes}

theorem sendRequest_some {status : Int32} {response : lib.Text}
    (h : sendRequest lib fw methodId params = some (status, response)) :
    (fw.call methodId params = (0, response) ∨ fw.callOnce methodId params = (0, response)) ∧
      status = bizStatus lib response := by
  have hzero {x : Int32} (h : ¬ x < 0) (h' : ¬ x > 0) : x = 0 :=
    Int32.le_antisymm (Int32.not_lt.mp h') (Int32.not_lt.mp h)
  unfold sendRequest at h
  by_cases hr : DiagRetryPolicy.shouldRetry methodId = true
  · simp only [hr, if_true] at h
    split at h
    · cases h
    split at h
    · cases h
    next hn hp =>
    cases h
    exact ⟨.inl (Prod.ext (hzero hn hp) rfl), rfl⟩
  · simp only [hr, if_false, Bool.false_eq_true] at h
    split at h
    · cases h
    split at h
    · cases h
    next hn hp =>
    cases h
    exact ⟨.inr (Prod.ext (hzero hn hp) rfl), rfl⟩

theorem valueInt_status {status : Int} {payload : JsonObject} :
    (makeJsonResponse status payload).valueInt "status" 0 = some (Int32.ofInt status) := by
  rw [JsonObject.valueInt, makeJsonResponse, JsonObject.get?_set, if_pos rfl]
  rfl

theorem status_of_same {j payload : JsonObject} {status : Int}
    (h : j.Same (makeJsonResponse status payload)) : j.get? "status" = some (.int status) := by
  have hstatus := h "status"
  rw [makeJsonResponse, JsonObject.get?_set, if_pos rfl] at hstatus
  obtain ⟨v, hv, hraw⟩ := Option.map_eq_some_iff.mp hstatus
  rw [hv]
  cases v with
  | int n => exact congrArg some hraw
  | _ => cases hraw

/-- No status of the dispatcher but zero is taken for zero. -/
theorem ofInt_status {status : Int}
    (h : status ∈ [statusSuccess, fwSerializationFailed, fwHandlerFailed])
    (h0 : Int32.ofInt status = 0) : status = statusSuccess := by
  simp only [List.mem_cons, List.not_mem_nil, or_false] at h
  obtain rfl | rfl | rfl := h
  · rfl
  · exact absurd h0 (by decide)
  · exact absurd h0 (by decide)

/-- What the client accepts is the object of a handler that ran to its end. -/
theorem accepted (hlib : lib.Lawful) (hfw : fw.Delivers raised s o) {response : lib.Text}
    {j : JsonObject} (hsend : sendRequest lib fw methodId params = some (0, response))
    (hj : lib.parse response = some j) :
    ∃ payload, (handle s methodId).result o = .ok (statusSuccess, payload) ∧
      j.Same (makeJsonResponse statusSuccess payload) := by
  obtain ⟨hcall, hbiz⟩ := sendRequest_some hsend
  obtain ⟨t, j', ht, hj', hsame⟩ := dispatchText_answer raised s methodId params o hlib
  rw [hfw methodId params response hcall] at ht
  cases ht
  rw [hj] at hj'
  cases hj'
  obtain ⟨_, hok, hstatus⟩ := settled_spec raised s methodId o
  rw [bizStatus, hj] at hbiz
  simp only [hsame.valueInt, valueInt_status, Option.getD_some] at hbiz
  have hzero := ofInt_status hstatus hbiz.symm
  obtain ⟨_, ⟨status, payload⟩, hr⟩ := hok.mp hzero
  rw [hr] at hzero hsame
  refine ⟨payload, ?_, ?_⟩
  · have hstatus' : status = statusSuccess := hzero
    rw [(handleRaising_ok hr).1, hstatus']
  · have hstatus' : status = statusSuccess := hzero
    rw [← hstatus']
    exact hsame

theorem readServiceStatus_run {out : DiagServiceStatus} {payload : JsonObject}
    (h : handleGetServiceStatus s = .ok (statusSuccess, payload)) :
    (readServiceStatus (makeJsonResponse statusSuccess payload)).run out =
      (some (), s.status) := by
  obtain ⟨hp, _⟩ := dumped_dumps h
  cases hp
  rfl

theorem getServiceStatus_success (hlib : lib.Lawful) (hfw : fw.Delivers raised s o)
    {out : DiagServiceStatus} (h : (getServiceStatus lib fw out).1 = .success) :
    (getServiceStatus lib fw out).2 = s.status := by
  obtain ⟨response, j, hsend, hj, hread⟩ := query_success h
  obtain ⟨payload, hok, hsame⟩ := accepted hlib hfw hsend hj
  rw [readServiceStatus_congr hsame, readServiceStatus_run hok] at hread
  exact (congrArg Prod.snd hread).symm

theorem readVehicleInfo_run (out : VehicleInfo) {held : VinReadResult} {payload : JsonObject}
    (h : vehicleInfoOutcome held = .ok (statusSuccess, payload)) :
    ∃ info, (readVehicleInfo (makeJsonResponse statusSuccess payload)).run out =
      (some (), info) ∧ info.Shows held := by
  obtain ⟨vin, bindState, valid⟩ := held
  cases valid with
  | true =>
    have hd : dumped [("valid", .bool true), ("vin", .bytes vin),
      ("bind_state", .bytes bindState)] = .ok (statusSuccess, payload) := h
    obtain ⟨hp, _⟩ := dumped_dumps hd
    cases hp
    exact ⟨⟨true, vin, bindState⟩, rfl, rfl, fun _ => ⟨rfl, rfl⟩⟩
  | false =>
    have hd : dumped [("valid", .bool false)] = .ok (statusSuccess, payload) := h
    obtain ⟨hp, _⟩ := dumped_dumps hd
    cases hp
    exact ⟨⟨false, out.vin, out.bindState⟩, rfl, rfl, fun hv => nomatch hv⟩

theorem getVehicleInfo_success (hlib : lib.Lawful) (hfw : fw.Delivers raised s o)
    {out : VehicleInfo} (h : (getVehicleInfo lib fw out).1 = .success) :
    (getVehicleInfo lib fw out).2.Shows (s.getVehicleInfo.result o) := by
  obtain ⟨response, j, hsend, hj, hread⟩ := query_success h
  obtain ⟨payload, hok, hsame⟩ := accepted hlib hfw hsend hj
  rw [handle_getVehicleInfo] at hok
  obtain ⟨info, hrun, hshows⟩ := readVehicleInfo_run out hok
  rw [readVehicleInfo_congr hsame, hrun] at hread
  rw [show (getVehicleInfo lib fw out).2 = info from (congrArg Prod.snd hread).symm]
  exact hshows

theorem isTesterConnected_success (hlib : lib.Lawful) (hfw : fw.Delivers raised s o) {out : Bool}
    (h : (isTesterConnected lib fw out).1 = .success) :
    (isTesterConnected lib fw out).2 = s.isTesterConnected := by
  obtain ⟨response, j, hsend, hj, hread⟩ := query_success h
  obtain ⟨payload, hok, hsame⟩ := accepted hlib hfw hsend hj
  have hd : handleIsTesterConnected s = .ok (statusSuccess, payload) := hok
  obtain ⟨hp, _⟩ := dumped_dumps hd
  cases hp
  rw [readConnected_congr hsame] at hread
  exact (congrArg Prod.snd hread).symm

end

/-- The client and the dispatcher agree: a success has the values of the service, and every method
id is answered with an object that has a status, zero only where a known handler completed. -/
theorem client_agrees {lib : JsonLib} (hlib : lib.Lawful) (s : DiagService)
    (raised : Option Thrown) (o : Oracle) :
    (∀ fw : FwClient lib.Text, fw.Delivers raised s o →
      (∀ out, (getServiceStatus lib fw out).1 = .success →
        (getServiceStatus lib fw out).2 = s.status) ∧
      (∀ out, (getVehicleInfo lib fw out).1 = .success →
        (getVehicleInfo lib fw out).2.Shows (s.getVehicleInfo.result o)) ∧
      (∀ out, (isTesterConnected lib fw out).1 = .success →
        (isTesterConnected lib fw out).2 = s.isTesterConnected)) ∧
    (∀ methodId paramsJson, ∃ text j status,
      (dispatchText lib raised s methodId paramsJson).result o = some text ∧
      lib.parse text = some j ∧ j.get? "status" = some (.int status) ∧
      (status = statusSuccess →
        known methodId ∧ ∃ r, (handleRaising raised s methodId).result o = .ok r)) := by
  refine ⟨?_, ?_⟩
  · intro fw hfw
    refine ⟨?_, ?_, ?_⟩
    · intro out h
      exact getServiceStatus_success hlib hfw h
    · intro out h
      exact getVehicleInfo_success hlib hfw h
    · intro out h
      exact isTesterConnected_success hlib hfw h
  · intro methodId paramsJson
    obtain ⟨text, j, htext, hj, hsame⟩ := dispatchText_answer raised s methodId paramsJson o hlib
    obtain ⟨_, hok, _⟩ := settled_spec raised s methodId o
    exact ⟨text, j, _, htext, hj, status_of_same hsame, hok.mp⟩

/-! ## A query -/

/-- A library whose texts are the objects themselves. -/
def plainJson : JsonLib where
  Text := JsonObject
  dump j := if j.dumps then some j else none
  parse j := if j.dumps then some j else none

theorem plainJson_lawful : plainJson.Lawful where
  dump_isSome j := by
    cases h : j.dumps <;> simp [plainJson, h]
  parse_dump {j t} h := by
    obtain ⟨hd, ht⟩ : j.dumps = true ∧ some j = some t := Option.ite_none_right_eq_some.mp h
    cases ht
    exact ⟨j, if_pos hd, fun _ => rfl⟩
  parse_dumps {j t} h := by
    obtain ⟨hd, ht⟩ : JsonObject.dumps t = true ∧ some t = some j :=
      Option.ite_none_right_eq_some.mp h
    cases ht
    exact hd

/-- PROV holds a VIN. -/
def provisioned : Oracle
  | .prov _ .readVin => ⟨0, ⟨utf8 "LSVAU2A37N1234567", utf8 "BOUND", true⟩⟩
  | c => obliging 0 c

/-- A connection to the dispatcher. -/
def loopback (s : DiagService) (o : Oracle) : FwClient plainJson.Text where
  isConnected := true
  call methodId params :=
    (0, ((dispatchText plainJson none s methodId params).result o).getD ([] : JsonObject))
  callOnce methodId params :=
    (0, ((dispatchText plainJson none s methodId params).result o).getD ([] : JsonObject))

theorem loopback_delivers (s : DiagService) (o : Oracle) :
    (loopback s o).Delivers none s o := by
  intro methodId params response h
  obtain ⟨text, _, htext, _⟩ := dispatchText_answer none s methodId params o plainJson_lawful
  have hresponse :
      ((dispatchText plainJson none s methodId params).result o).getD ([] : JsonObject) =
        response := by
    rcases h with h | h
    · exact congrArg Prod.snd h
    · exact congrArg Prod.snd h
  rw [htext] at hresponse ⊢
  exact congrArg some hresponse

theorem client_agrees_provisioned :
    (getVehicleInfo plainJson (loopback { prov := some 0 } provisioned) {}).2.Shows
      ⟨utf8 "LSVAU2A37N1234567", utf8 "BOUND", true⟩ := by
  have h := (client_agrees plainJson_lawful { prov := some 0 } none provisioned).1
    (loopback { prov := some 0 } provisioned) (loopback_delivers _ _)
  exact h.2.1 {} (by decide)

end Diag
end Tbox
