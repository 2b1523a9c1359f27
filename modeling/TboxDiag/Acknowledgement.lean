import TboxDiag.SecClientRuns

/-!
# Acknowledgement

What the service reports, and what was reported to it. A positive response reports a deed; over
whole runs the deeds of SEC and PROV are those reported, each once and in this order
(`reported_exactly`), also where SEC is reached through its client, which may lose its connection at
any call (`client_reported_exactly`).
-/

namespace Tbox
namespace Diag

open Effects DiagService ServiceDispatcher SecIpcAdapter

/-! ## Reports -/

/-- What a positive response says was done. -/
def DiagService.Exchange.reported (x : Exchange) : Option Deed :=
  if x.response.positive = false then none
  else if x.request.serviceId = UdsService.securityAccess then
    if x.request.basicSubFunction = 1 then some (.seedIssued x.response.payload)
    else some (.keyAccepted x.request.payload)
  else if x.request.serviceId = UdsService.routineControl then
    if x.request.didOrRid = Rid.writeVinRoutine then
      some (.vinWritten (x.request.payload.take vinLength) (x.request.payload.drop vinLength))
    else if x.request.didOrRid = Rid.generateKeyPair then some .keyPairGenerated
    else if x.request.didOrRid = Rid.readCsr then
      -- behind the echo of the identifier
      some (.csrRead (x.response.payload.drop 2))
    else if x.request.didOrRid = Rid.injectCertificate then
      some (.certificateInjected x.request.payload)
    else none
  else none

/-- What the response of a step reports. -/
def DiagService.Step.reported (l : Step) : Option Deed := l.exchange.bind Exchange.reported

/-! ## One dispatch -/

section
variable {tr tr' : Trace} {request : DiagRequest} {response : DiagResponse}

theorem Ticks.deeds (h : Ticks tr) : deeds tr = [] := by
  refine List.filterMap_eq_nil_iff.mpr ?_
  rintro ⟨c, x⟩ he
  obtain ⟨site, hc⟩ := h _ he
  cases hc
  rfl

/-- A refusal reports nothing. -/
theorem reported_negative (h : response.positive = false) :
    Exchange.reported ⟨request, response⟩ = none := by
  simp [Exchange.reported, h]

/-- Only two services report a deed. -/
theorem reported_other (hs : request.serviceId ≠ UdsService.securityAccess)
    (hr : request.serviceId ≠ UdsService.routineControl) :
    Exchange.reported ⟨request, response⟩ = none := by
  simp [Exchange.reported, hs, hr]

theorem SecurityAccess.SeedRequested.deeds {sa sa' : SecurityAccess} {level : UInt8}
    {code : DiagErrorCode} {seed : Bytes} (h : sa.SeedRequested level tr code seed sa') :
    deeds tr = if code = .success then [.seedIssued seed] else [] := by
  cases h with
  | lockedOut _ _ hl => simp [hl.ticks.deeds]
  | noSeed _ _ hl hy => simp [hl.ticks.deeds, deed, SecCall.deed, hy]
  | issued _ _ hl hy => simp [hl.ticks.deeds, deed, SecCall.deed, hy]
  | _ => simp

theorem SecurityAccess.Deadline.deeds {st : SecurityAccessState} {d : Time}
    (h : SecurityAccess.Deadline st tr d) : deeds tr = [] := by
  cases h with
  | kept _ => rfl
  | started _ => rfl

theorem SecurityAccess.KeySent.deeds {sa sa' : SecurityAccess} {level : UInt8} {key : Bytes}
    {code : DiagErrorCode} (h : sa.KeySent level key tr code sa') :
    deeds tr = if code = .success then [.keyAccepted key] else [] := by
  cases h with
  | lockedOut _ _ hl => simp [hl.ticks.deeds]
  | noSeed _ _ hl _ => simp [hl.ticks.deeds]
  | rejected _ _ hl _ hy hd => simp [hl.ticks.deeds, hd.deeds, deed, SecCall.deed, hy]
  | accepted _ _ hl _ hy => simp [hl.ticks.deeds, deed, SecCall.deed, hy]
  | _ => simp

/-- The response to a SecurityAccess request reports what came of it. -/
theorem reported_securityAccess {result : DiagErrorCode} {refusal : UInt8} {data : Bytes}
    (hs : request.serviceId = UdsService.securityAccess) :
    Exchange.reported ⟨request, securityAccessResponse request result refusal data⟩ =
      if result = .success then
        some (if request.basicSubFunction = 1 then .seedIssued data
          else .keyAccepted request.payload)
      else none := by
  unfold securityAccessResponse
  by_cases hr : result = .success
  · by_cases hb : request.basicSubFunction = 1
    · simp [Exchange.reported, hr, hs, hb, createPositiveResponse]
    · simp [Exchange.reported, hr, hs, hb, createPositiveResponse]
  · simp [Exchange.reported, hr, createNegativeResponse]

/-- That to a routine, what the routine is for. -/
theorem reported_routineDone {data : Bytes} (hs : request.serviceId = UdsService.routineControl) :
    Exchange.reported ⟨request, routineDone request data⟩ =
      if request.didOrRid = Rid.writeVinRoutine then
        some (.vinWritten (request.payload.take vinLength) (request.payload.drop vinLength))
      else if request.didOrRid = Rid.generateKeyPair then some .keyPairGenerated
      else if request.didOrRid = Rid.readCsr then some (.csrRead data)
      else if request.didOrRid = Rid.injectCertificate then
        some (.certificateInjected request.payload)
      else none := by
  have hne : request.serviceId ≠ UdsService.securityAccess := by
    rw [hs]
    decide
  have hpos : (routineDone request data).positive ≠ false := by
    simp [routineDone, createPositiveResponse]
  have hdata : (routineDone request data).payload.drop 2 = data := rfl
  unfold Exchange.reported
  rw [if_neg hpos, if_neg hne, if_pos hs, hdata]

/-- A certificate routine does what its part behind the checks does. -/
theorem ServiceDispatcher.WithSec.deeds {d : ServiceDispatcher} {sa : SecurityAccess}
    {K : SecHandle → Trace → DiagResponse → Prop} {report : DiagResponse → Option Deed}
    (h : d.WithSec sa K tr response) (hno : ∀ r, r.positive = false → report r = none)
    (hK : ∀ h tr response, K h tr response → deeds tr = (report response).toList) :
    deeds tr = (report response).toList := by
  cases h with
  | locked _ => simp [hno, routineRefused, createNegativeResponse]
  | noSec _ => simp [hno, routineRefused, createNegativeResponse]
  | unavailable _ _ => simp [hno, routineRefused, createNegativeResponse]
  | ready _ _ _ hk => simp [hK _ _ _ hk]

theorem ServiceDispatcher.RoutineRun.deeds {d : ServiceDispatcher} {ms : Managers}
    (h : d.RoutineRun ms request tr response)
    (hs : request.serviceId = UdsService.routineControl) :
    deeds tr = (Exchange.reported ⟨request, response⟩).toList := by
  have hno (r : DiagResponse) (hr : r.positive = false) :
      Exchange.reported ⟨request, r⟩ = none := reported_negative hr
  have refused (nrc : UInt8) (code : DiagErrorCode) :
      Exchange.reported ⟨request, routineRefused nrc code⟩ = none := reported_negative rfl
  cases h with
  | wrongSession _ _ => rw [refused]; rfl
  | locked _ _ => rw [refused]; rfl
  | noProv _ _ => rw [refused]; rfl
  | unavailable _ _ _ => rw [refused]; rfl
  | outOfRange _ _ _ => rw [reported_negative rfl]; rfl
  | generateKeyPair _ hrid hw =>
    refine hw.deeds hno ?_
    intro h tr response hk
    cases hk with
    | failed hy => simp [refused, deed, SecCall.deed, hy]
    | done hy =>
      rw [reported_routineDone hs, hrid, if_neg (by decide), if_pos rfl]
      simp [deed, SecCall.deed, hy]
  | readCsr _ hrid hw =>
    refine hw.deeds hno ?_
    intro h tr response hk
    cases hk with
    | failed hy => simp [refused, deed, SecCall.deed, hy]
    | done hy =>
      rw [reported_routineDone hs, hrid, if_neg (by decide), if_neg (by decide), if_pos rfl]
      simp [deed, SecCall.deed, hy]
  | injectCertificate _ hrid hw =>
    refine hw.deeds hno ?_
    intro h tr response hk
    cases hk with
    | empty _ => simp [refused]
    | failed _ hy => simp [refused, deed, SecCall.deed, hy]
    | done _ hy =>
      rw [reported_routineDone hs, hrid, if_neg (by decide), if_neg (by decide),
        if_neg (by decide), if_pos rfl]
      simp [deed, SecCall.deed, hy]
  | writeVin _ _ _ hrid hv =>
    cases hv with
    | short _ => simp [refused]
    | failed _ hy => simp [refused, deed, ProvCall.deed, hy]
    | done _ hy =>
      rw [reported_routineDone hs, if_pos hrid]
      simp [deed, ProvCall.deed, hy]

theorem ServiceDispatcher.DidRead.deeds {d : ServiceDispatcher} (h : d.DidRead request tr response) :
    deeds tr = [] := by
  cases h <;> rfl

/-- A dispatch does what its response reports, and nothing else. -/
theorem ServiceDispatcher.Dispatched.deeds {d : ServiceDispatcher} {ms ms' : Managers}
    (h : d.Dispatched ms request tr response ms') :
    deeds tr = (Exchange.reported ⟨request, response⟩).toList := by
  cases h with
  | session hs hm =>
    rw [reported_other (by rw [hs]; decide) (by rw [hs]; decide), hm.ticks.deeds]
    rfl
  | testerPresent hs hm =>
    rw [reported_other (by rw [hs]; decide) (by rw [hs]; decide), hm.ticks.deeds]
    rfl
  | badLevel _ _ _ =>
    rw [reported_negative rfl]
    rfl
  | @seed _ result seed _ hs hb hq =>
    rw [hq.deeds, reported_securityAccess hs, if_pos hb]
    by_cases hr : result = .success <;> simp [hr]
  | @key _ result _ hs hb hk =>
    have hne : request.basicSubFunction ≠ 1 := by
      rw [hb]
      decide
    rw [hk.deeds, reported_securityAccess hs, if_neg hne]
    by_cases hr : result = .success <;> simp [hr]
  | routine hs hr => exact hr.deeds hs
  | read hs hr =>
    rw [reported_other (by rw [hs]; decide) (by rw [hs]; decide), hr.deeds]
    rfl
  | unsupported _ _ _ _ _ =>
    rw [reported_negative rfl]
    rfl

end

/-! ## Runs -/

/-- One step does what it reports. -/
theorem acts_deeds {o o' : Option View} {l : DiagService.Step} (h : Acts o l o') :
    deeds l.trace = l.reported.toList := by
  cases h with
  | @rest op tr x hq hx =>
    have hnone : DiagService.Step.reported ⟨op, tr, x⟩ = none := by
      cases x with
      | none => rfl
      | some y =>
        refine reported_negative ?_
        rw [hx y rfl]
        rfl
    rw [hnone, hq.deeds]
    rfl
  | start hq => exact hq.deeds
  | keep _ _ => rfl
  | shutdown hq => exact hq.deeds
  | setSec => rfl
  | poll hm hq =>
    rw [deeds_append, hm.ticks.deeds, hq.deeds]
    rfl
  | serve _ hm hq₁ hd hq₃ =>
    simp only [deeds_append, hm.ticks.deeds, hq₁.deeds, hq₃.deeds, List.nil_append, List.append_nil]
    exact hd.deeds

theorem run_deeds {o : Option View} {ls : List DiagService.Step} (h : Run Acts none ls o) :
    ∀ l ∈ ls, deeds l.trace = l.reported.toList := by
  intro l hl
  obtain ⟨_, _, hstep⟩ := h.of_mem hl
  exact acts_deeds hstep

/-- In every run the deeds are those that the positive responses report: each once, in this order,
with the same data, and no others. -/
theorem reported_exactly {ls : List DiagService.Step} {s : DiagService}
    (h : Run DiagService.Does {} ls s) :
    deeds (traceOf ls) = ls.filterMap DiagService.Step.reported := by
  obtain ⟨o, hacts, -⟩ := reach_acts h
  have hall := run_deeds hacts
  rw [List.filterMap_eq_flatMap_toList, deeds, traceOf, List.filterMap_flatMap]
  exact List.flatMap_congr hall

/-- A key is accepted, and a VIN written. -/
theorem reported_exactly_writeVin :
    let ls := (play {} (ownedScript ++ [(writeVinOp 1, obliging 0)])).1
    deeds (traceOf ls) = ls.filterMap DiagService.Step.reported ∧
      deeds (traceOf ls) =
        [.seedIssued [], .keyAccepted [], .vinWritten (List.replicate 17 0x41) []] :=
  ⟨reported_exactly (play_run {} _), rfl⟩

/-! ## Behind the adapter -/

theorem Below.deeds {e : Event outside} {lo : IpcTrace} (h : Below e lo) :
    clientDeeds lo = (deed e).toList := by
  cases h with
  | sec hr => exact hr.told
  | other hc => simp [clientDeed_outer _ hc]

theorem AllBelow.deeds {tr : Trace} {lo : IpcTrace} (h : AllBelow tr lo) :
    clientDeeds lo = deeds tr := by
  induction h with
  | nil => rfl
  | cons he _ ih => rw [clientDeeds_append, he.deeds, ih, deeds_cons]

def ClientStep.reported (k : ClientStep) : Option Deed := k.exchange.bind Exchange.reported

/-- A step on the adapter, beside the one of the service, and what it reports. -/
structure Acknowledged (l : DiagService.Step) (k : ClientStep) : Prop extends Carried l k where
  deeds : clientDeeds k.trace = k.reported.toList

theorem over_acknowledged {a : SecIpcAdapter} {y : DiagService × SecIpcAdapter}
    {ks : List ClientStep} (h : Run DoesOver ({}, a) ks y) :
    ∃ ls, Run Does {} ls y.1 ∧ Alongside Acknowledged ls ks := by
  obtain ⟨ls, hrun, halong⟩ := over_run h
  obtain ⟨o, hacts, -⟩ := reach_acts hrun
  refine ⟨ls, hrun, halong.mono_mem fun l hl k hk => ⟨hk, ?_⟩⟩
  rw [hk.below.deeds, run_deeds hacts l hl, DiagService.Step.reported, ClientStep.reported,
    hk.exchange]

/-- The same on the adapter: the deeds of its client and of PROV are what the positive responses
report, whatever became of the connection. -/
theorem client_reported_exactly {a : SecIpcAdapter} {y : DiagService × SecIpcAdapter}
    {ks : List ClientStep} (h : Run DoesOver ({}, a) ks y) :
    clientDeeds (clientTraceOf ks) = ks.filterMap ClientStep.reported := by
  obtain ⟨ls, -, halong⟩ := over_acknowledged h
  have hall : ∀ k ∈ ks, clientDeeds k.trace = k.reported.toList := by
    intro k hk
    obtain ⟨l, -, hl⟩ := halong.of_mem hk
    exact hl.deeds
  rw [List.filterMap_eq_flatMap_toList, clientDeeds, clientTraceOf, List.filterMap_flatMap]
  exact List.flatMap_congr hall

theorem client_reported_exactly_writeVin :
    let ks := (playOver ({}, { client := some 0 }) (unlockOps ++ [writeVinOp 1])).1
    clientDeeds (clientTraceOf ks) = ks.filterMap ClientStep.reported ∧
      clientDeeds (clientTraceOf ks) =
        [.seedIssued [], .keyAccepted [], .vinWritten (List.replicate 17 0x41) []] :=
  ⟨client_reported_exactly (playOver_run _ _), rfl⟩

end Diag
end Tbox
