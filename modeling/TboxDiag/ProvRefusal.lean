import TboxDiag.WriteAtomicity

/-!
# ProvRefusal

What the NRC says about a WRITE_VIN that PROV refuses. The adapter turns the error code of PROV into
one of the service's own, and `diag_error_to_nrc` has an NRC for each of these; but the handler
answers 0x72, generalProgrammingFailure, whatever it was. `nrc_kept_iff`: the two agree exactly for
the codes from 1003 to 1010.
-/

namespace Tbox
namespace Diag

open Effects RealProvAdapter ServiceDispatcher

namespace NrcMapper

def diagErrorToNrc : DiagErrorCode → UInt8
  | .transportConnectionFailed => Nrc.conditionsNotCorrect
  | .sessionStateNotAllowed => Nrc.conditionsNotCorrect
  | .securityAccessDenied => Nrc.securityAccessDenied
  | .invalidRequestFormat => Nrc.requestOutOfRange
  | .downstreamExecutionFailed => Nrc.generalProgrammingFailure
  | .requestTimeout => Nrc.responsePending
  | .provIpcConnectionFailed | .provIpcTimeout | .provIpcDisconnected => Nrc.conditionsNotCorrect
  | _ => Nrc.generalReject

theorem diagErrorToNrc_failure_iff (code : DiagErrorCode) :
    Nrc.generalProgrammingFailure = diagErrorToNrc code ↔ code = .downstreamExecutionFailed := by
  cases code <;> decide

/-- The codes of PROV for a write that was not carried out. -/
def isExecutionFailure (provErrorCode : UInt32) : Prop :=
  1003 ≤ provErrorCode ∧ provErrorCode ≤ 1010

theorem provErrorToDiag_failure_iff (provErrorCode : UInt32) :
    provErrorToDiag provErrorCode = .downstreamExecutionFailed ↔
      isExecutionFailure provErrorCode := by
  unfold provErrorToDiag isExecutionFailure
  split
  · next h => subst h; decide
  split
  · next h => subst h; decide
  split
  · next h => simp [h]
  · next h => simp [h]

end NrcMapper

/-! ## What PROV refused -/

/-- The error code, if PROV refused a write. -/
def refusal : Event provIpc → Option ProvError
  | ⟨.client _ (.writeVin _), x⟩ => if x.reply = .success then none else some x.reply
  | ⟨.client _ (.writeVehicleConfig _), x⟩ => if x.reply = .success then none else some x.reply
  | _ => none

def refusals (tr : ProvTrace) : List ProvError := tr.filterMap refusal

section
variable {a a' : RealProvAdapter} {tr tr' : ProvTrace} {vin payload : Bytes} {code : DiagErrorCode}

@[simp] theorem refusals_nil : refusals [] = [] := rfl

@[simp] theorem refusals_append : refusals (tr ++ tr') = refusals tr ++ refusals tr' :=
  List.filterMap_append

theorem RealProvAdapter.Ensured.refuses_nothing {b : Bool} (h : Ensured a tr b a') :
    refusals tr = [] := by
  cases h <;> rfl

theorem RealProvAdapter.VinWritten.refused_code {h : ProvClientHandle}
    (hw : VinWritten vin payload h tr code) (hc : code ≠ .success) :
    ∃ c, refusals tr = [c] ∧ code = NrcMapper.provErrorToDiag c := by
  cases hw with
  | @refused x hx => exact ⟨x.reply, by simp [refusals, refusal, hx], rfl⟩
  | @configRefused x y hx _ hy =>
    exact ⟨y.reply, by simp [refusals, refusal, hx, hy], rfl⟩
  | vinOnly _ _ => exact absurd rfl hc
  | both _ _ _ => exact absurd rfl hc

/-- A write that fails was refused by PROV with one code, or never got there. -/
theorem RealProvAdapter.VinWrite.refused_code (hw : VinWrite a vin payload tr code)
    (hc : code ≠ .success) :
    refusals tr = [] ∧ code = .provIpcDisconnected ∨
      ∃ c, refusals tr = [c] ∧ code = NrcMapper.provErrorToDiag c := by
  cases hw with
  | disconnected he => exact .inl ⟨he.refuses_nothing, rfl⟩
  | written he hw =>
    rw [refusals_append, he.refuses_nothing]
    exact .inr (hw.refused_code hc)

/-- The handler's NRC is the mapper's for an execution failure, and for no other code. -/
theorem RealProvAdapter.VinWrite.nrc_iff (hw : VinWrite a vin payload tr code)
    (hc : code ≠ .success) :
    Nrc.generalProgrammingFailure = NrcMapper.diagErrorToNrc code ↔
      ∃ c ∈ refusals tr, NrcMapper.isExecutionFailure c := by
  rw [NrcMapper.diagErrorToNrc_failure_iff]
  rcases hw.refused_code hc with ⟨hr, rfl⟩ | ⟨c, hr, rfl⟩
  · simp [hr]
  · simp [hr, NrcMapper.provErrorToDiag_failure_iff]

end

/-- A routine that comes to PROV with a VIN asks whether PROV is there, and writes it. -/
theorem ServiceDispatcher.RoutineRun.vin_written {d : ServiceDispatcher} {ms : Managers}
    {request : DiagRequest} {response : DiagResponse} {up : Trace} {h : ProvHandle}
    {vin payload : Bytes} {y : Stamped DiagErrorCode} (hrun : RoutineRun d ms request up response)
    (hreach : ⟨.prov h (.writeVin vin payload), y⟩ ∈ up) :
    ∃ x, up = [⟨.prov h .isAvailable, x⟩, ⟨.prov h (.writeVin vin payload), y⟩] ∧
      response = writeVinResponse request y.reply := by
  -- the certificate routines call SEC only
  have hcert : ¬ isCertificateRid request.didOrRid := by
    intro hc
    obtain ⟨_, _, _, _, hsec⟩ := hrun.certificate_calls hc _ hreach
    cases hsec
  cases hrun with
  | @writeVin h' x tr _ _ _ _ _ hv =>
    have htr : ⟨.prov h (.writeVin vin payload), y⟩ ∈ tr := by simpa using hreach
    cases hv with
    | short _ => cases htr
    | failed _ hy =>
      cases List.mem_singleton.mp htr
      exact ⟨x, rfl, (if_neg hy).symm⟩
    | done _ hy =>
      cases List.mem_singleton.mp htr
      exact ⟨x, rfl, (if_pos hy).symm⟩
  | generateKeyPair _ hr _ => exact absurd (.inl hr) hcert
  | readCsr _ hr _ => exact absurd (.inr (.inl hr)) hcert
  | injectCertificate _ hr _ => exact absurd (.inr (.inr hr)) hcert
  | _ => simp at hreach

/-- A WRITE_VIN that fails in the adapter is answered with the NRC the mapper has for the code of
the adapter exactly when PROV refused a write with a code from 1003 to 1010. -/
theorem nrc_kept_iff {errorText : ProvError → String} {a a' : RealProvAdapter}
    {d : ServiceDispatcher} {ms : Managers} {request : DiagRequest} {response : DiagResponse}
    {up : Trace} {tr : ProvTrace} {lg : List LogRecord} {h : ProvHandle} {vin payload : Bytes}
    {y : Stamped DiagErrorCode} (hx : Exec (d.handleRoutineControl ms request) up lg response)
    (hserved : Served (RealProvAdapter.handle errorText) a up tr a')
    (hreach : ⟨.prov h (.writeVin vin payload), y⟩ ∈ up) (hneg : response.positive = false) :
    response.nrc = NrcMapper.diagErrorToNrc y.reply ↔
      ∃ c ∈ refusals tr, NrcMapper.isExecutionFailure c := by
  obtain ⟨x, rfl, rfl⟩ := (hx.wp (d.handleRoutineControl_wp ms request)).vin_written hreach
  have hfailed : y.reply ≠ .success := by
    intro hy
    rw [writeVinResponse, if_pos hy] at hneg
    cases hneg
  obtain ⟨lo₁, lg₁, a₁, lo₂, havail, hserved₁, rfl⟩ := hserved.cons_inv
  obtain ⟨lo₃, lg₃, a₂, lo₄, hwrite, hrest, rfl⟩ := hserved₁.cons_inv
  obtain ⟨rfl, _⟩ := hrest.nil_inv
  rw [refusals_append, (available_ensured havail).refuses_nothing, List.nil_append, List.append_nil,
    writeVinResponse, if_neg hfailed]
  exact (writeVin_served hwrite).nrc_iff hfailed

/-! ## Scenarios -/

section
variable (vinCode configCode : ProvError)

/-- What the adapter makes of its two calls, when PROV answers the writes so. -/
def availableAnswered : ProvTrace × List LogRecord × Stamped Bool × RealProvAdapter :=
  (RealProvAdapter.handle (fun _ => "") (.prov 0 .isAvailable) { client := some 0 }).run
    (provAnswers vinCode configCode)

def writeAnswered : ProvTrace × List LogRecord × Stamped DiagErrorCode × RealProvAdapter :=
  (RealProvAdapter.handle (fun _ => "") (.prov 0 (.writeVin (List.replicate 17 0x41) [0x01]))
    (availableAnswered vinCode configCode).2.2.2).run (provAnswers vinCode configCode)

def throughAdapter : Oracle
  | .prov _ .isAvailable => (availableAnswered vinCode configCode).2.2.1
  | .prov _ (.writeVin _ _) => (writeAnswered vinCode configCode).2.2.1
  | c => obliging 0 c

def answeredRoutine : Trace × List LogRecord × DiagResponse :=
  (({ prov := some 0, sec := some 0, sessionMgr := none, securityAccess := none } :
    ServiceDispatcher).handleRoutineControl unlockedManagers vinAndConfig).run
      (throughAdapter vinCode configCode)

theorem answeredRoutine_served :
    Served (RealProvAdapter.handle fun _ => "") { client := some 0 }
      [⟨.prov 0 .isAvailable, (availableAnswered vinCode configCode).2.2.1⟩,
        ⟨.prov 0 (.writeVin (List.replicate 17 0x41) [0x01]),
          (writeAnswered vinCode configCode).2.2.1⟩]
      ((availableAnswered vinCode configCode).1 ++
        ((writeAnswered vinCode configCode).1 ++ []))
      (writeAnswered vinCode configCode).2.2.2 :=
  .cons (exec_run _ _) (.cons (exec_run _ _) .nil)

end

/-- The configuration is refused with code 1006, which the mapper has an NRC 0x72 for. -/
theorem nrc_kept_iff_configRefused :
    (answeredRoutine 0 1006).2.2.nrc =
        NrcMapper.diagErrorToNrc (writeAnswered 0 1006).2.2.1.reply ↔
      ∃ c ∈ refusals ((availableAnswered 0 1006).1 ++ ((writeAnswered 0 1006).1 ++ [])),
        NrcMapper.isExecutionFailure c :=
  nrc_kept_iff (exec_run _ _) (answeredRoutine_served 0 1006)
    (.tail _ (.head _)) rfl

/-- The VIN is refused for its format, with code 1002: requestOutOfRange by the mapper, and 0x72 on
the wire. -/
theorem format_refusal_renamed :
    (writeAnswered 1002 0).2.2.1.reply = .invalidRequestFormat ∧
      NrcMapper.diagErrorToNrc (writeAnswered 1002 0).2.2.1.reply = 0x31 ∧
      (answeredRoutine 1002 0).2.2.positive = false ∧ (answeredRoutine 1002 0).2.2.nrc = 0x72 := by
  decide

end Diag
end Tbox
