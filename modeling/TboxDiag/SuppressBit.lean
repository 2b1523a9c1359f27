import TboxDiag.Lib.Coupling
import TboxDiag.Lib.Run
import TboxDiag.ServiceDispatcher

/-!
# SuppressBit

Bit 7 of the sub-function, `suppressPosRspMsgIndicationBit`. The handlers mask it, echo it or do
not look at the sub-function at all, so a request and the one with the bit flipped are dispatched
in step (`dispatch_coupled`). `suppress_bit_inert` carries this to runs in which the bit is flipped
in any of the requests: the same calls, the same managers after each request, and the same
responses but for the bit they echo.
-/

namespace Tbox
namespace Diag

open Effects ServiceDispatcher

/-- `suppressPosRspMsgIndicationBit`. -/
abbrev suppressBit : UInt8 := 0x80

def DiagRequest.flipSuppressBit (r : DiagRequest) : DiagRequest :=
  { r with subFunction := r.subFunction ^^^ suppressBit }

@[simp] theorem DiagRequest.flipSuppressBit_basicSubFunction (r : DiagRequest) :
    r.flipSuppressBit.basicSubFunction = r.basicSubFunction := by
  have hmask (b : UInt8) : (b ^^^ suppressBit) &&& 0x7F = b &&& 0x7F := by
    rw [← UInt8.toNat_inj]
    simp only [UInt8.toNat_and, UInt8.toNat_xor, Nat.and_xor_distrib_right]
    have hbit : suppressBit.toNat &&& UInt8.toNat 0x7F = 0 := by decide
    rw [hbit, Nat.xor_zero]
  exact hmask r.subFunction

/-- The same response but for bit 7 of the sub-function a positive one echoes. -/
def SameButEcho (a b : DiagResponse) : Prop :=
  b = a ∨ a.positive = true ∧ b = { a with subFunction := a.subFunction ^^^ suppressBit }

theorem sameButEcho_refl (a : DiagResponse) : SameButEcho a a := .inl rfl

section
variable (request : DiagRequest)

theorem routineDone_echo (data : Bytes) :
    SameButEcho (routineDone request data) (routineDone request.flipSuppressBit data) :=
  .inr ⟨rfl, rfl⟩

theorem testerPresentResponse_echo (result : DiagErrorCode) :
    SameButEcho (testerPresentResponse request result)
      (testerPresentResponse request.flipSuppressBit result) := by
  unfold testerPresentResponse
  by_cases h : result = .success
  · rw [if_neg (not_not.mpr h), if_neg (not_not.mpr h)]
    exact .inr ⟨rfl, rfl⟩
  · rw [if_pos h, if_pos h]
    exact sameButEcho_refl _

theorem securityAccessResponse_echo (result : DiagErrorCode) (refusal : UInt8) (data : Bytes) :
    SameButEcho (securityAccessResponse request result refusal data)
      (securityAccessResponse request.flipSuppressBit result refusal data) := by
  unfold securityAccessResponse
  by_cases h : result = .success
  · rw [if_neg (not_not.mpr h), if_neg (not_not.mpr h)]
    exact .inr ⟨rfl, rfl⟩
  · rw [if_pos h, if_pos h]
    exact sameButEcho_refl _

/-! ## The handlers -/

/-- Responses that differ in the echo, and the same new state. -/
def SameOutcome {α : Type} (a b : DiagResponse × α) : Prop := SameButEcho a.1 b.1 ∧ b.2 = a.2

theorem handleSessionControl_coupled (m : SessionManager) :
    Coupled SameOutcome (handleSessionControl m request)
      (handleSessionControl m request.flipSuppressBit) := by
  unfold handleSessionControl
  rw [DiagRequest.flipSuppressBit_basicSubFunction]
  refine .emit_bind ?_
  refine .bind_same ?_
  intro r
  exact .pure ⟨sameButEcho_refl _, rfl⟩

theorem handleTesterPresent_coupled (m : SessionManager) :
    Coupled SameOutcome (handleTesterPresent m request)
      (handleTesterPresent m request.flipSuppressBit) := by
  unfold handleTesterPresent
  refine .bind_same ?_
  intro r
  exact .pure ⟨testerPresentResponse_echo request r.1, rfl⟩

theorem handleSecurityAccess_coupled (sa : SecurityAccess) :
    Coupled SameOutcome (handleSecurityAccess sa request)
      (handleSecurityAccess sa request.flipSuppressBit) := by
  unfold handleSecurityAccess
  rw [DiagRequest.flipSuppressBit_basicSubFunction]
  refine .ite ?_ ?_
  · intro _
    exact .pure ⟨sameButEcho_refl _, rfl⟩
  · intro _
    refine .ite ?_ ?_
    · intro _
      refine .emit_bind ?_
      refine .bind_same ?_
      intro r
      exact .pure ⟨securityAccessResponse_echo request r.1 _ r.2.1, rfl⟩
    · intro _
      refine .bind_same ?_
      intro r
      exact .pure ⟨securityAccessResponse_echo request r.1 _ [], rfl⟩

variable (d : ServiceDispatcher)

theorem withSec_coupled {sa : SecurityAccess} {k k' : SecHandle → M DiagResponse}
    (hk : ∀ h, Coupled SameButEcho (k h) (k' h)) :
    Coupled SameButEcho (d.withSec sa k) (d.withSec sa k') := by
  unfold withSec
  refine .bind_same ?_
  intro unlocked
  refine .ite ?_ ?_
  · intro _
    exact .pure (sameButEcho_refl _)
  · intro _
    cases d.sec with
    | none => exact .pure (sameButEcho_refl _)
    | some h =>
      refine .bind_same ?_
      intro available
      refine .ite ?_ ?_
      · intro _
        exact .pure (sameButEcho_refl _)
      · intro _
        exact hk h

theorem handleGenerateKeyPair_coupled (sa : SecurityAccess) :
    Coupled SameButEcho (d.handleGenerateKeyPair sa request)
      (d.handleGenerateKeyPair sa request.flipSuppressBit) := by
  unfold handleGenerateKeyPair
  refine .emit_bind ?_
  refine withSec_coupled d ?_
  intro h
  refine .bind_same ?_
  intro ok
  refine .ite ?_ ?_
  · intro _
    exact .pure (sameButEcho_refl _)
  · intro _
    exact .pure (routineDone_echo request [])

theorem handleReadCsr_coupled (sa : SecurityAccess) :
    Coupled SameButEcho (d.handleReadCsr sa request)
      (d.handleReadCsr sa request.flipSuppressBit) := by
  unfold handleReadCsr
  refine .emit_bind ?_
  refine withSec_coupled d ?_
  intro h
  refine .bind_same ?_
  rintro ⟨ok, csrDer⟩
  refine .emit_bind ?_
  refine .ite ?_ ?_
  · intro _
    exact .pure (sameButEcho_refl _)
  · intro _
    refine .emit_bind ?_
    exact .pure (routineDone_echo request csrDer)

theorem handleInjectCertificate_coupled (sa : SecurityAccess) :
    Coupled SameButEcho (d.handleInjectCertificate sa request)
      (d.handleInjectCertificate sa request.flipSuppressBit) := by
  unfold handleInjectCertificate
  refine .emit_bind ?_
  refine withSec_coupled d ?_
  intro h
  refine .ite ?_ ?_
  · intro _
    exact .pure (sameButEcho_refl _)
  · intro _
    refine .bind_same ?_
    rintro ⟨ok, failure⟩
    refine .ite ?_ ?_
    · intro _
      refine .emit_bind ?_
      exact .pure (sameButEcho_refl _)
    · intro _
      exact .pure (routineDone_echo request [])

theorem handleWriteVin_coupled (h : ProvHandle) :
    Coupled SameButEcho (handleWriteVin h request) (handleWriteVin h request.flipSuppressBit) := by
  unfold handleWriteVin
  refine .ite ?_ ?_
  · intro _
    refine .emit_bind ?_
    exact .pure (sameButEcho_refl _)
  · intro _
    refine .bind_same ?_
    intro result
    refine .ite ?_ ?_
    · intro _
      exact .pure (sameButEcho_refl _)
    · intro _
      exact .pure (routineDone_echo request [])

theorem handleRoutineControl_coupled (ms : Managers) :
    Coupled SameButEcho (d.handleRoutineControl ms request)
      (d.handleRoutineControl ms request.flipSuppressBit) := by
  unfold handleRoutineControl
  refine .emit_bind ?_
  refine .ite ?_ ?_
  · intro _
    refine .emit_bind ?_
    refine .ite ?_ ?_
    · intro _
      exact .pure (sameButEcho_refl _)
    · intro _
      refine .ite ?_ ?_
      · intro _
        exact handleGenerateKeyPair_coupled request d _
      · intro _
        refine .ite ?_ ?_
        · intro _
          exact handleReadCsr_coupled request d _
        · intro _
          exact handleInjectCertificate_coupled request d _
  · intro _
    refine .bind_same ?_
    intro unlocked
    refine .ite ?_ ?_
    · intro _
      exact .pure (sameButEcho_refl _)
    · intro _
      cases d.prov with
      | none => exact .pure (sameButEcho_refl _)
      | some h =>
        refine .bind_same ?_
        intro available
        refine .ite ?_ ?_
        · intro _
          exact .pure (sameButEcho_refl _)
        · intro _
          refine .ite ?_ ?_
          · intro _
            exact handleWriteVin_coupled request h
          · intro _
            exact .pure (sameButEcho_refl _)

theorem route_coupled (ms : Managers) :
    Coupled SameOutcome (d.route ms request) (d.route ms request.flipSuppressBit) := by
  unfold route
  refine .ite ?_ ?_
  · intro _
    refine (handleSessionControl_coupled request ms.sessionMgr).bind ?_
    rintro ⟨response, m⟩ ⟨response', _⟩ ⟨hecho, rfl⟩
    exact .pure ⟨hecho, rfl⟩
  intro _
  refine .ite ?_ ?_
  · intro _
    refine (handleTesterPresent_coupled request ms.sessionMgr).bind ?_
    rintro ⟨response, m⟩ ⟨response', _⟩ ⟨hecho, rfl⟩
    exact .pure ⟨hecho, rfl⟩
  intro _
  refine .ite ?_ ?_
  · intro _
    refine (handleSecurityAccess_coupled request ms.securityAccess).bind ?_
    rintro ⟨response, sa⟩ ⟨response', _⟩ ⟨hecho, rfl⟩
    exact .pure ⟨hecho, rfl⟩
  intro _
  refine .ite ?_ ?_
  · intro _
    refine (handleRoutineControl_coupled request d ms).bind ?_
    intro response response' hecho
    exact .pure ⟨hecho, rfl⟩
  intro _
  refine .ite ?_ ?_
  · -- reading does not look at the sub-function
    intro _
    have hread : d.handleReadDataByIdentifier request.flipSuppressBit =
        d.handleReadDataByIdentifier request := rfl
    rw [hread]
    refine .bind_same ?_
    intro response
    exact .pure ⟨sameButEcho_refl _, rfl⟩
  · intro _
    exact .pure ⟨sameButEcho_refl _, rfl⟩

/-- A request and its flipped copy are dispatched in step. -/
theorem dispatch_coupled (ms : Managers) :
    Coupled SameOutcome (d.dispatch ms request) (d.dispatch ms request.flipSuppressBit) := by
  unfold dispatch
  refine (route_coupled request d ms).bind ?_
  intro r r' hr
  refine .emit_bind ?_
  exact .pure hr

end

/-! ## Runs -/

/-- What is seen of one dispatch: its calls with their answers, the response, and the managers
after it. -/
structure DispatchStep where
  request : DiagRequest
  trace : Trace
  response : DiagResponse
  managers : Managers

def Dispatches (d : ServiceDispatcher) (ms : Managers) (l : DispatchStep) (ms' : Managers) : Prop :=
  l.managers = ms' ∧ ∃ lg, Exec (d.dispatch ms l.request) l.trace lg (l.response, ms')

/-- Dispatch the requests one after the other, in the world `w` after the exchange `hist`. -/
def dispatchAll (d : ServiceDispatcher) (w : World outside) :
    Trace → Managers → List DiagRequest → List DispatchStep
  | _, _, [] => []
  | hist, ms, request :: requests =>
    let r := (d.dispatch ms request).play w hist
    ⟨request, r.1, r.2.1, r.2.2⟩ :: dispatchAll d w (hist ++ r.1) r.2.2 requests

theorem dispatchAll_run (d : ServiceDispatcher) (w : World outside) (hist : Trace) (ms : Managers)
    (requests : List DiagRequest) :
    ∃ ms', Run (Dispatches d) ms (dispatchAll d w hist ms requests) ms' := by
  induction requests generalizing hist ms with
  | nil => exact ⟨ms, .nil⟩
  | cons request requests ih =>
    obtain ⟨lg, hx⟩ := exec_play w hist (d.dispatch ms request)
    obtain ⟨ms', hrun⟩ := ih (hist ++ ((d.dispatch ms request).play w hist).1)
      ((d.dispatch ms request).play w hist).2.2
    exact ⟨ms', hrun.cons ⟨rfl, lg, hx⟩⟩

/-- The same calls with the same arguments, the same managers, and the same response; where the
bit was flipped, the response may echo it. -/
structure SameRun (l l' : DispatchStep) : Prop where
  trace : l'.trace = l.trace
  managers : l'.managers = l.managers
  response : SameButEcho l.response l'.response
  unflipped : l'.request = l.request → l'.response = l.response

/-- The requests as they are, and with the bit flipped where the flag says so. -/
def flipped (script : List (DiagRequest × Bool)) : List DiagRequest :=
  script.map fun x => if x.2 then x.1.flipSuppressBit else x.1

theorem suppress_bit_inert (d : ServiceDispatcher) (w : World outside) (hist : Trace)
    (ms : Managers) (script : List (DiagRequest × Bool)) :
    List.Forall₂ SameRun (dispatchAll d w hist ms (script.map Prod.fst))
      (dispatchAll d w hist ms (flipped script)) := by
  induction script generalizing hist ms with
  | nil => exact .nil
  | cons x script ih =>
    obtain ⟨request, flip⟩ := x
    cases flip with
    | false =>
      refine .cons ⟨rfl, rfl, sameButEcho_refl _, fun _ => rfl⟩ ?_
      exact ih _ _
    | true =>
      obtain ⟨htr, hecho, hms⟩ := (dispatch_coupled request d ms).play w hist
      refine .cons ⟨htr, hms, hecho, ?_⟩ ?_
      · intro heq
        change request.flipSuppressBit = request at heq
        show ((d.dispatch ms request.flipSuppressBit).play w hist).2.1 = _
        rw [heq]
      · show List.Forall₂ SameRun (dispatchAll d w _ _ _)
          (dispatchAll d w (hist ++ ((d.dispatch ms request.flipSuppressBit).play w hist).1)
            ((d.dispatch ms request.flipSuppressBit).play w hist).2.2 (flipped script))
        rw [htr, hms]
        exact ih _ _

end Diag
end Tbox
