import TboxDiag.SecurityRuns
import TboxDiag.Exclusion

/-!
# KeyRefusal

What the NRC says about a key that is refused. SEC may be unavailable, the level locked out, no seed
pending, or the key wrong; the handler gives the first its own NRC and all the others 0x35,
invalidKey. `invalid_key_iff`: 0x35 means that SEC rejected the key exactly when the request is not
refused before SEC sees the key (`refusedUnjudged`).
-/

namespace Tbox
namespace Diag

open Effects ServiceDispatcher DiagService

/-- SEC is there, but the level is locked out or has no seed pending: the key is not judged. -/
def refusedUnjudged (o : Oracle) (sec : Option SecHandle) (st : SecurityAccessState)
    (request : DiagRequest) : Prop :=
  request.basicSubFunction = 2 ∧ secReady o sec ∧
    (lockoutHolds o st ∨ st.seedRequested = false)

/-- A SecurityAccess request with an even sub-function, as those of sendKey are. -/
def DiagRequest.sendsKey (r : DiagRequest) : Prop :=
  r.serviceId = UdsService.securityAccess ∧ r.basicSubFunction % 2 = 0

/-- The response is negative with NRC 0x35 if and only if SEC rejected the key; without a pending
seed, or during a lockout, it is another. -/
structure InvalidKeyMeant (o : Oracle) (st : SecurityAccessState) (tr : Trace)
    (response : DiagResponse) : Prop where
  rejected : response.positive = false ∧ response.nrc = Nrc.invalidKey ↔ keyRejected tr = true
  unjudged : lockoutHolds o st ∨ st.seedRequested = false → response.nrc ≠ Nrc.invalidKey

section
variable {o : Oracle} {sa sa' : SecurityAccess} {key : Bytes} {tr : Trace} {code : DiagErrorCode}
  {request : DiagRequest}

theorem securityAccessResponse_nrc (request : DiagRequest) (data : Bytes) :
    (securityAccessResponse request code Nrc.invalidKey data).nrc = Nrc.invalidKey ↔
      code ≠ .success ∧ code ≠ .secUnavailable := by
  have hzero : (0 : UInt8) ≠ Nrc.invalidKey := by decide
  have hconditions : Nrc.conditionsNotCorrect ≠ Nrc.invalidKey := by decide
  unfold securityAccessResponse
  by_cases hs : code = .success
  · simp [hs, createPositiveResponse, hzero]
  · by_cases hu : code = .secUnavailable <;> simp [hs, hu, createNegativeResponse, hconditions]

/-- A key that comes to SEC: no lockout holds and a seed is pending. -/
theorem SecurityAccess.LockoutChecked.judged (hl : sa.LockoutChecked 1 tr false)
    (ha : Answers o tr) (hp : (sa.entry 1).seedRequested = true) :
    ¬ (lockoutHolds o (sa.entry 1) ∨ (sa.entry 1).seedRequested = false) :=
  not_or.mpr ⟨hl.lockout_over ha, by simp [hp]⟩

/-- The code of a sendKey, and whether SEC rejected the key, in each of its outcomes. -/
theorem SecurityAccess.KeySent.outcome (h : sa.KeySent 2 key tr code sa') (ha : Answers o tr) :
    code = .secUnavailable ∧ keyRejected tr = false ∧ ¬ secReady o sa.sec ∨
    code = .securityAccessDenied ∧ keyRejected tr = false ∧ secReady o sa.sec ∧
      (lockoutHolds o (sa.entry 1) ∨ (sa.entry 1).seedRequested = false) ∨
    ¬ (lockoutHolds o (sa.entry 1) ∨ (sa.entry 1).seedRequested = false) ∧
      (code = .securityAccessDenied ∧ keyRejected tr = true ∨
        code = .success ∧ keyRejected tr = false) := by
  cases h with
  | noSec hs => exact .inl ⟨rfl, rfl, by simp [secReady, hs]⟩
  | unavailable hs hx =>
    obtain ⟨rfl, _⟩ := (answers_cons ..).mp ha
    exact .inl ⟨rfl, rfl, by simp [secReady, hs, hx]⟩
  | lockedOut hs hx hl =>
    obtain ⟨rfl, hal⟩ := (answers_cons ..).mp ha
    refine .inr (.inl ⟨rfl, ?_, ⟨_, hs, hx⟩, .inl ((hl.answered hal).mp rfl)⟩)
    rw [keyRejected, verdicts_cons, hl.ticks.plain.verdicts]
    rfl
  | noSeed hs hx hl hp =>
    obtain ⟨rfl, _⟩ := (answers_cons ..).mp ha
    refine .inr (.inl ⟨rfl, ?_, ⟨_, hs, hx⟩, .inr hp⟩)
    rw [keyRejected, verdicts_cons, hl.ticks.plain.verdicts]
    rfl
  | @rejected h x tr₀ tr₁ y d hs hx hl hp hy hd =>
    simp only [answers_cons, answers_append] at ha
    obtain ⟨_, hal, _, _⟩ := ha
    refine .inr (.inr ⟨hl.judged hal hp, .inl ⟨rfl, ?_⟩⟩)
    rw [keyRejected, verdicts_cons, verdicts_append, hl.ticks.plain.verdicts, verdicts_cons]
    simp [keyVerdict, hy]
  | @accepted h x tr₀ y hs hx hl hp hy =>
    simp only [answers_cons, answers_append] at ha
    obtain ⟨_, hal, _, _⟩ := ha
    refine .inr (.inr ⟨hl.judged hal hp, .inr ⟨rfl, ?_⟩⟩)
    rw [keyRejected, verdicts_cons, verdicts_append, hl.ticks.plain.verdicts, verdicts_cons]
    simp [keyVerdict, hy]

theorem SecurityAccess.KeySent.meant_iff (h : sa.KeySent 2 key tr code sa') (ha : Answers o tr)
    (h2 : request.basicSubFunction = 2) :
    InvalidKeyMeant o (sa.entry 1) tr (securityAccessResponse request code Nrc.invalidKey []) ↔
      ¬ refusedUnjudged o sa.sec (sa.entry 1) request := by
  rcases h.outcome ha with ⟨rfl, hv, hready⟩ | ⟨rfl, hv, hready, hun⟩ | ⟨hjudged, hrest⟩
  · refine iff_of_true ⟨?_, ?_⟩ fun hr => hready hr.2.1
    · simp [securityAccessResponse_nrc, hv]
    · simp [securityAccessResponse_nrc]
  · -- refused with 0x35, though SEC has not seen the key
    refine iff_of_false ?_ (not_not.mpr ⟨h2, hready, hun⟩)
    intro hm
    exact hm.unjudged hun ((securityAccessResponse_nrc request []).mpr (by simp))
  · refine iff_of_true ⟨?_, fun hun => absurd hun hjudged⟩ fun hr => hjudged hr.2.2
    rcases hrest with ⟨rfl, hv⟩ | ⟨rfl, hv⟩
    · rw [securityAccessResponse_nrc, securityAccessResponse_refused (by decide), hv]
      simp
    · simp [securityAccessResponse_nrc, hv]

theorem ServiceDispatcher.Dispatched.meant_iff {d : ServiceDispatcher} {ms ms' : Managers}
    {response : DiagResponse} (h : Dispatched d ms request tr response ms') (ha : Answers o tr)
    (hkey : request.sendsKey) :
    InvalidKeyMeant o (ms.securityAccess.entry 1) tr response ↔
      ¬ refusedUnjudged o ms.securityAccess.sec (ms.securityAccess.entry 1) request := by
  obtain ⟨hs, heven⟩ := hkey
  by_cases h2 : request.basicSubFunction = 2
  · obtain ⟨code, sa, hq, rfl, _⟩ := h.of_key hs h2
    exact hq.meant_iff ha h2
  · have hun : ¬ refusedUnjudged o ms.securityAccess.sec (ms.securityAccess.entry 1) request :=
      fun hr => h2 hr.1
    refine iff_of_true ?_ hun
    cases h with
    | badLevel _ _ _ => exact ⟨by decide, fun _ => by decide⟩
    | seed _ h1 _ =>
      rw [h1] at heven
      cases heven
    | key _ h2' _ => exact absurd h2' h2
    | unsupported _ _ h3 _ _ => exact absurd hs h3
    | session hs' _ | testerPresent hs' _ | routine hs' _ | read hs' _ =>
      rw [hs] at hs'
      cases hs'

end

/-- NRC 0x35 means that SEC rejected the key, unless the key is refused before SEC sees it. -/
theorem invalid_key_iff {s s' : DiagService} {d : ServiceDispatcher} {l : Step} {x : Exchange}
    {o : Oracle} (hs : s.Reachable) (hi : s.initialized = true) (hd : s.dispatcher = some d)
    (h : Does s l s') (hx : l.exchange = some x) (hkey : x.request.sendsKey)
    (ho : Heeds o l.trace) :
    InvalidKeyMeant o (s.securityState 1) l.trace x.response ↔
      ¬ refusedUnjudged o d.sec (s.securityState 1) x.request := by
  obtain ⟨ls, hrun, _⟩ := hs
  obtain ⟨v, _, hserves⟩ := reach_serves hrun hi
  obtain rfl := hserves.dispatcher_eq hd
  obtain ⟨o', hstep, _⟩ := does_acts (o := some v) hserves h
  rw [hserves.securityState, hserves.sec]
  cases hstep with
  | @serve _ _ _ _ _ m ms tr₀ tr₁ tr₂ tr₃ _ hm hq₁ hdis hq₃ =>
    cases hx
    have hv : keyRejected (tr₀ ++ (tr₁ ++ (tr₂ ++ tr₃))) = keyRejected tr₂ := by
      simp only [keyRejected, verdicts_append, hm.ticks.plain.verdicts, hq₁.plain.verdicts,
        hq₃.plain.verdicts, List.nil_append, List.append_nil]
    have hmeant := hdis.meant_iff (ho.served hm hdis).2 hkey
    rw [View.withSession_securityAccess] at hmeant
    rw [← hmeant]
    constructor
    · intro hm
      exact ⟨by rw [← hv]; exact hm.rejected, hm.unjudged⟩
    · intro hm
      exact ⟨by rw [hv]; exact hm.rejected, hm.unjudged⟩
  | _ => cases hx

/-! ## Scenarios -/

/-- A tester sends a key. -/
def sendKeyOp : Op :=
  .processRequest { serviceId := 0x27, subFunction := 0x02, payload := [0x5A], sourceAddress := 1 }

/-- Tester 1 holds the session, and has a seed of level 1. -/
def seededScript : List (Op × Oracle) :=
  extendedScript ++
  [(.processRequest { serviceId := 0x27, subFunction := 0x01, sourceAddress := 1 }, obliging 0)]

def extendedService : DiagService := (play {} extendedScript).2

def seededService : DiagService := (play {} seededScript).2

theorem extendedService_reachable : extendedService.Reachable :=
  ⟨_, play_run {} extendedScript, by decide⟩

theorem seededService_reachable : seededService.Reachable :=
  ⟨_, play_run {} seededScript, by decide⟩

/-- With a seed, the key is judged. -/
theorem invalid_key_iff_seeded :
    let r := seededService.playOne sendKeyOp (obligingNoKey 0)
    ∃ d x, seededService.dispatcher = some d ∧ r.1.exchange = some x ∧
      (InvalidKeyMeant (obligingNoKey 0) (seededService.securityState 1) r.1.trace x.response ↔
        ¬ refusedUnjudged (obligingNoKey 0) d.sec (seededService.securityState 1) x.request) := by
  intro r
  refine ⟨_, _, rfl, rfl, ?_⟩
  refine invalid_key_iff seededService_reachable rfl rfl
    (seededService.playOne_does sendKeyOp (obligingNoKey 0)) rfl ⟨rfl, rfl⟩ ?_
  intro e he _
  exact seededService.playOne_answers sendKeyOp (obligingNoKey 0) e he

/-- Without one it is refused with 0x35 all the same. -/
theorem unjudged_key_invalid :
    let r := extendedService.playOne sendKeyOp (obliging 0)
    ∃ x, extendedService.Reachable ∧ extendedService.initialized = true ∧
      Does extendedService r.1 r.2 ∧ r.1.exchange = some x ∧ x.request.sendsKey ∧
      x.response.positive = false ∧ x.response.nrc = Nrc.invalidKey ∧
      keyRejected r.1.trace = false ∧
      ¬ InvalidKeyMeant (obliging 0) (extendedService.securityState 1) r.1.trace x.response := by
  intro r
  refine ⟨_, extendedService_reachable, rfl, extendedService.playOne_does sendKeyOp (obliging 0),
    rfl, ⟨rfl, rfl⟩, rfl, rfl, rfl, ?_⟩
  intro hm
  cases hm.rejected.mp ⟨rfl, rfl⟩

end Diag
end Tbox
