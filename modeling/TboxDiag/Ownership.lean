import TboxDiag.Lifecycle

/-!
# Ownership

A non-default session belongs to one tester. `session_owned`: until the session expires no other
tester can change its record, and a refused request never does. The occupancy check also asks for
an active session; `active_run` shows that a non-default one always is.
-/

namespace Tbox
namespace Diag

open Effects ServiceDispatcher

/-! ## A non-default session is active -/

def Active (m : SessionManager) : Prop :=
  m.session.sessionType ≠ .default → m.session.state = .active

section
variable {m m' : SessionManager} {tr : Trace} {result : DiagErrorCode} {source : UInt16}

theorem Active.s3Checked {b : Bool} (h : Active m) (hm : m.S3Checked tr b m') : Active m' := by
  cases hm with
  | default _ => exact h
  | live _ _ => exact h
  | expired _ _ => exact fun _ => rfl

theorem Active.switched {sessionType : UInt8} {transport : TransportType} (h : Active m)
    (hm : m.Switched sessionType source transport tr result m') : Active m' := by
  cases hm with
  | occupied _ => exact h
  | invalid _ _ => exact h
  | accepted _ _ => exact fun _ => rfl

theorem Active.refreshed (h : Active m) (hm : m.Refreshed source tr result m') : Active m' := by
  cases hm with
  | idle _ => exact h
  | foreign _ => exact h
  | accepted ha _ => exact fun _ => ha

end

theorem Active.dispatched {d : ServiceDispatcher} {ms ms' : Managers} {request : DiagRequest}
    {tr : Trace} {response : DiagResponse} (h : Active ms.sessionMgr)
    (hd : Dispatched d ms request tr response ms') : Active ms'.sessionMgr := by
  cases hd with
  | session _ hm => exact h.switched hm
  | testerPresent _ hm => exact h.refreshed hm
  | _ => exact h

theorem active_step {o o' : Option View} {l : DiagService.Step}
    (h : ∀ v, o = some v → Active v.managers.sessionMgr) (ha : Acts o l o') :
    ∀ v, o' = some v → Active v.managers.sessionMgr := by
  rintro v' rfl
  cases ha with
  | start _ => exact fun hne => absurd rfl hne
  | keep _ _ => exact h _ rfl
  | @setSec v _ => exact h v rfl
  | poll hm _ => exact (h _ rfl).s3Checked hm
  | serve _ hm _ hd _ => exact Active.dispatched ((h _ rfl).s3Checked hm) hd

theorem active_run {o : Option View} {ls : List DiagService.Step} (h : Run Acts none ls o) :
    ∀ v, o = some v → Active v.managers.sessionMgr := by
  refine h.invariant (I := fun o => ∀ v, o = some v → Active v.managers.sessionMgr) ?_ ?_
  · intro v hv
    cases hv
  · intro o l o' hi ha
    exact active_step hi ha

/-! ## Other testers -/

/-- A DiagnosticSessionControl or a TesterPresent. -/
def DiagRequest.addressesSession (request : DiagRequest) : Prop :=
  request.serviceId = UdsService.diagnosticSessionControl ∨
    request.serviceId = UdsService.testerPresent

theorem ServiceDispatcher.Dispatched.foreign {d : ServiceDispatcher} {ms ms' : Managers}
    {request : DiagRequest} {tr : Trace} {response : DiagResponse}
    (hd : Dispatched d ms request tr response ms')
    (ha : Active ms.sessionMgr) (hne : ms.sessionMgr.session.sessionType ≠ .default)
    (hsource : request.sourceAddress ≠ ms.sessionMgr.session.sourceAddress) :
    ms'.sessionMgr = ms.sessionMgr ∧ (request.addressesSession →
      response.positive = false ∧ response.nrc = Nrc.conditionsNotCorrect) := by
  have hoccupied : ms.sessionMgr.occupied request.sourceAddress := ⟨ha hne, hsource.symm, hne⟩
  by_cases h1 : request.serviceId = UdsService.diagnosticSessionControl
  · obtain ⟨_, _, hm, rfl, rfl⟩ := hd.of_session h1
    cases hm with
    | occupied _ => exact ⟨rfl, fun _ => ⟨rfl, rfl⟩⟩
    | invalid ho _ => exact absurd hoccupied ho
    | accepted ho _ => exact absurd hoccupied ho
  by_cases h2 : request.serviceId = UdsService.testerPresent
  · obtain ⟨_, _, hm, rfl, rfl⟩ := hd.of_testerPresent h2
    cases hm with
    | idle _ => exact ⟨rfl, fun _ => ⟨rfl, rfl⟩⟩
    | foreign _ => exact ⟨rfl, fun _ => ⟨rfl, rfl⟩⟩
    | accepted _ hs => exact absurd hs.symm hsource
  · exact ⟨hd.sessionMgr_eq h1 h2, fun h => absurd h (not_or.mpr ⟨h1, h2⟩)⟩

theorem ServiceDispatcher.Dispatched.refused {d : ServiceDispatcher} {ms ms' : Managers}
    {request : DiagRequest} {tr : Trace} {response : DiagResponse}
    (hd : Dispatched d ms request tr response ms')
    (hn : response.positive = false) : ms'.sessionMgr = ms.sessionMgr := by
  cases hd with
  | session _ hm =>
    cases hm with
    | accepted _ _ => cases hn
    | _ => rfl
  | testerPresent _ hm =>
    cases hm with
    | accepted _ _ => cases hn
    | _ => rfl
  | _ => rfl

/-- The S3 check changes nothing before the session expires. -/
theorem SessionManager.S3Checked.unexpired {m m' : SessionManager} {tr : Trace} {b : Bool}
    (hm : m.S3Checked tr b m')
    (hlive : ∀ e ∈ tr, e.cmd = .now .s3Check →
      elapsedMs (timeOf e) m.session.lastTesterPresentAt ≤ Timing.s3Default) : m' = m := by
  cases hm with
  | default _ => rfl
  | live _ _ => rfl
  | expired _ he => exact absurd (hlive _ (List.mem_singleton_self _) rfl) (Nat.not_le.mpr he)

/-- Until the session expires it is its owner's: a request from another tester leaves the record
alone, and is refused if it addresses the session; a refused request leaves the record alone,
whoever sent it. -/
theorem session_owned {s s' : DiagService} {l : DiagService.Step} {x : DiagService.Exchange}
    (hs : DiagService.Reachable s) (h : DiagService.Does s l s') (hx : l.exchange = some x)
    (hlive : ∀ e ∈ l.trace, e.cmd = .now .s3Check →
      elapsedMs (timeOf e) s.getCurrentSession.lastTesterPresentAt ≤ Timing.s3Default) :
    (s.getCurrentSession.sessionType ≠ .default →
      x.request.sourceAddress ≠ s.getCurrentSession.sourceAddress →
      s'.getCurrentSession = s.getCurrentSession ∧
        (x.request.addressesSession →
          x.response.positive = false ∧ x.response.nrc = Nrc.conditionsNotCorrect)) ∧
    (x.request.addressesSession → x.response.positive = false →
      s'.getCurrentSession = s.getCurrentSession) := by
  obtain ⟨ls, hrun, _⟩ := hs
  obtain ⟨o, hacts, hshow⟩ := reach_acts hrun
  cases o with
  | none =>
    -- not initialised: turned away, with the same NRC
    obtain ⟨rfl, hr⟩ := not_initialized hshow h hx
    rw [hr]
    refine ⟨?_, ?_⟩
    · intro _ _
      exact ⟨rfl, fun _ => ⟨rfl, rfl⟩⟩
    · intro _ _
      rfl
  | some v =>
    have hactive := active_run hacts v rfl
    obtain ⟨o', hstep, hshow'⟩ := does_acts hshow h
    rw [Serves.getCurrentSession hshow] at hlive ⊢
    cases hstep with
    | serve _ hm _ hd _ =>
      cases hx
      obtain rfl := hm.unexpired fun e he => hlive e (List.mem_append_left _ he)
      rw [Serves.getCurrentSession hshow']
      refine ⟨?_, ?_⟩
      · intro hne hsource
        obtain ⟨hsame, hrefused⟩ := hd.foreign hactive hne hsource
        exact ⟨congrArg _ hsame, hrefused⟩
      · intro _ hn
        exact congrArg _ (hd.refused hn)
    | _ => cases hx

/-- Tester 2 asks for the programming session. -/
def intruderOp : DiagService.Op :=
  .processRequest { serviceId := 0x10, subFunction := 0x02, sourceAddress := 2 }

theorem session_owned_intruder :
    let s := (DiagService.play {} extendedScript).2
    (s.playOne intruderOp (obliging 0)).2.getCurrentSession = s.getCurrentSession := by
  intro s
  have hreach : s.Reachable := ⟨_, DiagService.play_run {} extendedScript, by decide⟩
  have hdoes := s.playOne_does intruderOp (obliging 0)
  have hlive : ∀ e ∈ (s.playOne intruderOp (obliging 0)).1.trace, e.cmd = .now .s3Check →
      elapsedMs (timeOf e) s.getCurrentSession.lastTesterPresentAt ≤ Timing.s3Default := by
    intro e he _
    obtain rfl := List.mem_singleton.mp he
    decide
  exact ((session_owned hreach hdoes rfl hlive).1 (by decide) (by decide)).1

end Diag
end Tbox
