import TboxDiag.SecurityHistory

/-!
# SessionGating

Certificate routines run in a live programming session only, and a run shows where that session
comes from: the switch that opened it, what has happened since, and when it was last refreshed.

* `Gated`: the invariant, which ties the session record to the history.
* `certificate_only_programming`: whenever SEC makes a key pair, reads a CSR or takes a
  certificate, the history shows such a session.
-/

namespace Tbox
namespace Diag

open Effects DiagService ServiceDispatcher

/-- The operations of SEC behind the certificate routines. -/
def Cmd.certificate : Cmd → Prop
  | .sec _ .generateKeyPair | .sec _ .getCsr | .sec _ (.injectCertificate _) => True
  | _ => False

theorem Cmd.certificate.downstream {c : Cmd} (h : c.certificate) : c.downstream := by
  cases c with
  | sec h c => cases c <;> first | exact trivial | cases h
  | _ => cases h

namespace DiagService

/-- An accepted DiagnosticSessionControl. -/
def Exchange.switches (x : Exchange) : Prop :=
  x.request.serviceId = UdsService.diagnosticSessionControl ∧ x.response.positive = true

/-- An accepted TesterPresent. -/
def Exchange.presents (x : Exchange) : Prop :=
  x.request.serviceId = UdsService.testerPresent ∧ x.response.positive = true

namespace Step

/-- The step accepts a switch to the programming session, asked for by `a`. -/
def opensProgramming (l : Step) (a : UInt16) : Prop :=
  ∃ x, l.exchange = some x ∧ x.switches ∧
    x.request.basicSubFunction = SessionType.programming.code ∧ x.request.sourceAddress = a

/-- The step leaves the session of `a` alone: it accepts no switch, and no TesterPresent but from
`a`, and is no shutdown. -/
def leavesTo (l : Step) (a : UInt16) : Prop :=
  l.op ≠ .shutdown ∧ ∀ x, l.exchange = some x →
    ¬ x.switches ∧ (x.presents → x.request.sourceAddress = a)

/-- The step accepts a switch or a TesterPresent, and reads the clock for it at `t`. -/
def refreshes (l : Step) (t : Time) : Prop :=
  ∃ x, l.exchange = some x ∧ (x.switches ∨ x.presents) ∧
    ∃ e ∈ l.trace, (e.cmd = .now .sessionPresent ∨ e.cmd = .now .testerPresent) ∧ timeOf e = t

end Step
end DiagService

/-- The last accepted switch opened the programming session for `a`; it was not shut down, and
every TesterPresent accepted since came from `a`. -/
def ProgrammingOf (a : UInt16) : List Step → Prop :=
  Since (fun _ l => l.opensProgramming a) fun l => l.leavesTo a

/-- The last accepted switch or TesterPresent was at `t`. -/
def RefreshedAt (t : Time) : List Step → Prop :=
  Since (fun _ l => l.refreshes t) fun l => ∀ t', ¬ l.refreshes t'

/-- What the history shows of a programming session. -/
def Gated (ls : List Step) (m : SessionManager) : Prop :=
  m.session.sessionType = .programming →
    ProgrammingOf m.session.sourceAddress ls ∧ RefreshedAt m.session.lastTesterPresentAt ls

/-! ## The invariant -/

theorem Gated.snoc {ls : List Step} {m : SessionManager} {l : Step} (h : Gated ls m)
    (hop : l.op ≠ .shutdown) (hx : ∀ x, l.exchange = some x → ¬ x.switches ∧ ¬ x.presents) :
    Gated (ls ++ [l]) m := by
  intro hp
  obtain ⟨hopened, hrefreshed⟩ := h hp
  refine ⟨hopened.snoc ⟨hop, ?_⟩, hrefreshed.snoc ?_⟩
  · intro x hx'
    exact ⟨(hx x hx').1, fun hpresent => absurd hpresent (hx x hx').2⟩
  · rintro t' ⟨x, hx', hs | hs, _⟩
    · exact (hx x hx').1 hs
    · exact (hx x hx').2 hs

theorem Gated.s3Checked {ls : List Step} {m m' : SessionManager} {tr : Trace} {b : Bool}
    (h : Gated ls m) (hm : m.S3Checked tr b m') : Gated ls m' := by
  cases hm with
  | default _ => exact h
  | live _ _ => exact h
  | expired _ _ => exact fun hp => by cases hp

theorem Gated.dispatched {ls : List Step} {d : ServiceDispatcher} {ms ms' : Managers}
    {request : DiagRequest} {tr : Trace} {response : DiagResponse} {l : Step}
    (h : Gated ls ms.sessionMgr) (hd : Dispatched d ms request tr response ms')
    (hop : l.op ≠ .shutdown) (hx : l.exchange = some ⟨request, response⟩)
    (htr : ∀ e ∈ tr, e ∈ l.trace) : Gated (ls ++ [l]) ms'.sessionMgr := by
  have only {y : Exchange} (hy : l.exchange = some y) : y = ⟨request, response⟩ := by
    rw [hx] at hy
    exact (Option.some.inj hy).symm
  -- a request that is refused, or addressed to another service, leaves the session as it is
  have idle (hn : response.positive = false ∨
      request.serviceId ≠ UdsService.diagnosticSessionControl ∧
        request.serviceId ≠ UdsService.testerPresent) : Gated (ls ++ [l]) ms.sessionMgr := by
    refine h.snoc hop ?_
    intro y hy
    rw [only hy]
    rcases hn with hn | ⟨h1, h2⟩
    · have hpos : ¬ response.positive = true := by simp [hn]
      refine ⟨?_, ?_⟩
      · intro hs
        exact hpos hs.2
      · intro hs
        exact hpos hs.2
    · refine ⟨?_, ?_⟩
      · intro hs
        exact h1 hs.1
      · intro hs
        exact h2 hs.1
  by_cases h1 : request.serviceId = UdsService.diagnosticSessionControl
  · obtain ⟨_, _, hm, rfl, rfl⟩ := hd.of_session h1
    cases hm with
    | occupied _ => exact idle (.inl rfl)
    | invalid _ _ => exact idle (.inl rfl)
    | @accepted target t₁ t₂ _ ht =>
      intro hp
      refine ⟨since_now ?_, since_now ?_⟩
      · refine ⟨_, hx, ⟨h1, rfl⟩, ?_, rfl⟩
        have hcode := SessionType.ofCode?_some ht
        rw [hcode]
        exact congrArg SessionType.code hp
      · exact ⟨_, hx, .inl ⟨h1, rfl⟩, ⟨.now .sessionPresent, t₂⟩, htr _ (by simp), .inl rfl, rfl⟩
  by_cases h2 : request.serviceId = UdsService.testerPresent
  · obtain ⟨_, _, hm, rfl, rfl⟩ := hd.of_testerPresent h2
    cases hm with
    | idle _ => exact idle (.inl rfl)
    | foreign _ => exact idle (.inl rfl)
    | @accepted t _ ha =>
      intro hp
      obtain ⟨hopened, _⟩ := h hp
      refine ⟨hopened.snoc ⟨hop, ?_⟩, since_now ?_⟩
      · intro y hy
        rw [only hy]
        refine ⟨?_, ?_⟩
        · intro hs
          exact h1 hs.1
        · intro _
          exact ha.symm
      · exact ⟨_, hx, .inr ⟨h2, rfl⟩, ⟨.now .testerPresent, t⟩, htr _ (by simp), .inr rfl, rfl⟩
  · rw [hd.sessionMgr_eq h1 h2]
    exact idle (.inr ⟨h1, h2⟩)

theorem gated_step {ls : List Step} {o o' : Option View} {l : Step}
    (h : ∀ v, o = some v → Gated ls v.managers.sessionMgr) (ha : Acts o l o') :
    ∀ v, o' = some v → Gated (ls ++ [l]) v.managers.sessionMgr := by
  rintro v' rfl
  cases ha with
  | start _ =>
    intro hp
    cases hp
  | keep hop _ => exact (h _ rfl).snoc hop nofun
  | @setSec v _ => exact (h v rfl).snoc nofun nofun
  | poll hm _ => exact ((h _ rfl).s3Checked hm).snoc nofun nofun
  | serve ho hm _ hd _ =>
    refine Gated.dispatched ((h _ rfl).s3Checked hm) hd ?_ rfl ?_
    · rintro rfl
      rcases ho with ho | ho <;> cases ho
    · intro e he
      simp [he]

theorem gated_run {ls : List Step} {o : Option View} (h : Run Acts none ls o) :
    ∀ v, o = some v → Gated ls v.managers.sessionMgr := by
  refine h.history (fun ls o => ∀ v, o = some v → Gated ls v.managers.sessionMgr) ?_ ?_
  · intro v hv
    cases hv
  · intro ls o l o' hi ha
    exact gated_step hi ha

/-! ## The calls -/

theorem ServiceDispatcher.RoutineRun.programming {d : ServiceDispatcher} {ms : Managers}
    {request : DiagRequest} {tr : Trace} {response : DiagResponse}
    (h : d.RoutineRun ms request tr response) {e : Event outside} (he : e ∈ tr)
    (hc : e.cmd.certificate) : ms.sessionMgr.session.sessionType = .programming := by
  cases h with
  | generateKeyPair hs _ _ => exact hs
  | readCsr hs _ _ => exact hs
  | injectCertificate hs _ _ => exact hs
  | writeVin _ _ _ _ hv =>
    cases hv with
    | short _ =>
      simp only [List.mem_singleton] at he
      subst he
      cases hc
    | failed _ _ =>
      simp only [List.mem_cons, List.not_mem_nil, or_false] at he
      rcases he with rfl | rfl <;> cases hc
    | done _ _ =>
      simp only [List.mem_cons, List.not_mem_nil, or_false] at he
      rcases he with rfl | rfl <;> cases hc
  | wrongSession _ _ => cases he
  | locked _ _ => cases he
  | noProv _ _ => cases he
  | unavailable _ _ _ =>
    simp only [List.mem_singleton] at he
    subst he
    cases hc
  | outOfRange _ _ _ =>
    simp only [List.mem_singleton] at he
    subst he
    cases hc

theorem acts_certificate {o o' : Option View} {l : Step} (h : Acts o l o')
    (hl : l.calls Cmd.certificate) : ∃ v, o = some v ∧
      v.managers.sessionMgr.session.sessionType = .programming ∧
      ∃ e ∈ l.trace, e.cmd = .now .s3Check ∧
        elapsedMs (timeOf e) v.managers.sessionMgr.session.lastTesterPresentAt
          ≤ Timing.s3Default := by
  obtain ⟨e, he, hc⟩ := hl
  have plain {tr : Trace} (hp : Plain tr) (he : e ∈ tr) : False :=
    hp.not_downstream he hc.downstream
  cases h with
  | rest hq _ => exact (plain hq.plain he).elim
  | start hq => exact (plain hq.plain he).elim
  | keep _ _ => cases he
  | shutdown hq => exact (plain hq.plain he).elim
  | setSec => cases he
  | poll hm hq => exact (plain ((plain_append _ _).mpr ⟨hm.ticks.plain, hq.plain⟩) he).elim
  | @serve v _ _ _ _ m ms tr₀ tr₁ tr₂ tr₃ _ hm hq₁ hd hq₃ =>
    have he₂ : e ∈ tr₂ := by
      simp only [List.mem_append] at he
      rcases he with he | he | he | he
      · exact (plain hm.ticks.plain he).elim
      · exact (plain hq₁.plain he).elim
      · exact he
      · exact (plain hq₃.plain he).elim
    have hp := (hd.downstream he₂ hc.downstream).2.programming he₂ hc
    rw [View.withSession_sessionMgr] at hp
    cases hm with
    | default hdef =>
      rw [hdef] at hp
      cases hp
    | @live t _ hexp => exact ⟨v, rfl, hp, ⟨.now .s3Check, t⟩, by simp, rfl, Nat.not_lt.mp hexp⟩
    | expired _ _ => cases hp

/-- Whenever a certificate operation of SEC is called, the session is the programming session of
some tester, which opened it with the last accepted switch, alone has kept it alive since, and
did so at most the S3 limit before the check of this step. -/
theorem certificate_only_programming {s : DiagService} {pre post : List Step} {l : Step}
    (h : Run Does {} (pre ++ l :: post) s) (hl : l.calls Cmd.certificate) :
    ∃ s₁ s₂, Run Does {} pre s₁ ∧ Does s₁ l s₂ ∧ Run Does s₂ post s ∧
      s₁.getCurrentSession.sessionType = .programming ∧ (∃ a, ProgrammingOf a pre) ∧
      ∃ t, RefreshedAt t pre ∧ ∃ e ∈ l.trace, e.cmd = .now .s3Check ∧
        elapsedMs (timeOf e) t ≤ Timing.s3Default := by
  obtain ⟨s₁, s₂, hpre, hstep, hpost⟩ := h.at_label
  obtain ⟨o, hrun, hshow⟩ := reach_acts hpre
  obtain ⟨o', hacts, _⟩ := does_acts hshow hstep
  obtain ⟨v, rfl, hp, e, he, hcheck, helapsed⟩ := acts_certificate hacts hl
  obtain ⟨hopened, hrefreshed⟩ := gated_run hrun v rfl hp
  have hsession := Serves.getCurrentSession hshow
  exact ⟨s₁, s₂, hpre, hstep, hpost, by rw [hsession]; exact hp, ⟨_, hopened⟩,
    _, hrefreshed, e, he, hcheck, helapsed⟩

/-- Tester 1 moves on to the programming session. -/
def programmingScript : List (Op × Oracle) :=
  ownedScript ++
  [(.processRequest { serviceId := 0x10, subFunction := 0x82, sourceAddress := 1 }, obliging 0)]

def keyPairOp : Op := .processRequest { serviceId := 0x31, didOrRid := 0xFF01, sourceAddress := 1 }

theorem certificate_only_programming_keyPair :
    ∃ a, ProgrammingOf a (play {} programmingScript).1 := by
  have hrun := (play_run {} programmingScript).snoc
    (playOne_does (play {} programmingScript).2 keyPairOp (obliging 0))
  obtain ⟨_, _, _, _, _, _, hopened, _⟩ :=
    certificate_only_programming hrun ⟨_, List.mem_of_getElem? (i := 2) rfl, trivial⟩
  exact hopened

end Diag
end Tbox
