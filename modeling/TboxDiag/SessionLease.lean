import TboxDiag.SessionRuns
import TboxDiag.SuppressedReply

/-!
# SessionLease

What the testers see of the session. `leaseAfter` computes the lease of a session from the exchanges
and the readings of the clock of a run; `run_lease` says that it is the session the service is in.

* `session_answered`: what a DiagnosticSessionControl is answered, by the lease.
* `session_exclusive`: between two testers the session passes only when the first gave it up, was
  silent for too long, or the service was shut down.
* `tester_present_iff`: whose TesterPresent is accepted, which is not always who has the session.
-/

namespace Tbox
namespace Diag

open Effects ServiceDispatcher

/-! ## The events of an operation -/

/-- The session and the tester of the request that was handled, if one was. -/
def DiagService.Step.asked (l : DiagService.Step) : UInt8 × UInt16 :=
  match l.exchange with
  | none => (0, 0)
  | some x => (x.request.basicSubFunction, x.request.sourceAddress)

def DiagService.Step.leaseEvents (l : DiagService.Step) : List LeaseEvent :=
  if l.op = .shutdown then [.ended] else l.trace.filterMap (leaseEvent l.asked.1 l.asked.2)

/-- The lease of the session, by a history. -/
def leaseAfter (ls : List DiagService.Step) : Option SessionLease :=
  Lease.after late none (ls.flatMap DiagService.Step.leaseEvents)

theorem leaseAfter_append (ls ls' : List DiagService.Step) :
    leaseAfter (ls ++ ls') =
      Lease.after late (leaseAfter ls) (ls'.flatMap DiagService.Step.leaseEvents) := by
  rw [leaseAfter, List.flatMap_append, Lease.after_append, leaseAfter]

/-- The readings of the clock that say something of the lease. -/
def Cmd.ofLease (c : Cmd) : Prop :=
  c = .now .s3Check ∨ c = .now .testerPresent ∨ c = .now .sessionPresent

def Unleased (tr : Trace) : Prop := ∀ e ∈ tr, ¬ e.cmd.ofLease

section
variable {tr tr' : Trace} {sessionType : UInt8} {source : UInt16}

theorem leaseEvent_none {e : Event outside} (h : ¬ e.cmd.ofLease) :
    leaseEvent sessionType source e = none := by
  obtain ⟨c, x⟩ := e
  cases c with
  | now site => cases site <;> first | rfl | exact absurd (by simp [Cmd.ofLease]) h
  | _ => rfl

theorem Unleased.events (h : Unleased tr) : tr.filterMap (leaseEvent sessionType source) = [] :=
  List.filterMap_eq_nil_iff.mpr fun e he => leaseEvent_none (h e he)

theorem Quiet.unleased (h : Quiet tr) : Unleased tr := by
  intro e he hl
  have ha := h e he
  rcases hl with hl | hl | hl
  · rw [hl] at ha
    exact ha
  · rw [hl] at ha
    exact ha
  · rw [hl] at ha
    exact ha

theorem SecurityAccess.LockoutChecked.unleased {sa : SecurityAccess} {level : UInt8} {b : Bool}
    (h : sa.LockoutChecked level tr b) : Unleased tr := by
  cases h <;> simp [Unleased, Cmd.ofLease]

end

/-- The services that do not address the session make no reading for it. -/
theorem ServiceDispatcher.Dispatched.unleased {d : ServiceDispatcher} {ms ms' : Managers}
    {request : DiagRequest} {tr : Trace} {response : DiagResponse}
    (h : Dispatched d ms request tr response ms') (ha : ¬ request.addressesSession) :
    Unleased tr := by
  cases h with
  | session hs _ => exact absurd (.inl hs) ha
  | testerPresent hs _ => exact absurd (.inr hs) ha
  | seed _ _ hq =>
    cases hq with
    | lockedOut _ _ hl | noSeed _ _ hl _ | issued _ _ hl _ =>
      have hl := hl.unleased
      simp_all [Unleased, Cmd.ofLease, or_imp, forall_and]
    | _ => simp [Unleased, Cmd.ofLease]
  | key _ _ hq =>
    cases hq with
    | lockedOut _ _ hl | noSeed _ _ hl _ | accepted _ _ hl _ _ =>
      have hl := hl.unleased
      simp_all [Unleased, Cmd.ofLease, or_imp, forall_and]
    | rejected _ _ hl _ _ hd =>
      have hl := hl.unleased
      cases hd <;> simp_all [Unleased, Cmd.ofLease, or_imp, forall_and]
    | _ => simp [Unleased, Cmd.ofLease]
  | routine _ hr =>
    intro e he hl
    rcases hr.calls e he with ⟨h, p, -, hc⟩ | ⟨h, q, -, -, hc⟩
    · rw [hc] at hl
      simp [Cmd.ofLease] at hl
    · rw [hc] at hl
      simp [Cmd.ofLease] at hl
  | read _ hr =>
    intro e he hl
    obtain ⟨h, -, hc | hc⟩ := hr.calls e he
    · rw [hc] at hl
      simp [Cmd.ofLease] at hl
    · rw [hc] at hl
      simp [Cmd.ofLease] at hl
  | _ => simp [Unleased]

theorem ServiceDispatcher.Dispatched.leased {d : ServiceDispatcher} {ms ms' : Managers}
    {request : DiagRequest} {tr : Trace} {response : DiagResponse}
    (h : Dispatched d ms request tr response ms') (hactive : Active ms.sessionMgr) :
    Leased ms.sessionMgr
      (tr.filterMap (leaseEvent request.basicSubFunction request.sourceAddress))
      ms'.sessionMgr := by
  by_cases h1 : request.serviceId = UdsService.diagnosticSessionControl
  · obtain ⟨_, _, hm, -, rfl⟩ := h.of_session h1
    exact hm.leased hactive
  by_cases h2 : request.serviceId = UdsService.testerPresent
  · obtain ⟨_, _, hm, -, rfl⟩ := h.of_testerPresent h2
    exact hm.leased _
  · rw [(h.unleased (not_or.mpr ⟨h1, h2⟩)).events, h.sessionMgr_eq h1 h2]
    exact .refl _

/-! ## The lease of a run -/

/-- The lease in a view; before initialisation there is none. -/
def leaseOf (o : Option View) : Option SessionLease :=
  o.bind fun v => v.managers.sessionMgr.lease

theorem acts_lease {o o' : Option View} {l : DiagService.Step} (h : Acts o l o')
    (hactive : ∀ v, o = some v → Active v.managers.sessionMgr) :
    Lease.after late (leaseOf o) l.leaseEvents = leaseOf o' ∧
      Lease.Orderly late (leaseOf o) l.leaseEvents := by
  have quiet {op : DiagService.Op} {tr : Trace} {x : Option DiagService.Exchange}
      (hop : op ≠ .shutdown) (hq : Quiet tr) : DiagService.Step.leaseEvents ⟨op, tr, x⟩ = [] := by
    rw [DiagService.Step.leaseEvents, if_neg hop, hq.unleased.events]
  cases h with
  | @rest op tr x hq _ =>
    by_cases hop : op = .shutdown
    · rw [DiagService.Step.leaseEvents, if_pos hop]
      exact ⟨rfl, Lease.admits_none, trivial⟩
    · rw [quiet hop hq]
      exact ⟨rfl, trivial⟩
  | start hq =>
    rw [quiet (by simp) hq]
    exact ⟨rfl, trivial⟩
  | keep hop _ =>
    rw [quiet hop quiet_nil]
    exact ⟨rfl, trivial⟩
  | shutdown _ => exact ⟨rfl, by simp [Lease.Admits, Lease.Event.cause], trivial⟩
  | setSec =>
    rw [quiet (by simp) quiet_nil]
    exact ⟨rfl, trivial⟩
  | @poll v _ m tr₀ tr hm hq =>
    have hleased := hm.leased 0 0
    rw [DiagService.Step.leaseEvents, if_neg (by simp), List.filterMap_append,
      hq.unleased.events, List.append_nil]
    exact ⟨hleased.after, hleased.orderly⟩
  | @serve v op request response _ m ms tr₀ tr₁ tr₂ tr₃ hop hm hq₁ hd hq₃ =>
    have hne : op ≠ .shutdown := by
      rcases hop with rfl | rfl
      · simp
      · simp
    have hleased := (hm.leased request.basicSubFunction request.sourceAddress).trans
      (hd.leased ((hactive v rfl).s3Checked hm))
    rw [DiagService.Step.leaseEvents, if_neg hne]
    simp only [List.filterMap_append, hq₁.unleased.events, hq₃.unleased.events, List.nil_append,
      List.append_nil]
    exact ⟨hleased.after, hleased.orderly⟩

theorem run_lease {o : Option View} {ls : List DiagService.Step} (h : Run Acts none ls o) :
    leaseAfter ls = leaseOf o ∧
      Lease.Orderly late none (ls.flatMap DiagService.Step.leaseEvents) := by
  induction h with
  | nil => exact ⟨rfl, trivial⟩
  | @snoc ls o o' l hr hs ih =>
    obtain ⟨hlease, horder⟩ := ih
    obtain ⟨hafter, hadm⟩ := acts_lease hs (active_run hr)
    rw [leaseAfter_append, List.flatMap_singleton, hlease]
    refine ⟨hafter, ?_⟩
    rw [List.flatMap_append, List.flatMap_singleton, Lease.orderly_append]
    refine ⟨horder, ?_⟩
    have hall : Lease.after late none (ls.flatMap DiagService.Step.leaseEvents) = leaseOf o := hlease
    rw [hall]
    exact hadm

/-! ## What the testers are answered -/

/-- The answer that grants a session, with its P2 and P2*. -/
def sessionGranted (sessionType : UInt8) : DiagResponse :=
  { positive := true, serviceId := 0x50, subFunction := sessionType,
    payload := [0x13, 0x88, 0x01, 0xF4] }

def sessionRefused (nrc : UInt8) (diagErrorCode : String) : DiagResponse :=
  { positive := false, serviceId := 0x7F, subFunction := 0x10, nrc, diagErrorCode }

/-- The S3 checks among the events of an operation: those no tester causes. -/
def DiagService.Step.examinations (l : DiagService.Step) : List LeaseEvent :=
  l.leaseEvents.filter fun e => e.cause.isNone

section
variable {m m' : SessionManager} {tr : Trace} {source : UInt16} {sessionType : UInt8}

theorem SessionManager.S3Checked.causeless {b : Bool} (h : m.S3Checked tr b m') :
    (tr.filterMap (leaseEvent sessionType source)).filter (fun e => e.cause.isNone) =
      tr.filterMap (leaseEvent sessionType source) := by
  cases h <;> rfl

/-- An accepted switch is the one event of its request. -/
theorem SessionManager.Switched.events {transport : TransportType} {result : DiagErrorCode}
    (h : m.Switched sessionType source transport tr result m') :
    (result ≠ .success ∧ tr.filterMap (leaseEvent sessionType source) = []) ∨
      ∃ target t, result = .success ∧ SessionType.ofCode? sessionType = some target ∧
        tr.filterMap (leaseEvent sessionType source) = [switchEvent target source t] := by
  cases h with
  | occupied _ => exact .inl ⟨by simp, rfl⟩
  | invalid _ _ => exact .inl ⟨by simp, rfl⟩
  | accepted _ ht => exact .inr ⟨_, _, rfl, ht, switch_events ht⟩

theorem SessionManager.Switched.response_eq {transport : TransportType} {result : DiagErrorCode}
    (hactive : Active m) (h : m.Switched sessionType source transport tr result m') :
    sessionControlResponse sessionType result =
      if ∃ lease ∈ m.lease, lease.holder ≠ source then sessionRefused 0x22 "DIAG-1002"
      else if SessionType.ofCode? sessionType = none then sessionRefused 0x13 "DIAG-1004"
      else sessionGranted sessionType := by
  have hoccupied : m.occupied source ↔ ∃ lease ∈ m.lease, lease.holder ≠ source :=
    occupied_iff hactive
  cases h with
  | occupied ho =>
    rw [if_pos (hoccupied.mp ho)]
    rfl
  | invalid ho ht =>
    rw [if_neg (mt hoccupied.mpr ho), if_pos ht]
    rfl
  | accepted ho ht =>
    rw [if_neg (mt hoccupied.mpr ho), if_neg (by simp [ht])]
    rfl

end

/-- A DiagnosticSessionControl that is handled: what it is answered, and its events. -/
theorem acts_sessionControl {v : View} {l : DiagService.Step} {o : Option View}
    {x : DiagService.Exchange} (h : Acts (some v) l o) (hactive : Active v.managers.sessionMgr)
    (hx : l.exchange = some x)
    (hs : x.request.serviceId = UdsService.diagnosticSessionControl) :
    x.response =
        (if ∃ lease ∈ Lease.after late v.managers.sessionMgr.lease l.examinations,
            lease.holder ≠ x.request.sourceAddress then sessionRefused 0x22 "DIAG-1002"
          else if SessionType.ofCode? x.request.basicSubFunction = none then
            sessionRefused 0x13 "DIAG-1004"
          else sessionGranted x.request.basicSubFunction) ∧
      (x.response.positive = true → ∃ target t,
        SessionType.ofCode? x.request.basicSubFunction = some target ∧
        l.leaseEvents = l.examinations ++ [switchEvent target x.request.sourceAddress t]) := by
  cases h with
  | keep _ _ | shutdown _ | setSec | poll _ _ => cases hx
  | @serve _ op request response b m ms tr₀ tr₁ tr₂ tr₃ hop hm hq₁ hd hq₃ =>
    cases hx
    have hne : op ≠ .shutdown := by
      rcases hop with rfl | rfl
      · simp
      · simp
    obtain ⟨result, m', hsw, hresp, rfl⟩ := hd.of_session hs
    have hsame : (v.withSession m).managers.sessionMgr = m := rfl
    rw [hsame] at hsw
    have hevents : DiagService.Step.leaseEvents
        ⟨op, tr₀ ++ (tr₁ ++ (tr₂ ++ tr₃)), some ⟨request, response⟩⟩ =
          tr₀.filterMap (leaseEvent request.basicSubFunction request.sourceAddress) ++
          tr₂.filterMap (leaseEvent request.basicSubFunction request.sourceAddress) := by
      rw [DiagService.Step.leaseEvents, if_neg hne]
      simp only [List.filterMap_append, hq₁.unleased.events, hq₃.unleased.events, List.nil_append,
        List.append_nil, DiagService.Step.asked]
    have hexam : DiagService.Step.examinations
        ⟨op, tr₀ ++ (tr₁ ++ (tr₂ ++ tr₃)), some ⟨request, response⟩⟩ =
          tr₀.filterMap (leaseEvent request.basicSubFunction request.sourceAddress) := by
      rw [DiagService.Step.examinations, hevents, List.filter_append, hm.causeless]
      rcases hsw.events with ⟨-, he⟩ | ⟨target, t, -, -, he⟩
      · rw [he, List.filter_nil, List.append_nil]
      · rw [he, List.filter_cons_of_neg (by simp [switchEvent_cause]), List.filter_nil,
          List.append_nil]
    rw [hexam, hevents, (hm.leased _ _).after]
    refine ⟨?_, ?_⟩
    · rw [hresp, hsw.response_eq (hactive.s3Checked hm)]
    · intro hp
      simp only at hp
      rw [hresp, sessionControlResponse_positive] at hp
      rcases hsw.events with ⟨hn, -⟩ | ⟨target, t, -, ht, he⟩
      · exact absurd hp hn
      · exact ⟨target, t, ht, by rw [he]⟩

/-- A DiagnosticSessionControl is refused with conditionsNotCorrect when, after the S3 check,
another tester has the session, or else with incorrectMessageLength when it asks for a session there
is not, and else it is granted. -/
theorem session_answered {pre : List DiagService.Step} {s s' : DiagService} {l : DiagService.Step}
    {x : DiagService.Exchange} (hr : Run DiagService.Does {} pre s) (hi : s.initialized = true)
    (hl : DiagService.Does s l s') (hx : l.exchange = some x)
    (hs : x.request.serviceId = UdsService.diagnosticSessionControl) :
    x.response =
      if ∃ lease ∈ Lease.after late (leaseAfter pre) l.examinations,
          lease.holder ≠ x.request.sourceAddress then sessionRefused 0x22 "DIAG-1002"
      else if SessionType.ofCode? x.request.basicSubFunction = none then
        sessionRefused 0x13 "DIAG-1004"
      else sessionGranted x.request.basicSubFunction := by
  obtain ⟨v, hacts, hserves⟩ := reach_serves hr hi
  obtain ⟨o, hact, -⟩ := does_acts (o := some v) hserves hl
  have hlease : leaseAfter pre = v.managers.sessionMgr.lease := (run_lease hacts).1
  rw [hlease]
  exact (acts_sessionControl hact (active_run hacts v rfl) hx hs).1

/-- Tester 2 is refused while tester 1 has the extended session. -/
theorem session_answered_refused :
    let r := DiagService.play {} extendedScript
    let q := r.2.playOne (.processRequest
      { serviceId := 0x10, subFunction := 0x03, sourceAddress := 2 }) (obliging 0)
    ∃ x, q.1.exchange = some x ∧ x.response =
      if ∃ lease ∈ Lease.after late (leaseAfter r.1) q.1.examinations, lease.holder ≠ 2 then
        sessionRefused 0x22 "DIAG-1002"
      else if SessionType.ofCode? 0x03 = none then sessionRefused 0x13 "DIAG-1004"
      else sessionGranted 0x03 := by
  intro r q
  have hrun := DiagService.play_run {} extendedScript
  exact ⟨_, rfl, session_answered hrun rfl (r.2.playOne_does _ _) rfl rfl⟩

/-! ## Between two testers -/

/-- How the holder of `lease` loses the session at an event of the step `k`: the service is shut
down, the holder goes back to the default session, or the S3 check finds that it was silent for too
long. -/
inductive EndsLease (lease : SessionLease) (k : DiagService.Step) : LeaseEvent → Prop where
  | shutdown : k.op = .shutdown → EndsLease lease k .ended
  | released {x : DiagService.Exchange} : k.exchange = some x →
      x.request.serviceId = UdsService.diagnosticSessionControl →
      x.request.sourceAddress = lease.holder →
      SessionType.ofCode? x.request.basicSubFunction = some .default →
      x.response.positive = true → EndsLease lease k (.released lease.holder)
  | expired {e : Event outside} : e ∈ k.trace → e.cmd = .now .s3Check →
      late (timeOf e) lease.renewedAt → EndsLease lease k (.examined (timeOf e))

/-- An examination is a reading of the S3 check. -/
theorem leaseEvent_examined {sessionType : UInt8} {source : UInt16} {e : Event outside} {t : Time}
    (h : leaseEvent sessionType source e = some (.examined t)) :
    e.cmd = .now .s3Check ∧ timeOf e = t := by
  obtain ⟨c, x⟩ := e
  cases c with
  | now site =>
    cases site with
    | s3Check =>
      cases h
      exact ⟨rfl, rfl⟩
    | testerPresent => cases h
    | sessionPresent =>
      obtain ⟨target, -, hsw⟩ := Option.map_eq_some_iff.mp h
      have hcause := switchEvent_cause target source x.time
      rw [hsw] at hcause
      cases hcause
    | _ => cases h
  | _ => cases h

theorem leaseEvent_ne_ended {sessionType : UInt8} {source : UInt16} (e : Event outside) :
    leaseEvent sessionType source e ≠ some .ended := by
  intro h
  obtain ⟨c, x⟩ := e
  cases c with
  | now site =>
    cases site with
    | sessionPresent =>
      obtain ⟨target, -, hsw⟩ := Option.map_eq_some_iff.mp h
      have hcause := switchEvent_cause target source x.time
      rw [hsw] at hcause
      cases hcause
    | _ => cases h
  | _ => cases h

theorem switchEvent_released {target : SessionType} {source a : UInt16} {t : Time}
    (h : switchEvent target source t = .released a) : target = .default ∧ source = a := by
  unfold switchEvent at h
  by_cases hd : target = .default
  · rw [if_pos hd] at h
    cases h
    exact ⟨hd, rfl⟩
  · rw [if_neg hd] at h
    cases h

theorem S3Checked_released {m m' : SessionManager} {tr : Trace} {b : Bool}
    (hm : m.S3Checked tr b m') {sessionType : UInt8} {source a : UInt16} :
    .released a ∉ tr.filterMap (leaseEvent sessionType source) := by
  intro he
  rw [← hm.causeless] at he
  have hcause := (List.mem_filter.mp he).2
  cases hcause

/-- The session is given up by the request of its holder only. -/
theorem acts_released {o o' : Option View} {k : DiagService.Step} {a : UInt16} (h : Acts o k o')
    (he : .released a ∈ k.leaseEvents) :
    ∃ x, k.exchange = some x ∧ x.request.serviceId = UdsService.diagnosticSessionControl ∧
      x.request.sourceAddress = a ∧
      SessionType.ofCode? x.request.basicSubFunction = some .default ∧
      x.response.positive = true := by
  unfold DiagService.Step.leaseEvents at he
  by_cases hop : k.op = .shutdown
  · rw [if_pos hop, List.mem_singleton] at he
    cases he
  rw [if_neg hop] at he
  cases h with
  | rest hq _ | start hq | shutdown hq =>
    rw [hq.unleased.events] at he
    cases he
  | keep _ _ | setSec => cases he
  | poll hm hq =>
    rw [List.filterMap_append, hq.unleased.events, List.append_nil] at he
    exact absurd he (S3Checked_released hm)
  | @serve v op request response b m ms tr₀ tr₁ tr₂ tr₃ _ hm hq₁ hd hq₃ =>
    simp only [List.filterMap_append, hq₁.unleased.events, hq₃.unleased.events, List.nil_append,
      List.append_nil, DiagService.Step.asked, List.mem_append] at he
    have he := he.resolve_left (S3Checked_released hm)
    by_cases h1 : request.serviceId = UdsService.diagnosticSessionControl
    · obtain ⟨result, m', hsw, hresp, -⟩ := hd.of_session h1
      rcases hsw.events with ⟨-, hnil⟩ | ⟨target, t, hok, ht, hone⟩
      · rw [hnil] at he
        cases he
      · rw [hone, List.mem_singleton] at he
        obtain ⟨rfl, rfl⟩ := switchEvent_released he.symm
        refine ⟨_, rfl, h1, rfl, ht, ?_⟩
        rw [hresp]
        exact (sessionControlResponse_positive _ _).mpr hok
    by_cases h2 : request.serviceId = UdsService.testerPresent
    · obtain ⟨result, m', hre, -, -⟩ := hd.of_testerPresent h2
      cases hre with
      | accepted _ _ =>
        rw [List.mem_filterMap] at he
        obtain ⟨e, hmem, hev⟩ := he
        rw [List.mem_singleton.mp hmem] at hev
        cases hev
      | _ => cases he
    · rw [(hd.unleased (not_or.mpr ⟨h1, h2⟩)).events] at he
      cases he

theorem frees_ends {o o' : Option View} {k : DiagService.Step} {lease : SessionLease}
    {e : LeaseEvent} (h : Acts o k o') (he : e ∈ k.leaseEvents) (hf : Lease.Frees late lease e) :
    EndsLease lease k e := by
  have hevents := he
  rw [DiagService.Step.leaseEvents] at hevents
  by_cases hop : k.op = .shutdown
  · rw [if_pos hop, List.mem_singleton] at hevents
    rw [hevents]
    exact .shutdown hop
  rw [if_neg hop, List.mem_filterMap] at hevents
  obtain ⟨ev, hmem, hev⟩ := hevents
  cases hf with
  | released =>
    obtain ⟨x, hx, hs, ha, ht, hp⟩ := acts_released h he
    exact .released hx hs ha ht hp
  | ended => exact absurd hev (leaseEvent_ne_ended ev)
  | expired ht =>
    obtain ⟨hc, rfl⟩ := leaseEvent_examined hev
    exact .expired hmem hc ht

/-- Before initialisation nothing is answered positively. -/
theorem acts_none_negative {o : Option View} {l : DiagService.Step} {x : DiagService.Exchange}
    (h : Acts none l o) (hx : l.exchange = some x) : ¬ x.response.positive = true := by
  cases h with
  | rest _ hresp =>
    rw [hresp x hx]
    simp [DiagService.notInitializedResponse]
  | start _ => cases hx

/-- A session is granted to somebody else than the holder of a lease: it was freed before. -/
theorem lease_freed {pre mid : List DiagService.Step} {l : DiagService.Step} {o : Option View}
    {lease : SessionLease} {x : DiagService.Exchange}
    (hacts : Run Acts none (pre ++ (mid ++ [l])) o) (hlease : leaseAfter pre = some lease)
    (hx : l.exchange = some x)
    (hs : x.request.serviceId = UdsService.diagnosticSessionControl)
    (hp : x.response.positive = true) (hother : x.request.sourceAddress ≠ lease.holder) :
    ∃ a k b es e es' lease', mid ++ [l] = a ++ k :: b ∧ k.leaseEvents = es ++ e :: es' ∧
      Lease.after late (leaseAfter (pre ++ a)) es = some lease' ∧
      lease'.holder = lease.holder ∧ EndsLease lease' k e := by
  obtain ⟨-, horder⟩ := run_lease hacts
  rw [List.flatMap_append, Lease.orderly_append] at horder
  obtain ⟨-, horder⟩ := horder
  have hafter : Lease.after late none (pre.flatMap DiagService.Step.leaseEvents) = some lease :=
    hlease
  rw [hafter] at horder
  -- the grant is the last event of all
  obtain ⟨target, t, hl⟩ : ∃ target t,
      l.leaseEvents = l.examinations ++ [switchEvent target x.request.sourceAddress t] := by
    rw [← List.append_assoc] at hacts
    obtain ⟨o₁, hacts₁, hact⟩ := hacts.snoc_inv
    cases o₁ with
    | none => exact absurd hp (acts_none_negative hact hx)
    | some v =>
      obtain ⟨target, t, -, hl⟩ :=
        (acts_sessionControl hact (active_run hacts₁ v rfl) hx hs).2 hp
      exact ⟨target, t, hl⟩
  have hevents : (mid ++ [l]).flatMap DiagService.Step.leaseEvents =
      (mid.flatMap DiagService.Step.leaseEvents ++ l.examinations) ++
        switchEvent target x.request.sourceAddress t :: [] := by
    rw [List.flatMap_append, List.flatMap_singleton, hl, List.append_assoc]
  rw [hevents] at horder
  obtain ⟨es, e, post, lease', hes, hlease', hholder, hfrees⟩ :=
    horder.freed_before (switchEvent_cause _ _ _) hother
  rw [hes] at hevents
  have hsplit : (mid ++ [l]).flatMap DiagService.Step.leaseEvents =
      es ++ e :: (post ++ [switchEvent target x.request.sourceAddress t]) := by
    rw [hevents, List.append_assoc, List.cons_append]
  obtain ⟨a, k, b, es₁, es₂, hk, hek, rfl⟩ := label_of_event hsplit
  have hmem : k ∈ mid ++ [l] := by
    rw [hk]
    simp
  obtain ⟨_, _, hact⟩ := hacts.of_mem (List.mem_append_right pre hmem)
  refine ⟨a, k, b, es₁, e, es₂, lease', hk, hek, ?_, hholder, ?_⟩
  · rw [leaseAfter_append, hlease, ← Lease.after_append]
    exact hlease'
  · refine frees_ends hact ?_ hfrees
    rw [hek]
    simp

/-- A positive answer to a request for another session than the default one leaves its sender with
the lease. -/
theorem granted_lease {pre : List DiagService.Step} {l : DiagService.Step} {o : Option View}
    {x : DiagService.Exchange} {target : SessionType} (hacts : Run Acts none (pre ++ [l]) o)
    (hx : l.exchange = some x)
    (hs : x.request.serviceId = UdsService.diagnosticSessionControl)
    (ht : SessionType.ofCode? x.request.basicSubFunction = some target)
    (hne : target ≠ .default) (hp : x.response.positive = true) :
    ∃ t, leaseAfter (pre ++ [l]) = some ⟨x.request.sourceAddress, target, t⟩ := by
  obtain ⟨o₁, hacts₁, hact⟩ := hacts.snoc_inv
  cases o₁ with
  | none => exact absurd hp (acts_none_negative hact hx)
  | some v =>
    obtain ⟨target', t, ht', hl⟩ := (acts_sessionControl hact (active_run hacts₁ v rfl) hx hs).2 hp
    rw [ht] at ht'
    obtain rfl := Option.some.inj ht'
    refine ⟨t, ?_⟩
    rw [leaseAfter_append, List.flatMap_singleton, hl, Lease.after_append, switchEvent, if_neg hne]
    rfl

/-- Of two testers that are granted a session one after the other, the first has lost it in between:
at some event it still had the lease and went back to the default session, or had been silent for
too long, or the service was shut down. -/
theorem session_exclusive {pre mid : List DiagService.Step} {l₀ l : DiagService.Step}
    {s : DiagService} {x₀ x : DiagService.Exchange} {target : SessionType}
    (hr : Run DiagService.Does {} (pre ++ [l₀] ++ (mid ++ [l])) s)
    (hx₀ : l₀.exchange = some x₀)
    (hs₀ : x₀.request.serviceId = UdsService.diagnosticSessionControl)
    (ht : SessionType.ofCode? x₀.request.basicSubFunction = some target)
    (hne : target ≠ .default) (hp₀ : x₀.response.positive = true) (hx : l.exchange = some x)
    (hs : x.request.serviceId = UdsService.diagnosticSessionControl)
    (hp : x.response.positive = true)
    (hother : x.request.sourceAddress ≠ x₀.request.sourceAddress) :
    ∃ a k b es e es' lease, mid ++ [l] = a ++ k :: b ∧ k.leaseEvents = es ++ e :: es' ∧
      Lease.after late (leaseAfter (pre ++ [l₀] ++ a)) es = some lease ∧
      lease.holder = x₀.request.sourceAddress ∧ EndsLease lease k e := by
  obtain ⟨o, hacts, -⟩ := reach_acts hr
  obtain ⟨_, hacts₀, -⟩ := hacts.split
  obtain ⟨t, hlease⟩ := granted_lease hacts₀ hx₀ hs₀ ht hne hp₀
  exact lease_freed hacts hlease hx hs hp hother

/-- Tester 1 has the extended session, keeps it alive and then falls silent, and tester 2 asks for
it. -/
theorem session_exclusive_expired :
    let r := DiagService.play {} startScript
    let q₀ := r.2.playOne (.processRequest
      { serviceId := 0x10, subFunction := 0x03, sourceAddress := 1 }) (obliging 0)
    let q₁ := q₀.2.playOne (.processRequest { serviceId := 0x3E, sourceAddress := 1 })
      (obliging (millis 4000))
    let q := q₁.2.playOne (.processRequest
      { serviceId := 0x10, subFunction := 0x03, sourceAddress := 2 }) (obliging (millis 9001))
    ∃ a k b es e es' lease, [q₁.1] ++ [q.1] = a ++ k :: b ∧ k.leaseEvents = es ++ e :: es' ∧
      Lease.after late (leaseAfter (r.1 ++ [q₀.1] ++ a)) es = some lease ∧
      lease.holder = 1 ∧ EndsLease lease k e := by
  intro r q₀ q₁ q
  have hrun : Run DiagService.Does {} (r.1 ++ [q₀.1] ++ ([q₁.1] ++ [q.1])) q.2 :=
    ((DiagService.play_run {} startScript).snoc (r.2.playOne_does _ _)).append
      (.cons (q₀.2.playOne_does _ _) (.cons (q₁.2.playOne_does _ _) .nil))
  have hx₀ : q₀.1.exchange = some
      ⟨{ serviceId := 0x10, subFunction := 0x03, sourceAddress := 1 },
        sessionGranted 0x03⟩ := rfl
  have hx : q.1.exchange = some
      ⟨{ serviceId := 0x10, subFunction := 0x03, sourceAddress := 2 },
        sessionGranted 0x03⟩ := by decide +kernel
  have htarget : SessionType.ofCode? 0x03 = some .extended := rfl
  exact session_exclusive hrun hx₀ rfl htarget (by decide) rfl hx rfl rfl (by decide)

/-! ## TesterPresent -/

/-- A session was opened for the tester `a`, be it the default one. -/
def DiagService.Step.Opens (k : DiagService.Step) (a : UInt16) : Prop :=
  ∃ x, k.exchange = some x ∧ x.request.serviceId = UdsService.diagnosticSessionControl ∧
    x.request.sourceAddress = a ∧ x.response.positive = true

/-- `a` was the last to open a session, and the service was not shut down since. -/
def LastOpened (a : UInt16) (ls : List DiagService.Step) : Prop :=
  Since (fun _ k => k.Opens a) (fun k => k.op ≠ .shutdown ∧ ∀ b, ¬ k.Opens b) ls

/-- The view takes a TesterPresent from `a`. -/
def TakesPresent (a : UInt16) : Option View → Prop
  | none => False
  | some v => v.managers.sessionMgr.session.state = .active ∧
    v.managers.sessionMgr.session.sourceAddress = a

/-- An S3 timeout does not change whose TesterPresent is taken. -/
theorem SessionManager.S3Checked.present {m m' : SessionManager} {tr : Trace} {b : Bool}
    (hm : m.S3Checked tr b m') (hactive : Active m) :
    m'.session.sourceAddress = m.session.sourceAddress ∧
      (m'.session.state = .active ↔ m.session.state = .active) := by
  cases hm with
  | default _ => exact ⟨rfl, Iff.rfl⟩
  | live _ _ => exact ⟨rfl, Iff.rfl⟩
  | expired hd _ => exact ⟨rfl, fun _ => hactive hd, fun _ => rfl⟩

theorem takesPresent_step {o o' : Option View} {l : DiagService.Step} {a : UInt16}
    (h : Acts o l o') (hactive : ∀ v, o = some v → Active v.managers.sessionMgr) :
    TakesPresent a o' ↔
      l.Opens a ∨ TakesPresent a o ∧ l.op ≠ .shutdown ∧ ∀ b, ¬ l.Opens b := by
  have unopened {op : DiagService.Op} {tr : Trace} (b : UInt16) :
      ¬ DiagService.Step.Opens ⟨op, tr, none⟩ b := by
    rintro ⟨x, hx, -⟩
    cases hx
  cases h with
  | @rest op tr x _ hresp =>
    have hnone (b : UInt16) : ¬ DiagService.Step.Opens ⟨op, tr, x⟩ b := by
      rintro ⟨y, hy, -, -, hp⟩
      rw [hresp y hy] at hp
      cases hp
    simp [TakesPresent, hnone]
  | start _ => simp [TakesPresent, unopened]
  | keep hop _ => simp [TakesPresent, unopened, hop]
  | shutdown _ => simp [TakesPresent, unopened]
  | setSec => simp [TakesPresent, unopened]
  | poll hm _ =>
    have hp := hm.present (hactive _ rfl)
    simp [TakesPresent, unopened, hp.1, hp.2]
  | @serve v op request response b m ms tr₀ tr₁ tr₂ tr₃ hop hm hq₁ hd hq₃ =>
    have hne : op ≠ .shutdown := by
      rcases hop with rfl | rfl
      · simp
      · simp
    have hp := hm.present (hactive _ rfl)
    have hopens (c : UInt16) : DiagService.Step.Opens
        ⟨op, tr₀ ++ (tr₁ ++ (tr₂ ++ tr₃)), some ⟨request, response⟩⟩ c ↔
          request.serviceId = UdsService.diagnosticSessionControl ∧ request.sourceAddress = c ∧
            response.positive = true := by
      simp [DiagService.Step.Opens]
    simp only [hopens, ne_eq, hne, not_false_eq_true, true_and]
    by_cases h1 : request.serviceId = UdsService.diagnosticSessionControl
    · obtain ⟨result, m', hsw, hresp, rfl⟩ := hd.of_session h1
      have hsame : (v.withSession m).managers.sessionMgr = m := rfl
      rw [hsame] at hsw
      cases hsw with
      | accepted _ _ =>
        have hpos : response.positive = true := by
          rw [hresp]
          exact (sessionControlResponse_positive _ _).mpr rfl
        simp [TakesPresent, h1, hpos, SessionManager.switched]
      | _ =>
        have hneg : response.positive = false := by
          rw [hresp]
          rfl
        simp [TakesPresent, hneg, hp.1, hp.2]
    by_cases h2 : request.serviceId = UdsService.testerPresent
    · obtain ⟨result, m', hre, -, rfl⟩ := hd.of_testerPresent h2
      have hsame : (v.withSession m).managers.sessionMgr = m := rfl
      rw [hsame] at hre
      cases hre <;> simp [TakesPresent, h1, hp.1, hp.2]
    · have hsame : ms.sessionMgr = m := hd.sessionMgr_eq h1 h2
      simp [TakesPresent, h1, hsame, hp.1, hp.2]

theorem takesPresent_run {o : Option View} {ls : List DiagService.Step} {a : UInt16}
    (h : Run Acts none ls o) : TakesPresent a o ↔ LastOpened a ls := by
  induction h with
  | nil => simp [TakesPresent, LastOpened, not_since_nil]
  | snoc hr hs ih =>
    rw [takesPresent_step hs (active_run hr), ih, LastOpened, LastOpened, since_snoc_iff]

/-- A TesterPresent is answered as the view takes it. -/
theorem acts_testerPresent {o o' : Option View} {l : DiagService.Step} {x : DiagService.Exchange}
    (h : Acts o l o') (hactive : ∀ v, o = some v → Active v.managers.sessionMgr)
    (hx : l.exchange = some x) (hs : x.request.serviceId = UdsService.testerPresent) :
    x.response.positive = true ↔ TakesPresent x.request.sourceAddress o := by
  cases h with
  | rest _ hresp =>
    rw [hresp x hx]
    simp [DiagService.notInitializedResponse, TakesPresent]
  | start _ | keep _ _ | shutdown _ | setSec | poll _ _ => cases hx
  | @serve v op request response b m ms tr₀ tr₁ tr₂ tr₃ _ hm _ hd _ =>
    cases hx
    have hp := hm.present (hactive _ rfl)
    obtain ⟨result, m', hre, hresp, rfl⟩ := hd.of_testerPresent hs
    have hsame : (v.withSession m).managers.sessionMgr = m := rfl
    rw [hsame] at hre
    simp only
    rw [hresp, testerPresentResponse_positive, TakesPresent, ← hp.1, ← hp.2]
    cases hre with
    | idle hn => simp [hn]
    | foreign hn => simp [hn]
    | accepted ha hsrc => simp [ha, hsrc]

/-- A TesterPresent is accepted from whoever was the last to open a session, also when the session
has expired since, and from nobody else. -/
theorem tester_present_iff {pre : List DiagService.Step} {s s' : DiagService}
    {l : DiagService.Step} {x : DiagService.Exchange} (hr : Run DiagService.Does {} pre s)
    (hl : DiagService.Does s l s') (hx : l.exchange = some x)
    (hs : x.request.serviceId = UdsService.testerPresent) :
    x.response.positive = true ↔ LastOpened x.request.sourceAddress pre := by
  obtain ⟨o, hacts, hshow⟩ := reach_acts hr
  obtain ⟨o', hact, -⟩ := does_acts hshow hl
  rw [← takesPresent_run hacts]
  exact acts_testerPresent hact (active_run hacts) hx hs

/-- Tester 1 is the last to have opened a session, and that session has expired. -/
theorem tester_present_iff_expired :
    let r := DiagService.play {} (extendedScript ++
      [(.processPendingRequests, obliging (millis 5001))])
    r.2.getCurrentSession.sessionType = .default ∧ LastOpened 1 r.1 := by
  intro r
  let request : DiagRequest := { serviceId := 0x3E, sourceAddress := 1 }
  let q := r.2.playOne (.processRequest request) (obliging (millis 5002))
  have hrun := DiagService.play_run {} (extendedScript ++
    [(.processPendingRequests, obliging (millis 5001))])
  have hx : q.1.exchange = some ⟨request, testerPresentResponse request .success⟩ := rfl
  exact ⟨rfl, (tester_present_iff hrun (r.2.playOne_does _ _) hx rfl).mp rfl⟩

end Diag
end Tbox
