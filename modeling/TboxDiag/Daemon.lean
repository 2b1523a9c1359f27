import TboxDiag.CliCommands
import TboxDiag.SessionLease
import TboxDiag.Lib.Coupling

/-!
# Daemon

The diagnostic service as a process. `main` connects to PROV and SEC, puts a `DiagService` on the
DoIP adapter and polls it until a signal comes; the IPC server beside it only asks questions. What
`main` writes to the log, and the settings that nothing modelled reads, are left out.

A process that ends well is a run of the service, polls between an initialisation and a shutdown
(`main_run`). All its requests come from the wire, where the decoder knows one tester only:
`daemon_answers` is the session layer as that tester sees it.
-/

namespace Tbox
namespace Diag

open Effects DiagService ServiceDispatcher
open DiagCli (Exit)

namespace Daemon

/-! ## The process -/

/-- What the process meets: whether the logger starts, the socket that `start_server` listens on if
it gets one, the two connections with the adapters on them, whether the IPC server starts, and how
often the loop comes round before a signal ends it. -/
structure Environment where
  loggerStarts : Bool
  listener : Option Int
  provConnects : Bool
  prov : ProvHandle
  secConnects : Bool
  sec : SecHandle
  ipcServerStarts : Bool
  turns : Nat

/-- The destructor of the adapter. -/
def release (a : DoIpAdapter) : M Unit := do
  let a ← a.disconnect
  if 0 ≤ a.serverFd then
    ask (.sock (.close a.serverFd))

/-- The adapter goes with the service that has it. -/
def releaseTransport (s : DiagService) : M Unit :=
  match s.transport with
  | some (.doip a) => release a
  | _ => pure ()

/-- The loop. Each turn looks once; the exchanges are kept for the statements. -/
def serve : Nat → DiagService → M (List Exchange × DiagService)
  | 0, s => pure ([], s)
  | n + 1, s => do
    let (x, s) ← s.processPendingRequests
    let (xs, s) ← serve n s
    pure (x.toList ++ xs, s)

/-- The adapter once `start_server` has succeeded. -/
def listening (fd : Int) : DoIpAdapter := { serverFd := fd, listening := true }

def main (env : Environment) : M (Exit × List Exchange) := do
  match ← ask .loadConfig with
  | .notOk _ | .noSnapshot => pure (.code 1, [])
  | .threw _ => pure (.terminated, [])
  | .snapshot =>
    if !env.loggerStarts then
      pure (.code 1, [])
    else match env.listener with
    | none => do
      release {}
      pure (.code 1, [])
    | some fd => do
      let doip := listening fd
      if !env.provConnects then do
        release doip
        pure (.code 1, [])
      else
        let service := ({} : DiagService).setProv (some env.prov)
        if !env.secConnects then do
          release doip
          pure (.code 1, [])
        else do
          let service := (service.setSec (some env.sec)).setTransport (some (.doip doip))
          let (result, service) ← service.initializeService
          if result ≠ .success then do
            releaseTransport service
            pure (.code 1, [])
          else if !env.ipcServerStarts then do
            releaseTransport service
            pure (.code 1, [])
          else do
            let (exchanges, service) ← serve env.turns service
            let service ← service.shutdown
            releaseTransport service
            pure (.code 0, exchanges)

/-- What is done to the service, in a process that ends well. -/
def operations (env : Environment) (fd : Int) : List Op :=
  [.setProv (some env.prov), .setSec (some env.sec), .setTransport (some (.doip (listening fd))),
    .initializeService] ++ List.replicate env.turns .processPendingRequests ++ [.shutdown]

/-! ## The process is a run -/

section
variable {s : DiagService}

theorem does_initializeService (s : DiagService) :
    wp s.initializeService fun tr r => Does s ⟨.initializeService, tr, none⟩ r.2 := by
  have h : wp (s.initializeService >>= fun r => pure (none, r.2)) fun tr r =>
      ∃ lg, Exec (s.exec .initializeService) tr lg r := wp_exec (s.exec .initializeService)
  rw [wp_bind] at h
  refine wp_mono h ?_
  intro tr r hr
  rw [wp_pure, List.append_nil] at hr
  exact hr

theorem does_shutdown (s : DiagService) :
    wp s.shutdown fun tr s' => Does s ⟨.shutdown, tr, none⟩ s' := by
  have h : wp (s.shutdown >>= fun s' => pure (none, s')) fun tr r =>
      ∃ lg, Exec (s.exec .shutdown) tr lg r := wp_exec (s.exec .shutdown)
  rw [wp_bind] at h
  refine wp_mono h ?_
  intro tr s' hr
  rw [wp_pure, List.append_nil] at hr
  exact hr

theorem does_poll (s : DiagService) :
    wp s.processPendingRequests fun tr r => Does s ⟨.processPendingRequests, tr, r.1⟩ r.2 :=
  wp_exec (s.exec .processPendingRequests)

/-- The loop is a run of polls. -/
theorem serve_run (n : Nat) (s : DiagService) :
    wp (serve n s) fun tr r => ∃ ls, Run Does s ls r.2 ∧
      ls.map Step.op = List.replicate n .processPendingRequests ∧
      ls.filterMap Step.exchange = r.1 ∧ traceOf ls = tr := by
  induction n generalizing s with
  | zero => exact ⟨[], .nil, rfl, rfl, rfl⟩
  | succ n ih =>
    unfold serve
    simp only [wp_bind, wp_pure, List.append_nil]
    refine wp_mono (does_poll s) ?_
    rintro tr ⟨x, s₁⟩ hl
    refine wp_mono (ih s₁) ?_
    rintro tr' ⟨xs, s₂⟩ ⟨ls, hrun, hops, hxs, rfl⟩
    refine ⟨_, .cons hl hrun, ?_, ?_, ?_⟩
    · rw [List.map_cons, hops]
      rfl
    · cases x with
      | none => exact hxs
      | some x => exact congrArg (x :: ·) hxs
    · rfl

theorem release_aside (a : DoIpAdapter) : Aside (release a) :=
  issues_bind a.closeClient_aside fun _ => issues_ite aside_sock issues_pure

theorem releaseTransport_aside (s : DiagService) : Aside (releaseTransport s) := by
  unfold releaseTransport
  split
  · exact release_aside _
  · exact issues_pure

/-- The process as a run of the service, with nothing around it that concerns SEC or PROV. -/
structure Served (env : Environment) (tr : Trace) (xs : List Exchange) (fd : Int)
    (ls : List Step) : Prop where
  run : ∃ s, Run Does {} ls s
  operations : ls.map Step.op = operations env fd
  exchanges : ls.filterMap Step.exchange = xs
  trace : ∃ before after, Quiet before ∧ Quiet after ∧ tr = before ++ (traceOf ls ++ after)

theorem quiet_load (x : Stamped ConfigLoad) : Quiet [⟨.loadConfig, x⟩] := by
  intro e he
  rw [List.mem_singleton.mp he]
  exact trivial

/-- A start that fails. -/
theorem failed_wp {p : M Unit} (hp : Aside p) :
    wp (do p; pure (Exit.code 1, ([] : List Exchange))) fun tr r =>
      r.1 ≠ .code 0 ∧ r.2 = [] ∧ Quiet tr := by
  rw [wp_bind]
  refine wp_mono hp ?_
  intro tr _ hq
  rw [wp_pure, List.append_nil]
  exact ⟨by simp, rfl, hq⟩

/-- From the loop on. -/
theorem served_wp (n : Nat) (s : DiagService) :
    wp (do
      let (xs, s) ← serve n s
      let s ← s.shutdown
      releaseTransport s
      pure (Exit.code 0, xs)) fun tr r => r.1 = .code 0 ∧ ∃ ls s' after, Run Does s ls s' ∧
        ls.map Step.op = List.replicate n .processPendingRequests ++ [.shutdown] ∧
        ls.filterMap Step.exchange = r.2 ∧ tr = traceOf ls ++ after ∧ Quiet after := by
  simp only [wp_bind, wp_pure, List.append_nil]
  refine wp_mono (serve_run n s) ?_
  rintro _ ⟨xs, s₁⟩ ⟨ls, hrun, hops, rfl, rfl⟩
  refine wp_mono (does_shutdown s₁) ?_
  intro tr s₂ hl
  refine wp_mono (releaseTransport_aside s₂) ?_
  intro after _ hq
  refine ⟨trivial, _, s₂, after, hrun.snoc hl, ?_, ?_, ?_, hq⟩
  · rw [List.map_append, hops]
    rfl
  · simp
  · simp [traceOf]

/-- A process that ends well is a run of the service; one that does not has come to no request, nor
to SEC or PROV. -/
theorem main_run (env : Environment) :
    wp (main env) fun tr r =>
      (r.1 = .code 0 ∧ ∃ fd ls, Served env tr r.2 fd ls) ∨
        (r.1 ≠ .code 0 ∧ r.2 = [] ∧ Quiet tr) := by
  unfold main
  rw [wp_ask_bind]
  intro x
  have hload := quiet_load x
  have early {exit : Exit} (hexit : exit ≠ .code 0) :
      wp (pure (exit, []) : M (Exit × List Exchange)) fun tr r =>
        (r.1 = .code 0 ∧ ∃ fd ls, Served env (⟨.loadConfig, x⟩ :: tr) r.2 fd ls) ∨
          (r.1 ≠ .code 0 ∧ r.2 = [] ∧ Quiet (⟨.loadConfig, x⟩ :: tr)) := by
    rw [wp_pure]
    exact .inr ⟨hexit, rfl, hload⟩
  have failed {p : M Unit} (hp : Aside p) :
      wp (do p; pure (Exit.code 1, ([] : List Exchange))) fun tr r =>
        (r.1 = .code 0 ∧ ∃ fd ls, Served env (⟨.loadConfig, x⟩ :: tr) r.2 fd ls) ∨
          (r.1 ≠ .code 0 ∧ r.2 = [] ∧ Quiet (⟨.loadConfig, x⟩ :: tr)) := by
    refine wp_mono (failed_wp hp) ?_
    rintro tr r ⟨hexit, hxs, hq⟩
    exact .inr ⟨hexit, hxs, quiet_append hload hq⟩
  obtain ⟨t, reply⟩ := x
  cases reply with
  | notOk _ => exact early (by simp)
  | noSnapshot => exact early (by simp)
  | threw _ => exact early (by simp)
  | snapshot =>
    simp only [wp_ite]
    refine ⟨fun _ => early (by simp), fun _ => ?_⟩
    cases hfd : env.listener with
    | none => exact failed (release_aside _)
    | some fd =>
      simp only [wp_ite]
      refine ⟨fun _ => failed (release_aside _), fun _ => ⟨fun _ => failed (release_aside _),
        fun _ => ?_⟩⟩
      let s₀ := ((({} : DiagService).setProv (some env.prov)).setSec (some env.sec)).setTransport
        (some (.doip (listening fd)))
      have hsetup : Run Does {} [⟨.setProv (some env.prov), [], none⟩,
          ⟨.setSec (some env.sec), [], none⟩,
          ⟨.setTransport (some (.doip (listening fd))), [], none⟩] s₀ :=
        ((Run.nil.snoc ⟨[], .pure⟩).snoc ⟨[], .pure⟩).snoc ⟨[], .pure⟩
      rw [wp_bind]
      refine wp_mono (wp_and (does_initializeService s₀) (initializeService_wp rfl)) ?_
      rintro tr₁ ⟨result, s₁⟩ ⟨hl, hq₁, -⟩
      -- the trace of the initialisation comes before what follows
      have late {p : M Unit} (hp : Aside p) :
          wp (do p; pure (Exit.code 1, ([] : List Exchange))) fun tr r =>
            (r.1 = .code 0 ∧ ∃ fd ls, Served env (⟨.loadConfig, t, .snapshot⟩ :: (tr₁ ++ tr)) r.2
              fd ls) ∨
            (r.1 ≠ .code 0 ∧ r.2 = [] ∧ Quiet (⟨.loadConfig, t, .snapshot⟩ :: (tr₁ ++ tr))) := by
        refine wp_mono (failed_wp hp) ?_
        rintro tr r ⟨hexit, hxs, hq⟩
        exact .inr ⟨hexit, hxs, quiet_append hload (quiet_append hq₁ hq)⟩
      rw [wp_ite]
      refine ⟨fun _ => late (releaseTransport_aside _), fun _ => ?_⟩
      rw [wp_ite]
      refine ⟨fun _ => late (releaseTransport_aside _), fun _ => ?_⟩
      refine wp_mono (served_wp env.turns s₁) ?_
      rintro tr r ⟨hexit, ls, s', after, hrun, hops, hxs, rfl, hq⟩
      refine .inl ⟨hexit, fd, _, {
        run := ⟨s', (hsetup.snoc hl).append hrun⟩
        operations := ?_
        exchanges := ?_
        trace := ⟨[⟨.loadConfig, t, .snapshot⟩], after, hload, hq, ?_⟩ }⟩
      · rw [List.map_append, hops]
        simp [operations]
      · simpa using hxs
      · simp [traceOf]

end

/-! ## The tester on the wire -/

/-- Only polling handles a request, unless one is handed to the service. -/
theorem exchange_by_poll {s s' : DiagService} {l : Step} {x : Exchange} (h : Does s l s')
    (hx : l.exchange = some x) (hop : ∀ request, l.op ≠ .processRequest request) :
    l.op = .processPendingRequests := by
  obtain ⟨op, tr, _⟩ := l
  cases hx
  obtain ⟨lg, hexec⟩ := h
  have unhandled (hnone : wp (s.exec op) fun _ r => r.1 = none) : False := by
    cases hexec.wp hnone
  cases op with
  | processPendingRequests => rfl
  | processRequest request => exact absurd rfl (hop request)
  | initializeService =>
    refine (unhandled ?_).elim
    simp only [DiagService.exec, wp_bind, wp_pure]
    exact wp_of_forall fun _ _ => trivial
  | shutdown =>
    refine (unhandled ?_).elim
    simp only [DiagService.exec, wp_bind, wp_pure]
    exact wp_of_forall fun _ _ => trivial
  | setTransport _ | setProv _ | setSec _ => cases hexec

/-- What a poll handles was decoded into a fresh request, by an initialised service. -/
theorem poll_wire {o : Option View} {s s' : DiagService} {l : Step} {x : Exchange}
    (hshow : Shows s o) (h : Does s l s') (hop : l.op = .processPendingRequests)
    (hx : l.exchange = some x) : o.isSome ∧ x.request.sourceAddress = 0 := by
  obtain ⟨op, tr, _⟩ := l
  cases hop
  cases hx
  obtain ⟨lg, hexec⟩ := h
  cases o with
  | none =>
    have hi : s.initialized = false := hshow
    have hnone : wp s.processPendingRequests fun _ r => r.1 = none := by
      unfold DiagService.processPendingRequests
      rw [hi]
      simp
    cases hexec.wp hnone
  | some v =>
    have hserves : Serves s v := hshow
    cases hexec.wp hserves.processPendingRequests_wp with
    | answered _ _ _ _ hd _ _ _ _ => exact ⟨rfl, (UdsCodec.decode_addressing hd).1⟩

/-- A history in which every request is from the wire, and the service is not shut down. -/
def Wired (ls : List Step) : Prop :=
  ∀ k ∈ ls, k.op ≠ .shutdown ∧ ∀ x, k.exchange = some x → x.request.sourceAddress = 0

section
variable {env : Environment} {tr : Trace} {xs : List Exchange} {fd : Int} {ls : List Step}

theorem Served.wire (h : Served env tr xs fd ls) {l : Step} (hl : l ∈ ls) {x : Exchange}
    (hx : l.exchange = some x) :
    l.op = .processPendingRequests ∧ x.request.sourceAddress = 0 := by
  obtain ⟨_, hrun⟩ := h.run
  obtain ⟨pre, post, rfl⟩ := List.append_of_mem hl
  obtain ⟨s, s', hpre, hdoes, -⟩ := hrun.at_label
  have hop : l.op ∈ Daemon.operations env fd := by
    rw [← h.operations]
    exact List.mem_map_of_mem hl
  have hpoll : l.op = .processPendingRequests := by
    refine exchange_by_poll hdoes hx ?_
    intro request hrequest
    rw [hrequest] at hop
    simp [Daemon.operations] at hop
  obtain ⟨o, -, hshow⟩ := reach_acts hpre
  exact ⟨hpoll, (poll_wire hshow hdoes hpoll hx).2⟩

/-- The shutdown comes last. -/
theorem Served.wired {pre post : List Step} {l : Step} {x : Exchange}
    (h : Served env tr xs fd (pre ++ l :: post)) (hx : l.exchange = some x) : Wired pre := by
  have hops := h.operations
  have hl := (h.wire (List.mem_append_right _ List.mem_cons_self) hx).1
  intro k hk
  refine ⟨?_, fun y hy => (h.wire (List.mem_append_left _ hk) hy).2⟩
  intro hshutdown
  have hmem : k.op ∈ pre.map Step.op := List.mem_map_of_mem hk
  rw [List.map_append, List.map_cons, Daemon.operations] at hops
  induction post using List.reverseRecOn with
  | nil =>
    obtain ⟨-, hlast⟩ := List.append_inj' hops rfl
    rw [hl] at hlast
    cases hlast
  | append_singleton post k' _ =>
    rw [List.map_append, ← List.cons_append, ← List.append_assoc] at hops
    obtain ⟨hinit, -⟩ := List.append_inj' hops rfl
    have hbefore : k.op ∈ pre.map Step.op ++ l.op :: post.map Step.op :=
      List.mem_append_left _ hmem
    rw [hinit, hshutdown] at hbefore
    simp at hbefore

end

/-- Nothing takes the session from address 0 again. -/
theorem Wired.lastOpened {ls : List Step} (h : Wired ls) :
    LastOpened 0 ls ↔ ∃ k ∈ ls, k.Opens 0 := by
  refine since_iff_exists fun k hk => ?_
  by_cases hopen : ∃ b, k.Opens b
  · obtain ⟨b, x, hx, hs, hb, hp⟩ := hopen
    exact .inl ⟨x, hx, hs, (h k hk).2 x hx, hp⟩
  · exact .inr ⟨(h k hk).1, not_exists.mp hopen⟩

/-- The session belongs to address 0, as long as nobody else has asked for it. -/
def ZeroOwned (o : Option View) : Prop :=
  ∀ v, o = some v → v.managers.sessionMgr.session.sourceAddress = 0

theorem zeroOwned_step {o o' : Option View} {l : Step} (hzero : ZeroOwned o)
    (hactive : ∀ v, o = some v → Active v.managers.sessionMgr) (h : Acts o l o')
    (hsource : ∀ x, l.exchange = some x → x.request.sourceAddress = 0) : ZeroOwned o' := by
  rintro v' rfl
  cases h with
  | start _ => rfl
  | keep _ _ => exact hzero _ rfl
  | @setSec v _ => exact hzero v rfl
  | @poll v _ _ _ _ hm _ => exact (hm.present (hactive v rfl)).1.trans (hzero v rfl)
  | @serve v op request response b m ms tr₀ tr₁ tr₂ tr₃ _ hm _ hd _ =>
    have hm₀ : m.session.sourceAddress = 0 := (hm.present (hactive v rfl)).1.trans (hzero v rfl)
    have hrequest : request.sourceAddress = 0 := hsource _ rfl
    show ms.sessionMgr.session.sourceAddress = 0
    by_cases h1 : request.serviceId = UdsService.diagnosticSessionControl
    · obtain ⟨result, m', hsw, -, rfl⟩ := hd.of_session h1
      cases hsw with
      | accepted _ _ => exact hrequest
      | _ => exact hm₀
    by_cases h2 : request.serviceId = UdsService.testerPresent
    · obtain ⟨result, m', hre, -, rfl⟩ := hd.of_testerPresent h2
      cases hre with
      | _ => exact hm₀
    · rw [hd.sessionMgr_eq h1 h2]
      exact hm₀

theorem zeroOwned_run {o : Option View} {ls : List Step} (h : Run Acts none ls o)
    (hw : Wired ls) : ZeroOwned o := by
  induction h with
  | nil =>
    intro v hv
    cases hv
  | snoc hr hs ih =>
    have hpre := ih fun k hk => hw k (List.mem_append_left _ hk)
    exact zeroOwned_step hpre (active_run hr) hs (hw _ (by simp)).2

/-- A DiagnosticSessionControl from the owner of the session, or of none, is refused only if it asks
for a session there is not. -/
theorem zeroOwned_sessionControl {v : View} {o : Option View} {l : Step} {x : Exchange}
    (hzero : ZeroOwned (some v)) (hactive : Active v.managers.sessionMgr)
    (h : Acts (some v) l o) (hx : l.exchange = some x) (hsource : x.request.sourceAddress = 0)
    (hs : x.request.serviceId = UdsService.diagnosticSessionControl) :
    x.response =
      if SessionType.ofCode? x.request.basicSubFunction = none then sessionRefused 0x13 "DIAG-1004"
      else sessionGranted x.request.basicSubFunction := by
  cases h with
  | keep _ _ | shutdown _ | setSec | poll _ _ => cases hx
  | @serve _ op request response b m ms tr₀ tr₁ tr₂ tr₃ _ hm _ hd _ =>
    cases hx
    obtain ⟨result, m', hsw, hresp, -⟩ := hd.of_session hs
    simp only at hsource ⊢
    have hfree : ¬ ∃ lease ∈ m.lease, lease.holder ≠ request.sourceAddress := by
      rintro ⟨lease, hlease, hother⟩
      refine hother ?_
      rw [hsource, m.lease_holder hlease, (hm.present hactive).1]
      exact hzero v rfl
    rw [hresp, hsw.response_eq (hactive.s3Checked hm), if_neg hfree]

/-! ## The answers -/

/-- The request opens a session: it asks for one there is. -/
def opensSession (request : DiagRequest) : Prop :=
  request.serviceId = UdsService.diagnosticSessionControl ∧
    SessionType.ofCode? request.basicSubFunction ≠ none

/-- One process, cut at a request it handles. -/
theorem Served.cut {env : Environment} {tr : Trace} {before after : List Exchange} {x : Exchange}
    {fd : Int} {ls : List Step} (h : Served env tr (before ++ x :: after) fd ls) :
    ∃ pre l v o, pre.filterMap Step.exchange = before ∧ l.exchange = some x ∧ Wired pre ∧
      Run Acts none pre (some v) ∧ Acts (some v) l o ∧ x.request.sourceAddress = 0 := by
  obtain ⟨_, hrun⟩ := h.run
  obtain ⟨pre, rest, hls, hpre, hrest⟩ := List.filterMap_eq_append_iff.mp h.exchanges
  obtain ⟨skip, l, post, hrest, hskip, hx, -⟩ := List.filterMap_eq_cons_iff.mp hrest
  have hcut : ls = (pre ++ skip) ++ l :: post := by
    rw [hls, hrest, List.append_assoc]
  subst hcut
  obtain ⟨s, s', hbefore, hdoes, -⟩ := hrun.at_label
  obtain ⟨o, hacts, hshow⟩ := reach_acts hbefore
  obtain ⟨hop, hsource⟩ := h.wire (List.mem_append_right _ List.mem_cons_self) hx
  obtain ⟨v, rfl⟩ := Option.isSome_iff_exists.mp (poll_wire hshow hdoes hop hx).1
  obtain ⟨o', hact, -⟩ := does_acts hshow hdoes
  refine ⟨pre ++ skip, l, v, o', ?_, hx, h.wired hx, hacts, hact, hsource⟩
  rw [List.filterMap_append, hpre, List.filterMap_eq_nil_iff.mpr hskip, List.append_nil]

theorem Served.sessionControl {env : Environment} {tr : Trace} {xs : List Exchange}
    {fd : Int} {ls : List Step} (h : Served env tr xs fd ls) {x : Exchange} (hmem : x ∈ xs)
    (hs : x.request.serviceId = UdsService.diagnosticSessionControl) :
    x.response =
      if SessionType.ofCode? x.request.basicSubFunction = none then sessionRefused 0x13 "DIAG-1004"
      else sessionGranted x.request.basicSubFunction := by
  obtain ⟨before, after, rfl⟩ := List.append_of_mem hmem
  obtain ⟨pre, l, v, o, -, hx, hwired, hacts, hact, hsource⟩ := h.cut
  exact zeroOwned_sessionControl (zeroOwned_run hacts hwired) (active_run hacts v rfl) hact hx
    hsource hs

theorem sessionControl_opens {x : Exchange}
    (h : x.response =
      if SessionType.ofCode? x.request.basicSubFunction = none then sessionRefused 0x13 "DIAG-1004"
      else sessionGranted x.request.basicSubFunction) :
    x.response.positive = true ↔ SessionType.ofCode? x.request.basicSubFunction ≠ none := by
  rw [h]
  by_cases ht : SessionType.ofCode? x.request.basicSubFunction = none
  · simp [ht, sessionRefused]
  · simp [ht, sessionGranted]

/-- To the tester on the wire the session is its own: every request comes from address 0, a
DiagnosticSessionControl is never refused on account of somebody else, and a TesterPresent is taken
from the first session on that was opened, though it may have expired. -/
theorem daemon_answers {env : Environment} {tr : Trace} {lg : List LogRecord} {exit : Exit}
    {before after : List Exchange} {x : Exchange}
    (h : Exec (main env) tr lg (exit, before ++ x :: after)) :
    x.request.sourceAddress = 0 ∧
    (x.request.serviceId = UdsService.diagnosticSessionControl →
      x.response =
        if SessionType.ofCode? x.request.basicSubFunction = none then
          sessionRefused 0x13 "DIAG-1004"
        else sessionGranted x.request.basicSubFunction) ∧
    (x.request.serviceId = UdsService.testerPresent →
      (x.response.positive = true ↔ ∃ y ∈ before, opensSession y.request)) := by
  rcases h.wp (main_run env) with ⟨-, fd, ls, hserved⟩ | ⟨-, hnone, -⟩
  · obtain ⟨pre, l, v, o, hpre, hx, hwired, hacts, hact, hsource⟩ := hserved.cut
    refine ⟨hsource, hserved.sessionControl (by simp), fun hs => ?_⟩
    have hopens (y : Exchange) (hy : y ∈ before) : opensSession y.request ↔
        y.request.serviceId = UdsService.diagnosticSessionControl ∧ y.response.positive = true := by
      refine and_congr_right fun hsy => (sessionControl_opens ?_).symm
      exact hserved.sessionControl (List.mem_append_left _ hy) hsy
    rw [acts_testerPresent hact (active_run hacts) hx hs, takesPresent_run hacts, hsource,
      hwired.lastOpened]
    constructor
    · rintro ⟨k, hk, y, hy, hsy, -, hp⟩
      have hmem : y ∈ before := hpre ▸ List.mem_filterMap.mpr ⟨k, hk, hy⟩
      exact ⟨y, hmem, (hopens y hmem).mpr ⟨hsy, hp⟩⟩
    · rintro ⟨y, hmem, hopen⟩
      obtain ⟨hsy, hp⟩ := (hopens y hmem).mp hopen
      obtain ⟨k, hk, hy⟩ := List.mem_filterMap.mp (hpre ▸ hmem)
      exact ⟨k, hk, y, hy, hsy, (hwired k hk).2 y hy, hp⟩
  · simp at hnone

/-- The first turn connects, the next opens the extended session, the third is a TesterPresent. -/
def threeTurns : Environment where
  loggerStarts := true
  listener := some 3
  provConnects := true
  prov := 0
  secConnects := true
  sec := 0
  ipcServerStarts := true
  turns := 3

def threeTurnsWorld (past : Trace) : Oracle
  | .loadConfig => ⟨0, .snapshot⟩
  | .sock (.poll _ _) => ⟨0, 1⟩
  | .sock (.accept _) => ⟨0, ⟨4, "", 0⟩⟩
  | .sock (.recv _ 8) =>
    -- the handshake comes first
    if past.any fun e => decide (e.cmd = .sock (.recv 4 8)) then
      ⟨0, some [0x02, 0xFD, 0x80, 0x01, 0, 0, 0, 6]⟩
    else
      ⟨0, some [0x02, 0xFD, 0x00, 0x05, 0, 0, 0, 0]⟩
  | .sock (.recv _ _) =>
    if past.any fun e => decide (e.cmd = .sock (.recv 4 6)) then
      ⟨0, some [0x0E, 0x80, 0x00, 0x01, 0x3E, 0x00]⟩
    else
      ⟨0, some [0x0E, 0x80, 0x00, 0x01, 0x10, 0x03]⟩
  | c => obliging 0 c

def openingRequest : DiagRequest := { serviceId := 0x10, subFunction := 0x03, transport := .doip }

def presentRequest : DiagRequest := { serviceId := 0x3E, transport := .doip }

theorem daemon_answers_threeTurns :
    (testerPresentResponse presentRequest .success).positive = true ↔
      ∃ y ∈ [(⟨openingRequest, sessionGranted 0x03⟩ : Exchange)],
        opensSession y.request := by
  obtain ⟨lg, h⟩ := exec_play threeTurnsWorld [] (main threeTurns)
  have hr : ((main threeTurns).play threeTurnsWorld []).2 =
      (.code 0, [⟨openingRequest, sessionGranted 0x03⟩] ++
        ⟨presentRequest, testerPresentResponse presentRequest .success⟩ :: []) := by
    decide
  rw [hr] at h
  exact (daemon_answers h).2.2 rfl

end Daemon
end Diag
end Tbox
