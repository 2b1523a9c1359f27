import TboxDiag.DiagService

/-!
# Lifecycle

What the service is, seen from outside: nothing before `initializeService` succeeds and after
`shutdown`, and in between one session and one security state behind a dispatcher (`View`). The
pointers, the heaps and the transport are gone. `Acts` says how an operation moves the view, and
`does_acts` that the service does no more than that; `run_acts` carries it to whole runs, which is
where every theorem about runs starts.
-/

namespace Tbox
namespace Diag

open Effects ServiceDispatcher

structure View where
  dispatcher : ServiceDispatcher
  managers : Managers

/-- The view after the session manager has changed to `m`. -/
def View.withSession (v : View) (m : SessionManager) : View :=
  { v with managers := { v.managers with sessionMgr := m } }

@[simp] theorem View.withSession_dispatcher (v : View) (m : SessionManager) :
    (v.withSession m).dispatcher = v.dispatcher := rfl
@[simp] theorem View.withSession_sessionMgr (v : View) (m : SessionManager) :
    (v.withSession m).managers.sessionMgr = m := rfl
@[simp] theorem View.withSession_securityAccess (v : View) (m : SessionManager) :
    (v.withSession m).managers.securityAccess = v.managers.securityAccess := rfl

/-- The initialised service `s` works on `v`: its own pointers and those of the dispatcher lead
to the objects of `v`, and all hold the same SEC. -/
structure Serves (s : DiagService) (v : View) : Prop where
  initialized : s.initialized = true
  dispatcher : s.dispatcher = some v.dispatcher
  sessionRef : v.dispatcher.sessionMgr = s.sessionMgr
  securityRef : v.dispatcher.securityAccess = s.securityAccess
  session : s.sessionMgrs.deref s.sessionMgr = some v.managers.sessionMgr
  security : s.securityAccesses.deref s.securityAccess = some v.managers.securityAccess
  sec : v.dispatcher.sec = v.managers.securityAccess.sec

def Shows (s : DiagService) : Option View → Prop
  | none => s.initialized = false
  | some v => Serves s v

/-- How a request reaches the dispatcher. -/
def Serving (op : DiagService.Op) (request : DiagRequest) : Prop :=
  op = .processRequest request ∨ op = .processPendingRequests

inductive Acts : Option View → DiagService.Step → Option View → Prop where
  | rest {op : DiagService.Op} {tr : Trace} {x : Option DiagService.Exchange} : Quiet tr →
      (∀ y, x = some y → y.response = DiagService.notInitializedResponse) →
      Acts none ⟨op, tr, x⟩ none
  | start {d : ServiceDispatcher} {t : Time} {tr : Trace} : Quiet tr →
      Acts none ⟨.initializeService, tr, none⟩
        (some ⟨d, ⟨{ session := { lastTesterPresentAt := t } }, .create d.sec⟩⟩)
  | keep {v : View} {op : DiagService.Op} : op ≠ .shutdown → (∀ sec, op ≠ .setSec sec) →
      Acts (some v) ⟨op, [], none⟩ (some v)
  | shutdown {v : View} {tr : Trace} : Quiet tr → Acts (some v) ⟨.shutdown, tr, none⟩ none
  | setSec {v : View} {d : ServiceDispatcher} : Acts (some v) ⟨.setSec d.sec, [], none⟩
      (some ⟨d, ⟨v.managers.sessionMgr, .create d.sec⟩⟩)
  | poll {v : View} {b : Bool} {m : SessionManager} {tr₀ tr : Trace} :
      v.managers.sessionMgr.S3Checked tr₀ b m → Quiet tr →
      Acts (some v) ⟨.processPendingRequests, tr₀ ++ tr, none⟩ (some (v.withSession m))
  | serve {v : View} {op : DiagService.Op} {request : DiagRequest} {response : DiagResponse}
      {b : Bool} {m : SessionManager} {ms : Managers} {tr₀ tr₁ tr₂ tr₃ : Trace} :
      Serving op request → v.managers.sessionMgr.S3Checked tr₀ b m → Quiet tr₁ →
      Dispatched v.dispatcher (v.withSession m).managers request tr₂ response ms → Quiet tr₃ →
      Acts (some v) ⟨op, tr₀ ++ (tr₁ ++ (tr₂ ++ tr₃)), some ⟨request, response⟩⟩
        (some { v with managers := ms })

theorem Serves.dispatcher_eq {s : DiagService} {v : View} {d : ServiceDispatcher} (h : Serves s v)
    (hd : s.dispatcher = some d) : v.dispatcher = d := by
  rw [h.dispatcher] at hd
  exact Option.some.inj hd

theorem Serves.getCurrentSession {s : DiagService} {v : View} (h : Serves s v) :
    s.getCurrentSession = v.managers.sessionMgr.session := by
  unfold DiagService.getCurrentSession
  rw [h.session]

theorem Serves.securityState {s : DiagService} {v : View} (h : Serves s v) (level : UInt8) :
    s.securityState level = v.managers.securityAccess.entry level := by
  unfold DiagService.securityState DiagService.currentSecurity
  rw [h.security]

/-! ## Requests -/

theorem ServiceDispatcher.Dispatched.sec {d : ServiceDispatcher} {ms ms' : Managers}
    {request : DiagRequest} {tr : Trace} {response : DiagResponse}
    (h : Dispatched d ms request tr response ms') :
    ms'.securityAccess.sec = ms.securityAccess.sec := by
  cases h with
  | seed _ _ hs => cases hs <;> rfl
  | key _ _ hk => cases hk <;> rfl
  | _ => rfl

namespace Serves

variable {s : DiagService} {v : View}

theorem store_session (h : Serves s v) (m : SessionManager) :
    Serves { s with sessionMgrs := s.sessionMgrs.store s.sessionMgr m } (v.withSession m) where
  initialized := h.initialized
  dispatcher := h.dispatcher
  sessionRef := h.sessionRef
  securityRef := h.securityRef
  session := Heap.store_deref h.session m
  security := h.security
  sec := h.sec

theorem checkS3Timeout_wp (h : Serves s v) : wp s.checkS3Timeout fun tr s' =>
    ∃ b m, v.managers.sessionMgr.S3Checked tr b m ∧ Serves s' (v.withSession m) ∧
      s'.transport = s.transport := by
  unfold DiagService.checkS3Timeout
  rw [h.session]
  simp only [wp_bind, wp_pure, List.append_nil]
  refine wp_mono v.managers.sessionMgr.checkS3Timeout_wp ?_
  intro tr r hr
  exact ⟨r.1, r.2, hr, h.store_session r.2, trivial⟩

theorem dispatch_wp (h : Serves s v) (request : DiagRequest) :
    wp (s.dispatch request) fun tr r => ∃ ms,
      Dispatched v.dispatcher v.managers request tr r.1 ms ∧
      Serves r.2 { v with managers := ms } ∧ r.2.transport = s.transport := by
  unfold DiagService.dispatch
  rw [h.dispatcher]
  simp only [h.sessionRef, h.securityRef, h.session, h.security, wp_bind, wp_pure,
    List.append_nil]
  refine wp_mono (v.dispatcher.dispatch_wp v.managers request) ?_
  intro tr r hr
  refine ⟨r.2, hr, ?_, trivial⟩
  exact {
    initialized := h.initialized
    dispatcher := rfl
    sessionRef := h.sessionRef
    securityRef := h.securityRef
    session := Heap.store_deref h.session _
    security := Heap.store_deref h.security _
    sec := h.sec.trans hr.sec.symm }

theorem processRequest_wp (h : Serves s v) (request : DiagRequest) :
    wp (s.processRequest request) fun tr r => ∃ tr₀ tr₁ b m ms, tr = tr₀ ++ tr₁ ∧
      v.managers.sessionMgr.S3Checked tr₀ b m ∧
      Dispatched v.dispatcher (v.withSession m).managers request tr₁ r.1 ms ∧
      Serves r.2 { v with managers := ms } := by
  unfold DiagService.processRequest
  rw [h.initialized]
  simp only [Bool.not_true, Bool.false_eq_true, if_false, wp_bind]
  refine wp_mono h.checkS3Timeout_wp ?_
  intro tr₀ s' hs'
  obtain ⟨b, m, hm, hs', _⟩ := hs'
  refine wp_mono (hs'.dispatch_wp request) ?_
  intro tr₁ r hr
  obtain ⟨ms, hd, hr, _⟩ := hr
  exact ⟨tr₀, tr₁, b, m, ms, rfl, hm, hd, hr⟩

theorem setTransport (h : Serves s v) (transport : Option TransportAdapter) :
    Serves (s.setTransport transport) v := { h with }

theorem processRaw_wp (h : Serves s v) (transport : TransportAdapter) (raw : Bytes) :
    wp (s.processRaw transport raw) fun tr r =>
      match UdsCodec.decode raw { transport := transport.getTransportType } with
      | none => tr = [] ∧ r = (none, s)
      | some request => ∃ response ms tr₁ tr₂ lg sent, tr = tr₁ ++ tr₂ ∧
          r.1 = some ⟨request, response⟩ ∧
          Dispatched v.dispatcher v.managers request tr₁ response ms ∧
          Exec (transport.send (UdsCodec.encode response)) tr₂ lg sent ∧
          Serves r.2 { v with managers := ms } ∧ r.2.transport = s.transport := by
  unfold DiagService.processRaw
  simp only [wp_bind, UdsCodec.decodeLogged_wp, List.nil_append]
  cases UdsCodec.decode raw { transport := transport.getTransportType } with
  | none => simp
  | some request =>
    simp only [wp_bind, wp_log, List.nil_append]
    refine wp_mono (h.dispatch_wp request) ?_
    intro tr₁ r hr
    obtain ⟨ms, hd, hr, ht⟩ := hr
    refine wp_mono (wp_exec (transport.send (UdsCodec.encode r.1))) ?_
    intro tr₂ sent hs
    obtain ⟨lg, hs⟩ := hs
    simp only [wp_ite, wp_bind, wp_log, wp_pure, List.append_nil]
    refine ⟨?_, ?_⟩
    · intro _
      exact ⟨r.1, ms, tr₁, tr₂, lg, sent, rfl, rfl, hd, hs, hr, ht⟩
    · intro _
      exact ⟨r.1, ms, tr₁, tr₂, lg, sent, rfl, rfl, hd, hs, hr, ht⟩

/-- The outcomes of one look at the transport. -/
inductive Pending (s : DiagService) (v : View) :
    Trace → Option DiagService.Exchange → DiagService → Prop where
  | idle {tr₀ : Trace} {b : Bool} {m : SessionManager} {s' : DiagService} :
      s.transport = none → v.managers.sessionMgr.S3Checked tr₀ b m →
      Serves s' (v.withSession m) → s'.transport = none → Pending s v tr₀ none s'
  | connect {t t' : TransportAdapter} {tr₀ tr₁ : Trace} {b ok : Bool} {m : SessionManager}
      {lg : List LogRecord} {s' : DiagService} :
      s.transport = some t → t.isConnected = false →
      v.managers.sessionMgr.S3Checked tr₀ b m → Exec t.connect tr₁ lg (ok, t') →
      Serves s' (v.withSession m) → s'.transport = some t' → Pending s v (tr₀ ++ tr₁) none s'
  | dropped {t t' : TransportAdapter} {tr₀ tr₁ : Trace} {b : Bool} {m : SessionManager}
      {lg : List LogRecord} {raw : Bytes} {s' : DiagService} :
      s.transport = some t → t.isConnected = true →
      v.managers.sessionMgr.S3Checked tr₀ b m → Exec (t.receive 0) tr₁ lg (raw, t') →
      UdsCodec.decode raw { transport := t'.getTransportType } = none →
      Serves s' (v.withSession m) → s'.transport = some t' → Pending s v (tr₀ ++ tr₁) none s'
  | answered {t t' : TransportAdapter} {tr₀ tr₁ tr₂ tr₃ : Trace} {b sent : Bool}
      {m : SessionManager} {lg lg' : List LogRecord} {raw : Bytes} {request : DiagRequest}
      {response : DiagResponse} {ms : Managers} {s' : DiagService} :
      s.transport = some t → t.isConnected = true →
      v.managers.sessionMgr.S3Checked tr₀ b m → Exec (t.receive 0) tr₁ lg (raw, t') →
      UdsCodec.decode raw { transport := t'.getTransportType } = some request →
      Dispatched v.dispatcher (v.withSession m).managers request tr₂ response ms →
      Exec (t'.send (UdsCodec.encode response)) tr₃ lg' sent →
      Serves s' { v with managers := ms } → s'.transport = some t' →
      Pending s v (tr₀ ++ (tr₁ ++ (tr₂ ++ tr₃))) (some ⟨request, response⟩) s'

theorem processPendingRequests_wp (h : Serves s v) :
    wp s.processPendingRequests fun tr r => Pending s v tr r.1 r.2 := by
  unfold DiagService.processPendingRequests
  rw [h.initialized]
  simp only [Bool.not_true, Bool.false_eq_true, if_false, wp_bind]
  refine wp_mono h.checkS3Timeout_wp ?_
  intro tr₀ s₁ hs₁
  obtain ⟨b, m, hm, hs₁, ht⟩ := hs₁
  rw [ht]
  cases hst : s.transport with
  | none =>
    simp only [wp_pure, List.append_nil]
    exact .idle hst hm hs₁ (ht.trans hst)
  | some t =>
    simp only [wp_ite, wp_bind, wp_pure, Bool.not_eq_true', Bool.not_eq_false, List.append_nil]
    refine ⟨?_, ?_⟩
    · intro hc
      refine wp_mono (wp_exec t.connect) ?_
      intro tr₁ r hr
      obtain ⟨lg, hr⟩ := hr
      exact .connect hst hc hm hr (hs₁.setTransport _) rfl
    · intro hc
      refine wp_mono (wp_exec (t.receive 0)) ?_
      intro tr₁ r hr
      obtain ⟨lg, hr⟩ := hr
      have hs₂ := hs₁.setTransport (some r.2)
      refine ⟨?_, ?_⟩
      · -- nothing was received: nothing is decoded
        intro he
        refine .dropped hst hc hm hr ?_ hs₂ rfl
        rw [List.isEmpty_iff.mp he]
        rfl
      · intro _
        refine wp_mono (hs₂.processRaw_wp r.2 r.1) ?_
        intro tr₂ q hq
        cases hd : UdsCodec.decode r.1 { transport := r.2.getTransportType } with
        | none =>
          rw [hd] at hq
          obtain ⟨rfl, rfl⟩ := hq
          simpa using Pending.dropped hst hc hm hr hd hs₂ rfl
        | some request =>
          rw [hd] at hq
          obtain ⟨response, ms, tr₂, tr₃, lg', sent, rfl, hx, hdis, hsend, hs₃, ht₃⟩ := hq
          rw [hx]
          exact .answered hst hc hm hr hd hdis hsend hs₃ ht₃

theorem Pending.acts {tr : Trace} {x : Option DiagService.Exchange} {s' : DiagService}
    (h : Pending s v tr x s') :
    ∃ v', Acts (some v) ⟨.processPendingRequests, tr, x⟩ (some v') ∧ Serves s' v' := by
  cases h with
  | idle _ hm hs _ =>
    have hp := Acts.poll (v := v) hm quiet_nil
    rw [List.append_nil] at hp
    exact ⟨_, hp, hs⟩
  | connect _ _ hm hc hs _ => exact ⟨_, .poll hm ((TransportAdapter.connect_aside _).quiet hc), hs⟩
  | dropped _ _ hm hr _ hs _ =>
    exact ⟨_, .poll hm ((TransportAdapter.receive_aside _ _).quiet hr), hs⟩
  | answered _ _ hm hr _ hd hsend hs _ =>
    refine ⟨_, .serve (.inr rfl) hm ?_ hd ?_, hs⟩
    · exact (TransportAdapter.receive_aside _ _).quiet hr
    · exact (TransportAdapter.send_aside _ _).quiet hsend

end Serves

/-! ## Initialisation, shutdown, new dependencies -/

section
open DiagService

theorem applySections_aside (names : List String) : Aside (applySections names) := by
  induction names with
  | nil => exact issues_pure
  | cons name names ih =>
    unfold applySections
    refine issues_bind (aside_ask trivial) fun found => ?_
    cases found with
    | absent => exact ih
    | present => exact issues_bind aside_log fun _ => ih
    | threw what => exact issues_bind aside_log fun _ => issues_pure

theorem loadConfig_aside : Aside loadConfig := by
  unfold loadConfig
  refine issues_bind (aside_ask trivial) fun found => ?_
  cases found with
  | snapshot => exact applySections_aside _
  | _ => exact issues_bind aside_log fun _ => issues_pure

end

variable {s : DiagService}

theorem initializeSubmodules_wp (h : s.initialized = false) :
    wp s.initializeSubmodules fun tr r => Quiet tr ∧
      (r.2.initialized = false ∨ ∃ d t,
        Serves r.2 ⟨d, ⟨{ session := { lastTesterPresentAt := t } }, .create d.sec⟩⟩) := by
  have hq (t : Stamped Unit) : Quiet [⟨.now .sessionCreated, t⟩] := by
    intro e he
    rw [List.mem_singleton.mp he]
    exact trivial
  unfold DiagService.initializeSubmodules SessionManager.create
  simp only [wp_bind, wp_now, wp_pure]
  intro t
  cases hsec : s.sec with
  | none =>
    simp only [wp_bind, wp_log, wp_pure, List.append_nil]
    exact ⟨hq t, .inl h⟩
  | some sec =>
    cases hprov : s.prov with
    | none =>
      simp only [wp_bind, wp_log, wp_pure, List.append_nil]
      exact ⟨hq t, .inl h⟩
    | some prov =>
      simp only [wp_pure, List.append_nil]
      exact ⟨hq t, .inr ⟨_, t.time, {
        initialized := rfl
        dispatcher := rfl
        sessionRef := rfl
        securityRef := rfl
        session := Heap.alloc_deref _ _
        security := Heap.alloc_deref _ _
        sec := rfl }⟩⟩

theorem initializeService_wp (h : s.initialized = false) :
    wp s.initializeService fun tr r => Quiet tr ∧
      (r.2.initialized = false ∨ ∃ d t,
        Serves r.2 ⟨d, ⟨{ session := { lastTesterPresentAt := t } }, .create d.sec⟩⟩) := by
  unfold DiagService.initializeService
  rw [h]
  simp only [Bool.false_eq_true, if_false, wp_bind, wp_ite, wp_pure, List.append_nil]
  refine wp_mono loadConfig_aside ?_
  intro tr result hq
  refine ⟨?_, ?_⟩
  · intro _
    exact ⟨hq, .inl h⟩
  · intro _
    refine wp_mono (initializeSubmodules_wp h) ?_
    intro tr' r hr
    refine ⟨?_, hr.2⟩
    intro e he
    cases List.mem_append.mp he with
    | inl he => exact hq e he
    | inr he => exact hr.1 e he

theorem shutdown_wp (s : DiagService) :
    wp s.shutdown fun tr s' => Quiet tr ∧ s'.initialized = false := by
  unfold DiagService.shutdown DiagService.disconnectTransport
  cases s.transport with
  | none => simp
  | some t =>
    simp only [wp_bind, wp_pure, List.append_nil]
    refine wp_mono (wp_exec t.disconnect) ?_
    intro tr t' ht
    obtain ⟨lg, ht⟩ := ht
    exact ⟨t.disconnect_aside.quiet ht, trivial⟩

theorem Serves.setSec {v : View} (h : Serves s v) (sec : Option SecHandle) :
    ∃ d : ServiceDispatcher, d.sec = sec ∧
      Serves (s.setSec sec) ⟨d, ⟨v.managers.sessionMgr, .create sec⟩⟩ := by
  obtain ⟨r, hr, _⟩ := Option.bind_eq_some_iff.mp h.security
  let d := DiagService.registerDefaultRoutes
    { prov := s.prov, sec := sec, sessionMgr := s.sessionMgr,
      securityAccess := some (s.securityAccesses.alloc (.create sec)).1 }
  have hs : s.setSec sec =
      { s with
        sec
        securityAccess := some (s.securityAccesses.alloc (.create sec)).1
        securityAccesses := (s.securityAccesses.alloc (.create sec)).2
        dispatcher := some d } := by
    unfold DiagService.setSec
    simp only [hr, h.dispatcher]
    rfl
  refine ⟨d, rfl, ?_⟩
  rw [hs]
  exact {
    initialized := h.initialized
    dispatcher := rfl
    sessionRef := rfl
    securityRef := rfl
    session := h.session
    security := Heap.alloc_deref _ _
    sec := rfl }

/-! ## The service refines its view -/

theorem setSec_initialized (s : DiagService) (sec : Option SecHandle) :
    (s.setSec sec).initialized = s.initialized := by
  unfold DiagService.setSec
  cases hsa : s.securityAccess <;> cases hd : s.dispatcher <;> simp

theorem rest_wp (h : s.initialized = false) (op : DiagService.Op) :
    wp (s.exec op) fun tr r => ∃ o, Acts none ⟨op, tr, r.1⟩ o ∧ Shows r.2 o := by
  have rest {s' : DiagService} {tr : Trace} (hq : Quiet tr) (hs : s'.initialized = false) :
      ∃ o, Acts none ⟨op, tr, none⟩ o ∧ Shows s' o := ⟨none, .rest hq (by simp), hs⟩
  cases op with
  | initializeService =>
    simp only [DiagService.exec, wp_bind, wp_pure, List.append_nil]
    refine wp_mono (initializeService_wp h) ?_
    intro tr r hr
    obtain ⟨hq, hi | ⟨d, t, hs⟩⟩ := hr
    · exact rest hq hi
    · exact ⟨_, .start hq, hs⟩
  | processRequest request =>
    simp only [DiagService.exec, DiagService.processRequest, h, Bool.not_false, if_true, wp_bind,
      wp_pure, List.append_nil]
    refine ⟨none, .rest quiet_nil ?_, h⟩
    rintro y ⟨⟩
    rfl
  | processPendingRequests =>
    simp only [DiagService.exec, DiagService.processPendingRequests, h, Bool.not_false, if_true,
      wp_pure]
    exact rest quiet_nil h
  | shutdown =>
    simp only [DiagService.exec, wp_bind, wp_pure, List.append_nil]
    refine wp_mono (shutdown_wp s) ?_
    intro tr s' hs
    exact rest hs.1 hs.2
  | setTransport transport => exact rest quiet_nil h
  | setProv prov => exact rest quiet_nil h
  | setSec sec => exact rest quiet_nil ((setSec_initialized s sec).trans h)

/-- A request that comes before initialisation is turned away, and changes nothing. -/
theorem not_initialized {s' : DiagService} {l : DiagService.Step} {x : DiagService.Exchange}
    (h : s.initialized = false) (hs : DiagService.Does s l s') (hx : l.exchange = some x) :
    s' = s ∧ x.response = DiagService.notInitializedResponse := by
  obtain ⟨op, tr, _⟩ := l
  obtain ⟨lg, hs⟩ := hs
  cases hx
  suffices hwp : wp (s.exec op) fun _ r => ∀ x, r.1 = some x →
      r.2 = s ∧ x.response = DiagService.notInitializedResponse from hs.wp hwp x rfl
  cases op with
  | processRequest request =>
    simp [DiagService.exec, DiagService.processRequest, h]
  | processPendingRequests =>
    simp [DiagService.exec, DiagService.processPendingRequests, h]
  | initializeService =>
    simp only [DiagService.exec, wp_bind, wp_pure]
    refine wp_of_forall ?_
    intro _ _ _ hn
    cases hn
  | shutdown =>
    simp only [DiagService.exec, wp_bind, wp_pure]
    refine wp_of_forall ?_
    intro _ _ _ hn
    cases hn
  | _ => simp [DiagService.exec]

theorem Serves.exec_wp {v : View} (h : Serves s v) (op : DiagService.Op) :
    wp (s.exec op) fun tr r => ∃ o, Acts (some v) ⟨op, tr, r.1⟩ o ∧ Shows r.2 o := by
  cases op with
  | initializeService =>
    simp only [DiagService.exec, DiagService.initializeService, h.initialized, if_true, wp_bind,
      wp_pure, List.append_nil]
    exact ⟨some v, .keep (by simp) (by simp), h⟩
  | processRequest request =>
    simp only [DiagService.exec, wp_bind, wp_pure, List.append_nil]
    refine wp_mono (h.processRequest_wp request) ?_
    intro tr r hr
    obtain ⟨tr₀, tr₁, b, m, ms, rfl, hm, hd, hs⟩ := hr
    have hserve := Acts.serve (.inl rfl) hm quiet_nil hd quiet_nil
    rw [List.append_nil, List.nil_append] at hserve
    exact ⟨_, hserve, hs⟩
  | processPendingRequests =>
    refine wp_mono h.processPendingRequests_wp ?_
    intro tr r hr
    obtain ⟨v', ha, hs⟩ := hr.acts
    exact ⟨some v', ha, hs⟩
  | shutdown =>
    simp only [DiagService.exec, wp_bind, wp_pure, List.append_nil]
    refine wp_mono (shutdown_wp s) ?_
    intro tr s' hs
    exact ⟨none, .shutdown hs.1, hs.2⟩
  | setTransport transport => exact ⟨some v, .keep (by simp) (by simp), { h with }⟩
  | setProv prov => exact ⟨some v, .keep (by simp) (by simp), { h with }⟩
  | setSec sec =>
    obtain ⟨d, rfl, hs⟩ := h.setSec sec
    exact ⟨_, .setSec, hs⟩

/-- Every operation moves the view as `Acts` allows. -/
theorem does_acts {s' : DiagService} {o : Option View} {l : DiagService.Step} (h : Shows s o)
    (hs : DiagService.Does s l s') : ∃ o', Acts o l o' ∧ Shows s' o' := by
  obtain ⟨lg, hs⟩ := hs
  cases o with
  | none => exact hs.wp (rest_wp h l.op)
  | some v => exact hs.wp (Serves.exec_wp h l.op)

theorem run_acts {s s' : DiagService} {o : Option View} {ls : List DiagService.Step}
    (hr : Run DiagService.Does s ls s') (h : Shows s o) : ∃ o', Run Acts o ls o' ∧ Shows s' o' := by
  have hsim : ∀ s o l s', Shows s o → DiagService.Does s l s' →
      ∃ o', Acts o l o' ∧ Shows s' o' := by
    intro s o l s' h hs
    exact does_acts h hs
  exact Run.simulates hsim hr h

/-- A run from construction on, as its view has it. -/
theorem reach_acts {s : DiagService} {ls : List DiagService.Step}
    (hr : Run DiagService.Does {} ls s) : ∃ o, Run Acts none ls o ∧ Shows s o :=
  run_acts hr rfl

/-- When the service is initialised there is a view. -/
theorem reach_serves {s : DiagService} {ls : List DiagService.Step}
    (hr : Run DiagService.Does {} ls s) (hi : s.initialized = true) :
    ∃ v, Run Acts none ls (some v) ∧ Serves s v := by
  obtain ⟨o, hacts, hshow⟩ := reach_acts hr
  cases o with
  | none =>
    rw [Shows, hi] at hshow
    cases hshow
  | some v => exact ⟨v, hacts, hshow⟩

end Diag
end Tbox
