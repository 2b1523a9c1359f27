import TboxDiag.Dependencies
import TboxDiag.Lib.Coupling

/-!
# Restart

What a service keeps when it is shut down: its transport, its PROV and its SEC, and nothing else.
Two services that differ only in where their objects are do the same from then on (`SameButPlace`,
`does_same`). One that is not initialised holds no object that matters, so it does what a new one
with the same dependencies does: sessions, seeds, failed keys, lockouts and unlocked levels from
before are gone (`restart_forgets`).
-/

namespace Tbox
namespace Diag

open Effects DiagService ServiceDispatcher

/-- The same service, but for where its objects are. -/
structure SameButPlace (s s' : DiagService) : Prop where
  initialized : s'.initialized = s.initialized
  transport : s'.transport = s.transport
  prov : s'.prov = s.prov
  sec : s'.sec = s.sec
  objects : s.initialized = true → ∃ v v', Serves s v ∧ Serves s' v' ∧
    v'.dispatcher.prov = v.dispatcher.prov ∧ v'.dispatcher.sec = v.dispatcher.sec ∧
    v'.managers = v.managers

section
variable {s s' : DiagService}

/-- While neither is initialised, only the dependencies count. -/
theorem sameButPlace_rest (hi : s.initialized = false) (hi' : s'.initialized = false)
    (ht : s'.transport = s.transport) (hp : s'.prov = s.prov) (hs : s'.sec = s.sec) :
    SameButPlace s s' :=
  ⟨hi'.trans hi.symm, ht, hp, hs, fun h => absurd (hi.symm.trans h) (by decide)⟩

theorem SameButPlace.symm (h : SameButPlace s s') : SameButPlace s' s where
  initialized := h.initialized.symm
  transport := h.transport.symm
  prov := h.prov.symm
  sec := h.sec.symm
  objects := by
    intro hi
    obtain ⟨v, v', hv, hv', hp, hs, hm⟩ := h.objects (h.initialized.symm.trans hi)
    exact ⟨v', v, hv', hv, hp.symm, hs.symm, hm.symm⟩

/-! ## Dispatching -/

/-- Of the dispatcher, a request meets the PROV and the SEC only. -/
theorem dispatch_congr {d d' : ServiceDispatcher} (hp : d'.prov = d.prov) (hs : d'.sec = d.sec)
    (ms : Managers) (request : DiagRequest) : d'.dispatch ms request = d.dispatch ms request := by
  have hsec (sa : SecurityAccess) (k : SecHandle → M DiagResponse) :
      d'.withSec sa k = d.withSec sa k := by
    unfold withSec
    rw [hs]
  unfold ServiceDispatcher.dispatch route handleRoutineControl handleReadDataByIdentifier handleGenerateKeyPair
    handleReadCsr handleInjectCertificate
  simp only [hp, hsec]

theorem checkS3Timeout_same (h : SameButPlace s s') (hi : s.initialized = true) :
    Coupled (fun t t' => SameButPlace t t' ∧ t.initialized = true) s.checkS3Timeout
      s'.checkS3Timeout := by
  obtain ⟨v, v', hv, hv', hp, hs, hm⟩ := h.objects hi
  unfold DiagService.checkS3Timeout
  rw [hv.session, hv'.session, hm]
  refine .bind_same fun r => .pure ⟨⟨h.initialized, h.transport, h.prov, h.sec, fun _ => ?_⟩, hi⟩
  refine ⟨_, _, hv.store_session r.2, hv'.store_session r.2, hp, hs, ?_⟩
  rw [View.withSession, View.withSession, hm]

/-- The same exchange, if any, and the same service. -/
def SameOutcomeButPlace {α : Type} (r r' : α × DiagService) : Prop :=
  r'.1 = r.1 ∧ SameButPlace r.2 r'.2

/-- The managers are stored where the dispatcher has them. -/
theorem Serves.store_managers {v : View} (h : Serves s v) (ms : Managers)
    (hsec : ms.securityAccess.sec = v.managers.securityAccess.sec) :
    Serves { s with
      sessionMgrs := s.sessionMgrs.store v.dispatcher.sessionMgr ms.sessionMgr
      securityAccesses := s.securityAccesses.store v.dispatcher.securityAccess ms.securityAccess }
      { v with managers := ms } where
  initialized := h.initialized
  dispatcher := h.dispatcher
  sessionRef := h.sessionRef
  securityRef := h.securityRef
  session := by
    rw [h.sessionRef]
    exact Heap.store_deref h.session _
  security := by
    rw [h.securityRef]
    exact Heap.store_deref h.security _
  sec := h.sec.trans hsec.symm

theorem dispatch_same (h : SameButPlace s s') (hi : s.initialized = true)
    (request : DiagRequest) :
    Coupled SameOutcomeButPlace (s.dispatch request) (s'.dispatch request) := by
  obtain ⟨v, v', hv, hv', hp, hs, hm⟩ := h.objects hi
  have hsec : wp (v.dispatcher.dispatch v.managers request) fun _ r =>
      r.2.securityAccess.sec = v.managers.securityAccess.sec :=
    wp_mono (v.dispatcher.dispatch_wp v.managers request) fun _ _ hd => hd.sec
  unfold DiagService.dispatch
  rw [hv.dispatcher, hv'.dispatcher]
  have hsession : s.sessionMgrs.deref v.dispatcher.sessionMgr = some v.managers.sessionMgr := by
    rw [hv.sessionRef, hv.session]
  have hsecurity : s.securityAccesses.deref v.dispatcher.securityAccess =
      some v.managers.securityAccess := by
    rw [hv.securityRef, hv.security]
  have hsession' : s'.sessionMgrs.deref v'.dispatcher.sessionMgr =
      some v.managers.sessionMgr := by
    rw [hv'.sessionRef, hv'.session, hm]
  have hsecurity' : s'.securityAccesses.deref v'.dispatcher.securityAccess =
      some v.managers.securityAccess := by
    rw [hv'.securityRef, hv'.security, hm]
  simp only [hsession, hsecurity, hsession', hsecurity', dispatch_congr hp hs]
  refine (Coupled.refl_wp hsec).bind ?_
  rintro ⟨response, ms⟩ _ ⟨rfl, hms⟩
  refine .pure ⟨rfl, h.initialized, h.transport, h.prov, h.sec, fun _ => ?_⟩
  have hstored := hv.store_managers ms hms
  have hstored' := hv'.store_managers ms (by rw [hm]; exact hms)
  rw [hv.dispatcher] at hstored
  rw [hv'.dispatcher] at hstored'
  exact ⟨_, _, hstored, hstored', hp, hs, rfl⟩

/-! ## The operations -/

/-- A service as its initialisation leaves it. -/
theorem serves_started (s : DiagService) (m : SessionManager) {p : ProvHandle} {q : SecHandle} :
    let security := s.securityAccesses.alloc (SecurityAccess.create (some q))
    let d := DiagService.registerDefaultRoutes
      { prov := some p, sec := some q, sessionMgr := some (s.sessionMgrs.alloc m).1
        securityAccess := some security.1 }
    Serves
      { s with
        initialized := true
        prov := some p
        sec := some q
        dispatcher := some d
        sessionMgr := some (s.sessionMgrs.alloc m).1
        sessionMgrs := (s.sessionMgrs.alloc m).2
        securityAccess := some security.1
        securityAccesses := security.2 }
      ⟨d, ⟨m, .create (some q)⟩⟩ where
  initialized := rfl
  dispatcher := rfl
  sessionRef := rfl
  securityRef := rfl
  session := Heap.alloc_deref _ _
  security := Heap.alloc_deref _ _
  sec := rfl

theorem initializeSubmodules_same (h : SameButPlace s s') (hi : s.initialized = false) :
    Coupled SameOutcomeButPlace s.initializeSubmodules s'.initializeSubmodules := by
  have hi' : s'.initialized = false := h.initialized.trans hi
  unfold DiagService.initializeSubmodules
  rw [h.prov, h.sec]
  refine .bind_same fun m => ?_
  cases hsec : s.sec with
  | none =>
    refine .bind_same fun _ => .pure ⟨rfl, ?_⟩
    exact sameButPlace_rest hi hi' h.transport rfl rfl
  | some q =>
    cases hprov : s.prov with
    | none =>
      refine .bind_same fun _ => .pure ⟨rfl, ?_⟩
      exact sameButPlace_rest hi hi' h.transport rfl rfl
    | some p =>
      refine .pure ⟨rfl, rfl, h.transport, rfl, rfl, fun _ => ?_⟩
      exact ⟨_, _, serves_started s m, serves_started s' m, rfl, rfl, rfl⟩

theorem initializeService_same (h : SameButPlace s s') :
    Coupled SameOutcomeButPlace s.initializeService s'.initializeService := by
  unfold DiagService.initializeService
  rw [h.initialized]
  refine .ite (fun _ => .pure ⟨rfl, h⟩) fun hi => .bind_same fun result => ?_
  exact .ite (fun _ => .pure ⟨rfl, h⟩) fun _ => initializeSubmodules_same h (by simpa using hi)

theorem processRequest_same (h : SameButPlace s s') (request : DiagRequest) :
    Coupled SameOutcomeButPlace (s.processRequest request) (s'.processRequest request) := by
  unfold DiagService.processRequest
  rw [h.initialized]
  refine .ite (fun _ => .pure ⟨rfl, h⟩) fun hi => ?_
  have hi : s.initialized = true := by simpa using hi
  refine (checkS3Timeout_same h hi).bind ?_
  rintro s s' ⟨h, hi⟩
  exact dispatch_same h hi request

theorem processRaw_same (h : SameButPlace s s') (hi : s.initialized = true)
    (transport : TransportAdapter) (raw : Bytes) :
    Coupled SameOutcomeButPlace (s.processRaw transport raw) (s'.processRaw transport raw) := by
  unfold DiagService.processRaw
  refine .bind_same fun request => ?_
  cases request with
  | none => exact .bind_same fun _ => .pure ⟨rfl, h⟩
  | some request =>
    refine .bind_same fun _ => (dispatch_same h hi request).bind ?_
    rintro ⟨response, s⟩ ⟨_, s'⟩ ⟨rfl, h⟩
    refine .bind_same fun sent => .ite (fun _ => ?_) fun _ => ?_
    · exact .bind_same fun _ => .bind_same fun _ => .pure ⟨rfl, h⟩
    · exact .bind_same fun _ => .pure ⟨rfl, h⟩

theorem SameButPlace.setTransport (h : SameButPlace s s') (transport : Option TransportAdapter) :
    SameButPlace (s.setTransport transport) (s'.setTransport transport) where
  initialized := h.initialized
  transport := rfl
  prov := h.prov
  sec := h.sec
  objects := by
    intro hi
    obtain ⟨v, v', hv, hv', hsame⟩ := h.objects hi
    exact ⟨v, v', hv.setTransport transport, hv'.setTransport transport, hsame⟩

theorem processPendingRequests_same (h : SameButPlace s s') :
    Coupled SameOutcomeButPlace s.processPendingRequests s'.processPendingRequests := by
  unfold DiagService.processPendingRequests
  rw [h.initialized]
  refine .ite (fun _ => .pure ⟨rfl, h⟩) fun hi => ?_
  have hi : s.initialized = true := by simpa using hi
  refine (checkS3Timeout_same h hi).bind ?_
  rintro s s' ⟨h, hi⟩
  rw [h.transport]
  cases s.transport with
  | none => exact .pure ⟨rfl, h⟩
  | some transport =>
    refine .ite (fun _ => .bind_same fun y => .pure ⟨rfl, h.setTransport (some y.2)⟩) fun _ => ?_
    refine .bind_same fun y => .ite (fun _ => .pure ⟨rfl, h.setTransport (some y.2)⟩) fun _ => ?_
    exact processRaw_same (h.setTransport (some y.2)) hi y.2 y.1

theorem shutdown_same (h : SameButPlace s s') :
    Coupled SameButPlace s.shutdown s'.shutdown := by
  unfold DiagService.shutdown
  rw [h.transport]
  exact .bind_same fun transport => .pure (sameButPlace_rest rfl rfl rfl h.prov h.sec)

theorem SameButPlace.setProv (h : SameButPlace s s') (prov : Option ProvHandle) :
    SameButPlace (s.setProv prov) (s'.setProv prov) where
  initialized := h.initialized
  transport := h.transport
  prov := rfl
  sec := h.sec
  objects := by
    intro hi
    obtain ⟨v, v', hv, hv', hsame⟩ := h.objects hi
    exact ⟨v, v', { hv with }, { hv' with }, hsame⟩

theorem setSec_transport (s : DiagService) (sec : Option SecHandle) :
    (s.setSec sec).transport = s.transport := by
  unfold DiagService.setSec
  cases s.securityAccess <;> cases s.dispatcher <;> rfl

/-- The dispatcher that is built then has the PROV installed now. -/
theorem SameButPlace.setSec (h : SameButPlace s s') (sec : Option SecHandle) :
    SameButPlace (s.setSec sec) (s'.setSec sec) := by
  obtain ⟨hp, hsec⟩ := setSec_pointers (s := s) sec
  obtain ⟨hp', hsec'⟩ := setSec_pointers (s := s') sec
  have hinit := setSec_initialized s sec
  have hinit' := setSec_initialized s' sec
  refine ⟨by rw [hinit, hinit', h.initialized], by rw [setSec_transport, setSec_transport,
    h.transport], by rw [hp, hp', h.prov], by rw [hsec, hsec'], fun hi => ?_⟩
  obtain ⟨v, v', hv, hv', -, -, hm⟩ := h.objects (hinit.symm.trans hi)
  obtain ⟨d, hd, hserves⟩ := hv.setSec sec
  obtain ⟨d', hd', hserves'⟩ := hv'.setSec sec
  obtain ⟨e, he⟩ := setSec_built hv sec
  obtain ⟨e', he'⟩ := setSec_built hv' sec
  obtain rfl : d = e := hserves.dispatcher_eq he.dispatcher
  obtain rfl : d' = e' := hserves'.dispatcher_eq he'.dispatcher
  refine ⟨_, _, hserves, hserves', ?_, hd'.trans hd.symm, by rw [hm]⟩
  show d'.prov = d.prov
  rw [he.prov, he'.prov, h.prov]

theorem exec_same (h : SameButPlace s s') (op : Op) :
    Coupled SameOutcomeButPlace (s.exec op) (s'.exec op) := by
  cases op with
  | initializeService =>
    refine (initializeService_same h).bind ?_
    rintro ⟨result, s⟩ ⟨_, s'⟩ ⟨rfl, h⟩
    exact .pure ⟨rfl, h⟩
  | processRequest request =>
    refine (processRequest_same h request).bind ?_
    rintro ⟨response, s⟩ ⟨_, s'⟩ ⟨rfl, h⟩
    exact .pure ⟨rfl, h⟩
  | processPendingRequests => exact processPendingRequests_same h
  | shutdown => exact (shutdown_same h).bind fun s s' h => .pure ⟨rfl, h⟩
  | setTransport transport => exact .pure ⟨rfl, h.setTransport transport⟩
  | setProv prov => exact .pure ⟨rfl, h.setProv prov⟩
  | setSec sec => exact .pure ⟨rfl, h.setSec sec⟩

/-! ## Runs -/

theorem does_same {t : DiagService} {l : Step} (h : SameButPlace s s') (hd : Does s l t) :
    ∃ t', Does s' l t' ∧ SameButPlace t t' := by
  obtain ⟨lg, hx⟩ := hd
  obtain ⟨lg', ⟨exchange, t'⟩, hx', hexchange, hsame⟩ := (exec_same h l.op).exec hx
  obtain rfl : exchange = l.exchange := hexchange
  exact ⟨t', ⟨lg', hx'⟩, hsame⟩

theorem run_same {t : DiagService} {ls : List Step} (hr : Run Does s ls t)
    (h : SameButPlace s s') : ∃ t', Run Does s' ls t' ∧ SameButPlace t t' := by
  have hsim : ∀ s a l t, SameButPlace s a → Does s l t →
      ∃ a', Does a l a' ∧ SameButPlace t a' := fun _ _ _ _ h hd => does_same h hd
  exact Run.simulates hsim hr h

/-- What is seen of an initialised service is the same. -/
theorem SameButPlace.shows (h : SameButPlace s s') (hi : s.initialized = true) :
    s'.getCurrentSession = s.getCurrentSession ∧ s'.currentSecurity = s.currentSecurity := by
  obtain ⟨v, v', hv, hv', -, -, hm⟩ := h.objects hi
  refine ⟨by rw [hv.getCurrentSession, hv'.getCurrentSession, hm], ?_⟩
  unfold DiagService.currentSecurity
  rw [hv.security, hv'.security, hm]

/-- As it was constructed, with these dependencies. -/
def newService (transport : Option TransportAdapter) (prov : Option ProvHandle)
    (sec : Option SecHandle) : DiagService := { transport, prov, sec }

/-- A service that is not initialised, after whatever it has been through, has the runs of a new one
with its transport and the PROV and the SEC installed last: the same calls with the same answers,
the same responses, and once it is initialised the same session and security state. -/
theorem restart_forgets {ls : List Step} (hr : Run Does {} ls s) (hi : s.initialized = false)
    (ls' : List Step) :
    let fresh := newService s.transport (lastProv ls) (lastSec ls)
    (∀ t, Run Does s ls' t → ∃ t', Run Does fresh ls' t' ∧ SameButPlace t t') ∧
      ∀ t', Run Does fresh ls' t' → ∃ t, Run Does s ls' t ∧ SameButPlace t' t := by
  intro fresh
  obtain ⟨hprov, hsec⟩ := installed_run hr
  have h : SameButPlace s fresh := sameButPlace_rest hi rfl rfl hprov.symm hsec.symm
  exact ⟨fun t hrun => run_same hrun h, fun t' hrun => run_same hrun h.symm⟩

end

/-- Level 1 is unlocked, and the service is shut down. -/
def shutDownScript : List (Op × Oracle) := ownedScript ++ [(.shutdown, obliging 0)]

theorem restart_forgets_unlocked :
    let r := play {} shutDownScript
    let ls' := (play r.2 [(.initializeService, obliging 0), (writeVinOp 1, obliging 0)]).1
    let fresh := newService r.2.transport (lastProv r.1) (lastSec r.1)
    (∀ t, Run Does r.2 ls' t → ∃ t', Run Does fresh ls' t' ∧ SameButPlace t t') ∧
      ∀ t', Run Does fresh ls' t' → ∃ t, Run Does r.2 ls' t ∧ SameButPlace t' t :=
  restart_forgets (play_run {} shutDownScript) rfl _

end Diag
end Tbox
