import TboxDiag.SecurityHistory

/-!
# RoutingTable

The routing table and what comes of its `requiresUnlock` flags. `checkSecurityRequired` looks a
request up, but no handler calls it: RoutineControl always asks for the unlock, and
ReadDataByIdentifier never does.

* `unlock_enforced_iff`: with level 1 locked, a request the table protects is refused, with nothing
  read or written, unless it reads one of the two DIDs the service knows from a PROV.
* `default_routes_enforced`: the table the service registers is enforced.
-/

namespace Tbox
namespace Diag

open Effects ServiceDispatcher

namespace ServiceDispatcher

/-- The constructor. -/
def create (prov : Option ProvHandle) (sec : Option SecHandle)
    (sessionMgr securityAccess : Option Ref) : ServiceDispatcher :=
  { prov, sec, sessionMgr, securityAccess }

/-- The flag of the first entry that matches. -/
def checkSecurityRequired (d : ServiceDispatcher) (serviceId : UInt8) (didOrRid : UInt16) : Bool :=
  match d.routingTable.find? fun entry =>
      entry.serviceId = serviceId ∧ entry.didOrRid = didOrRid with
  | none => false
  | some entry => entry.requiresUnlock

/-- Register the routes one after the other. -/
def registerRoutes (d : ServiceDispatcher) (routes : List RoutingEntry) : ServiceDispatcher :=
  routes.foldl (fun d r => d.registerRoute r.serviceId r.didOrRid r.downstream r.requiresUnlock) d

/-- The table holds the routes in the order of their registration; nothing else changes. -/
theorem registerRoutes_eq (d : ServiceDispatcher) (routes : List RoutingEntry) :
    d.registerRoutes routes = { d with routingTable := d.routingTable ++ routes } := by
  induction routes generalizing d with
  | nil => simp [registerRoutes]
  | cons r routes ih =>
    have hstep : d.registerRoutes (r :: routes) =
        (d.registerRoute r.serviceId r.didOrRid r.downstream r.requiresUnlock).registerRoutes
          routes := rfl
    rw [hstep, ih]
    simp [registerRoute]

/-- A required unlock comes from an entry of the table. -/
theorem checkSecurityRequired_entry {d : ServiceDispatcher} {serviceId : UInt8} {didOrRid : UInt16}
    (h : d.checkSecurityRequired serviceId didOrRid = true) :
    ∃ entry ∈ d.routingTable, entry.serviceId = serviceId ∧ entry.didOrRid = didOrRid ∧
      entry.requiresUnlock = true := by
  unfold checkSecurityRequired at h
  split at h
  · cases h
  · rename_i entry hfind
    have hmatch := List.find?_some hfind
    rw [decide_eq_true_eq] at hmatch
    exact ⟨entry, List.mem_of_find?_eq_some hfind, hmatch.1, hmatch.2, h⟩

end ServiceDispatcher

/-- A downstream operation, or a read of PROV. -/
def Cmd.readsOrWrites : Cmd → Prop
  | .prov _ .readVin => True
  | c => c.downstream

/-- The dispatcher neither answers the request positively nor has anything read or written. -/
def Refused (d : ServiceDispatcher) (ms : Managers) (request : DiagRequest) : Prop :=
  ∀ tr lg response ms', Exec (d.dispatch ms request) tr lg (response, ms') →
    response.positive = false ∧ ∀ e ∈ tr, ¬ e.cmd.readsOrWrites

/-- The request reads one of the two DIDs, and there is a PROV to read them from. -/
def readsProv (prov : Option ProvHandle) (request : DiagRequest) : Prop :=
  request.serviceId = UdsService.readDataByIdentifier ∧ isProvDid request.didOrRid ∧ prov ≠ none

section
variable {d : ServiceDispatcher} {ms : Managers} {request : DiagRequest} {tr : Trace}
  {response : DiagResponse}

theorem ServiceDispatcher.WithSec.refused {sa : SecurityAccess}
    {K : SecHandle → Trace → DiagResponse → Prop} (h : d.WithSec sa K tr response)
    (hu : sa.unlocked UdsSecurityLevel.level1 = false) :
    response.positive = false ∧ ∀ e ∈ tr, ¬ e.cmd.readsOrWrites := by
  cases h with
  | locked _ => exact ⟨rfl, by simp⟩
  | noSec _ => exact ⟨rfl, by simp⟩
  | unavailable _ _ => exact ⟨rfl, by simp [Cmd.readsOrWrites, Cmd.downstream]⟩
  | ready hl _ _ _ =>
    rw [hu] at hl
    cases hl

/-- Without the unlock no routine gets past its checks. -/
theorem ServiceDispatcher.RoutineRun.refused (h : d.RoutineRun ms request tr response)
    (hu : ms.unlocked = false) :
    response.positive = false ∧ ∀ e ∈ tr, ¬ e.cmd.readsOrWrites := by
  cases h with
  | wrongSession _ _ => exact ⟨rfl, by simp⟩
  | generateKeyPair _ _ hw => exact hw.refused hu
  | readCsr _ _ hw => exact hw.refused hu
  | injectCertificate _ _ hw => exact hw.refused hu
  | locked _ _ => exact ⟨rfl, by simp⟩
  | noProv _ _ => exact ⟨rfl, by simp⟩
  | unavailable _ _ _ => exact ⟨rfl, by simp [Cmd.readsOrWrites, Cmd.downstream]⟩
  | writeVin hl _ _ _ _ =>
    rw [hu] at hl
    cases hl
  | outOfRange _ _ _ => exact ⟨rfl, by simp [Cmd.readsOrWrites, Cmd.downstream]⟩

theorem ServiceDispatcher.DidRead.refused (h : d.DidRead request tr response)
    (hs : request.serviceId = UdsService.readDataByIdentifier)
    (hn : ¬ readsProv d.prov request) :
    response.positive = false ∧ ∀ e ∈ tr, ¬ e.cmd.readsOrWrites := by
  cases h with
  | noProv _ => exact ⟨rfl, by simp⟩
  | unavailable _ _ => exact ⟨rfl, by simp [Cmd.readsOrWrites, Cmd.downstream]⟩
  | invalid hd hp _ _ => exact absurd ⟨hs, hd, by rw [hp]; simp⟩ hn
  | read hd hp _ _ => exact absurd ⟨hs, hd, by rw [hp]; simp⟩ hn
  | outOfRange _ => exact ⟨rfl, by simp⟩

/-- PROV is read whether level 1 is unlocked or not. -/
theorem not_refused (hr : readsProv d.prov request) : ¬ Refused d ms request := by
  obtain ⟨hs, hd, hp⟩ := hr
  intro hrefused
  have hplay : ∃ tr lg response ms', Exec (d.dispatch ms request) tr lg (response, ms') ∧
      Answers (obliging 0) tr := ⟨_, _, _, _, exec_run _ _, answers_run _ _⟩
  obtain ⟨tr, lg, response, ms', hx, ha⟩ := hplay
  obtain ⟨hneg, _⟩ := hrefused _ _ _ _ hx
  obtain ⟨hread, _⟩ := (hx.wp (d.dispatch_wp ms request)).of_read hs
  cases hread with
  | noProv hn => exact hp hn
  | unavailable _ hf =>
    obtain ⟨rfl, _⟩ := (answers_cons ..).mp ha
    cases hf
  | invalid _ _ _ hy =>
    simp only [answers_cons] at ha
    obtain ⟨_, rfl, _⟩ := ha
    cases hy
  | read _ _ _ _ => cases hneg
  | outOfRange hn => exact hn hd

end

/-! ## The exact condition -/

/-- With level 1 locked, a RoutineControl or ReadDataByIdentifier request the table protects is
refused. -/
def UnlockEnforced (d : ServiceDispatcher) (ms : Managers) (request : DiagRequest) : Prop :=
  request.serviceId = UdsService.routineControl ∨
      request.serviceId = UdsService.readDataByIdentifier →
    ms.unlocked = false → d.checkSecurityRequired request.serviceId request.didOrRid = true →
      Refused d ms request

/-- The table is enforced wherever it does not protect a DID that is read from PROV. -/
theorem unlockEnforced_of {d : ServiceDispatcher} {ms : Managers} {request : DiagRequest}
    (hn : ¬ (ms.unlocked = false ∧
      d.checkSecurityRequired request.serviceId request.didOrRid = true ∧
      readsProv d.prov request)) : UnlockEnforced d ms request := by
  intro hservice hlocked hrequired tr lg response ms' hx
  have hd := hx.wp (d.dispatch_wp ms request)
  cases hservice with
  | inl hs => exact (hd.of_routine hs).1.refused hlocked
  | inr hs =>
    refine (hd.of_read hs).1.refused hs ?_
    intro hr
    exact hn ⟨hlocked, hrequired, hr⟩

theorem unlock_enforced_iff (prov : Option ProvHandle) (sec : Option SecHandle)
    (sessionMgr securityAccess : Option Ref) (routes : List RoutingEntry) (ms : Managers)
    (request : DiagRequest) :
    let d := (create prov sec sessionMgr securityAccess).registerRoutes routes
    UnlockEnforced d ms request ↔
      ¬ (ms.unlocked = false ∧
        d.checkSecurityRequired request.serviceId request.didOrRid = true ∧
        readsProv prov request) := by
  intro d
  have hprov : d.prov = prov := by
    simp only [d, registerRoutes_eq, create]
  rw [← hprov]
  constructor
  · rintro henforced ⟨hlocked, hrequired, hr⟩
    exact not_refused hr (henforced (.inr hr.1) hlocked hrequired)
  · intro hn
    exact unlockEnforced_of hn

/-- A table that protects the VIN does not keep it from being read while level 1 is locked. -/
theorem protected_vin_read :
    ¬ UnlockEnforced
        ((create (some 0) (some 0) none none).registerRoutes [⟨0x22, 0xF190, "PROV", true⟩])
        ⟨{}, SecurityAccess.create (some 0)⟩ { serviceId := 0x22, didOrRid := 0xF190 } := by
  intro henforced
  have hr : readsProv (some 0) { serviceId := 0x22, didOrRid := 0xF190 } :=
    ⟨rfl, .inl rfl, by decide⟩
  exact not_refused hr (henforced (.inr rfl) rfl rfl)

/-- The table of the service protects no DID, so the handlers enforce it. -/
theorem default_routes_enforced (prov : Option ProvHandle) (sec : Option SecHandle)
    (sessionMgr securityAccess : Option Ref) (ms : Managers) (request : DiagRequest) :
    UnlockEnforced (DiagService.registerDefaultRoutes (create prov sec sessionMgr securityAccess))
      ms request := by
  refine unlockEnforced_of ?_
  rintro ⟨_, hrequired, hs, _⟩
  obtain ⟨entry, he, hservice, _, hflag⟩ := checkSecurityRequired_entry hrequired
  rw [hs] at hservice
  have hopen : ∀ e ∈ (DiagService.registerDefaultRoutes
      (create prov sec sessionMgr securityAccess)).routingTable,
      e.serviceId = UdsService.readDataByIdentifier → e.requiresUnlock = false := by
    simp [DiagService.registerDefaultRoutes, registerRoute, create, UdsService.routineControl,
      UdsService.readDataByIdentifier]
  rw [hopen entry he hservice] at hflag
  cases hflag

end Diag
end Tbox
