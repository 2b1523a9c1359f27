import TboxDiag.Exclusion

/-!
# ControlType

The control type of RoutineControl: 0x01 starts a routine, 0x02 stops it, 0x03 asks for its
results. `handleRoutineControl` echoes the sub-function and never looks at it, so every control
type starts the routine. `only_start_iff` says exactly when a request with another one does
nothing: when it is not admitted, whatever it asks for.
-/

namespace Tbox
namespace Diag

open Effects ServiceDispatcher

/-- startRoutine. -/
abbrev startRoutine : UInt8 := 0x01

/-- The calls that carry a routine out. Reading the CSR is the one that changes nothing. -/
def Cmd.executes : Cmd → Prop
  | .prov _ (.writeVin _ _) => True
  | .sec _ .generateKeyPair => True
  | .sec _ (.injectCertificate _) => True
  | _ => False

/-- Nothing was carried out, and the response says so. -/
def Inert (tr : Trace) (response : DiagResponse) : Prop :=
  (¬ ∃ e ∈ tr, e.cmd.executes) ∧ response.positive = false

theorem Cmd.executes.downstream {c : Cmd} (h : c.executes) : c.downstream := by
  cases c with
  | sec h' c =>
    cases c with
    | generateKeyPair | injectCertificate _ => trivial
    | _ => cases h
  | prov h' c =>
    cases c with
    | writeVin _ _ => trivial
    | _ => cases h
  | _ => cases h

/-! ## What is admitted -/

/-- The session type a request finds: the S3 check comes before it. -/
def typeFound (o : Oracle) (session : DiagSession) : SessionType :=
  if session.sessionType ≠ .default ∧
      Timing.s3Default < elapsedMs (o (.now .s3Check)).time session.lastTesterPresentAt then
    .default
  else
    session.sessionType

/-- The service carries the routine out, or reads the CSR, whatever its control type: level 1 is
unlocked, and the routine has what it needs. -/
def admits (o : Oracle) (d : ServiceDispatcher) (st : SecurityAccessState)
    (sessionType : SessionType) (request : DiagRequest) : Prop :=
  st.unlocked = true ∧
  (request.didOrRid = Rid.writeVinRoutine ∧ provReady o d.prov ∧
      vinLength ≤ request.payload.length ∨
    sessionType = .programming ∧ ∃ h, d.sec = some h ∧ (o (.sec h .isAvailable)).reply = true ∧
      (request.didOrRid = Rid.generateKeyPair ∨
        request.didOrRid = Rid.readCsr ∧ (o (.sec h .getCsr)).reply.1 = true ∨
        request.didOrRid = Rid.injectCertificate ∧ request.payload ≠ []))

section
variable {o : Oracle} {d : ServiceDispatcher} {ms : Managers} {request : DiagRequest} {tr : Trace}
  {response : DiagResponse}

theorem SessionManager.S3Checked.typeFound {m m' : SessionManager} {b : Bool}
    (h : m.S3Checked tr b m') (ha : Answers o tr) :
    m'.session.sessionType = typeFound o m.session := by
  unfold Diag.typeFound
  cases h with
  | default hd => simp [hd]
  | live hn hlive =>
    obtain ⟨rfl, _⟩ := (answers_cons ..).mp ha
    rw [if_neg]
    rintro ⟨_, hexp⟩
    exact hlive hexp
  | expired hn hexp =>
    obtain ⟨rfl, _⟩ := (answers_cons ..).mp ha
    rw [if_pos ⟨hn, hexp⟩]
    rfl

@[simp] theorem routineRefused_positive (nrc : UInt8) (code : DiagErrorCode) :
    (routineRefused nrc code).positive = false := rfl
@[simp] theorem routineDone_positive (request : DiagRequest) (data : Bytes) :
    (routineDone request data).positive = true := rfl
@[simp] theorem createNegativeResponse_positive (serviceId nrc : UInt8) (code : String) :
    (createNegativeResponse serviceId nrc code).positive = false := rfl

@[simp] theorem inert_nil : Inert [] response ↔ response.positive = false := by simp [Inert]

theorem inert_refused {nrc : UInt8} {code : DiagErrorCode} : Inert [] (routineRefused nrc code) :=
  inert_nil.mpr rfl

theorem inert_cons {e : Event outside} (h : ¬ e.cmd.executes) :
    Inert (e :: tr) response ↔ Inert tr response := by
  rw [Inert, Inert, List.exists_mem_cons_iff, or_iff_right h]

theorem not_inert {e : Event outside} (h : e.cmd.executes) : ¬ Inert (e :: tr) response := by
  intro hi
  exact hi.1 ⟨e, by simp, h⟩

/-- A certificate routine does nothing unless it gets past its checks and `P` holds. -/
theorem ServiceDispatcher.WithSec.inert_iff {sa : SecurityAccess}
    {K : SecHandle → Trace → DiagResponse → Prop} {P : SecHandle → Prop}
    (h : d.WithSec sa K tr response) (ha : Answers o tr)
    (hK : ∀ h tr response, Answers o tr → K h tr response → (Inert tr response ↔ ¬ P h)) :
    Inert tr response ↔ ¬ (sa.unlocked UdsSecurityLevel.level1 = true ∧
      ∃ h, d.sec = some h ∧ (o (.sec h .isAvailable)).reply = true ∧ P h) := by
  cases h with
  | locked hu => simp [hu]
  | noSec hs => simp [hs]
  | unavailable hs hx =>
    obtain ⟨rfl, _⟩ := (answers_cons ..).mp ha
    rw [inert_cons id]
    simp [hs, hx]
  | ready hu hs hx hk =>
    obtain ⟨rfl, hans⟩ := (answers_cons ..).mp ha
    rw [inert_cons id, hK _ _ _ hans hk]
    simp [hu, hs, hx]

theorem ServiceDispatcher.KeyPairRun.inert_iff {h : SecHandle}
    (hk : KeyPairRun request h tr response) : Inert tr response ↔ ¬ True := by
  cases hk with
  | failed _ => exact iff_of_false (not_inert trivial) (not_not.mpr trivial)
  | done _ => exact iff_of_false (not_inert trivial) (not_not.mpr trivial)

theorem ServiceDispatcher.CsrRun.inert_iff {h : SecHandle} (hk : CsrRun request h tr response)
    (ha : Answers o tr) : Inert tr response ↔ ¬ (o (.sec h .getCsr)).reply.1 = true := by
  cases hk with
  | failed hy =>
    obtain ⟨rfl, _⟩ := (answers_cons ..).mp ha
    rw [inert_cons id, hy]
    simp
  | done hy =>
    obtain ⟨rfl, _⟩ := (answers_cons ..).mp ha
    rw [hy]
    simp [Inert]

theorem ServiceDispatcher.InjectionRun.inert_iff {h : SecHandle}
    (hk : InjectionRun request h tr response) : Inert tr response ↔ ¬ request.payload ≠ [] := by
  cases hk with
  | empty he => exact iff_of_true inert_refused (not_not.mpr he)
  | failed he _ => exact iff_of_false (not_inert trivial) (not_not.mpr he)
  | done he _ => exact iff_of_false (not_inert trivial) (not_not.mpr he)

theorem ServiceDispatcher.VinRun.inert_iff {h : ProvHandle} (hv : VinRun request h tr response) :
    Inert tr response ↔ ¬ vinLength ≤ request.payload.length := by
  cases hv with
  | short hl => exact iff_of_true inert_refused (Nat.not_le.mpr hl)
  | failed hl _ => exact iff_of_false (not_inert trivial) (not_not.mpr hl)
  | done hl _ => exact iff_of_false (not_inert trivial) (not_not.mpr hl)

/-- The control type does not come into it. -/
theorem ServiceDispatcher.RoutineRun.inert_iff (h : d.RoutineRun ms request tr response)
    (ha : Answers o tr) :
    Inert tr response ↔
      ¬ admits o d (ms.securityAccess.entry 1) ms.sessionMgr.session.sessionType request := by
  have hu : ms.unlocked = (ms.securityAccess.entry 1).unlocked := rfl
  have hl1 : ms.securityAccess.unlocked UdsSecurityLevel.level1 =
    (ms.securityAccess.entry 1).unlocked := rfl
  unfold admits
  cases h with
  | wrongSession hc hs =>
    have hv : request.didOrRid ≠ Rid.writeVinRoutine := by
      intro hv
      rw [hv] at hc
      exact absurd hc (by decide)
    simp [hv, hs]
  | generateKeyPair hs hr hw =>
    rw [hw.inert_iff ha fun _ _ _ _ hk => hk.inert_iff, hl1]
    have hv : Rid.generateKeyPair ≠ Rid.writeVinRoutine := by decide
    simp [hs, hr, hv]
  | readCsr hs hr hw =>
    rw [hw.inert_iff ha fun _ _ _ ha hk => hk.inert_iff ha, hl1]
    have hv : Rid.readCsr ≠ Rid.writeVinRoutine ∧ Rid.readCsr ≠ Rid.generateKeyPair ∧
        Rid.readCsr ≠ Rid.injectCertificate := by decide
    simp [hs, hr, hv]
  | injectCertificate hs hr hw =>
    rw [hw.inert_iff ha fun _ _ _ _ hk => hk.inert_iff, hl1]
    have hv : Rid.injectCertificate ≠ Rid.writeVinRoutine ∧
        Rid.injectCertificate ≠ Rid.generateKeyPair ∧ Rid.injectCertificate ≠ Rid.readCsr := by
      decide
    simp [hs, hr, hv]
  | locked _ hl =>
    rw [hu] at hl
    simp [hl]
  | noProv hc hp =>
    obtain ⟨h1, h2, h3⟩ := not_certificateRid hc
    simp [h1, h2, h3, provReady, hp]
  | unavailable hc hp hx =>
    obtain ⟨rfl, _⟩ := (answers_cons ..).mp ha
    obtain ⟨h1, h2, h3⟩ := not_certificateRid hc
    rw [inert_cons id]
    simp [h1, h2, h3, provReady, hp, hx]
  | writeVin hun hp hx hr hv =>
    obtain ⟨rfl, _⟩ := (answers_cons ..).mp ha
    rw [inert_cons id, hv.inert_iff]
    have hready : provReady o d.prov := ⟨_, hp, hx⟩
    have hc : ¬ isCertificateRid Rid.writeVinRoutine := by decide
    obtain ⟨h1, h2, h3⟩ := not_certificateRid hc
    rw [hu] at hun
    simp [hun, hr, hready, h1, h2, h3]
  | outOfRange hc _ hv =>
    obtain ⟨h1, h2, h3⟩ := not_certificateRid hc
    rw [inert_cons id]
    simp [h1, h2, h3, hv]

end

/-! ## The exact condition -/

/-- Only startRoutine gets a routine carried out. -/
def OnlyStart (l : DiagService.Step) (x : DiagService.Exchange) : Prop :=
  x.request.serviceId = UdsService.routineControl → x.request.basicSubFunction ≠ startRoutine →
    Inert l.trace x.response

theorem only_start_iff {s s' : DiagService} {d : ServiceDispatcher} {l : DiagService.Step}
    {x : DiagService.Exchange} {o : Oracle} (hs : DiagService.Reachable s)
    (hi : s.initialized = true) (hd : s.dispatcher = some d) (h : DiagService.Does s l s')
    (hx : l.exchange = some x) (ho : Heeds o l.trace) :
    OnlyStart l x ↔
      ¬ (x.request.serviceId = UdsService.routineControl ∧
        x.request.basicSubFunction ≠ startRoutine ∧
        admits o d (s.securityState 1) (typeFound o s.getCurrentSession) x.request) := by
  obtain ⟨ls, hrun, _⟩ := hs
  obtain ⟨v, _, hserves⟩ := reach_serves hrun hi
  obtain rfl := hserves.dispatcher_eq hd
  obtain ⟨o', hstep, _⟩ := does_acts (o := some v) hserves h
  rw [hserves.getCurrentSession, hserves.securityState]
  cases hstep with
  | @serve _ _ request response _ m ms tr₀ tr₁ tr₂ tr₃ _ hm hq₁ hdis hq₃ =>
    cases hx
    obtain ⟨hans₀, hans₂⟩ := ho.served hm hdis
    have hcalls : Inert (tr₀ ++ (tr₁ ++ (tr₂ ++ tr₃))) response ↔ Inert tr₂ response := by
      rw [Inert, Inert,
        downstream_within (fun _ hc => hc.downstream) hm.ticks.plain hq₁.plain hq₃.plain]
    have key : request.serviceId = UdsService.routineControl →
        (Inert tr₂ response ↔ ¬ admits o v.dispatcher (v.managers.securityAccess.entry 1)
          (typeFound o v.managers.sessionMgr.session) request) := by
      intro hrc
      rw [← hm.typeFound hans₀]
      exact (hdis.of_routine hrc).1.inert_iff hans₂
    unfold OnlyStart
    rw [hcalls]
    constructor
    · rintro honly ⟨hrc, hct, hadm⟩
      exact (key hrc).mp (honly hrc hct) hadm
    · intro hn hrc hct
      refine (key hrc).mpr ?_
      intro hadm
      exact hn ⟨hrc, hct, hadm⟩
  | _ => cases hx

/-- stopRoutine of the VIN routine. -/
def stopWriteVinOp : DiagService.Op :=
  .processRequest
    { serviceId := 0x31, subFunction := 0x02, didOrRid := 0xFF00,
      payload := List.replicate 17 0x41, sourceAddress := 1 }

theorem only_start_iff_stop :
    let r := ownedService.playOne stopWriteVinOp (obliging 0)
    ∃ d x, ownedService.dispatcher = some d ∧ r.1.exchange = some x ∧ (OnlyStart r.1 x ↔
      ¬ (x.request.serviceId = UdsService.routineControl ∧
        x.request.basicSubFunction ≠ startRoutine ∧
        admits (obliging 0) d (ownedService.securityState 1)
          (typeFound (obliging 0) ownedService.getCurrentSession) x.request)) := by
  intro r
  refine ⟨_, _, rfl, rfl, ?_⟩
  refine only_start_iff ownedService_reachable rfl rfl
    (ownedService.playOne_does stopWriteVinOp (obliging 0)) rfl ?_
  intro e he _
  exact ownedService.playOne_answers stopWriteVinOp (obliging 0) e he

/-- The owner of an unlocked session stops the VIN routine, and PROV writes a VIN. -/
theorem stop_writes_vin :
    let r := ownedService.playOne stopWriteVinOp (obliging 0)
    ownedService.Reachable ∧ ownedService.initialized = true ∧
      DiagService.Does ownedService r.1 r.2 ∧ ∃ x, r.1.exchange = some x ∧ ¬ OnlyStart r.1 x := by
  intro r
  refine ⟨ownedService_reachable, rfl,
    ownedService.playOne_does stopWriteVinOp (obliging 0), _, rfl, ?_⟩
  intro honly
  exact (honly rfl (by decide)).1 ⟨_, List.mem_of_getElem? (i := 2) rfl, trivial⟩

end Diag
end Tbox
