import TboxDiag.Outside

/-!
# SessionManager

The session manager: one session record, owned by the tester whose request opened it, kept alive
by that tester's TesterPresent and dropped to the default session by the S3 timeout.

Each operation comes with a relation that lists everything it can do (`Switched`, `Refreshed`,
`S3Checked`) and the theorem that it does nothing else. The mutex is not modelled: every caller
holds the mutex of the service.
-/

namespace Tbox
namespace Diag

open Effects

structure SessionManager where
  session : DiagSession := {}
  deriving DecidableEq, Repr

namespace SessionManager

/-- The constructor. -/
def create : M SessionManager := do
  let t ← now .sessionCreated
  pure { session := { lastTesterPresentAt := t } }

/-- Another tester than `source` holds a non-default session. -/
def occupied (m : SessionManager) (source : UInt16) : Prop :=
  m.session.state = .active ∧ m.session.sourceAddress ≠ source ∧ m.session.sessionType ≠ .default

instance (m : SessionManager) (source : UInt16) : Decidable (m.occupied source) :=
  inferInstanceAs (Decidable (_ ∧ _ ∧ _))

/-- The record after an accepted switch to `target`. -/
def switched (m : SessionManager) (target : SessionType) (source : UInt16)
    (transport : TransportType) (startedAt presentAt : Time) : SessionManager :=
  { m with session :=
    { m.session with
      sourceAddress := source
      sessionType := target
      state := .active
      transport := transport
      sessionStartedAt := startedAt
      lastTesterPresentAt := presentAt
      -- security is reset when switching to default
      securityUnlocked := if target = .default then false else m.session.securityUnlocked } }

def switchSession (m : SessionManager) (sessionType : UInt8) (sourceAddress : UInt16)
    (transport : TransportType) : M (DiagErrorCode × SessionManager) := do
  log .session .debug "diag.session.changed" "switch_session requested"
    [("requested_session", .string (hex2 sessionType)),
     ("current_session", .string (hex2 m.session.sessionType.code)),
     ("current_state", .string (hex2 m.session.state.code))]
  if m.occupied sourceAddress then
    pure (.sessionStateNotAllowed, m)
  else
    match SessionType.ofCode? sessionType with
    | none => pure (.invalidRequestFormat, m)
    | some target => do
      let startedAt ← now .sessionStarted
      let presentAt ← now .sessionPresent
      log .session .info "diag.session.changed" "Diagnostic session changed"
        [("previous_session", .string (sessionToString m.session.sessionType)),
         ("target_session", .string (sessionToString target))]
      pure (.success, m.switched target sourceAddress transport startedAt presentAt)

def handleTesterPresent (m : SessionManager) (sourceAddress : UInt16) :
    M (DiagErrorCode × SessionManager) :=
  if m.session.state ≠ .active then
    pure (.sessionStateNotAllowed, m)
  -- only the owning tester can send TesterPresent
  else if m.session.sourceAddress ≠ sourceAddress then
    pure (.sessionStateNotAllowed, m)
  else do
    let t ← now .testerPresent
    pure (.success, { m with session := { m.session with lastTesterPresentAt := t } })

def releaseSession (m : SessionManager) : SessionManager :=
  { m with session :=
    { m.session with
      sessionType := .default, state := .idle, securityUnlocked := false, sourceAddress := 0 } }

def isSessionActive (m : SessionManager) : Bool := m.session.state = .active

def isInNonDefaultSession (m : SessionManager) : Bool := m.session.sessionType ≠ .default

/-- The tester stays the owner. The reading is the one that sets `last_tester_present_at`. -/
def resetToDefault (m : SessionManager) : M SessionManager := do
  let t ← now .sessionPresent
  pure { m with session :=
    { m.session with
      sessionType := .default, state := .active, securityUnlocked := false,
      lastTesterPresentAt := t } }

/-- The record after an S3 timeout. -/
def timedOut (m : SessionManager) : SessionManager :=
  { m with session :=
    { m.session with sessionType := .default, state := .active, securityUnlocked := false } }

/-- More than the S3 limit, in whole milliseconds, has passed at `t`. -/
def s3Expired (m : SessionManager) (t : Time) : Prop :=
  Timing.s3Default < elapsedMs t m.session.lastTesterPresentAt

instance (m : SessionManager) (t : Time) : Decidable (m.s3Expired t) :=
  inferInstanceAs (Decidable (_ < _))

def checkS3Timeout (m : SessionManager) : M (Bool × SessionManager) :=
  if m.session.sessionType = .default then
    pure (false, m)
  else do
    let t ← now .s3Check
    if m.s3Expired t then do
      log .session .info "diag.session.timed_out" "S3 timeout, falling back to default session"
        [("previous_session", .string (sessionToString m.session.sessionType)),
         ("s3_ms", .int Timing.s3Default)]
      pure (true, m.timedOut)
    else
      pure (false, m)

/-! ## What the operations can do -/

inductive Switched (m : SessionManager) (sessionType : UInt8) (source : UInt16)
    (transport : TransportType) : Trace → DiagErrorCode → SessionManager → Prop where
  | occupied : m.occupied source →
      Switched m sessionType source transport [] .sessionStateNotAllowed m
  | invalid : ¬ m.occupied source → SessionType.ofCode? sessionType = none →
      Switched m sessionType source transport [] .invalidRequestFormat m
  | accepted {target : SessionType} {t₁ t₂ : Stamped Unit} : ¬ m.occupied source →
      SessionType.ofCode? sessionType = some target →
      Switched m sessionType source transport
        [⟨.now .sessionStarted, t₁⟩, ⟨.now .sessionPresent, t₂⟩] .success
        (m.switched target source transport t₁.time t₂.time)

theorem switchSession_wp (m : SessionManager) (sessionType : UInt8) (source : UInt16)
    (transport : TransportType) :
    wp (m.switchSession sessionType source transport) fun tr r =>
      Switched m sessionType source transport tr r.1 r.2 := by
  unfold switchSession
  simp only [wp_bind, wp_log, wp_ite, wp_pure, List.nil_append]
  refine ⟨?_, ?_⟩
  · intro ho
    exact .occupied ho
  · intro ho
    cases hs : SessionType.ofCode? sessionType with
    | none => exact .invalid ho hs
    | some target =>
      simp only [wp_bind, wp_now, wp_log, wp_pure]
      intro t₁ t₂
      exact .accepted ho hs

inductive Refreshed (m : SessionManager) (source : UInt16) :
    Trace → DiagErrorCode → SessionManager → Prop where
  | idle : m.session.state ≠ .active → Refreshed m source [] .sessionStateNotAllowed m
  | foreign : m.session.sourceAddress ≠ source → Refreshed m source [] .sessionStateNotAllowed m
  | accepted {t : Stamped Unit} : m.session.state = .active → m.session.sourceAddress = source →
      Refreshed m source [⟨.now .testerPresent, t⟩] .success
        { m with session := { m.session with lastTesterPresentAt := t.time } }

theorem handleTesterPresent_wp (m : SessionManager) (source : UInt16) :
    wp (m.handleTesterPresent source) fun tr r => Refreshed m source tr r.1 r.2 := by
  unfold handleTesterPresent
  simp only [wp_bind, wp_now, wp_ite, wp_pure]
  refine ⟨?_, ?_⟩
  · intro hs
    exact .idle hs
  · intro hs
    refine ⟨?_, ?_⟩
    · intro ha
      exact .foreign ha
    · intro ha t
      exact .accepted (not_not.mp hs) (not_not.mp ha)

inductive S3Checked (m : SessionManager) : Trace → Bool → SessionManager → Prop where
  | default : m.session.sessionType = .default → S3Checked m [] false m
  | live {t : Stamped Unit} : m.session.sessionType ≠ .default → ¬ m.s3Expired t.time →
      S3Checked m [⟨.now .s3Check, t⟩] false m
  | expired {t : Stamped Unit} : m.session.sessionType ≠ .default → m.s3Expired t.time →
      S3Checked m [⟨.now .s3Check, t⟩] true m.timedOut

theorem checkS3Timeout_wp (m : SessionManager) :
    wp m.checkS3Timeout fun tr r => S3Checked m tr r.1 r.2 := by
  unfold checkS3Timeout
  simp only [wp_bind, wp_now, wp_log, wp_ite, wp_pure, List.nil_append]
  refine ⟨?_, ?_⟩
  · intro hd
    exact .default hd
  · intro hd t
    refine ⟨?_, ?_⟩
    · intro he
      exact .expired hd he
    · intro he
      exact .live hd he

end SessionManager
end Diag
end Tbox
