import TboxDiag.SessionManager
import TboxDiag.Lib.Component
import TboxDiag.Lib.History
import TboxDiag.Lib.Lease

/-!
# SessionRuns

SessionManager on its own, under any sequence of its operations. To the testers a non-default
session is a lease (`Lib.Lease`): granted by an accepted switch, renewed by TesterPresent, examined
by the S3 check. `Ledger` keeps the lease, with the two things that outlive it: the address a
TesterPresent must come from, and whether one is taken at all. It is computed from what is seen of
the operations; `performs_ledger` says that the manager keeps nothing else that matters, and
`ledger_answers` that all it ever answers follows from it.
-/

namespace Tbox
namespace Diag

open Effects

/-! ## Operations -/

inductive SessionOp where
  | switchSession (sessionType : UInt8) (sourceAddress : UInt16) (transport : TransportType)
  | handleTesterPresent (sourceAddress : UInt16)
  | getSession
  | releaseSession
  | isSessionActive
  | isInNonDefaultSession
  | checkS3Timeout
  | resetToDefault
  deriving DecidableEq, Repr

inductive SessionResult where
  | none
  | code (c : DiagErrorCode)
  | flag (b : Bool)
  | session (x : DiagSession)
  deriving DecidableEq, Repr

def SessionManager.perform (m : SessionManager) : SessionOp → M (SessionResult × SessionManager)
  | .switchSession sessionType sourceAddress transport => do
    let (result, m) ← m.switchSession sessionType sourceAddress transport
    pure (.code result, m)
  | .handleTesterPresent sourceAddress => do
    let (result, m) ← m.handleTesterPresent sourceAddress
    pure (.code result, m)
  | .getSession => pure (.session m.session, m)
  | .releaseSession => pure (.none, m.releaseSession)
  | .isSessionActive => pure (.flag m.isSessionActive, m)
  | .isInNonDefaultSession => pure (.flag m.isInNonDefaultSession, m)
  | .checkS3Timeout => do
    let (expired, m) ← m.checkS3Timeout
    pure (.flag expired, m)
  | .resetToDefault => do
    let m ← m.resetToDefault
    pure (.none, m)

abbrev SessionStep := Observed outside SessionOp SessionResult

/-! ## The lease -/

abbrev SessionLease := Lease UInt16 SessionType
abbrev LeaseEvent := Lease.Event UInt16 SessionType

/-- More than the S3 limit, in whole milliseconds, after `since`. -/
def late (t since : Time) : Prop := Timing.s3Default < elapsedMs t since

instance : DecidableRel late := fun _ _ => inferInstanceAs (Decidable (_ < _))

def SessionManager.lease (m : SessionManager) : Option SessionLease :=
  if m.session.sessionType = .default then none
  else some ⟨m.session.sourceAddress, m.session.sessionType, m.session.lastTesterPresentAt⟩

/-- An accepted switch by `source`: to the default session, it gives the lease up. -/
def switchEvent (target : SessionType) (source : UInt16) (t : Time) : LeaseEvent :=
  if target = .default then .released source else .granted source target t

/-- What a reading of the clock says of the lease, when it is made for `source`, which asked for
`sessionType` if it asked for a session. -/
def leaseEvent (sessionType : UInt8) (source : UInt16) : Event outside → Option LeaseEvent
  | ⟨.now .s3Check, t⟩ => some (.examined t.time)
  | ⟨.now .testerPresent, t⟩ => some (.renewed source t.time)
  | ⟨.now .sessionPresent, t⟩ =>
    (SessionType.ofCode? sessionType).map fun target => switchEvent target source t.time
  | _ => none

theorem switchEvent_cause (target : SessionType) (source : UInt16) (t : Time) :
    (switchEvent target source t).cause = some source := by
  unfold switchEvent
  by_cases hd : target = .default
  · rw [if_pos hd]
    rfl
  · rw [if_neg hd]
    rfl

/-- The two readings of an accepted switch. -/
theorem switch_events {sessionType : UInt8} {target : SessionType} {source : UInt16}
    {t₁ t₂ : Stamped Unit} (h : SessionType.ofCode? sessionType = some target) :
    List.filterMap (leaseEvent sessionType source)
      [⟨.now .sessionStarted, t₁⟩, ⟨.now .sessionPresent, t₂⟩] =
        [switchEvent target source t₂.time] := by
  have hpresent : leaseEvent sessionType source ⟨.now .sessionPresent, t₂⟩ =
      some (switchEvent target source t₂.time) := congrArg (Option.map _) h
  rw [List.filterMap_cons_none rfl, List.filterMap_cons_some hpresent, List.filterMap_nil]

/-- The events `es` lead from the lease of `m` to that of `m'`, each in its turn. -/
structure Leased (m : SessionManager) (es : List LeaseEvent) (m' : SessionManager) : Prop where
  after : Lease.after late m.lease es = m'.lease
  orderly : Lease.Orderly late m.lease es

theorem Leased.refl (m : SessionManager) : Leased m [] m := ⟨rfl, trivial⟩

theorem Leased.trans {m m' m'' : SessionManager} {es es' : List LeaseEvent} (h : Leased m es m')
    (h' : Leased m' es' m'') : Leased m (es ++ es') m'' where
  after := by rw [Lease.after_append, h.after, h'.after]
  orderly := by
    refine Lease.orderly_append.mpr ⟨h.orderly, ?_⟩
    rw [h.after]
    exact h'.orderly

namespace SessionManager

variable {m m' : SessionManager} {tr : Trace} {sessionType : UInt8} {source : UInt16}
  {result : DiagErrorCode}

theorem lease_default (h : m.session.sessionType = .default) : m.lease = none := if_pos h

theorem lease_some (h : m.session.sessionType ≠ .default) :
    m.lease =
      some ⟨m.session.sourceAddress, m.session.sessionType, m.session.lastTesterPresentAt⟩ :=
  if_neg h

theorem lease_holder (m : SessionManager) {l : SessionLease} (h : l ∈ m.lease) :
    l.holder = m.session.sourceAddress := by
  by_cases hd : m.session.sessionType = .default
  · rw [lease_default hd] at h
    cases h
  · rw [lease_some hd] at h
    cases h
    rfl

/-- A switch is refused for its sender exactly when somebody else has the lease. -/
theorem occupied_iff (hactive : m.session.sessionType ≠ .default → m.session.state = .active) :
    m.occupied source ↔ ∃ l ∈ m.lease, l.holder ≠ source := by
  by_cases hd : m.session.sessionType = .default
  · simp [occupied, lease_default hd, hd]
  · simp [occupied, lease_some hd, hd, hactive hd]

theorem S3Checked.leased {b : Bool} (h : m.S3Checked tr b m') (sessionType : UInt8)
    (source : UInt16) : Leased m (tr.filterMap (leaseEvent sessionType source)) m' := by
  cases h with
  | default _ => exact .refl m
  | @live t hd he =>
    refine ⟨?_, ?_⟩
    · rw [lease_some hd]
      exact if_neg he
    · simp [Lease.Orderly, Lease.Admits, Lease.Event.cause, leaseEvent]
  | @expired t hd he =>
    refine ⟨?_, ?_⟩
    · rw [lease_some hd, lease_default (m := m.timedOut) rfl]
      exact if_pos he
    · simp [Lease.Orderly, Lease.Admits, Lease.Event.cause, leaseEvent]

theorem Refreshed.leased (h : m.Refreshed source tr result m') (sessionType : UInt8) :
    Leased m (tr.filterMap (leaseEvent sessionType source)) m' := by
  cases h with
  | idle _ => exact .refl m
  | foreign _ => exact .refl m
  | @accepted t _ hs =>
    by_cases hd : m.session.sessionType = .default
    · refine ⟨?_, ?_⟩
      · simp [leaseEvent, lease, hd, Lease.next]
      · simp [Lease.Orderly, lease_default hd, leaseEvent]
    · refine ⟨?_, ?_⟩
      · simp [leaseEvent, lease, hd, Lease.next]
      · simp [Lease.Orderly, Lease.Admits, Lease.Event.cause, lease_some hd, leaseEvent, hs]

theorem Switched.leased {transport : TransportType}
    (hactive : m.session.sessionType ≠ .default → m.session.state = .active)
    (h : m.Switched sessionType source transport tr result m') :
    Leased m (tr.filterMap (leaseEvent sessionType source)) m' := by
  cases h with
  | occupied _ => exact .refl m
  | invalid _ _ => exact .refl m
  | @accepted target t₁ t₂ ho ht =>
    rw [switch_events ht]
    refine ⟨?_, ?_, trivial⟩
    · by_cases hd : target = .default
      · simp [switchEvent, hd, Lease.next, lease, switched]
      · simp [switchEvent, hd, Lease.next, lease, switched]
    · intro l hl a ha
      rw [switchEvent_cause, Option.mem_some_iff] at ha
      by_contra hne
      refine ho ((occupied_iff hactive).mpr ⟨l, hl, ?_⟩)
      exact fun heq => hne (ha.symm.trans heq.symm)

end SessionManager

/-! ## The ledger -/

@[ext] structure Ledger where
  lease : Option SessionLease := none
  /-- Where a TesterPresent must come from. -/
  owner : UInt16 := 0
  /-- Whether one is taken. -/
  active : Bool := false
  deriving DecidableEq, Repr

def SessionManager.ledger (m : SessionManager) : Ledger :=
  ⟨m.lease, m.session.sourceAddress, m.isSessionActive⟩

def sessionEvents (l : SessionStep) : List LeaseEvent :=
  match l.op with
  | .switchSession sessionType source _ => l.trace.filterMap (leaseEvent sessionType source)
  | .handleTesterPresent source => l.trace.filterMap (leaseEvent 0 source)
  | .checkS3Timeout => l.trace.filterMap (leaseEvent 0 0)
  | .releaseSession | .resetToDefault => [.ended]
  | .getSession | .isSessionActive | .isInNonDefaultSession => []

namespace Ledger

def record (g : Ledger) (l : SessionStep) : Ledger where
  lease := Lease.after late g.lease (sessionEvents l)
  owner := match l.op, l.result with
    | .switchSession _ source _, .code .success => source
    | .releaseSession, _ => 0
    | _, _ => g.owner
  active := match l.op, l.result with
    | .switchSession _ _ _, .code .success => true
    | .releaseSession, _ => false
    | .resetToDefault, _ => true
    | _, _ => g.active

/-- The ledger of a history. -/
def after (ls : List SessionStep) : Ledger := ls.foldl record {}

theorem after_snoc (ls : List SessionStep) (l : SessionStep) :
    after (ls ++ [l]) = (after ls).record l := by simp [after]

theorem after_events (ls : List SessionStep) :
    Lease.after late none (ls.flatMap sessionEvents) = (after ls).lease := by
  induction ls using List.reverseRecOn with
  | nil => rfl
  | append_singleton ls l ih =>
    rw [List.flatMap_append, List.flatMap_singleton, Lease.after_append, ih, after_snoc]
    rfl

/-- The tester `source` would be refused a session: somebody else has it. -/
def taken (g : Ledger) (source : UInt16) : Prop := ∃ l ∈ g.lease, l.holder ≠ source

instance (g : Ledger) (source : UInt16) : Decidable (g.taken source) :=
  inferInstanceAs (Decidable (∃ l ∈ g.lease, _))

/-- What the answer to an operation must be, going by the ledger. -/
def Answers (g : Ledger) (l : SessionStep) : Prop :=
  match l.op with
  | .switchSession sessionType source _ => l.result = .code
      (if g.taken source then .sessionStateNotAllowed
        else if SessionType.ofCode? sessionType = none then .invalidRequestFormat else .success)
  | .handleTesterPresent source => l.result = .code
      (if g.active = true ∧ g.owner = source then .success else .sessionStateNotAllowed)
  | .getSession => ∃ x, l.result = .session x ∧ SessionManager.ledger ⟨x⟩ = g
  | .isSessionActive => l.result = .flag g.active
  | .isInNonDefaultSession => l.result = .flag g.lease.isSome
  -- whether the lease was there, and has expired
  | .checkS3Timeout => l.result = .flag (g.lease.isSome && (g.record l).lease.isNone)
  | .releaseSession | .resetToDefault => l.result = .none

end Ledger

/-- What the constructor establishes and every operation keeps. -/
structure SessionManager.WellFormed (m : SessionManager) : Prop where
  active : m.session.sessionType ≠ .default → m.session.state = .active
  state : m.session.state = .idle ∨ m.session.state = .active
  locked : m.session.securityUnlocked = false

/-- One operation, by the ledger. -/
structure Recorded (m : SessionManager) (l : SessionStep) (m' : SessionManager) : Prop where
  wellFormed : m'.WellFormed
  ledger : m'.ledger = m.ledger.record l
  orderly : Lease.Orderly late m.lease (sessionEvents l)
  answers : m.ledger.Answers l

namespace SessionManager

variable {m m' : SessionManager} {tr : Trace} {sessionType : UInt8} {source : UInt16}
  {result : DiagErrorCode}

theorem occupied_taken (h : m.WellFormed) : m.occupied source ↔ m.ledger.taken source :=
  occupied_iff h.active

theorem isSessionActive_iff : m.isSessionActive = true ↔ m.session.state = .active := by
  simp [isSessionActive]

theorem isInNonDefaultSession_eq (m : SessionManager) :
    m.isInNonDefaultSession = m.lease.isSome := by
  by_cases hd : m.session.sessionType = .default
  · simp [isInNonDefaultSession, lease, hd]
  · simp [isInNonDefaultSession, lease, hd]

/-- A switch, by what it answers. -/
theorem Switched.recorded {transport : TransportType} (hw : m.WellFormed)
    (h : m.Switched sessionType source transport tr result m') :
    Recorded m ⟨.switchSession sessionType source transport, tr, .code result⟩ m' := by
  have hleased := h.leased hw.active
  have hlease : m'.lease = (m.ledger.record
      ⟨.switchSession sessionType source transport, tr, .code result⟩).lease := hleased.after.symm
  have hanswers (code : DiagErrorCode)
      (hcode : (if m.ledger.taken source then .sessionStateNotAllowed
        else if SessionType.ofCode? sessionType = none then .invalidRequestFormat else .success) =
          code) :
      m.ledger.Answers ⟨.switchSession sessionType source transport, tr, .code code⟩ :=
    congrArg SessionResult.code hcode.symm
  cases h with
  | occupied ho =>
    refine ⟨hw, Ledger.ext hlease rfl rfl, hleased.orderly, hanswers _ ?_⟩
    rw [if_pos ((occupied_taken hw).mp ho)]
  | invalid ho ht =>
    refine ⟨hw, Ledger.ext hlease rfl rfl, hleased.orderly, hanswers _ ?_⟩
    rw [if_neg (mt (occupied_taken hw).mpr ho), if_pos ht]
  | @accepted target t₁ t₂ ho ht =>
    refine ⟨⟨fun _ => rfl, .inr rfl, ?_⟩, Ledger.ext hlease rfl rfl, hleased.orderly,
      hanswers _ ?_⟩
    · by_cases hd : target = .default
      · simp [switched, hd]
      · simp [switched, hd, hw.locked]
    · rw [if_neg (mt (occupied_taken hw).mpr ho), if_neg (by simp [ht])]

theorem Refreshed.recorded (hw : m.WellFormed) (h : m.Refreshed source tr result m') :
    Recorded m ⟨.handleTesterPresent source, tr, .code result⟩ m' := by
  have hleased := h.leased 0
  have hlease : m'.lease =
      (m.ledger.record ⟨.handleTesterPresent source, tr, .code result⟩).lease :=
    hleased.after.symm
  have hactive : m.ledger.active = true ↔ m.session.state = .active := isSessionActive_iff
  cases h with
  | idle hs =>
    refine ⟨hw, Ledger.ext hlease rfl rfl, hleased.orderly, congrArg SessionResult.code ?_⟩
    rw [if_neg fun hg => hs (hactive.mp hg.1)]
  | foreign hs =>
    refine ⟨hw, Ledger.ext hlease rfl rfl, hleased.orderly, congrArg SessionResult.code ?_⟩
    rw [if_neg fun hg => hs hg.2]
  | accepted ha hs =>
    refine ⟨⟨hw.active, hw.state, hw.locked⟩, Ledger.ext hlease rfl rfl, hleased.orderly,
      congrArg SessionResult.code ?_⟩
    rw [if_pos ⟨hactive.mpr ha, hs⟩]

theorem S3Checked.recorded {b : Bool} (hw : m.WellFormed) (h : m.S3Checked tr b m') :
    Recorded m ⟨.checkS3Timeout, tr, .flag b⟩ m' := by
  have hleased := h.leased 0 0
  have hlease : m'.lease = (m.ledger.record ⟨.checkS3Timeout, tr, .flag b⟩).lease :=
    hleased.after.symm
  have hanswers : b = (m.lease.isSome && m'.lease.isNone) →
      m.ledger.Answers ⟨.checkS3Timeout, tr, .flag b⟩ := by
    intro hb
    have hr : (SessionResult.flag b) = .flag (m.lease.isSome && m'.lease.isNone) :=
      congrArg SessionResult.flag hb
    rw [hlease] at hr
    exact hr
  cases h with
  | default hd =>
    refine ⟨hw, Ledger.ext hlease rfl rfl, hleased.orderly, hanswers ?_⟩
    rw [lease_default hd]
    rfl
  | live hd _ =>
    refine ⟨hw, Ledger.ext hlease rfl rfl, hleased.orderly, hanswers ?_⟩
    rw [lease_some hd]
    rfl
  | expired hd _ =>
    refine ⟨⟨fun _ => rfl, .inr rfl, rfl⟩, Ledger.ext hlease rfl ?_, hleased.orderly,
      hanswers ?_⟩
    · simp [ledger, isSessionActive, timedOut, Ledger.record, hw.active hd]
    · rw [lease_some hd, lease_default (m := m.timedOut) rfl]
      rfl

end SessionManager

/-- Every operation does what the ledger says, and the ledger keeps up with it. -/
theorem performs_recorded {m m' : SessionManager} {l : SessionStep} (hw : m.WellFormed)
    (h : Performs SessionManager.perform m l m') : Recorded m l m' := by
  obtain ⟨op, tr, result⟩ := l
  refine h.wp (Q := fun tr result m' => Recorded m ⟨op, tr, result⟩ m') ?_
  cases op with
  | switchSession sessionType source transport =>
    simp only [SessionManager.perform, wp_bind, wp_pure, List.append_nil]
    exact wp_mono (m.switchSession_wp sessionType source transport) fun _ _ hs => hs.recorded hw
  | handleTesterPresent source =>
    simp only [SessionManager.perform, wp_bind, wp_pure, List.append_nil]
    exact wp_mono (m.handleTesterPresent_wp source) fun _ _ hs => hs.recorded hw
  | checkS3Timeout =>
    simp only [SessionManager.perform, wp_bind, wp_pure, List.append_nil]
    exact wp_mono m.checkS3Timeout_wp fun _ _ hs => hs.recorded hw
  | getSession => exact ⟨hw, rfl, trivial, m.session, rfl, rfl⟩
  | isSessionActive => exact ⟨hw, rfl, trivial, rfl⟩
  | isInNonDefaultSession =>
    exact ⟨hw, rfl, trivial, congrArg SessionResult.flag m.isInNonDefaultSession_eq⟩
  | releaseSession =>
    exact ⟨⟨fun hne => absurd rfl hne, .inl rfl, rfl⟩, rfl,
      ⟨by simp [Lease.Admits, Lease.Event.cause], trivial⟩, rfl⟩
  | resetToDefault =>
    simp only [SessionManager.perform, SessionManager.resetToDefault, wp_bind, wp_now, wp_pure,
      List.append_nil]
    intro t
    exact ⟨⟨fun _ => rfl, .inr rfl, rfl⟩, rfl,
      ⟨by simp [Lease.Admits, Lease.Event.cause], trivial⟩, rfl⟩

theorem create_wellFormed :
    wp SessionManager.create fun _ m => m.WellFormed ∧ m.ledger = {} := by
  unfold SessionManager.create
  simp only [wp_bind, wp_now, wp_pure]
  intro t
  exact ⟨⟨fun hne => absurd rfl hne, .inl rfl, rfl⟩, rfl⟩

theorem run_ledger {m₀ m : SessionManager} {ls : List SessionStep}
    (hr : Run (Performs SessionManager.perform) m₀ ls m) (hw : m₀.WellFormed)
    (hg : m₀.ledger = {}) :
    m.WellFormed ∧ m.ledger = Ledger.after ls ∧
      Lease.Orderly late none (ls.flatMap sessionEvents) := by
  refine hr.history (fun ls m => m.WellFormed ∧ m.ledger = Ledger.after ls ∧
    Lease.Orderly late none (ls.flatMap sessionEvents)) ⟨hw, hg, trivial⟩ ?_
  rintro ls m l m' ⟨hw, hg, ho⟩ hs
  have hrec := performs_recorded hw hs
  refine ⟨hrec.wellFormed, ?_, ?_⟩
  · rw [hrec.ledger, hg, Ledger.after_snoc]
  · rw [List.flatMap_append, List.flatMap_singleton, Lease.orderly_append]
    refine ⟨ho, ?_⟩
    rw [Ledger.after_events, ← hg]
    exact hrec.orderly

/-- Whatever is asked of a session manager, in any order: each answer is the one the ledger of what
was seen before gives, and a lease changes hands only once it is free. -/
theorem ledger_answers {tr : Trace} {lg : List LogRecord} {m₀ m : SessionManager}
    {ls : List SessionStep} (hc : Exec SessionManager.create tr lg m₀)
    (hr : Run (Performs SessionManager.perform) m₀ ls m) :
    Lease.Orderly late none (ls.flatMap sessionEvents) ∧
      ∀ pre l post, ls = pre ++ l :: post → (Ledger.after pre).Answers l := by
  obtain ⟨hw, hg⟩ := hc.wp create_wellFormed
  refine ⟨(run_ledger hr hw hg).2.2, ?_⟩
  rintro pre l post rfl
  obtain ⟨t, t', hpre, hl, -⟩ := hr.at_label
  obtain ⟨hwt, hgt, -⟩ := run_ledger hpre hw hg
  rw [← hgt]
  exact (performs_recorded hwt hl).answers

/-- Tester 2 is turned away, and has the session once that of tester 1 has expired. -/
def handoverScript : List (SessionOp × Oracle) :=
  [(.switchSession 0x03 1 .doip, obliging 0), (.switchSession 0x03 2 .doip, obliging 0),
   (.checkS3Timeout, obliging (millis 5001)), (.switchSession 0x03 2 .doip, obliging (millis 5001)),
   (.handleTesterPresent 1, obliging (millis 5001))]

theorem ledger_answers_handover :
    let r := performAll SessionManager.perform {} handoverScript
    Lease.Orderly late none (r.1.flatMap sessionEvents) ∧
      ∀ pre l post, r.1 = pre ++ l :: post → (Ledger.after pre).Answers l := by
  intro r
  have hc : Exec SessionManager.create [⟨.now .sessionCreated, ⟨0, ()⟩⟩] [] {} :=
    .call .pure
  exact ledger_answers hc (performAll_run SessionManager.perform {} handoverScript)

end Diag
end Tbox
