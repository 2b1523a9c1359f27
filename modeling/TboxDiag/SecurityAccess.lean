import TboxDiag.Outside
import Mathlib.Logic.Function.Basic

/-!
# SecurityAccess

Seed and key: the per-level state of the SecurityAccess service, the calls to SEC that issue a
seed and verify a key, and the lockout after too many rejected keys. States are kept under the
requestSeed level, which is odd; the sendKey level is one more.

`SeedRequested` and `KeySent` list what `requestSeed` and `sendKey` can do.
-/

namespace Tbox
namespace Diag

open Effects

/-- `states` is the `std::map` of the source, as the function from level to entry. -/
structure SecurityAccess where
  sec : Option SecHandle
  states : UInt8 → Option SecurityAccessState

namespace SecurityAccess

/-- The constructor. -/
def create (sec : Option SecHandle) : SecurityAccess := { sec, states := fun _ => none }

/-- `states_[level]` as a value: the entry, or a default one where there is none. -/
def entry (sa : SecurityAccess) (level : UInt8) : SecurityAccessState :=
  (sa.states level).getD {}

def setEntry (sa : SecurityAccess) (level : UInt8) (st : SecurityAccessState) : SecurityAccess :=
  { sa with states := Function.update sa.states level (some st) }

@[simp] theorem setEntry_entry (sa : SecurityAccess) (level : UInt8) (st : SecurityAccessState) :
    (sa.setEntry level st).entry level = st := by
  simp [entry, setEntry]

theorem setEntry_entry_ne (sa : SecurityAccess) {level level' : UInt8} (h : level' ≠ level)
    (st : SecurityAccessState) : (sa.setEntry level st).entry level' = sa.entry level' := by
  simp [entry, setEntry, Function.update_of_ne h]

/-- Creating a default entry changes no value. -/
@[simp] theorem setEntry_self (sa : SecurityAccess) (level level' : UInt8) :
    (sa.setEntry level (sa.entry level)).entry level' = sa.entry level' := by
  by_cases h : level' = level
  · subst h; simp
  · exact setEntry_entry_ne sa h _

/-- `states_.size()`. -/
def statesSize (sa : SecurityAccess) : Nat :=
  (List.range 256).countP fun k => (sa.states (UInt8.ofNat k)).isSome

/-- Under which level the state of a sendKey level is kept. -/
def seedLevelOfKey (level : UInt8) : UInt8 := if 0 < level then level - 1 else level

@[simp] theorem seedLevelOfKey_two : seedLevelOfKey 2 = 1 := by decide

/-- Under which level the state of any level is kept: the one before it, if it is even. -/
def seedLevelOf (level : UInt8) : UInt8 :=
  if level &&& 0x01 = 0 ∧ 0 < level then level - 1 else level

def isLockedOut (sa : SecurityAccess) (level : UInt8) : M Bool :=
  match sa.states level with
  | none => pure false
  | some st =>
    if st.attemptCount < SecurityConfig.maxAttempts then pure false
    else do
      let t ← now .lockoutCheck
      pure (decide (t < st.lockedUntil))

def requestSeed (sa : SecurityAccess) (level : UInt8) :
    M (DiagErrorCode × Bytes × SecurityAccess) :=
  match sa.sec with
  | none => pure (.secUnavailable, [], sa)
  | some h => do
    let available ← ask (.sec h .isAvailable)
    if !available then
      pure (.secUnavailable, [], sa)
    else do
      let locked ← sa.isLockedOut level
      if locked then
        pure (.securityAccessDenied, [], sa)
      else do
        let (ok, seed) ← ask (.sec h (.getSeed level))
        if !ok then
          pure (.secUnavailable, seed, sa)
        else
          pure (.success, seed, sa.setEntry level
            { sa.entry level with
              level := level, seedRequested := true, requestedSeed := seed, unlocked := false })

def sendKey (sa : SecurityAccess) (level : UInt8) (key : Bytes) :
    M (DiagErrorCode × SecurityAccess) :=
  match sa.sec with
  | none => pure (.secUnavailable, sa)
  | some h => do
    let available ← ask (.sec h .isAvailable)
    if !available then
      pure (.secUnavailable, sa)
    else do
      let seedLevel := seedLevelOfKey level
      let locked ← sa.isLockedOut seedLevel
      if locked then
        pure (.securityAccessDenied, sa)
      else
        -- `states_[seed_level]` creates the entry, also when the key is refused below
        let state := sa.entry seedLevel
        if !state.seedRequested then
          pure (.securityAccessDenied, sa.setEntry seedLevel state)
        else do
          let accepted ← ask (.sec h (.verifyKey level key))
          if !accepted then do
            let attemptCount := state.attemptCount + 1
            let lockedUntil ←
              if SecurityConfig.maxAttempts ≤ attemptCount then do
                let t ← now .lockoutStart
                pure (t + millis SecurityConfig.lockoutDurationMs)
              else pure state.lockedUntil
            log .session .warn "diag.security_access.failed" "Security access verification failed"
              [("security_level", .string (zeroXDec level)),
               ("failure_reason", .string "invalid_key"),
               ("attempt_count", .int attemptCount.toNat)]
            pure (.securityAccessDenied,
              sa.setEntry seedLevel
                { state with attemptCount, seedRequested := false, lockedUntil })
          else do
            log .session .info "diag.security_access.succeeded"
              "Security access verification succeeded"
              [("security_level", .string (zeroXDec level))]
            pure (.success, sa.setEntry seedLevel
              { state with unlocked := true, seedRequested := false, attemptCount := 0 })

/-- What `isUnlocked` decides on. -/
def unlocked (sa : SecurityAccess) (level : UInt8) : Bool := (sa.entry (seedLevelOf level)).unlocked

def isUnlocked (sa : SecurityAccess) (level : UInt8) : M Bool := do
  let seedLevel := seedLevelOf level
  log .session .debug "diag.security_access.failed" "is_unlocked check"
    [("security_level", .string (hex2 level)),
     ("seed_level", .string (hex2 seedLevel)),
     ("states_size", .int sa.statesSize)]
  match sa.states seedLevel with
  | none => notUnlocked seedLevel
  | some st => do
    log .session .debug "diag.security_access.failed" "is_unlocked found state"
      [("unlocked", .bool st.unlocked), ("seed_requested", .bool st.seedRequested)]
    if st.unlocked then pure true else notUnlocked seedLevel
where
  notUnlocked (seedLevel : UInt8) : M Bool := do
    log .session .debug "diag.security_access.failed" "is_unlocked state not found or not unlocked"
      [("seed_level", .string (hex2 seedLevel))]
    pure false

/-- The level is looked up as it is given. -/
def lock (sa : SecurityAccess) (level : UInt8) : SecurityAccess :=
  match sa.states level with
  | none => sa
  | some st => sa.setEntry level { st with unlocked := false, seedRequested := false }

def reset (sa : SecurityAccess) : SecurityAccess := { sa with states := fun _ => none }

/-- The level is looked up as it is given. -/
def getAttemptCount (sa : SecurityAccess) (level : UInt8) : UInt32 :=
  match sa.states level with
  | none => 0
  | some st => st.attemptCount

/-! ## What the operations can do -/

@[simp] theorem isUnlocked_wp (sa : SecurityAccess) (level : UInt8) (Q : Trace → Bool → Prop) :
    wp (sa.isUnlocked level) Q ↔ Q [] (sa.unlocked level) := by
  unfold isUnlocked
  cases hs : sa.states (seedLevelOf level) with
  | none => simp [isUnlocked.notUnlocked, unlocked, entry, hs]
  | some st => cases hu : st.unlocked <;> simp [isUnlocked.notUnlocked, unlocked, entry, hs, hu]

theorem isUnlocked_exec {sa : SecurityAccess} {level : UInt8} {b : Bool} :
    (∃ lg, Exec (sa.isUnlocked level) [] lg b) ↔ b = sa.unlocked level := by
  constructor
  · rintro ⟨lg, hx⟩
    have hwp : wp (sa.isUnlocked level) fun _ b => b = sa.unlocked level :=
      (isUnlocked_wp sa level _).mpr rfl
    exact hx.wp hwp
  · rintro rfl
    have hrun := wp_exec (sa.isUnlocked level)
    rwa [isUnlocked_wp] at hrun

theorem isUnlocked_result (sa : SecurityAccess) (level : UInt8) (o : Oracle) :
    (sa.isUnlocked level).result o = sa.unlocked level := by
  have hwp : wp (sa.isUnlocked level) fun _ b => b = sa.unlocked level :=
    (isUnlocked_wp sa level _).mpr rfl
  exact (exec_run o (sa.isUnlocked level)).wp hwp

inductive LockoutChecked (sa : SecurityAccess) (level : UInt8) : Trace → Bool → Prop where
  | few : (sa.entry level).attemptCount < SecurityConfig.maxAttempts →
      LockoutChecked sa level [] false
  | lapsed {t : Stamped Unit} : SecurityConfig.maxAttempts ≤ (sa.entry level).attemptCount →
      (sa.entry level).lockedUntil ≤ t.time →
      LockoutChecked sa level [⟨.now .lockoutCheck, t⟩] false
  | locked {t : Stamped Unit} : SecurityConfig.maxAttempts ≤ (sa.entry level).attemptCount →
      t.time < (sa.entry level).lockedUntil →
      LockoutChecked sa level [⟨.now .lockoutCheck, t⟩] true

theorem isLockedOut_wp (sa : SecurityAccess) (level : UInt8) :
    wp (sa.isLockedOut level) (LockoutChecked sa level) := by
  unfold isLockedOut
  cases hs : sa.states level with
  | none => exact .few (by simp only [entry, hs]; decide)
  | some st =>
    have he : sa.entry level = st := by simp [entry, hs]
    simp only [wp_ite, wp_bind, wp_now, wp_pure]
    rw [← he]
    refine ⟨?_, ?_⟩
    · intro hc
      exact .few hc
    · intro hc t
      rw [UInt32.not_lt] at hc
      by_cases ht : t.time < (sa.entry level).lockedUntil
      · simpa [ht] using LockoutChecked.locked hc ht
      · have hpast : (sa.entry level).lockedUntil ≤ t.time := Nat.le_of_not_lt ht
        simpa [ht] using LockoutChecked.lapsed hc hpast

/-- The state after a seed was issued. -/
def seeded (sa : SecurityAccess) (level : UInt8) (seed : Bytes) : SecurityAccess :=
  sa.setEntry level
    { sa.entry level with
      level := level, seedRequested := true, requestedSeed := seed, unlocked := false }

inductive SeedRequested (sa : SecurityAccess) (level : UInt8) :
    Trace → DiagErrorCode → Bytes → SecurityAccess → Prop where
  | noSec : sa.sec = none → SeedRequested sa level [] .secUnavailable [] sa
  | unavailable {h : SecHandle} {x : Stamped Bool} : sa.sec = some h → x.reply = false →
      SeedRequested sa level [⟨.sec h .isAvailable, x⟩] .secUnavailable [] sa
  | lockedOut {h : SecHandle} {x : Stamped Bool} {tr : Trace} : sa.sec = some h →
      x.reply = true → LockoutChecked sa level tr true →
      SeedRequested sa level (⟨.sec h .isAvailable, x⟩ :: tr) .securityAccessDenied [] sa
  | noSeed {h : SecHandle} {x : Stamped Bool} {tr : Trace} {y : Stamped (Bool × Bytes)} :
      sa.sec = some h → x.reply = true → LockoutChecked sa level tr false → y.reply.1 = false →
      SeedRequested sa level (⟨.sec h .isAvailable, x⟩ :: (tr ++ [⟨.sec h (.getSeed level), y⟩]))
        .secUnavailable y.reply.2 sa
  | issued {h : SecHandle} {x : Stamped Bool} {tr : Trace} {y : Stamped (Bool × Bytes)} :
      sa.sec = some h → x.reply = true → LockoutChecked sa level tr false → y.reply.1 = true →
      SeedRequested sa level (⟨.sec h .isAvailable, x⟩ :: (tr ++ [⟨.sec h (.getSeed level), y⟩]))
        .success y.reply.2 (sa.seeded level y.reply.2)

theorem requestSeed_wp (sa : SecurityAccess) (level : UInt8) :
    wp (sa.requestSeed level) fun tr r => SeedRequested sa level tr r.1 r.2.1 r.2.2 := by
  unfold requestSeed
  cases hh : sa.sec with
  | none => exact .noSec hh
  | some h =>
    simp only [wp_bind, wp_ite, wp_pure, Bool.not_eq_true', Bool.not_eq_false]
    intro x
    refine ⟨?_, ?_⟩
    · intro hx
      exact .unavailable hh hx
    · intro hx
      refine wp_mono (isLockedOut_wp sa level) ?_
      intro tr locked hl
      refine ⟨?_, ?_⟩
      · intro hk
        subst hk
        simpa using SeedRequested.lockedOut hh hx hl
      · intro hk y
        obtain rfl : locked = false := by simpa using hk
        refine ⟨?_, ?_⟩
        · intro hy
          exact .noSeed hh hx hl hy
        · intro hy
          exact .issued hh hx hl hy

/-- The state after SEC rejected a key; `lockedUntil` is the deadline it leaves. -/
def rejected (sa : SecurityAccess) (level : UInt8) (lockedUntil : Time) : SecurityAccess :=
  let st := sa.entry level
  sa.setEntry level
    { st with attemptCount := st.attemptCount + 1, seedRequested := false, lockedUntil }

/-- The state after SEC accepted a key. -/
def accepted (sa : SecurityAccess) (level : UInt8) : SecurityAccess :=
  sa.setEntry level
    { sa.entry level with unlocked := true, seedRequested := false, attemptCount := 0 }

@[simp] theorem seeded_entry (sa : SecurityAccess) (level : UInt8) (seed : Bytes) :
    (sa.seeded level seed).entry level =
      { sa.entry level with
        level := level, seedRequested := true, requestedSeed := seed, unlocked := false } :=
  sa.setEntry_entry level _

@[simp] theorem rejected_entry (sa : SecurityAccess) (level : UInt8) (lockedUntil : Time) :
    (sa.rejected level lockedUntil).entry level =
      { sa.entry level with
        attemptCount := (sa.entry level).attemptCount + 1, seedRequested := false, lockedUntil } :=
  sa.setEntry_entry level _

@[simp] theorem accepted_entry (sa : SecurityAccess) (level : UInt8) :
    (sa.accepted level).entry level =
      { sa.entry level with unlocked := true, seedRequested := false, attemptCount := 0 } :=
  sa.setEntry_entry level _

/-- The lockout deadline after a rejected key: a new one once the attempts are used up. -/
inductive Deadline (st : SecurityAccessState) : Trace → Time → Prop where
  | kept : st.attemptCount + 1 < SecurityConfig.maxAttempts → Deadline st [] st.lockedUntil
  | started {t : Stamped Unit} : SecurityConfig.maxAttempts ≤ st.attemptCount + 1 →
      Deadline st [⟨.now .lockoutStart, t⟩] (t.time + millis SecurityConfig.lockoutDurationMs)

inductive KeySent (sa : SecurityAccess) (level : UInt8) (key : Bytes) :
    Trace → DiagErrorCode → SecurityAccess → Prop where
  | noSec : sa.sec = none → KeySent sa level key [] .secUnavailable sa
  | unavailable {h : SecHandle} {x : Stamped Bool} : sa.sec = some h → x.reply = false →
      KeySent sa level key [⟨.sec h .isAvailable, x⟩] .secUnavailable sa
  | lockedOut {h : SecHandle} {x : Stamped Bool} {tr : Trace} : sa.sec = some h →
      x.reply = true → LockoutChecked sa (seedLevelOfKey level) tr true →
      KeySent sa level key (⟨.sec h .isAvailable, x⟩ :: tr) .securityAccessDenied sa
  | noSeed {h : SecHandle} {x : Stamped Bool} {tr : Trace} : sa.sec = some h →
      x.reply = true → LockoutChecked sa (seedLevelOfKey level) tr false →
      (sa.entry (seedLevelOfKey level)).seedRequested = false →
      KeySent sa level key (⟨.sec h .isAvailable, x⟩ :: tr) .securityAccessDenied
        (sa.setEntry (seedLevelOfKey level) (sa.entry (seedLevelOfKey level)))
  | rejected {h : SecHandle} {x : Stamped Bool} {tr tr' : Trace} {y : Stamped Bool} {d : Time} :
      sa.sec = some h → x.reply = true → LockoutChecked sa (seedLevelOfKey level) tr false →
      (sa.entry (seedLevelOfKey level)).seedRequested = true → y.reply = false →
      Deadline (sa.entry (seedLevelOfKey level)) tr' d →
      KeySent sa level key
        (⟨.sec h .isAvailable, x⟩ :: (tr ++ ⟨.sec h (.verifyKey level key), y⟩ :: tr'))
        .securityAccessDenied (sa.rejected (seedLevelOfKey level) d)
  | accepted {h : SecHandle} {x : Stamped Bool} {tr : Trace} {y : Stamped Bool} :
      sa.sec = some h → x.reply = true → LockoutChecked sa (seedLevelOfKey level) tr false →
      (sa.entry (seedLevelOfKey level)).seedRequested = true → y.reply = true →
      KeySent sa level key
        (⟨.sec h .isAvailable, x⟩ :: (tr ++ [⟨.sec h (.verifyKey level key), y⟩]))
        .success (sa.accepted (seedLevelOfKey level))

theorem sendKey_wp (sa : SecurityAccess) (level : UInt8) (key : Bytes) :
    wp (sa.sendKey level key) fun tr r => KeySent sa level key tr r.1 r.2 := by
  unfold sendKey
  cases hh : sa.sec with
  | none => exact .noSec hh
  | some h =>
    simp only [wp_bind, wp_ite, wp_pure, wp_log, wp_now, Bool.not_eq_true', Bool.not_eq_false]
    intro x
    refine ⟨?_, ?_⟩
    · intro hx
      exact .unavailable hh hx
    · intro hx
      refine wp_mono (isLockedOut_wp sa _) ?_
      intro tr locked hl
      refine ⟨?_, ?_⟩
      · intro hk
        subst hk
        simpa using KeySent.lockedOut hh hx hl
      · intro hk
        obtain rfl : locked = false := by simpa using hk
        refine ⟨?_, ?_⟩
        · intro hs
          simpa using KeySent.noSeed hh hx hl hs
        · intro hs y
          refine ⟨?_, ?_⟩
          · -- the key is rejected: the third time a lockout starts
            intro hy
            refine ⟨?_, ?_⟩
            · intro hc t
              exact .rejected hh hx hl hs hy (.started hc)
            · intro hc
              exact .rejected hh hx hl hs hy (.kept (UInt32.not_le.mp hc))
          · intro hy
            exact .accepted hh hx hl hs hy

end SecurityAccess
end Diag
end Tbox
