import TboxDiag.DiagService
import TboxDiag.Lib.Twin

/-!
# LogTwins

Two runs over the same calls that differ in bytes only: in the seeds SEC gives and the keys it is
asked about, in the VINs PROV reads back, in what is sent, and in the payloads of some diagnostic
messages, by a relation `D` on the UDS messages in them. The lengths are the same. `outsideTwin D`
is that link between two outsides.

The handlers, the dispatcher and the codec are twins of themselves under it: nothing that they log
is computed from a secret. The states they leave differ in stored seeds, and the responses in their
payloads.
-/

namespace Tbox
namespace Diag

open Effects DoIpAdapter

/-! ## What may differ -/

/-- What was read last: the answer to a poll, or the header of a diagnostic message after it. -/
inductive Reading where
  | idle
  | polled (timeoutMs : UInt32)
  | message (timeoutMs : UInt32)
  deriving DecidableEq, Repr

def Reading.next : Reading → Event outside → Reading
  | _, ⟨.sock (.poll _ timeoutMs), _⟩ => .polled timeoutMs
  | .polled timeoutMs, ⟨.sock (.recv _ _), x⟩ =>
    match x.reply with
    | some [_, _, t₁, t₀, _, _, _, _] =>
      if ofBytes16 t₁ t₀ = diagnosticMessage then .message timeoutMs else .idle
    | _ => .idle
  | r, ⟨.sec _ _, _⟩ => r
  | r, ⟨.prov _ _, _⟩ => r
  | _, _ => .idle

/-- Two payloads of a diagnostic message of which `n` bytes were asked for. Behind the addresses
they differ by `D`; one that is cut short, or comes in the handshake, is not looked at. -/
inductive Payloads (D : Bytes → Bytes → Prop) (timeoutMs : UInt32) (n : Nat) :
    Bytes → Bytes → Prop where
  | message {pre raw raw' : Bytes} : pre.length = 4 → D raw raw' →
      Payloads D timeoutMs n (pre ++ raw) (pre ++ raw')
  | bare {raw raw' : Bytes} : raw.length ≤ 4 → D raw raw' → Payloads D timeoutMs n raw raw'
  | unread {p p' : Bytes} : p.length = p'.length → p.length ≠ n ∨ timeoutMs ≠ 0 →
      Payloads D timeoutMs n p p'

inductive CmdTwin : Cmd → Cmd → Prop where
  | same {c : Cmd} : CmdTwin c c
  | key {h : SecHandle} {level : UInt8} {key key' : Bytes} : key.length = key'.length →
      CmdTwin (.sec h (.verifyKey level key)) (.sec h (.verifyKey level key'))
  | sent {fd : Int} {data data' : Bytes} : data.length = data'.length →
      CmdTwin (.sock (.send fd data)) (.sock (.send fd data'))

inductive AnsTwin (D : Bytes → Bytes → Prop) : Reading → Event outside → Event outside → Prop where
  | same {r : Reading} {e : Event outside} : AnsTwin D r e e
  | key {r : Reading} {h : SecHandle} {level : UInt8} {key key' : Bytes} {x : Stamped Bool} :
      AnsTwin D r ⟨.sec h (.verifyKey level key), x⟩ ⟨.sec h (.verifyKey level key'), x⟩
  | sent {r : Reading} {fd : Int} {data data' : Bytes} {x : Stamped Int} :
      AnsTwin D r ⟨.sock (.send fd data), x⟩ ⟨.sock (.send fd data'), x⟩
  | seed {r : Reading} {h : SecHandle} {level : UInt8} {t : Time} {ok : Bool} {seed seed' : Bytes} :
      seed.length = seed'.length →
      AnsTwin D r ⟨.sec h (.getSeed level), ⟨t, ok, seed⟩⟩ ⟨.sec h (.getSeed level), ⟨t, ok, seed'⟩⟩
  | vin {r : Reading} {h : ProvHandle} {t : Time} {vin vin' bindState : Bytes} {valid : Bool} :
      vin.length = vin'.length →
      AnsTwin D r ⟨.prov h .readVin, ⟨t, ⟨vin, bindState, valid⟩⟩⟩
        ⟨.prov h .readVin, ⟨t, ⟨vin', bindState, valid⟩⟩⟩
  | payload {timeoutMs : UInt32} {fd : Int} {n : Nat} {t : Time} {p p' : Bytes} :
      Payloads D timeoutMs n p p' →
      AnsTwin D (.message timeoutMs) ⟨.sock (.recv fd n), ⟨t, some p⟩⟩
        ⟨.sock (.recv fd n), ⟨t, some p'⟩⟩

abbrev outsideTwin (D : Bytes → Bytes → Prop) : Link outside Reading :=
  ⟨Reading.next, CmdTwin, AnsTwin D⟩

/-- What is a secret is the bytes, not how many there are. -/
structure Masking (D : Bytes → Bytes → Prop) : Prop where
  length {raw raw' : Bytes} : D raw raw' → raw.length = raw'.length
  nonempty {raw raw' : Bytes} : D raw raw' → raw ≠ []

/-- The answer to the command holds no secret. -/
def Cmd.harmless : Cmd → Prop
  | .sec _ (.getSeed _) | .prov _ .readVin | .sock (.recv _ _) => False
  | _ => True

section
variable {D : Bytes → Bytes → Prop} {α β : Type}

theorem harmless_same {c : Cmd} (hc : c.harmless) :
    CmdTwin c c ∧ ∀ r (x x' : Stamped c.Reply), AnsTwin D r ⟨c, x⟩ ⟨c, x'⟩ → x = x' := by
  refine ⟨.same, ?_⟩
  intro r x x' h
  cases h with
  | same => rfl
  | key => rfl
  | sent => rfl
  | seed _ => exact hc.elim
  | vin _ => exact hc.elim
  | payload _ => exact hc.elim

theorem ask_twin {R : Reading → α → β → Prop} {r : Reading} {c c' : Cmd} {k : c.Reply → M α}
    {k' : c'.Reply → M β} (hc : CmdTwin c c')
    (h : ∀ x x', AnsTwin D r ⟨c, x⟩ ⟨c', x'⟩ →
      Twin (outsideTwin D) R (Reading.next r ⟨c, x⟩) (k x.reply) (k' x'.reply)) :
    Twin (outsideTwin D) R r (ask c >>= k) (ask c' >>= k') := .call hc h

/-- A command without a secret in its answer. -/
theorem ask_harmless {R : Reading → α → β → Prop} {r : Reading} {c : Cmd} {k : c.Reply → M α}
    {k' : c.Reply → M β} (hc : c.harmless)
    (h : ∀ r x, Twin (outsideTwin D) R r (k x) (k' x)) :
    Twin (outsideTwin D) R r (ask c >>= k) (ask c >>= k') := by
  refine ask_twin .same ?_
  intro x x' hans
  obtain rfl := (harmless_same hc).2 r x x' hans
  exact h _ _

theorem log_twin {R : Reading → α → β → Prop} {r : Reading} {logger : Logger} {level : LogLevel}
    {event message : String} {fields : List (String × FieldValue)} {k : Unit → M α}
    {k' : Unit → M β} (h : Twin (outsideTwin D) R r (k ()) (k' ())) :
    Twin (outsideTwin D) R r (log logger level event message fields >>= k)
      (log logger level event message fields >>= k') := .tell h

/-- A program without secrets is its own twin. -/
theorem harmless_twin {r : Reading} {p : M α} (hp : Only Cmd.harmless p) :
    Twin (outsideTwin D) (fun _ a b => a = b) r p p :=
  (twin_refl (I := fun _ => True) (fun _ hc => harmless_same hc) (fun _ _ _ _ _ => trivial) hp
    trivial).mono fun _ _ _ h => h.1

theorem only_ask {P : Cmd → Prop} {c : Cmd} (h : P c) : Only (S := outside) P (ask c) :=
  ⟨h, fun _ => trivial⟩

theorem only_now {P : Cmd → Prop} {site : ClockSite} (h : P (.now site)) :
    Only (S := outside) P (now site) := ⟨h, fun _ => trivial⟩

theorem only_log {P : Cmd → Prop} {logger : Logger} {level : LogLevel} {event message : String}
    {fields : List (String × FieldValue)} :
    Only (S := outside) P (log logger level event message fields) := trivial

end

/-! ## The security state -/

/-- Equal but for the stored seed. -/
def SecurityAccessState.Twin (st st' : SecurityAccessState) : Prop :=
  st' = { st with requestedSeed := st'.requestedSeed }

structure SecurityAccess.Twin (sa sa' : SecurityAccess) : Prop where
  sec : sa'.sec = sa.sec
  states (level : UInt8) : Option.Rel SecurityAccessState.Twin (sa.states level) (sa'.states level)

theorem SecurityAccess.Twin.refl (sa : SecurityAccess) : sa.Twin sa := by
  refine ⟨rfl, ?_⟩
  intro level
  cases sa.states level with
  | none => exact .none
  | some st => exact .some rfl

/-- A response with another payload of the same length. -/
def DiagResponse.Twin (y y' : DiagResponse) : Prop :=
  y' = { y with payload := y'.payload } ∧ y.payload.length = y'.payload.length

theorem DiagResponse.Twin.refl (y : DiagResponse) : y.Twin y := ⟨rfl, rfl⟩

namespace SecurityAccess

variable {sa sa' : SecurityAccess} {level : UInt8}

/-- Both have an entry for a level, or neither has. -/
theorem Twin.both (h : sa.Twin sa') (level : UInt8) :
    sa.states level = none ∧ sa'.states level = none ∨
      ∃ st seed, sa.states level = some st ∧
        sa'.states level = some { st with requestedSeed := seed } := by
  have hrel := h.states level
  generalize sa.states level = o at *
  generalize sa'.states level = o' at *
  cases hrel with
  | none => exact .inl ⟨rfl, rfl⟩
  | some hst => exact .inr ⟨_, _, rfl, congrArg some hst⟩

theorem Twin.entry (h : sa.Twin sa') (level : UInt8) : (sa.entry level).Twin (sa'.entry level) := by
  unfold SecurityAccess.entry
  obtain ⟨hs, hs'⟩ | ⟨st, seed, hs, hs'⟩ := h.both level
  · rw [hs, hs']
    rfl
  · rw [hs, hs']
    rfl

theorem Twin.setEntry (h : sa.Twin sa') {st st' : SecurityAccessState} (hst : st.Twin st') :
    (sa.setEntry level st).Twin (sa'.setEntry level st') := by
  refine ⟨h.sec, ?_⟩
  intro level'
  unfold SecurityAccess.setEntry
  by_cases hl : level' = level
  · subst hl
    simpa using Option.Rel.some hst
  · simpa [Function.update_of_ne hl] using h.states level'

theorem Twin.statesSize (h : sa.Twin sa') : sa'.statesSize = sa.statesSize := by
  unfold SecurityAccess.statesSize
  refine congrFun (congrArg _ (funext ?_)) _
  intro k
  obtain ⟨hs, hs'⟩ | ⟨st, seed, hs, hs'⟩ := h.both (UInt8.ofNat k)
  · rw [hs, hs']
  · rw [hs, hs']
    rfl

/-- The lockout looks at nothing secret. -/
theorem Twin.isLockedOut (h : sa.Twin sa') : sa'.isLockedOut level = sa.isLockedOut level := by
  unfold SecurityAccess.isLockedOut
  obtain ⟨hs, hs'⟩ | ⟨st, seed, hs, hs'⟩ := h.both level
  · simp only [hs, hs']
  · simp only [hs, hs']

theorem Twin.isUnlocked (h : sa.Twin sa') : sa'.isUnlocked level = sa.isUnlocked level := by
  unfold SecurityAccess.isUnlocked
  obtain ⟨hs, hs'⟩ | ⟨st, seed, hs, hs'⟩ := h.both (seedLevelOf level)
  · simp only [hs, hs', h.statesSize]
  · simp only [hs, hs', h.statesSize]

theorem isLockedOut_only : Only Cmd.harmless (sa.isLockedOut level) := by
  unfold SecurityAccess.isLockedOut
  split
  · exact only_pure
  · exact only_ite only_pure (only_bind (only_now trivial) fun _ => only_pure)

theorem isUnlocked_only : Only Cmd.harmless (sa.isUnlocked level) := by
  have refused {seedLevel : UInt8} : Only Cmd.harmless (isUnlocked.notUnlocked seedLevel) :=
    only_bind only_log fun _ => only_pure
  unfold SecurityAccess.isUnlocked
  refine only_bind only_log fun _ => ?_
  split
  · exact refused
  · exact only_bind only_log fun _ => only_ite only_pure refused

section
variable {D : Bytes → Bytes → Prop} {r : Reading}

/-- The seed goes to the state and to the caller, and nowhere else. -/
theorem Twin.requestSeed (h : sa.Twin sa') :
    Effects.Twin (outsideTwin D)
      (fun _ y y' => y'.1 = y.1 ∧ y.2.1.length = y'.2.1.length ∧ y.2.2.Twin y'.2.2)
      r (sa.requestSeed level) (sa'.requestSeed level) := by
  unfold SecurityAccess.requestSeed
  rw [h.sec]
  cases sa.sec with
  | none => exact .pure ⟨rfl, rfl, h⟩
  | some hsec =>
    refine ask_harmless trivial fun r available => .ite (fun _ => .pure ⟨rfl, rfl, h⟩) fun _ => ?_
    rw [h.isLockedOut]
    refine (harmless_twin isLockedOut_only).bind ?_
    rintro r locked _ rfl
    refine .ite (fun _ => .pure ⟨rfl, rfl, h⟩) fun _ => ?_
    refine ask_twin .same ?_
    intro x x' hans
    have hseed : x'.reply.1 = x.reply.1 ∧ x.reply.2.length = x'.reply.2.length := by
      cases hans with
      | same => exact ⟨rfl, rfl⟩
      | seed hlen => exact ⟨rfl, hlen⟩
    obtain ⟨hok, hlen⟩ := hseed
    simp only [hok]
    refine .ite (fun _ => .pure ⟨rfl, hlen, h⟩) fun _ => .pure ⟨rfl, hlen, h.setEntry ?_⟩
    rw [h.entry level]
    rfl

/-- The key goes to SEC, and nowhere else. -/
theorem Twin.sendKey (h : sa.Twin sa') {key key' : Bytes} (hkey : key.length = key'.length) :
    Effects.Twin (outsideTwin D) (fun _ y y' => y'.1 = y.1 ∧ y.2.Twin y'.2)
      r (sa.sendKey level key) (sa'.sendKey level key') := by
  unfold SecurityAccess.sendKey
  rw [h.sec]
  cases sa.sec with
  | none => exact .pure ⟨rfl, h⟩
  | some hsec =>
    refine ask_harmless trivial fun r available => .ite (fun _ => .pure ⟨rfl, h⟩) fun _ => ?_
    simp only [h.isLockedOut]
    refine (harmless_twin isLockedOut_only).bind ?_
    rintro r locked _ rfl
    refine .ite (fun _ => .pure ⟨rfl, h⟩) fun _ => ?_
    have hst := h.entry (seedLevelOfKey level)
    generalize sa.entry (seedLevelOfKey level) = st at hst ⊢
    generalize sa'.entry (seedLevelOfKey level) = st' at hst ⊢
    obtain ⟨l', sr', u', n', t', seed'⟩ := st'
    cases hst
    refine .ite (fun _ => .pure ⟨rfl, h.setEntry rfl⟩) fun _ => ?_
    refine ask_twin (.key hkey) ?_
    intro x x' hans
    obtain rfl : x = x' := by
      cases hans with
      | same => rfl
      | key => rfl
    refine .ite (fun _ => .ite (fun _ => ?_) fun _ => ?_) fun _ => ?_
    · refine (harmless_twin (only_now trivial)).bind ?_
      rintro r t _ rfl
      exact log_twin (.pure ⟨rfl, h.setEntry rfl⟩)
    · exact log_twin (.pure ⟨rfl, h.setEntry rfl⟩)
    · exact log_twin (.pure ⟨rfl, h.setEntry rfl⟩)

end
end SecurityAccess

/-! ## The handlers -/

/-- Equal but for the payload of a SecurityAccess request, which is a key. -/
structure DiagRequest.Twin (q q' : DiagRequest) : Prop where
  payload : q' = { q with payload := q'.payload }
  length : q.payload.length = q'.payload.length
  other : q.serviceId ≠ UdsService.securityAccess → q'.payload = q.payload

theorem DiagRequest.Twin.refl (q : DiagRequest) : q.Twin q := ⟨rfl, rfl, fun _ => rfl⟩

/-- The same session manager, and security access objects that are twins. -/
structure Managers.Twin (ms ms' : Managers) : Prop where
  sessionMgr : ms'.sessionMgr = ms.sessionMgr
  securityAccess : ms.securityAccess.Twin ms'.securityAccess

namespace ServiceDispatcher

variable {D : Bytes → Bytes → Prop} {r : Reading} {d : ServiceDispatcher}

theorem securityAccessResponse_twin {request : DiagRequest} {result : DiagErrorCode}
    {refusal : UInt8} {data data' : Bytes} (h : data.length = data'.length) :
    (securityAccessResponse request result refusal data).Twin
      (securityAccessResponse request result refusal data') := by
  unfold securityAccessResponse
  split
  · exact .refl _
  · exact ⟨rfl, h⟩

theorem handleSecurityAccess_twin {sa sa' : SecurityAccess} {q q' : DiagRequest}
    (h : sa.Twin sa') (hq : q.Twin q') :
    Twin (outsideTwin D) (fun _ y y' => y.1.Twin y'.1 ∧ y.2.Twin y'.2)
      r (handleSecurityAccess sa q) (handleSecurityAccess sa' q') := by
  obtain ⟨hpayload, hlen, _⟩ := hq
  generalize q'.payload = key' at hpayload hlen
  subst hpayload
  unfold handleSecurityAccess
  refine .ite (fun _ => .pure ⟨.refl _, h⟩) fun _ => .ite (fun _ => ?_) fun _ => ?_
  · refine log_twin (h.requestSeed.bind ?_)
    rintro r ⟨result, seed, sa₁⟩ ⟨result', seed', sa₁'⟩ ⟨hresult, hseed, hsa⟩
    cases hresult
    exact .pure ⟨securityAccessResponse_twin hseed, hsa⟩
  · refine (h.sendKey hlen).bind ?_
    rintro r ⟨result, sa₁⟩ ⟨result', sa₁'⟩ ⟨hresult, hsa⟩
    cases hresult
    exact .pure ⟨.refl _, hsa⟩

/-! RoutineControl asks the security state for nothing but whether it is unlocked. -/

section
variable {sa sa' : SecurityAccess} {request : DiagRequest}

theorem withSec_congr (h : sa.Twin sa') (k : SecHandle → M DiagResponse) :
    d.withSec sa' k = d.withSec sa k := by
  unfold withSec
  rw [h.isUnlocked]

theorem handleRoutineControl_congr {ms ms' : Managers} (h : ms.Twin ms') :
    d.handleRoutineControl ms' request = d.handleRoutineControl ms request := by
  unfold handleRoutineControl handleGenerateKeyPair handleReadCsr handleInjectCertificate
  simp only [h.sessionMgr, h.securityAccess.isUnlocked, withSec_congr h.securityAccess]

theorem withSec_only {k : SecHandle → M DiagResponse} (hk : ∀ h, Only Cmd.harmless (k h)) :
    Only Cmd.harmless (d.withSec sa k) := by
  unfold withSec
  refine only_bind SecurityAccess.isUnlocked_only fun _ => only_ite only_pure ?_
  split
  · exact only_pure
  · exact only_bind (only_ask trivial) fun _ => only_ite only_pure (hk _)

theorem handleGenerateKeyPair_only : Only Cmd.harmless (d.handleGenerateKeyPair sa request) := by
  unfold handleGenerateKeyPair
  refine only_bind only_log fun _ => withSec_only fun h => ?_
  exact only_bind (only_ask trivial) fun _ => only_ite only_pure only_pure

theorem handleReadCsr_only : Only Cmd.harmless (d.handleReadCsr sa request) := by
  unfold handleReadCsr
  refine only_bind only_log fun _ => withSec_only fun h => ?_
  refine only_bind (only_ask trivial) fun _ => only_bind only_log fun _ => only_ite only_pure ?_
  exact only_bind only_log fun _ => only_pure

theorem handleInjectCertificate_only :
    Only Cmd.harmless (d.handleInjectCertificate sa request) := by
  unfold handleInjectCertificate
  refine only_bind only_log fun _ => withSec_only fun h => only_ite only_pure ?_
  refine only_bind (only_ask trivial) fun _ => only_ite ?_ only_pure
  exact only_bind only_log fun _ => only_pure

theorem handleWriteVin_only {h : ProvHandle} : Only Cmd.harmless (handleWriteVin h request) := by
  unfold handleWriteVin
  refine only_ite (only_bind only_log fun _ => only_pure) ?_
  exact only_bind (only_ask trivial) fun _ => only_ite only_pure only_pure

theorem handleRoutineControl_only {ms : Managers} :
    Only Cmd.harmless (d.handleRoutineControl ms request) := by
  unfold handleRoutineControl
  refine only_bind only_log fun _ => only_ite ?_ ?_
  · refine only_bind only_log fun _ => only_ite only_pure ?_
    refine only_ite handleGenerateKeyPair_only (only_ite handleReadCsr_only ?_)
    exact handleInjectCertificate_only
  · refine only_bind SecurityAccess.isUnlocked_only fun _ => only_ite only_pure ?_
    split
    · exact only_pure
    · refine only_bind (only_ask trivial) fun _ => only_ite only_pure ?_
      exact only_ite handleWriteVin_only only_pure

end

theorem handleReadDataByIdentifier_twin {request : DiagRequest} :
    Twin (outsideTwin D) (fun _ y y' => y.Twin y') r
      (d.handleReadDataByIdentifier request) (d.handleReadDataByIdentifier request) := by
  have unavailable {r : Reading} : Twin (outsideTwin D) (fun _ y y' => y.Twin y') r
      handleReadDataByIdentifier.provUnavailable handleReadDataByIdentifier.provUnavailable :=
    log_twin (.pure (.refl _))
  unfold handleReadDataByIdentifier
  refine log_twin (.ite (fun _ => ?_) fun _ => log_twin (.pure (.refl _)))
  cases d.prov with
  | none => exact unavailable
  | some h =>
    refine ask_harmless trivial fun r available => .ite (fun _ => unavailable) fun _ => ?_
    refine log_twin (ask_twin .same ?_)
    intro x x' hans
    have hread : x'.reply = { x.reply with vin := x'.reply.vin } ∧
        x.reply.vin.length = x'.reply.vin.length := by
      cases hans with
      | same => exact ⟨rfl, rfl⟩
      | vin hlen => exact ⟨rfl, hlen⟩
    obtain ⟨hx, hlen⟩ := hread
    rw [hx]
    refine log_twin (.ite (fun _ => .pure (.refl _)) fun _ => ?_)
    have hdata : (didRecord request.didOrRid x.reply).length =
        (didRecord request.didOrRid { x.reply with vin := x'.reply.vin }).length := by
      unfold didRecord
      split
      · simp [hlen]
      · rfl
    simp only [hdata]
    exact log_twin (.pure ⟨rfl, hdata⟩)

/-! ## Dispatch -/

theorem handleSessionControl_only {m : SessionManager} {request : DiagRequest} :
    Only Cmd.harmless (handleSessionControl m request) := by
  unfold handleSessionControl SessionManager.switchSession
  refine only_bind only_log fun _ => only_bind (only_bind only_log fun _ => ?_) fun _ => only_pure
  refine only_ite only_pure ?_
  split
  · exact only_pure
  · refine only_bind (only_now trivial) fun _ => only_bind (only_now trivial) fun _ => ?_
    exact only_bind only_log fun _ => only_pure

theorem handleTesterPresent_only {m : SessionManager} {request : DiagRequest} :
    Only Cmd.harmless (handleTesterPresent m request) := by
  unfold handleTesterPresent SessionManager.handleTesterPresent
  refine only_bind (only_ite only_pure (only_ite only_pure ?_)) fun _ => only_pure
  exact only_bind (only_now trivial) fun _ => only_pure

theorem route_twin {ms ms' : Managers} {q q' : DiagRequest} (h : ms.Twin ms') (hq : q.Twin q') :
    Twin (outsideTwin D) (fun _ y y' => y.1.Twin y'.1 ∧ y.2.Twin y'.2)
      r (d.route ms q) (d.route ms' q') := by
  by_cases hs : q.serviceId = UdsService.securityAccess
  · have hs' : q'.serviceId = UdsService.securityAccess := by rw [hq.payload]; exact hs
    unfold route
    simp only [hs, hs']
    refine (handleSecurityAccess_twin h.securityAccess hq).bind ?_
    rintro r ⟨y, sa⟩ ⟨y', sa'⟩ ⟨hy, hsa⟩
    exact .pure ⟨hy, h.sessionMgr, hsa⟩
  · obtain rfl : q' = q := by rw [hq.payload, hq.other hs]
    unfold route
    rw [h.sessionMgr]
    refine .ite (fun _ => ?_) fun _ => .ite (fun _ => ?_) fun _ => ?_
    · refine (harmless_twin handleSessionControl_only).bind ?_
      rintro r y _ rfl
      exact .pure ⟨.refl _, rfl, h.securityAccess⟩
    · refine (harmless_twin handleTesterPresent_only).bind ?_
      rintro r y _ rfl
      exact .pure ⟨.refl _, rfl, h.securityAccess⟩
    refine .ite (fun hs' => absurd hs' hs) fun _ => .ite (fun _ => ?_) fun _ => ?_
    · rw [handleRoutineControl_congr h]
      refine (harmless_twin handleRoutineControl_only).bind ?_
      rintro r y _ rfl
      exact .pure ⟨.refl _, h⟩
    · refine .ite (fun _ => ?_) fun _ => .pure ⟨.refl _, h⟩
      refine handleReadDataByIdentifier_twin.bind ?_
      intro r y y' hy
      exact .pure ⟨hy, h⟩

theorem dispatch_twin {ms ms' : Managers} {q q' : DiagRequest} (h : ms.Twin ms') (hq : q.Twin q') :
    Twin (outsideTwin D) (fun _ y y' => y.1.Twin y'.1 ∧ y.2.Twin y'.2)
      r (d.dispatch ms q) (d.dispatch ms' q') := by
  unfold dispatch
  refine (route_twin h hq).bind ?_
  rintro r ⟨y, ms₁⟩ ⟨y', ms₁'⟩ ⟨hy, hms⟩
  have hsid : q'.serviceId = q.serviceId := by rw [hq.payload]
  obtain ⟨hpayload, hlen⟩ : y.Twin y' := hy
  generalize y'.payload = data at hpayload hlen
  subst hpayload
  simp only [hsid]
  exact log_twin (.pure ⟨⟨rfl, hlen⟩, hms⟩)

end ServiceDispatcher

/-! ## The codec -/

namespace UdsCodec

theorem encode_twin {y y' : DiagResponse} (h : y.Twin y') :
    (encode y).length = (encode y').length := by
  obtain ⟨hpayload, hlen⟩ := h
  generalize y'.payload = data at hpayload hlen
  subst hpayload
  unfold encode
  split
  · split
    · simp [hlen]
    · simp [hlen]
  · rfl

/-- A SecurityAccess message with another key. -/
inductive KeyTwin : Bytes → Bytes → Prop where
  | key {sub : UInt8} {key key' : Bytes} : key.length = key'.length →
      KeyTwin (UdsService.securityAccess :: sub :: key) (UdsService.securityAccess :: sub :: key')

theorem keyTwin_masking : Masking KeyTwin where
  length h := by
    cases h with
    | key hlen => simp [hlen]
  nonempty h := by
    cases h
    simp

/-- Decoding a SecurityAccess message writes nothing and keeps the key. -/
theorem decodeLogged_twin {D : Bytes → Bytes → Prop} {r : Reading} {raw raw' : Bytes}
    {request : DiagRequest} (h : raw = raw' ∨ KeyTwin raw raw') :
    Twin (outsideTwin D) (fun _ q q' => Option.Rel DiagRequest.Twin q q') r
      (decodeLogged raw request) (decodeLogged raw' request) := by
  cases h with
  | inl h =>
    subst h
    have hrel : Option.Rel DiagRequest.Twin (decode raw request) (decode raw request) := by
      cases decode raw request with
      | none => exact .none
      | some q => exact .some (.refl q)
    unfold decodeLogged
    exact .ite (fun _ => log_twin (.pure hrel)) fun _ => .pure hrel
  | inr h =>
    cases h with
    | @key sub key key' hlen =>
      refine .pure ?_
      cases key with
      | nil =>
        obtain rfl := List.length_eq_zero_iff.mp hlen.symm
        exact .some (.refl _)
      | cons b key =>
        cases key' with
        | nil => cases hlen
        | cons b' key' => exact .some ⟨rfl, hlen, fun hne => absurd rfl hne⟩

end UdsCodec

end Diag
end Tbox
