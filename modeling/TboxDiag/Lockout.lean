import TboxDiag.StateInvariant
import TboxDiag.SuppressedReply
import TboxDiag.BruteForce

/-!
# Lockout

When SEC gets to see a key, told from the history alone. A level keeps a record of the keys that
were rejected (`Barred`) and of the seed that is out (`SeedOut`). A run of the service, seen at its
security access, is a run on level 1 (`run_trials`), so that the records of the one are those of the
other: a seed is denied during a lockout only (`seed_denied_iff`), and a key judged exactly when a
seed is out and no lockout holds (`key_judged_iff`).
-/

namespace Tbox
namespace Diag

open Effects ServiceDispatcher
open SecurityAccess (seedLevelOfKey)

/-! ## The record of a level -/

/-- As many keys were rejected as are allowed, and `t` is not past the time to wait. -/
def Barred (level : UInt8) (ls : List SecurityStep) (t : Time) : Prop :=
  SecurityConfig.maxAttempts ≤ UInt32.ofNat (attempts level ls) ∧
    ∃ t₀ ∈ lastRejection level ls, t < t₀ + millis SecurityConfig.lockoutDurationMs

/-- A seed was issued, and nothing has used it up or taken it back. -/
def SeedOut (level : UInt8) : List SecurityStep → Prop :=
  Since (fun _ l => touch level l = .seeded) fun l => touch level l = .kept

/-- The lockout as the entry has it. -/
def SecurityAccessState.barred (st : SecurityAccessState) (t : Time) : Prop :=
  SecurityConfig.maxAttempts ≤ st.attemptCount ∧ t < st.lockedUntil

section
variable {level : UInt8} {ls : List SecurityStep} {st st' : SecurityAccessState} {l : SecurityStep}

theorem barred_iff (h : Run (EntryMoves level) {} ls st) (t : Time) :
    Barred level ls t ↔ st.barred t := by
  rw [Barred, SecurityAccessState.barred, ← attempts_run h]
  refine and_congr_right fun hmax => ?_
  obtain ⟨t₀, hlast, hdeadline⟩ := (wellKept_run h).deadline hmax
  rw [hlast, hdeadline]
  simp

theorem seedOut_step (h : EntryMoves level st l st')
    (ih : SeedOut level ls ↔ st.seedRequested = true) :
    SeedOut level (ls ++ [l]) ↔ st'.seedRequested = true := by
  rw [SeedOut] at ih
  rw [SeedOut, since_snoc_iff]
  cases h with
  | kept ht => simpa [ht] using ih
  | seeded ht => simp [ht]
  | accepted ht _ => simp [ht]
  | rejected ht _ _ => simp [ht]
  | locked ht => simp [ht]
  | reset ht => simp [ht]

theorem seedOut_iff (h : Run (EntryMoves level) {} ls st) :
    SeedOut level ls ↔ st.seedRequested = true := by
  refine h.history (fun ls st => SeedOut level ls ↔ st.seedRequested = true) ?_ ?_
  · simp [SeedOut, not_since_nil]
  · intro ls st l st' ih hl
    exact seedOut_step hl ih

end

/-! ## One request -/

/-- SEC said that it is there. -/
def SecThere (tr : Trace) : Prop := ∃ h x, ⟨.sec h .isAvailable, x⟩ ∈ tr ∧ x.reply = true

/-- The lockout was looked at when `P` held. -/
def Checked (P : Time → Prop) (tr : Trace) : Prop :=
  ∃ e ∈ tr, e.cmd = .now .lockoutCheck ∧ P (timeOf e)

section
variable {sa sa' : SecurityAccess} {level : UInt8} {tr tr' : Trace} {code : DiagErrorCode}
  {P : Time → Prop}

@[simp] theorem checked_nil : ¬ Checked P [] := by simp [Checked]

@[simp] theorem checked_append : Checked P (tr ++ tr') ↔ Checked P tr ∨ Checked P tr' := by
  simp only [Checked, List.mem_append, or_and_right, exists_or]

@[simp] theorem checked_sec (h : SecHandle) (c : SecCall) (x : Stamped c.Reply) :
    Checked P (⟨.sec h c, x⟩ :: tr) ↔ Checked P tr := by
  simp [Checked]

theorem SecurityAccess.LockoutChecked.checked {b : Bool} (h : sa.LockoutChecked level tr b) :
    Checked (sa.entry level).barred tr ↔ b = true := by
  cases h with
  | few hf => simp
  | @lapsed t _ ht =>
    have hpast : ¬ t.time < (sa.entry level).lockedUntil := Nat.not_lt.mpr ht
    simp [Checked, SecurityAccessState.barred, timeOf, hpast]
  | locked hmax ht => simp [Checked, SecurityAccessState.barred, timeOf, hmax, ht]

theorem SecurityAccess.Deadline.unchecked {st : SecurityAccessState} {d : Time}
    (h : SecurityAccess.Deadline st tr d) : ¬ Checked P tr := by
  cases h with
  | kept _ => exact checked_nil
  | started _ => simp [Checked]

/-- A seed is denied, other than for want of SEC, when the level is locked out. -/
theorem SecurityAccess.SeedRequested.denied_iff {seed : Bytes}
    (h : sa.SeedRequested level tr code seed sa') :
    code = .securityAccessDenied ↔ Checked (sa.entry level).barred tr := by
  cases h with
  | noSec _ => simp
  | unavailable _ _ => simp
  | lockedOut _ _ hl => simp [hl.checked]
  | noSeed _ _ hl _ => simp [hl.checked]
  | issued _ _ hl _ => simp [hl.checked]

@[simp] theorem secThere_cons_available (h : SecHandle) (x : Stamped Bool) :
    SecThere (⟨.sec h .isAvailable, x⟩ :: tr) ↔ x.reply = true ∨ SecThere tr := by
  constructor
  · rintro ⟨h', x', hmem, hx⟩
    cases List.mem_cons.mp hmem with
    | inl heq =>
      cases heq
      exact .inl hx
    | inr hmem => exact .inr ⟨h', x', hmem, hx⟩
  · rintro (hx | ⟨h', x', hmem, hx⟩)
    · exact ⟨h, x, List.mem_cons_self .., hx⟩
    · exact ⟨h', x', List.mem_cons_of_mem _ hmem, hx⟩

/-- A key is judged when SEC is there, a seed is out and the level not locked out. -/
theorem SecurityAccess.KeySent.judged_iff {key : Bytes}
    (h : sa.KeySent level key tr code sa') :
    verdicts tr ≠ [] ↔ SecThere tr ∧
      (sa.entry (seedLevelOfKey level)).seedRequested = true ∧
      ¬ Checked (sa.entry (seedLevelOfKey level)).barred tr := by
  cases h with
  | noSec _ => simp [SecThere]
  | unavailable _ hx =>
    refine iff_of_false (by simp [verdicts_cons, keyVerdict]) ?_
    simp [hx, SecThere]
  | lockedOut _ _ hl =>
    refine iff_of_false ?_ (by simp [hl.checked])
    simp [verdicts_cons, keyVerdict, hl.ticks.plain.verdicts]
  | noSeed _ _ hl hp =>
    refine iff_of_false ?_ (by simp [hp])
    simp [verdicts_cons, keyVerdict, hl.ticks.plain.verdicts]
  | rejected _ hx hl hp _ hd =>
    refine iff_of_true ?_ ⟨by simp [hx], hp, ?_⟩
    · simp [verdicts_cons, keyVerdict]
    · simp [hl.checked, hd.unchecked]
  | accepted _ hx hl hp _ =>
    refine iff_of_true ?_ ⟨by simp [hx], hp, ?_⟩
    · simp [verdicts_cons, keyVerdict]
    · simp [hl.checked]

end

/-! ## The service at its security access -/

namespace DiagService

/-- What a request is to SecurityAccess; of the code only whether it is success. -/
def Exchange.trial (x : Exchange) (tr : Trace) : Option SecurityStep :=
  let code := if x.response.positive then some .success else none
  if x.request.serviceId ≠ UdsService.securityAccess then none
  else if x.request.basicSubFunction = 1 then some ⟨.requestSeed 1, tr, code⟩
  else if x.request.basicSubFunction = 2 then some ⟨.sendKey 2 x.request.payload, tr, code⟩
  else none

/-- What a step is to it. -/
def Step.trial (l : Step) : Option SecurityStep :=
  match l.op with
  | .shutdown | .setSec _ => some ⟨.reset, l.trace, none⟩
  | _ => l.exchange.bind fun x => x.trial l.trace

/-- A history as SecurityAccess has it. -/
def trials (ls : List Step) : List SecurityStep := ls.filterMap Step.trial

end DiagService

open DiagService

section
variable {l : DiagService.Step} {st st' : SecurityAccessState} {o o' : Option View}

/-- `st` becomes `st'` in the trial, if there is one. -/
def MovesIn (k : Option SecurityStep) (st st' : SecurityAccessState) : Prop :=
  match k with
  | none => st' = st
  | some k => EntryMoves 1 st k st'

/-- Only the record of a step counts, not what else was called. -/
theorem EntryMoves.within {level : UInt8} {k k' : SecurityStep} (h : EntryMoves level st k st')
    (ht : touch level k' = touch level k) (hs : lockoutStart k'.trace = lockoutStart k.trace) :
    EntryMoves level st k' st' := by
  cases h with
  | kept h => exact .kept (ht.trans h)
  | seeded h => exact .seeded (ht.trans h)
  | accepted h hp => exact .accepted (ht.trans h) hp
  | rejected h hp hd => exact .rejected (ht.trans h) hp (by rwa [hs])
  | locked h => exact .locked (ht.trans h)
  | reset h => exact .reset (ht.trans h)

theorem touch_congr {level : UInt8} {op : SecurityOp} {tr tr' : Trace}
    {code code' : Option DiagErrorCode} (hc : code' = some .success ↔ code = some .success)
    (hv : verdicts tr' = verdicts tr) : touch level ⟨op, tr', code'⟩ = touch level ⟨op, tr, code⟩ := by
  have hk : keyRejected tr' = keyRejected tr := by
    rw [keyRejected, hv, keyRejected]
  unfold touch
  cases op with
  | sendKey _ _ => simp only [hc, hk]
  | _ => simp only [hc]

/-- A dispatch moves level 1 as its trial says; `tr'` shows no more of it than `tr`. -/
theorem ServiceDispatcher.Dispatched.trial {d : ServiceDispatcher} {ms ms' : Managers}
    {request : DiagRequest} {tr tr' : Trace} {response : DiagResponse}
    (h : Dispatched d ms request tr response ms') (hv : verdicts tr' = verdicts tr)
    (hs : lockoutStart tr' = lockoutStart tr) :
    MovesIn (Exchange.trial ⟨request, response⟩ tr') (ms.securityAccess.entry 1)
      (ms'.securityAccess.entry 1) := by
  have other {response : DiagResponse} (hne : request.serviceId ≠ UdsService.securityAccess) :
      Exchange.trial ⟨request, response⟩ tr' = none := if_pos hne
  cases h with
  | session hsid _ =>
    rw [other (by rw [hsid]; decide)]
    rfl
  | testerPresent hsid _ =>
    rw [other (by rw [hsid]; decide)]
    rfl
  | routine hsid _ =>
    rw [other (by rw [hsid]; decide)]
    rfl
  | read hsid _ =>
    rw [other (by rw [hsid]; decide)]
    rfl
  | unsupported _ _ hsid _ _ =>
    rw [other hsid]
    rfl
  | badLevel hsid h1 h2 =>
    simp only [Exchange.trial, hsid, h1, h2]
    rfl
  | seed hsid h1 hq =>
    simp only [Exchange.trial, hsid, h1]
    refine hq.moves.within (touch_congr ?_ hv) hs
    simp [securityAccessResponse_positive]
  | key hsid h2 hk =>
    simp only [Exchange.trial, hsid, h2]
    refine hk.moves.within (touch_congr ?_ hv) hs
    simp [securityAccessResponse_positive]

theorem lockoutStart_append (tr tr' : Trace) :
    lockoutStart (tr ++ tr') = (lockoutStart tr).or (lockoutStart tr') := List.findSome?_append

theorem Quiet.unstarted {tr : Trace} (h : Quiet tr) : lockoutStart tr = none := by
  refine List.findSome?_eq_none_iff.mpr ?_
  rintro ⟨c, x⟩ he
  have ha := h _ he
  cases c with
  | now site => cases site <;> first | rfl | cases ha
  | _ => rfl

theorem SessionManager.S3Checked.unstarted {m m' : SessionManager} {tr : Trace} {b : Bool}
    (h : m.S3Checked tr b m') : lockoutStart tr = none := by
  cases h <;> rfl

/-- A request that is refused without a look at SEC changes nothing. -/
theorem movesIn_refused {x : Exchange} {tr : Trace} (hp : x.response.positive = false)
    (hv : verdicts tr = []) (st : SecurityAccessState) : MovesIn (x.trial tr) st st := by
  have hkept (op : SecurityOp) (hop : op = .requestSeed 1 ∨ op = .sendKey 2 x.request.payload) :
      EntryMoves 1 st ⟨op, tr, none⟩ st := by
    refine .kept ?_
    rcases hop with rfl | rfl <;> simp [touch, keyRejected, hv]
  unfold Exchange.trial
  simp only [hp]
  split
  · rfl
  · split
    · exact hkept _ (.inl rfl)
    · split
      · exact hkept _ (.inr rfl)
      · rfl

/-- A step moves level 1 as its trial says. -/
theorem acts_trial (h : Acts o l o') : MovesIn l.trial (level1 o) (level1 o') := by
  cases h with
  | @rest op tr x hq hx =>
    have hnone : MovesIn (x.bind fun x => x.trial tr) {} {} := by
      cases x with
      | none => rfl
      | some y =>
        refine movesIn_refused ?_ hq.plain.verdicts {}
        rw [hx y rfl]
        rfl
    cases op with
    | shutdown => exact .reset rfl
    | setSec _ => exact .reset rfl
    | _ => exact hnone
  | start hq => rfl
  | @keep v op h1 h2 =>
    have hnone : DiagService.Step.trial ⟨op, [], none⟩ = none := by
      cases op with
      | shutdown => exact absurd rfl h1
      | setSec sec => exact absurd rfl (h2 sec)
      | _ => rfl
    rw [hnone]
    rfl
  | shutdown hq => exact .reset rfl
  | setSec => exact .reset rfl
  | poll hm hq => rfl
  | @serve v op request response b m ms tr₀ tr₁ tr₂ tr₃ hop hm hq₁ hd hq₃ =>
    have htrial : DiagService.Step.trial
        ⟨op, tr₀ ++ (tr₁ ++ (tr₂ ++ tr₃)), some ⟨request, response⟩⟩ =
          Exchange.trial ⟨request, response⟩ (tr₀ ++ (tr₁ ++ (tr₂ ++ tr₃))) := by
      rcases hop with rfl | rfl <;> rfl
    rw [htrial]
    refine hd.trial ?_ ?_
    · simp only [verdicts_append, hm.ticks.plain.verdicts, hq₁.plain.verdicts, hq₃.plain.verdicts,
        List.nil_append, List.append_nil]
    · simp only [lockoutStart_append, hm.unstarted, hq₁.unstarted, hq₃.unstarted, Option.none_or,
        Option.or_none]

/-- A run of the service, at its security access, is one on level 1. -/
theorem run_trials {ls : List DiagService.Step} (h : Run Acts none ls o) :
    Run (EntryMoves 1) {} (trials ls) (level1 o) := by
  induction h with
  | nil => exact .nil
  | @snoc ls _ _ l _ hs ih =>
    have hmoves := acts_trial hs
    rw [trials, List.filterMap_append]
    cases hk : l.trial with
    | none =>
      rw [hk] at hmoves
      rw [List.filterMap_cons_none hk, List.filterMap_nil, List.append_nil, hmoves]
      exact ih
    | some k =>
      rw [hk] at hmoves
      rw [List.filterMap_cons_some hk, List.filterMap_nil]
      exact ih.snoc hmoves

end

/-! ## What SEC gets to see -/

section
variable {P : Time → Prop} {tr tr' : Trace}

@[simp] theorem secThere_append : SecThere (tr ++ tr') ↔ SecThere tr ∨ SecThere tr' := by
  simp only [SecThere, List.mem_append, or_and_right, exists_or]

/-- Neither SEC nor the lockout comes into it. -/
def Unconcerned (tr : Trace) : Prop :=
  ¬ SecThere tr ∧ ∀ P, ¬ Checked P tr

theorem Quiet.unconcerned (h : Quiet tr) : Unconcerned tr := by
  refine ⟨?_, ?_⟩
  · rintro ⟨_, _, hmem, _⟩
    exact h _ hmem
  · rintro P ⟨e, he, hc, _⟩
    have ha := h e he
    rw [hc] at ha
    exact ha

theorem SessionManager.S3Checked.unconcerned {m m' : SessionManager} {b : Bool}
    (h : m.S3Checked tr b m') : Unconcerned tr := by
  cases h <;> simp [Unconcerned, SecThere, Checked]

end

/-- A SecurityAccess request is dispatched on the entry the history has left. -/
theorem dispatched_trial {pre : List DiagService.Step} {s s' : DiagService} {l : DiagService.Step}
    {x : DiagService.Exchange} (hr : Run DiagService.Does {} pre s) (hi : s.initialized = true)
    (hl : DiagService.Does s l s') (hx : l.exchange = some x) :
    ∃ d ms ms' tr, Dispatched d ms x.request tr x.response ms' ∧
      Run (EntryMoves 1) {} (trials pre) (ms.securityAccess.entry 1) ∧
      (SecThere l.trace ↔ SecThere tr) ∧ (∀ P, Checked P l.trace ↔ Checked P tr) ∧
      verdicts l.trace = verdicts tr := by
  obtain ⟨v, hacts, hserves⟩ := reach_serves hr hi
  obtain ⟨o, hact, -⟩ := does_acts (o := some v) hserves hl
  have hrun : Run (EntryMoves 1) {} (trials pre) (v.managers.securityAccess.entry 1) :=
    run_trials hacts
  cases hact with
  | keep _ _ | shutdown _ | setSec | poll _ _ => cases hx
  | @serve _ op request response b m ms tr₀ tr₁ tr₂ tr₃ hop hm hq₁ hd hq₃ =>
    cases hx
    refine ⟨_, _, _, tr₂, hd, hrun, ?_, ?_, ?_⟩
    · simp [hm.unconcerned.1, hq₁.unconcerned.1, hq₃.unconcerned.1]
    · intro P
      simp [hm.unconcerned.2, hq₁.unconcerned.2, hq₃.unconcerned.2]
    · simp only [verdicts_append, hm.ticks.plain.verdicts, hq₁.plain.verdicts, hq₃.plain.verdicts,
        List.nil_append, List.append_nil]

theorem checked_congr {P Q : Time → Prop} (h : ∀ t, P t ↔ Q t) {tr : Trace} :
    Checked P tr ↔ Checked Q tr := by
  simp only [Checked, h]

theorem seedResponse_denied {request : DiagRequest} {code : DiagErrorCode} {seed : Bytes} :
    (securityAccessResponse request code Nrc.securityAccessDenied seed).positive = false ∧
        (securityAccessResponse request code Nrc.securityAccessDenied seed).nrc =
          Nrc.securityAccessDenied ↔
      code ≠ .success ∧ code ≠ .secUnavailable := by
  have hconditions : Nrc.conditionsNotCorrect ≠ Nrc.securityAccessDenied := by decide
  unfold securityAccessResponse
  by_cases hs : code = .success
  · simp [hs, createPositiveResponse]
  · by_cases hu : code = .secUnavailable <;> simp [hs, hu, createNegativeResponse, hconditions]

/-- A requestSeed is denied with NRC 0x33 exactly when the lockout is looked at before its time is
over, counted from the last of the rejected keys. -/
theorem seed_denied_iff {pre : List DiagService.Step} {s s' : DiagService} {l : DiagService.Step}
    {x : DiagService.Exchange} (hr : Run DiagService.Does {} pre s) (hi : s.initialized = true)
    (hl : DiagService.Does s l s') (hx : l.exchange = some x)
    (hs : x.request.serviceId = UdsService.securityAccess) (h1 : x.request.basicSubFunction = 1) :
    x.response.positive = false ∧ x.response.nrc = Nrc.securityAccessDenied ↔
      Checked (Barred 1 (trials pre)) l.trace := by
  obtain ⟨d, ms, ms', tr, hd, hrun, -, hchecked, -⟩ := dispatched_trial hr hi hl hx
  obtain ⟨result, seed, sa, hq, hresp, -⟩ := hd.of_seed hs h1
  rw [hchecked, checked_congr (barred_iff hrun), ← hq.denied_iff, hresp, seedResponse_denied]
  cases hq with
  | lockedOut _ _ _ => simp
  | _ => simp

/-- Three keys are tried, and rejected. -/
def rejectedThrice : List (Op × Oracle) :=
  startScript ++ (List.replicate 3 (tryWrongKey 0)).flatten

def seedOp : Op := .processRequest { serviceId := 0x27, subFunction := 0x01 }

theorem seed_denied_iff_rejectedThrice :
    let r := play {} rejectedThrice
    Checked (Barred 1 (trials r.1)) (r.2.playOne seedOp (obliging 0)).1.trace := by
  intro r
  refine (seed_denied_iff (play_run {} rejectedThrice) rfl (playOne_does _ seedOp (obliging 0))
    rfl rfl rfl).mp ⟨?_, ?_⟩ <;> rfl

/-- A sendKey comes to SEC exactly when SEC is there, a seed is out, and no lockout holds. -/
theorem key_judged_iff {pre : List DiagService.Step} {s s' : DiagService} {l : DiagService.Step}
    {x : DiagService.Exchange} (hr : Run DiagService.Does {} pre s) (hi : s.initialized = true)
    (hl : DiagService.Does s l s') (hx : l.exchange = some x)
    (hs : x.request.serviceId = UdsService.securityAccess) (h2 : x.request.basicSubFunction = 2) :
    l.keyJudged ↔ SecThere l.trace ∧ SeedOut 1 (trials pre) ∧
      ¬ Checked (Barred 1 (trials pre)) l.trace := by
  obtain ⟨d, ms, ms', tr, hd, hrun, hthere, hchecked, hverdicts⟩ := dispatched_trial hr hi hl hx
  obtain ⟨result, sa, hk, -, -⟩ := hd.of_key hs h2
  rw [DiagService.Step.keyJudged, hverdicts, hthere, hchecked, checked_congr (barred_iff hrun),
    seedOut_iff hrun]
  exact hk.judged_iff

theorem key_judged_iff_owned :
    let r := play {} (startScript ++ [(seedOp, obliging 0)])
    let l := (r.2.playOne (.processRequest { serviceId := 0x27, subFunction := 0x02 })
      (obliging 0)).1
    SecThere l.trace ∧ SeedOut 1 (trials r.1) ∧ ¬ Checked (Barred 1 (trials r.1)) l.trace := by
  intro r l
  have hjudged : verdicts l.trace ≠ [] := by decide
  exact (key_judged_iff (play_run {} (startScript ++ [(seedOp, obliging 0)])) rfl
    (playOne_does r.2 _ (obliging 0)) rfl rfl rfl).mp hjudged

end Diag
end Tbox
