import TboxDiag.Lifecycle
import TboxDiag.Lib.Permit

/-!
# KeyTrials

One key trial for each seed. A seed that SEC gives is a permit, and a key sent to SEC spends it:
`seedRequested` is set by the one and cleared by the other, whatever the verdict. The other
operations may only throw the flag away.

* `Armed`: the invariant, a pending seed is a permit that the calls so far leave.
* `key_trial_per_seed`: between any two keys sent to SEC it gave a seed, and at no point more keys
  have been sent than seeds given.
-/

namespace Tbox
namespace Diag

open Effects DiagService ServiceDispatcher

/-- `verify_key` was called. -/
def verifiesKey : Event outside → Bool
  | ⟨.sec _ (.verifyKey _ _), _⟩ => true
  | _ => false

/-- `get_seed` was called and succeeded. -/
def issuesSeed : Event outside → Bool
  | ⟨.sec _ (.getSeed _), x⟩ => x.reply.1
  | _ => false

/-- What the calls make of the permit `b`. -/
abbrev holdSeed (b : Bool) (tr : Trace) : Option Bool := hold issuesSeed verifiesKey b tr

/-- The calls lead from the permit `b` to one that covers the flag `pending`. -/
def Covers (b : Bool) (tr : Trace) (pending : Bool) : Prop :=
  ∃ b', holdSeed b tr = some b' ∧ (pending = true → b' = true)

/-- No call of the trace has to do with seeds and keys. -/
def NoTrial (tr : Trace) : Prop := ∀ e ∈ tr, issuesSeed e = false ∧ verifiesKey e = false

section
variable {b pending : Bool} {tr tr' : Trace}

theorem NoTrial.covers (h : NoTrial tr) (hb : pending = true → b = true) :
    Covers b tr pending := ⟨b, hold_of_idle h, hb⟩

@[simp] theorem noTrial_nil : NoTrial [] := by simp [NoTrial]

@[simp] theorem noTrial_cons (e : Event outside) :
    NoTrial (e :: tr) ↔ (issuesSeed e = false ∧ verifiesKey e = false) ∧ NoTrial tr := by
  simp [NoTrial]

@[simp] theorem noTrial_append : NoTrial (tr ++ tr') ↔ NoTrial tr ∧ NoTrial tr' :=
  List.forall_mem_append

/-- What is no trial, around a trace, does not matter. -/
theorem Covers.within {tr₀ tr₁ tr₃ : Trace} (h : Covers b tr pending) (h₀ : NoTrial tr₀)
    (h₁ : NoTrial tr₁) (h₃ : NoTrial tr₃) : Covers b (tr₀ ++ (tr₁ ++ (tr ++ tr₃))) pending := by
  obtain ⟨b', hb, hp⟩ := h
  refine ⟨b', ?_, hp⟩
  simp only [holdSeed, hold_append, hold_of_idle h₀, hold_of_idle h₁, Option.bind_some] at hb ⊢
  rw [hb]
  exact hold_of_idle h₃

/-- A call that is neither `get_seed` nor `verify_key`. -/
theorem noTrial_of_calls (h : ∀ e ∈ tr, ∀ h level key,
    e.cmd ≠ .sec h (.getSeed level) ∧ e.cmd ≠ .sec h (.verifyKey level key)) : NoTrial tr := by
  intro e he
  have hc := h e he
  obtain ⟨c, x⟩ := e
  cases c with
  | sec h c =>
    cases c with
    | getSeed level => exact absurd rfl (hc h level []).1
    | verifyKey level key => exact absurd rfl (hc h level key).2
    | _ => exact ⟨rfl, rfl⟩
  | _ => exact ⟨rfl, rfl⟩

theorem Quiet.noTrial (h : Quiet tr) : NoTrial tr := by
  refine noTrial_of_calls ?_
  intro e he h' level key
  have ha := h e he
  refine ⟨?_, ?_⟩
  · intro hc
    rw [hc] at ha
    cases ha
  · intro hc
    rw [hc] at ha
    cases ha

theorem Ticks.noTrial (h : Ticks tr) : NoTrial tr := by
  refine noTrial_of_calls ?_
  intro e he h' level key
  obtain ⟨site, hc⟩ := h e he
  simp [hc]

@[simp] theorem isAvailable_idle (h : SecHandle) (x : Stamped Bool) :
    issuesSeed ⟨.sec h .isAvailable, x⟩ = false ∧ verifiesKey ⟨.sec h .isAvailable, x⟩ = false :=
  ⟨rfl, rfl⟩

end

/-! ## What a dispatch does to the permit -/

section
variable {sa sa' : SecurityAccess} {b : Bool} {tr : Trace} {result : DiagErrorCode}

theorem SecurityAccess.SeedRequested.covers {seed : Bytes}
    (h : sa.SeedRequested 1 tr result seed sa')
    (hb : (sa.entry 1).seedRequested = true → b = true) :
    Covers b tr (sa'.entry 1).seedRequested := by
  cases h with
  | noSec _ => exact noTrial_nil.covers hb
  | unavailable _ _ => exact NoTrial.covers (by simp) hb
  | lockedOut _ _ hl => exact NoTrial.covers (by simp [hl.ticks.noTrial]) hb
  | noSeed _ _ hl hy =>
    refine NoTrial.covers ?_ hb
    simp [hl.ticks.noTrial, issuesSeed, verifiesKey, hy]
  | issued _ _ hl hy =>
    refine ⟨true, ?_, fun _ => rfl⟩
    have hlock := hold_of_idle (b := b) hl.ticks.noTrial
    simp [holdSeed, hold, hold_append, issuesSeed, verifiesKey, hlock, hy]

/-- A key is sent only while a seed is pending, and leaves none. -/
theorem SecurityAccess.KeySent.covers {key : Bytes} (h : sa.KeySent 2 key tr result sa')
    (hb : (sa.entry 1).seedRequested = true → b = true) :
    Covers b tr (sa'.entry 1).seedRequested := by
  cases h with
  | noSec _ => exact noTrial_nil.covers hb
  | unavailable _ _ => exact NoTrial.covers (by simp) hb
  | lockedOut _ _ hl => exact NoTrial.covers (by simp [hl.ticks.noTrial]) hb
  | noSeed _ _ hl hn =>
    rw [setEntry_self]
    exact NoTrial.covers (by simp [hl.ticks.noTrial]) hb
  | rejected _ _ hl hp _ hd =>
    rw [seedLevelOfKey_two] at hl hp hd ⊢
    obtain rfl := hb hp
    have hlock := hold_of_idle (b := true) hl.ticks.noTrial
    have hdeadline := hold_of_idle (b := false) hd.ticks.noTrial
    refine ⟨false, ?_, by simp⟩
    simp [holdSeed, hold, hold_append, issuesSeed, verifiesKey, hlock, hdeadline]
  | accepted _ _ hl hp _ =>
    rw [seedLevelOfKey_two] at hl hp ⊢
    obtain rfl := hb hp
    have hlock := hold_of_idle (b := true) hl.ticks.noTrial
    refine ⟨false, ?_, by simp⟩
    simp [holdSeed, hold, hold_append, issuesSeed, verifiesKey, hlock]

end

section
variable {d : ServiceDispatcher} {ms ms' : Managers} {request : DiagRequest} {tr : Trace}
  {response : DiagResponse}

theorem ServiceDispatcher.RoutineRun.noTrial (h : d.RoutineRun ms request tr response) :
    NoTrial tr := by
  refine noTrial_of_calls ?_
  intro e he h' level key
  rcases h.calls e he with ⟨_, _, _, hc⟩ | ⟨_, q, _, hq, hc⟩
  · simp [hc]
  · rw [hc]
    refine ⟨?_, ?_⟩
    · intro heq
      cases heq
      exact hq
    · intro heq
      cases heq
      exact hq

theorem ServiceDispatcher.DidRead.noTrial (h : d.DidRead request tr response) : NoTrial tr := by
  refine noTrial_of_calls ?_
  intro e he h' level key
  obtain ⟨_, _, hc | hc⟩ := h.calls e he
  · simp [hc]
  · simp [hc]

theorem ServiceDispatcher.Dispatched.covers {b : Bool}
    (h : Dispatched d ms request tr response ms')
    (hb : (ms.securityAccess.entry 1).seedRequested = true → b = true) :
    Covers b tr (ms'.securityAccess.entry 1).seedRequested := by
  cases h with
  | session _ hm => exact hm.ticks.noTrial.covers hb
  | testerPresent _ hm => exact hm.ticks.noTrial.covers hb
  | badLevel _ _ _ => exact noTrial_nil.covers hb
  | seed _ _ hq => exact hq.covers hb
  | key _ _ hq => exact hq.covers hb
  | routine _ hq => exact hq.noTrial.covers hb
  | read _ hq => exact hq.noTrial.covers hb
  | unsupported _ _ _ _ _ => exact noTrial_nil.covers hb

end

/-! ## The invariant -/

/-- A seed is pending at level 1. -/
def pendingSeed : Option View → Bool
  | none => false
  | some v => (v.managers.securityAccess.entry 1).seedRequested

/-- A pending seed is a permit that the calls of the history leave. -/
def Armed (ls : List Step) (o : Option View) : Prop := Covers false (traceOf ls) (pendingSeed o)

theorem acts_covers {o o' : Option View} {l : Step} {b : Bool} (h : Acts o l o')
    (hb : pendingSeed o = true → b = true) : Covers b l.trace (pendingSeed o') := by
  have dropped {tr : Trace} (h : NoTrial tr) : Covers b tr false :=
    h.covers (fun hf => by cases hf)
  cases h with
  | rest hq _ => exact dropped hq.noTrial
  | start hq => exact dropped hq.noTrial
  | keep _ _ => exact noTrial_nil.covers hb
  | shutdown hq => exact dropped hq.noTrial
  | setSec => exact dropped noTrial_nil
  | poll hm hq => exact NoTrial.covers (by simp [hm.ticks.noTrial, hq.noTrial]) hb
  | serve _ hm hq₁ hd hq₃ =>
    exact (hd.covers hb).within hm.ticks.noTrial hq₁.noTrial hq₃.noTrial

theorem armed_step {ls : List Step} {o o' : Option View} {l : Step} (h : Armed ls o)
    (ha : Acts o l o') : Armed (ls ++ [l]) o' := by
  obtain ⟨b, hb, hp⟩ := h
  obtain ⟨b', hb', hp'⟩ := acts_covers ha hp
  refine ⟨b', ?_, hp'⟩
  rw [holdSeed] at hb hb' ⊢
  rw [traceOf, List.flatMap_append, List.flatMap_singleton, hold_append, ← traceOf, hb]
  exact hb'

theorem armed_run {o : Option View} {ls : List Step} (h : Run Acts none ls o) : Armed ls o := by
  refine h.history Armed ⟨false, rfl, fun hf => hf⟩ ?_
  intro ls o l o' ha hl
  exact armed_step ha hl

/-- Between two calls of `verify_key` a call of `get_seed` succeeded, and up to any call there are
at most as many of the first as of the second. -/
theorem key_trial_per_seed {s : DiagService} {ls : List Step} (h : Run Does {} ls s) :
    (∀ before between after e e', traceOf ls = before ++ e :: (between ++ e' :: after) →
      verifiesKey e = true → verifiesKey e' = true → ∃ x ∈ between, issuesSeed x = true) ∧
    ∀ tr rest, traceOf ls = tr ++ rest → tr.countP verifiesKey ≤ tr.countP issuesSeed := by
  obtain ⟨o, hrun, _⟩ := reach_acts h
  obtain ⟨b, hb, _⟩ := armed_run hrun
  refine ⟨?_, ?_⟩
  · intro before between after e e' htr he he'
    rw [holdSeed, htr] at hb
    exact issued_between hb he he'
  · intro tr rest htr
    rw [holdSeed, htr] at hb
    exact count_left_le hb

/-- The first key is wrong, the second is accepted. -/
def twoTrials : List (Op × Oracle) :=
  let requestSeed : Op :=
    .processRequest { serviceId := 0x27, subFunction := 0x01, sourceAddress := 1 }
  let sendKey : Op := .processRequest
    { serviceId := 0x27, subFunction := 0x02, sourceAddress := 1, payload := [0x5A] }
  extendedScript ++ [(requestSeed, obligingNoKey 0), (sendKey, obligingNoKey 0),
    (requestSeed, obliging 0), (sendKey, obliging 0)]

theorem key_trial_per_seed_twice :
    let tr := traceOf (play {} twoTrials).1
    (∃ before between after e e', tr = before ++ e :: (between ++ e' :: after) ∧
      verifiesKey e = true ∧ verifiesKey e' = true ∧ ∃ x ∈ between, issuesSeed x = true) ∧
    tr.countP verifiesKey = 2 ∧ tr.countP verifiesKey ≤ tr.countP issuesSeed := by
  intro tr
  obtain ⟨hbetween, hcount⟩ := key_trial_per_seed (play_run {} twoTrials)
  have hcut : tr = tr.take 9 ++ ⟨.sec 0 (.verifyKey 2 [0x5A]), ⟨0, false⟩⟩ ::
      ((tr.drop 10).take 5 ++ ⟨.sec 0 (.verifyKey 2 [0x5A]), ⟨0, true⟩⟩ :: tr.drop 16) := rfl
  refine ⟨⟨_, _, _, _, _, hcut, rfl, rfl, hbetween _ _ _ _ _ hcut rfl rfl⟩, rfl, ?_⟩
  exact hcount tr [] (List.append_nil _).symm

end Diag
end Tbox
