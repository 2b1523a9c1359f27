import TboxDiag.Lifecycle
import TboxDiag.Lib.History

/-!
# SecurityHistory

The level-1 security state as a state machine of its own, and what a run shows of it: the seeds
issued and the keys SEC judged (`verdicts`). `Level1` says how one step moves the state, with the
clock where it matters; `acts_level1` that the service moves it so, and `acts_downstream` that
a downstream operation is reached in the unlocked state only.
-/

namespace Tbox
namespace Diag

open Effects ServiceDispatcher

/-! ## What a step shows -/

/-- The time and the verdict, if SEC judged a key. -/
def keyVerdict : Event outside → Option (Time × Bool)
  | ⟨.sec _ (.verifyKey _ _), x⟩ => some (x.time, x.reply)
  | _ => none

def verdicts (tr : Trace) : List (Time × Bool) := tr.filterMap keyVerdict

@[simp] theorem verdicts_nil : verdicts [] = [] := rfl

@[simp] theorem verdicts_append (tr tr' : Trace) :
    verdicts (tr ++ tr') = verdicts tr ++ verdicts tr' := List.filterMap_append

theorem verdicts_cons (e : Event outside) (tr : Trace) :
    verdicts (e :: tr) = (keyVerdict e).toList ++ verdicts tr := by
  unfold verdicts
  rw [List.filterMap_cons]
  cases keyVerdict e <;> rfl

/-- The downstream operations, which a locked level keeps back. -/
def Cmd.downstream : Cmd → Prop
  | .prov _ (.writeVin _ _) => True
  | .sec _ .generateKeyPair | .sec _ .getCsr | .sec _ (.injectCertificate _) => True
  | _ => False

/-- Neither a downstream operation nor a key sent to SEC. -/
def Cmd.plain : Cmd → Prop
  | .now _ | .sock _ | .loadConfig | .getSection _ => True
  | .sec _ .isAvailable | .sec _ (.getSeed _) => True
  | .prov _ .isAvailable | .prov _ .readVin => True
  | _ => False

def Plain (tr : Trace) : Prop := ∀ e ∈ tr, e.cmd.plain

@[simp] theorem plain_nil : Plain [] := by simp [Plain]

@[simp] theorem plain_cons (e : Event outside) (tr : Trace) :
    Plain (e :: tr) ↔ e.cmd.plain ∧ Plain tr := by simp [Plain]

@[simp] theorem plain_append (tr tr' : Trace) : Plain (tr ++ tr') ↔ Plain tr ∧ Plain tr' := by
  simp only [Plain, List.mem_append, or_imp, forall_and]

theorem Plain.verdicts {tr : Trace} (h : Plain tr) : verdicts tr = [] := by
  refine List.filterMap_eq_nil_iff.mpr ?_
  intro e he
  have hp := h e he
  obtain ⟨c, x⟩ := e
  cases c with
  | sec h c => cases c <;> first | rfl | cases hp
  | _ => rfl

theorem Plain.not_downstream {tr : Trace} (h : Plain tr) {e : Event outside} (he : e ∈ tr) :
    ¬ e.cmd.downstream := by
  have hp := h e he
  obtain ⟨c, x⟩ := e
  intro hd
  cases c with
  | sec h c => cases c <;> first | exact hp | exact hd
  | prov h c => cases c <;> first | exact hp | exact hd
  | _ => exact hd

namespace DiagService

/-- A requestSeed, answered positively. -/
def Exchange.seedIssued (x : Exchange) : Prop :=
  x.request.serviceId = UdsService.securityAccess ∧ x.request.basicSubFunction = 1 ∧
    x.response.positive = true

/-- A sendKey. -/
def Exchange.sendsKey (x : Exchange) : Prop :=
  x.request.serviceId = UdsService.securityAccess ∧ x.request.basicSubFunction = 2

namespace Step

def calls (l : Step) (P : Cmd → Prop) : Prop := ∃ e ∈ l.trace, P e.cmd

def seedIssued (l : Step) : Prop := ∃ x, l.exchange = some x ∧ x.seedIssued

/-- SEC judged a key. -/
def keyJudged (l : Step) : Prop := verdicts l.trace ≠ []

/-- A sendKey whose key SEC accepted. -/
def keyAccepted (l : Step) : Prop :=
  (∃ x, l.exchange = some x ∧ x.sendsKey) ∧ ∃ t, (t, true) ∈ verdicts l.trace

/-- A RoutineControl for one of the protected routines. -/
def protectedRoutine (l : Step) : Prop :=
  ∃ x, l.exchange = some x ∧ x.request.serviceId = UdsService.routineControl ∧
    (x.request.didOrRid = Rid.writeVinRoutine ∨ isCertificateRid x.request.didOrRid)

/-- The request of the step is answered positively. -/
def positive (l : Step) : Prop := ∃ x, l.exchange = some x ∧ x.response.positive = true

/-- A step that throws the security state away. -/
def resets (l : Step) : Prop := l.op = .shutdown ∨ ∃ sec, l.op = .setSec sec

end Step
end DiagService

/-! ## The machine -/

/-- One step of the level-1 state. Only a rejected key says something about the clock: it was
judged at `t`, not before the lockout deadline, and `d` is the deadline from then on. -/
inductive Level1 : SecurityAccessState → DiagService.Step → SecurityAccessState → Prop where
  | kept {st : SecurityAccessState} {l : DiagService.Step} : ¬ l.resets → ¬ l.seedIssued →
      verdicts l.trace = [] → Level1 st l st
  | reset {st : SecurityAccessState} {l : DiagService.Step} : l.resets → ¬ l.seedIssued →
      verdicts l.trace = [] → Level1 st l {}
  | seeded {st : SecurityAccessState} {l : DiagService.Step} {seed : Bytes} : ¬ l.resets →
      l.seedIssued → verdicts l.trace = [] →
      Level1 st l
        { st with level := 1, seedRequested := true, requestedSeed := seed, unlocked := false }
  | rejected {st : SecurityAccessState} {l : DiagService.Step} {t d : Time} : ¬ l.resets →
      ¬ l.seedIssued → verdicts l.trace = [(t, false)] → st.seedRequested = true →
      (Clocked l.trace → SecurityConfig.maxAttempts ≤ st.attemptCount → st.lockedUntil ≤ t) →
      (Clocked l.trace → SecurityConfig.maxAttempts ≤ st.attemptCount + 1 →
        t + millis SecurityConfig.lockoutDurationMs ≤ d) →
      Level1 st l
        { st with attemptCount := st.attemptCount + 1, seedRequested := false, lockedUntil := d }
  | accepted {st : SecurityAccessState} {l : DiagService.Step} {t : Time} : ¬ l.resets →
      ¬ l.seedIssued → l.keyAccepted → verdicts l.trace = [(t, true)] → st.seedRequested = true →
      Level1 st l { st with unlocked := true, seedRequested := false, attemptCount := 0 }

/-! ## Plain traces -/

theorem Quiet.plain {tr : Trace} (h : Quiet tr) : Plain tr := by
  intro e he
  have ha := h e he
  obtain ⟨c, x⟩ := e
  cases c with
  | sec h c => cases ha
  | prov h c => cases ha
  | _ => trivial

theorem Ticks.plain {tr : Trace} (h : Ticks tr) : Plain tr := by
  intro e he
  obtain ⟨site, hc⟩ := h e he
  rw [hc]
  trivial

theorem SecurityAccess.SeedRequested.plain {sa sa' : SecurityAccess} {level : UInt8} {tr : Trace}
    {result : DiagErrorCode} {seed : Bytes}
    (h : sa.SeedRequested level tr result seed sa') : Plain tr := by
  cases h with
  | lockedOut _ _ hl => simp [Cmd.plain, hl.ticks.plain]
  | noSeed _ _ hl _ => simp [Cmd.plain, hl.ticks.plain]
  | issued _ _ hl _ => simp [Cmd.plain, hl.ticks.plain]
  | _ => simp [Cmd.plain]

theorem ServiceDispatcher.DidRead.plain {d : ServiceDispatcher} {request : DiagRequest}
    {tr : Trace} {response : DiagResponse} (h : d.DidRead request tr response) : Plain tr := by
  intro e he
  obtain ⟨_, _, hc | hc⟩ := h.calls e he
  · rw [hc]
    trivial
  · rw [hc]
    trivial

theorem ServiceDispatcher.RoutineRun.verdicts {d : ServiceDispatcher} {ms : Managers}
    {request : DiagRequest} {tr : Trace} {response : DiagResponse}
    (h : d.RoutineRun ms request tr response) : verdicts tr = [] := by
  refine List.filterMap_eq_nil_iff.mpr ?_
  intro e he
  have hc := h.calls e he
  obtain ⟨c, x⟩ := e
  rcases hc with ⟨_, _, _, rfl⟩ | ⟨_, q, _, hq, rfl⟩
  · rfl
  · cases q with
    | verifyKey _ _ => cases hq
    | _ => rfl

/-! ## The service moves the state so -/

section
variable {sa : SecurityAccess} {level : UInt8} {tr tr' : Trace} {c : Cmd}

/-- Past the lockout check, the deadline has passed. -/
theorem SecurityAccess.LockoutChecked.passed {y : Stamped c.Reply}
    (h : sa.LockoutChecked level tr false) (hc : Clocked (tr ++ ⟨c, y⟩ :: tr'))
    (hl : SecurityConfig.maxAttempts ≤ (sa.entry level).attemptCount) :
    (sa.entry level).lockedUntil ≤ y.time := by
  cases h with
  | few hf => exact absurd hf (UInt32.not_lt.mpr hl)
  | lapsed _ ht =>
    have hty := (List.pairwise_cons.mp hc).1 _ (List.mem_cons_self ..)
    exact ht.trans hty

theorem SecurityAccess.Deadline.later {st : SecurityAccessState} {y : Stamped c.Reply} {d : Time}
    (h : Deadline st tr d) (hc : Clocked (⟨c, y⟩ :: tr))
    (hl : SecurityConfig.maxAttempts ≤ st.attemptCount + 1) :
    y.time + millis SecurityConfig.lockoutDurationMs ≤ d := by
  cases h with
  | kept hk => exact absurd hk (UInt32.not_lt.mpr hl)
  | started _ =>
    have hyt := (List.pairwise_cons.mp hc).1 _ (List.mem_cons_self ..)
    exact Nat.add_le_add_right hyt _

end

theorem securityAccessResponse_refused {request : DiagRequest} {result : DiagErrorCode}
    {refusal : UInt8} {data : Bytes} (h : result ≠ .success) :
    (securityAccessResponse request result refusal data).positive = false := by
  unfold securityAccessResponse
  rw [if_pos h]
  rfl

/-- A request for a seed moves the state of level 1 so; `l` is the step it is part of. -/
theorem SecurityAccess.SeedRequested.level1 {sa sa' : SecurityAccess} {tr : Trace}
    {result : DiagErrorCode} {seed : Bytes} {l : DiagService.Step}
    (h : sa.SeedRequested 1 tr result seed sa') (hr : ¬ l.resets)
    (hi : l.seedIssued ↔ result = .success) (hv : verdicts l.trace = verdicts tr) :
    Level1 (sa.entry 1) l (sa'.entry 1) := by
  have hnone := hv.trans h.plain.verdicts
  have refused (hne : result ≠ .success) : Level1 (sa.entry 1) l (sa.entry 1) :=
    .kept hr (fun hissued => hne (hi.mp hissued)) hnone
  cases h with
  | noSec _ => exact refused (by decide)
  | unavailable _ _ => exact refused (by decide)
  | lockedOut _ _ _ => exact refused (by decide)
  | noSeed _ _ _ _ => exact refused (by decide)
  | issued _ _ _ _ =>
    rw [SecurityAccess.seeded_entry]
    exact .seeded hr (hi.mpr rfl) hnone

/-- A key does. -/
theorem SecurityAccess.KeySent.level1 {sa sa' : SecurityAccess} {key : Bytes} {tr : Trace}
    {result : DiagErrorCode} {l : DiagService.Step} (h : sa.KeySent 2 key tr result sa')
    (hr : ¬ l.resets) (hni : ¬ l.seedIssued)
    (hsent : ∃ x, l.exchange = some x ∧ x.sendsKey) (hv : verdicts l.trace = verdicts tr)
    (hc : Clocked l.trace → Clocked tr) : Level1 (sa.entry 1) l (sa'.entry 1) := by
  cases h with
  | noSec _ => exact .kept hr hni hv
  | unavailable _ _ => exact .kept hr hni hv
  | lockedOut _ _ hl =>
    refine .kept hr hni (hv.trans ?_)
    rw [verdicts_cons, hl.ticks.plain.verdicts]
    rfl
  | noSeed _ _ hl _ =>
    rw [SecurityAccess.setEntry_self]
    refine .kept hr hni (hv.trans ?_)
    rw [verdicts_cons, hl.ticks.plain.verdicts]
    rfl
  | @rejected h x tr₀ tr₁ y dl _ _ hl hp hy hd =>
    rw [SecurityAccess.seedLevelOfKey_two] at hl hp hd ⊢
    have hv' : verdicts l.trace = [(y.time, false)] := by
      rw [hv, verdicts_cons, verdicts_append, hl.ticks.plain.verdicts, verdicts_cons,
        hd.ticks.plain.verdicts, ← hy]
      rfl
    rw [SecurityAccess.rejected_entry]
    have htail (hcl : Clocked l.trace) : Clocked (tr₀ ++ ⟨.sec h (.verifyKey 2 key), y⟩ :: tr₁) :=
      (List.pairwise_cons.mp (hc hcl)).2
    refine .rejected hr hni hv' hp ?_ ?_
    · intro hcl
      exact hl.passed (htail hcl)
    · intro hcl
      exact hd.later (htail hcl).right
  | @accepted h x tr₀ y _ _ hl hp hy =>
    rw [SecurityAccess.seedLevelOfKey_two] at hl hp ⊢
    have hv' : verdicts l.trace = [(y.time, true)] := by
      rw [hv, verdicts_cons, verdicts_append, hl.ticks.plain.verdicts, verdicts_cons, ← hy]
      rfl
    rw [SecurityAccess.accepted_entry]
    exact .accepted hr hni ⟨hsent, y.time, by simp [hv']⟩ hv' hp

/-- A dispatch moves the state of level 1 so; `l` is the step it is part of. -/
theorem ServiceDispatcher.Dispatched.level1 {d : ServiceDispatcher} {ms ms' : Managers}
    {request : DiagRequest} {tr : Trace} {response : DiagResponse} {l : DiagService.Step}
    (h : Dispatched d ms request tr response ms') (hr : ¬ l.resets)
    (hx : l.exchange = some ⟨request, response⟩) (hv : verdicts l.trace = verdicts tr)
    (hc : Clocked l.trace → Clocked tr) :
    Level1 (ms.securityAccess.entry 1) l (ms'.securityAccess.entry 1) := by
  have hissued : l.seedIssued → request.serviceId = UdsService.securityAccess ∧
      request.basicSubFunction = 1 ∧ response.positive = true := by
    rintro ⟨x, hx', hs⟩
    rw [hx] at hx'
    cases hx'
    exact hs
  have other (hs : request.serviceId ≠ UdsService.securityAccess) : ¬ l.seedIssued := by
    intro hi
    exact hs (hissued hi).1
  cases h with
  | session hs hm =>
    exact .kept hr (other (by rw [hs]; decide)) (hv.trans hm.ticks.plain.verdicts)
  | testerPresent hs hm =>
    exact .kept hr (other (by rw [hs]; decide)) (hv.trans hm.ticks.plain.verdicts)
  | badLevel _ h1 _ => exact .kept hr (fun hi => h1 (hissued hi).2.1) hv
  | @seed _ result _ _ hs h1 hq =>
    refine hq.level1 hr ⟨fun hi => ?_, fun hok => ?_⟩ hv
    · by_contra hne
      have hpos := (hissued hi).2.2
      rw [securityAccessResponse_refused hne] at hpos
      cases hpos
    · refine ⟨_, hx, hs, h1, ?_⟩
      rw [hok]
      rfl
  | key hs h2 hq =>
    have hni : ¬ l.seedIssued := by
      intro hi
      have h1 := (hissued hi).2.1
      rw [h2] at h1
      cases h1
    exact hq.level1 hr hni ⟨_, hx, hs, h2⟩ hv hc
  | routine hs hq => exact .kept hr (other (by rw [hs]; decide)) (hv.trans hq.verdicts)
  | read hs hq => exact .kept hr (other (by rw [hs]; decide)) (hv.trans hq.plain.verdicts)
  | unsupported _ _ h3 _ _ => exact .kept hr (other h3) hv

/-- The level-1 state of a view; of no view, the initial one. -/
def level1 : Option View → SecurityAccessState
  | none => {}
  | some v => v.managers.securityAccess.entry 1

theorem acts_level1 {o o' : Option View} {l : DiagService.Step} (h : Acts o l o') :
    Level1 (level1 o) l (level1 o') := by
  have no_exchange {op : DiagService.Op} {tr : Trace} :
      ¬ DiagService.Step.seedIssued ⟨op, tr, none⟩ := by
    rintro ⟨x, hx, _⟩
    cases hx
  cases h with
  | @rest op tr x hq hx =>
    have hni : ¬ DiagService.Step.seedIssued ⟨op, tr, x⟩ := by
      rintro ⟨y, hy, hs⟩
      have hpos := hs.2.2
      rw [hx y hy] at hpos
      cases hpos
    by_cases hr : DiagService.Step.resets ⟨op, tr, x⟩
    · exact .reset hr hni hq.plain.verdicts
    · exact .kept hr hni hq.plain.verdicts
  | start hq =>
    refine .kept ?_ no_exchange hq.plain.verdicts
    rintro (h | ⟨_, h⟩) <;> cases h
  | keep h1 h2 =>
    refine .kept ?_ no_exchange rfl
    rintro (h | ⟨sec, h⟩)
    · exact h1 h
    · exact h2 sec h
  | shutdown hq => exact .reset (.inl rfl) no_exchange hq.plain.verdicts
  | setSec => exact .reset (.inr ⟨_, rfl⟩) no_exchange rfl
  | poll hm hq =>
    refine .kept ?_ no_exchange ?_
    · rintro (h | ⟨_, h⟩) <;> cases h
    · rw [verdicts_append, hm.ticks.plain.verdicts, hq.plain.verdicts]
      rfl
  | serve ho hm hq₁ hd hq₃ =>
    refine hd.level1 ?_ rfl ?_ ?_
    · rintro (h | ⟨sec, h⟩) <;> cases h <;> rcases ho with h | h <;> cases h
    · simp only [verdicts_append, hm.ticks.plain.verdicts, hq₁.plain.verdicts, hq₃.plain.verdicts,
        List.nil_append, List.append_nil]
    · intro hc
      exact hc.right.right.left

theorem run_level1 {o o' : Option View} {ls : List DiagService.Step} (h : Run Acts o ls o') :
    Run Level1 (level1 o) ls (level1 o') := by
  have hsim : ∀ o st l o', st = level1 o → Acts o l o' →
      ∃ st', Level1 st l st' ∧ st' = level1 o' := by
    rintro o _ l o' rfl ha
    exact ⟨_, acts_level1 ha, rfl⟩
  obtain ⟨_, hr, rfl⟩ := Run.simulates hsim h rfl
  exact hr

/-! ## Protected routines -/

theorem SecurityAccess.KeySent.not_downstream {sa sa' : SecurityAccess} {level : UInt8}
    {key : Bytes} {tr : Trace} {result : DiagErrorCode} (h : sa.KeySent level key tr result sa')
    {e : Event outside} (he : e ∈ tr) : ¬ e.cmd.downstream := by
  have plain {tr : Trace} (hp : Plain tr) : e ∈ tr → ¬ e.cmd.downstream :=
    fun he => hp.not_downstream he
  cases h with
  | noSec _ => cases he
  | unavailable _ _ => exact plain (by simp [Cmd.plain]) he
  | lockedOut _ _ hl => exact plain (by simp [Cmd.plain, hl.ticks.plain]) he
  | noSeed _ _ hl _ => exact plain (by simp [Cmd.plain, hl.ticks.plain]) he
  | rejected _ _ hl _ _ hd =>
    simp only [List.mem_cons, List.mem_append] at he
    rcases he with rfl | he | rfl | he
    · exact id
    · exact plain hl.ticks.plain he
    · exact id
    · exact plain hd.ticks.plain he
  | accepted _ _ hl _ _ =>
    simp only [List.mem_cons, List.mem_append, List.not_mem_nil, or_false] at he
    rcases he with rfl | he | rfl
    · exact id
    · exact plain hl.ticks.plain he
    · exact id

/-- Only RoutineControl calls a downstream operation. -/
theorem ServiceDispatcher.Dispatched.downstream {d : ServiceDispatcher} {ms ms' : Managers}
    {request : DiagRequest} {tr : Trace} {response : DiagResponse}
    (h : Dispatched d ms request tr response ms') {e : Event outside} (he : e ∈ tr)
    (hd : e.cmd.downstream) :
    request.serviceId = UdsService.routineControl ∧ d.RoutineRun ms request tr response := by
  cases h with
  | routine hs hq => exact ⟨hs, hq⟩
  | session _ hm => exact absurd hd (hm.ticks.plain.not_downstream he)
  | testerPresent _ hm => exact absurd hd (hm.ticks.plain.not_downstream he)
  | seed _ _ hq => exact absurd hd (hq.plain.not_downstream he)
  | read _ hq => exact absurd hd (hq.plain.not_downstream he)
  | badLevel _ _ _ => cases he
  | unsupported _ _ _ _ _ => cases he
  | key _ _ hq => exact absurd hd (hq.not_downstream he)

theorem ServiceDispatcher.WithSec.unlocked {d : ServiceDispatcher} {sa : SecurityAccess}
    {K : SecHandle → Trace → DiagResponse → Prop} {tr : Trace} {response : DiagResponse}
    (h : d.WithSec sa K tr response)
    (hu : response.positive = true ∨ ∃ e ∈ tr, e.cmd.downstream) :
    sa.unlocked UdsSecurityLevel.level1 = true := by
  cases h with
  | ready h _ _ _ => exact h
  | _ =>
    rcases hu with hu | ⟨e, he, hd⟩
    · cases hu
    · simp at he <;> subst he <;> cases hd

/-- A routine that is carried out, or reaches a downstream operation, finds level 1 unlocked. -/
theorem ServiceDispatcher.RoutineRun.unlocked {d : ServiceDispatcher} {ms : Managers}
    {request : DiagRequest} {tr : Trace} {response : DiagResponse}
    (h : d.RoutineRun ms request tr response)
    (hu : response.positive = true ∨ ∃ e ∈ tr, e.cmd.downstream) : ms.unlocked = true := by
  cases h with
  | generateKeyPair _ _ hw => exact hw.unlocked hu
  | readCsr _ _ hw => exact hw.unlocked hu
  | injectCertificate _ _ hw => exact hw.unlocked hu
  | writeVin h _ _ _ _ => exact h
  | _ =>
    rcases hu with hu | ⟨e, he, hd⟩
    · cases hu
    · simp at he <;> subst he <;> cases hd

/-- What is plain around a trace reaches no downstream operation of any kind. -/
theorem downstream_within {P : Cmd → Prop} (hP : ∀ c, P c → c.downstream)
    {tr₀ tr₁ tr₂ tr₃ : Trace} (h₀ : Plain tr₀) (h₁ : Plain tr₁) (h₃ : Plain tr₃) :
    (∃ e ∈ tr₀ ++ (tr₁ ++ (tr₂ ++ tr₃)), P e.cmd) ↔ ∃ e ∈ tr₂, P e.cmd := by
  constructor
  · rintro ⟨e, he, hd⟩
    simp only [List.mem_append] at he
    rcases he with he | he | he | he
    · exact absurd (hP _ hd) (h₀.not_downstream he)
    · exact absurd (hP _ hd) (h₁.not_downstream he)
    · exact ⟨e, he, hd⟩
    · exact absurd (hP _ hd) (h₃.not_downstream he)
  · rintro ⟨e, he, hd⟩
    exact ⟨e, by simp [he], hd⟩

section
variable {o o' : Option View} {l : DiagService.Step}

theorem acts_downstream (h : Acts o l o') (hl : l.calls Cmd.downstream) :
    (level1 o).unlocked = true := by
  have plain {tr : Trace} (hp : Plain tr) (he : ∃ e ∈ tr, e.cmd.downstream) : False := by
    obtain ⟨e, he, hd⟩ := he
    exact hp.not_downstream he hd
  cases h with
  | rest hq _ => exact (plain hq.plain hl).elim
  | start hq => exact (plain hq.plain hl).elim
  | keep _ _ => exact (plain plain_nil hl).elim
  | shutdown hq => exact (plain hq.plain hl).elim
  | setSec => exact (plain plain_nil hl).elim
  | poll hm hq => exact (plain ((plain_append _ _).mpr ⟨hm.ticks.plain, hq.plain⟩) hl).elim
  | serve _ hm hq₁ hdis hq₃ =>
    obtain ⟨e, he, hd⟩ :=
      (downstream_within (fun _ hd => hd) hm.ticks.plain hq₁.plain hq₃.plain).mp hl
    exact (hdis.downstream he hd).2.unlocked (.inr ⟨e, he, hd⟩)

theorem acts_positive (h : Acts o l o') (hr : l.protectedRoutine) (hp : l.positive) :
    (level1 o).unlocked = true := by
  obtain ⟨x, hx, hs, _⟩ := hr
  obtain ⟨y, hy, hpos⟩ := hp
  obtain rfl : x = y := by
    rw [hx] at hy
    cases hy
    rfl
  cases h with
  | rest _ hn =>
    rw [hn x hx] at hpos
    cases hpos
  | serve _ _ _ hdis _ =>
    cases hx
    obtain ⟨hr, rfl⟩ := hdis.of_routine hs
    exact hr.unlocked (.inl hpos)
  | _ => cases hx

end

end Diag
end Tbox
