import TboxDiag.Lifecycle
import TboxDiag.DiagIpcDispatcher

/-!
# Dependencies

Whether the PROV and the SEC that were installed last are the ones in use. The service hands both
to its dispatcher when it builds one, in `initializeService` and in `setSec`. `setProv` only stores
the new PROV, so a dispatcher built before keeps the old one.

* `does_wired`: what an operation does to the pointers.
* `installed_iff`: everything goes to what was installed last exactly when the PROV installed now
  is the one the dispatcher was built with.
* `stale_prov`: a PROV replaced after initialisation is not asked.
-/

namespace Tbox
namespace Diag

open Effects DiagService ServiceDispatcher

/-! ## What was installed -/

namespace DiagService

def Op.provAfter (op : Op) (prov : Option ProvHandle) : Option ProvHandle :=
  match op with
  | .setProv prov => prov
  | _ => prov

def Op.secAfter (op : Op) (sec : Option SecHandle) : Option SecHandle :=
  match op with
  | .setSec sec => sec
  | _ => sec

/-- The PROV most recently passed to `setProv`. -/
def lastProv (ls : List Step) : Option ProvHandle :=
  ls.foldl (fun prov l => l.op.provAfter prov) none

/-- The SEC most recently passed to `setSec`. -/
def lastSec (ls : List Step) : Option SecHandle := ls.foldl (fun sec l => l.op.secAfter sec) none

theorem lastProv_snoc (ls : List Step) (l : Step) :
    lastProv (ls ++ [l]) = l.op.provAfter (lastProv ls) := by
  simp [lastProv]

theorem lastSec_snoc (ls : List Step) (l : Step) :
    lastSec (ls ++ [l]) = l.op.secAfter (lastSec ls) := by
  simp [lastSec]

end DiagService

/-- The call, if it is one to PROV or SEC, goes to these. -/
def Cmd.goesTo (prov : Option ProvHandle) (sec : Option SecHandle) : Cmd → Prop
  | .prov h _ => prov = some h
  | .sec h _ => sec = some h
  | _ => True

/-- All calls go to these. -/
def GoTo (prov : Option ProvHandle) (sec : Option SecHandle) (tr : Trace) : Prop :=
  ∀ e ∈ tr, e.cmd.goesTo prov sec

section
variable {prov : Option ProvHandle} {sec : Option SecHandle} {tr tr' : Trace}

@[simp] theorem goTo_nil : GoTo prov sec [] := by simp [GoTo]

@[simp] theorem goTo_cons (e : Event outside) :
    GoTo prov sec (e :: tr) ↔ e.cmd.goesTo prov sec ∧ GoTo prov sec tr := by simp [GoTo]

@[simp] theorem goTo_append : GoTo prov sec (tr ++ tr') ↔ GoTo prov sec tr ∧ GoTo prov sec tr' := by
  simp only [GoTo, List.mem_append, or_imp, forall_and]

theorem Ticks.goTo (h : Ticks tr) : GoTo prov sec tr := by
  intro e he
  obtain ⟨site, hc⟩ := h e he
  rw [hc]
  trivial

theorem SecurityAccess.SeedRequested.goTo {sa sa' : SecurityAccess} {level : UInt8}
    {result : DiagErrorCode} {seed : Bytes} (h : sa.SeedRequested level tr result seed sa') :
    GoTo prov sa.sec tr := by
  cases h with
  | noSec _ => exact goTo_nil
  | unavailable hs _ => simp [Cmd.goesTo, hs]
  | lockedOut hs _ hl => simp [Cmd.goesTo, hs, hl.ticks.goTo]
  | noSeed hs _ hl _ => simp [Cmd.goesTo, hs, hl.ticks.goTo]
  | issued hs _ hl _ => simp [Cmd.goesTo, hs, hl.ticks.goTo]

theorem SecurityAccess.KeySent.goTo {sa sa' : SecurityAccess} {level : UInt8} {key : Bytes}
    {result : DiagErrorCode} (h : sa.KeySent level key tr result sa') : GoTo prov sa.sec tr := by
  cases h with
  | noSec _ => exact goTo_nil
  | unavailable hs _ => simp [Cmd.goesTo, hs]
  | lockedOut hs _ hl => simp [Cmd.goesTo, hs, hl.ticks.goTo]
  | noSeed hs _ hl _ => simp [Cmd.goesTo, hs, hl.ticks.goTo]
  | rejected hs _ hl _ _ hd => simp [Cmd.goesTo, hs, hl.ticks.goTo, hd.ticks.goTo]
  | accepted hs _ hl _ _ => simp [Cmd.goesTo, hs, hl.ticks.goTo]

end

section
variable {d : ServiceDispatcher} {ms ms' : Managers} {request : DiagRequest} {tr : Trace}
  {response : DiagResponse}

theorem ServiceDispatcher.RoutineRun.goTo (h : d.RoutineRun ms request tr response) :
    GoTo d.prov d.sec tr := by
  intro e he
  rcases h.calls e he with ⟨_, _, hp, hc⟩ | ⟨_, _, hs, _, hc⟩
  · rw [hc]
    exact hp
  · rw [hc]
    exact hs

theorem ServiceDispatcher.DidRead.goTo (h : d.DidRead request tr response) :
    GoTo d.prov d.sec tr := by
  intro e he
  obtain ⟨_, hp, hc | hc⟩ := h.calls e he
  · rw [hc]
    exact hp
  · rw [hc]
    exact hp

theorem ServiceDispatcher.Dispatched.goTo (h : Dispatched d ms request tr response ms')
    (hsec : d.sec = ms.securityAccess.sec) : GoTo d.prov d.sec tr := by
  cases h with
  | session _ hm => exact hm.ticks.goTo
  | testerPresent _ hm => exact hm.ticks.goTo
  | badLevel _ _ _ => exact goTo_nil
  | seed _ _ hq =>
    rw [hsec]
    exact hq.goTo
  | key _ _ hq =>
    rw [hsec]
    exact hq.goTo
  | routine _ hr => exact hr.goTo
  | read _ hr => exact hr.goTo
  | unsupported _ _ _ _ _ => exact goTo_nil

end

/-! ## What an operation does to the pointers -/

/-- The pointers of the service, without the objects behind them. -/
structure Wiring where
  initialized : Bool
  prov : Option ProvHandle
  sec : Option SecHandle
  sessionMgr : Option Ref
  securityAccess : Option Ref
  dispatcher : Option ServiceDispatcher

namespace DiagService

def wiring (s : DiagService) : Wiring where
  initialized := s.initialized
  prov := s.prov
  sec := s.sec
  sessionMgr := s.sessionMgr
  securityAccess := s.securityAccess
  dispatcher := s.dispatcher

variable (s : DiagService)

theorem checkS3Timeout_wiring : wp s.checkS3Timeout fun _ s' => s'.wiring = s.wiring := by
  unfold checkS3Timeout
  cases s.sessionMgrs.deref s.sessionMgr with
  | none => rfl
  | some m =>
    simp only [wp_bind, wp_pure]
    exact wp_of_forall fun _ _ => rfl

theorem dispatch_wiring (request : DiagRequest) :
    wp (s.dispatch request) fun _ r => r.2.wiring = s.wiring := by
  unfold dispatch
  cases hd : s.dispatcher with
  | none => rfl
  | some d =>
    simp only
    split
    · simp only [wp_bind, wp_pure]
      refine wp_of_forall ?_
      intro _ _
      simp only [wiring, hd]
    · rfl

theorem processRequest_wiring (request : DiagRequest) :
    wp (s.processRequest request) fun _ r => r.2.wiring = s.wiring := by
  unfold processRequest
  simp only [wp_ite, wp_bind, wp_pure]
  refine ⟨fun _ => trivial, fun _ => ?_⟩
  refine wp_mono s.checkS3Timeout_wiring ?_
  intro _ s₁ hs₁
  refine wp_mono (s₁.dispatch_wiring request) ?_
  intro _ r hr
  exact hr.trans hs₁

theorem processRaw_wiring (transport : TransportAdapter) (raw : Bytes) :
    wp (s.processRaw transport raw) fun _ r => r.2.wiring = s.wiring := by
  unfold processRaw
  simp only [wp_bind, UdsCodec.decodeLogged_wp]
  cases UdsCodec.decode raw { transport := transport.getTransportType } with
  | none => rfl
  | some request =>
    simp only [wp_bind, wp_log]
    refine wp_mono (s.dispatch_wiring request) ?_
    intro _ r hr
    refine wp_of_forall ?_
    intro _ sent
    simp only [wp_ite, wp_bind, wp_log, wp_pure]
    exact ⟨fun _ => hr, fun _ => hr⟩

theorem processPendingRequests_wiring :
    wp s.processPendingRequests fun _ r => r.2.wiring = s.wiring := by
  unfold processPendingRequests
  simp only [wp_ite, wp_bind, wp_pure]
  refine ⟨fun _ => trivial, fun _ => ?_⟩
  refine wp_mono s.checkS3Timeout_wiring ?_
  intro _ s₁ hs₁
  cases s₁.transport with
  | none => exact hs₁
  | some t =>
    simp only [wp_ite, wp_bind, wp_pure]
    refine ⟨?_, ?_⟩
    · intro _
      exact wp_of_forall fun _ _ => hs₁
    · intro _
      refine wp_of_forall ?_
      intro _ r
      refine ⟨fun _ => hs₁, fun _ => ?_⟩
      refine wp_mono (processRaw_wiring _ r.2 r.1) ?_
      intro _ q hq
      exact hq.trans hs₁

/-- The service and its dispatcher share what the dispatcher was built from. -/
structure BuiltFrom (s : DiagService) (prov : Option ProvHandle) (d : ServiceDispatcher) :
    Prop where
  dispatcher : s.dispatcher = some d
  prov : d.prov = prov
  sec : d.sec = s.sec

theorem initializeSubmodules_built (h : s.initialized = false) :
    wp s.initializeSubmodules fun _ r => r.2.prov = s.prov ∧ r.2.sec = s.sec ∧
      (r.2.initialized = true → ∃ d, BuiltFrom r.2 s.prov d) := by
  unfold initializeSubmodules
  simp only [wp_bind]
  refine wp_of_forall ?_
  intro _ m
  cases hsec : s.sec with
  | none =>
    simp only [wp_bind, wp_log, wp_pure, h]
    exact ⟨trivial, trivial, fun hf => by cases hf⟩
  | some sec =>
    cases hprov : s.prov with
    | none =>
      simp only [wp_bind, wp_log, wp_pure, h]
      exact ⟨trivial, trivial, fun hf => by cases hf⟩
    | some prov => exact ⟨rfl, rfl, fun _ => ⟨_, rfl, rfl, rfl⟩⟩

theorem initializeService_built (h : s.initialized = false) :
    wp s.initializeService fun _ r => r.2.prov = s.prov ∧ r.2.sec = s.sec ∧
      (r.2.initialized = true → ∃ d, BuiltFrom r.2 s.prov d) := by
  unfold initializeService
  rw [h]
  simp only [Bool.false_eq_true, if_false, wp_bind, wp_ite, wp_pure]
  refine wp_of_forall ?_
  intro _ result
  refine ⟨?_, fun _ => s.initializeSubmodules_built h⟩
  intro _
  rw [h]
  exact ⟨trivial, trivial, fun hf => by cases hf⟩

theorem shutdown_built : wp s.shutdown fun _ s' => s'.prov = s.prov ∧ s'.sec = s.sec ∧
    s'.initialized = false := by
  unfold shutdown
  simp only [wp_bind, wp_pure]
  exact wp_of_forall fun _ _ => ⟨trivial, trivial, trivial⟩

end DiagService

/-- The step builds a dispatcher for an initialised service. -/
def Builds (s : DiagService) (l : Step) (s' : DiagService) : Prop :=
  s'.initialized = true ∧ (s.initialized = false ∨ ∃ sec, l.op = .setSec sec)

/-- The step leaves an initialised service its dispatcher. -/
def DiagService.Step.keepsDispatcher (l : Step) : Prop :=
  l.op ≠ .shutdown ∧ ∀ sec, l.op ≠ .setSec sec

/-- What one operation does to the pointers. -/
structure Wired (s : DiagService) (l : Step) (s' : DiagService) : Prop where
  prov : s'.prov = l.op.provAfter s.prov
  sec : s'.sec = l.op.secAfter s.sec
  builds : Builds s l s' → l.op.provAfter s.prov = s.prov ∧ ∃ d, BuiltFrom s' s.prov d
  keeps : s.initialized = true → l.keepsDispatcher →
    s'.initialized = true ∧ s'.dispatcher = s.dispatcher
  down : l.op = .shutdown → s'.initialized = false

section
variable {s s' : DiagService} {l : Step}

/-- An operation that leaves the pointers alone. -/
theorem wired_of_wiring (h : s'.wiring = s.wiring) (hp : l.op.provAfter s.prov = s.prov)
    (hs : l.op.secAfter s.sec = s.sec) (hop : l.keepsDispatcher) : Wired s l s' := by
  injection h with hinit hprov hsec _ _ hd
  refine ⟨hprov.trans hp.symm, hsec.trans hs.symm, ?_, ?_, fun hdown => absurd hdown hop.1⟩
  · rintro ⟨hi', hi | ⟨sec, hi⟩⟩
    · rw [hinit, hi] at hi'
      cases hi'
    · exact absurd hi (hop.2 sec)
  · intro hi _
    exact ⟨hinit.trans hi, hd⟩

theorem setSec_built {v : View} (h : Serves s v) (sec : Option SecHandle) :
    ∃ d, BuiltFrom (s.setSec sec) s.prov d := by
  obtain ⟨r, hr, _⟩ := Option.bind_eq_some_iff.mp h.security
  unfold setSec
  simp only [hr, h.dispatcher]
  exact ⟨_, rfl, rfl, rfl⟩

theorem setSec_pointers (sec : Option SecHandle) :
    (s.setSec sec).prov = s.prov ∧ (s.setSec sec).sec = sec := by
  unfold setSec
  cases s.securityAccess <;> cases s.dispatcher <;> exact ⟨rfl, rfl⟩

theorem does_wired {o : Option View} (h : Shows s o) (hs : Does s l s') : Wired s l s' := by
  obtain ⟨op, tr, x⟩ := l
  obtain ⟨lg, hs⟩ := hs
  cases op with
  | processRequest request =>
    have hwp : wp (s.exec (.processRequest request)) fun _ r => r.2.wiring = s.wiring := by
      simp only [exec, wp_bind, wp_pure]
      exact s.processRequest_wiring request
    exact wired_of_wiring (hs.wp hwp) rfl rfl (by simp [Step.keepsDispatcher])
  | processPendingRequests =>
    have hwp : wp (s.exec .processPendingRequests) fun _ r => r.2.wiring = s.wiring :=
      s.processPendingRequests_wiring
    exact wired_of_wiring (hs.wp hwp) rfl rfl (by simp [Step.keepsDispatcher])
  | setTransport transport =>
    cases hs
    exact wired_of_wiring rfl rfl rfl (by simp [Step.keepsDispatcher])
  | setProv prov =>
    cases hs
    refine ⟨rfl, rfl, ?_, fun hi _ => ⟨hi, rfl⟩, fun hdown => by cases hdown⟩
    rintro ⟨hi', hi | ⟨sec, hi⟩⟩
    · have hi'' : s.initialized = true := hi'
      rw [hi] at hi''
      cases hi''
    · cases hi
  | setSec sec =>
    cases hs
    obtain ⟨hp, hsec⟩ := setSec_pointers (s := s) sec
    refine ⟨hp, hsec, ?_, fun _ hk => absurd rfl (hk.2 sec), fun hdown => by cases hdown⟩
    rintro ⟨hi, _⟩
    have hinit := setSec_initialized s sec
    cases o with
    | none =>
      rw [hinit, show s.initialized = false from h] at hi
      cases hi
    | some v => exact ⟨rfl, setSec_built h sec⟩
  | shutdown =>
    have hwp : wp (s.exec .shutdown) fun _ r => r.2.prov = s.prov ∧ r.2.sec = s.sec ∧
        r.2.initialized = false := by
      simp only [exec, wp_bind, wp_pure]
      exact s.shutdown_built
    obtain ⟨hp, hsec, hi⟩ := hs.wp hwp
    refine ⟨hp, hsec, ?_, fun _ hk => absurd rfl hk.1, fun _ => hi⟩
    rintro ⟨hi', _⟩
    rw [hi] at hi'
    cases hi'
  | initializeService =>
    cases hi : s.initialized with
    | true =>
      have hwp : wp (s.exec .initializeService) fun _ r => r.2.wiring = s.wiring := by
        simp [exec, DiagService.initializeService, hi]
      exact wired_of_wiring (hs.wp hwp) rfl rfl (by simp [Step.keepsDispatcher])
    | false =>
      have hwp : wp (s.exec .initializeService) fun _ r => r.2.prov = s.prov ∧ r.2.sec = s.sec ∧
          (r.2.initialized = true → ∃ d, BuiltFrom r.2 s.prov d) := by
        simp only [exec, wp_bind, wp_pure]
        exact s.initializeService_built hi
      obtain ⟨hp, hsec, hbuilt⟩ := hs.wp hwp
      refine ⟨hp, hsec, ?_, ?_, fun hdown => by cases hdown⟩
      · rintro ⟨hi', _⟩
        exact ⟨rfl, hbuilt hi'⟩
      · intro ht
        rw [hi] at ht
        cases ht

end

/-! ## Along a run -/

/-- The dispatcher was last built, for an initialised service, while `prov` was installed. -/
def BuiltWith (prov : Option ProvHandle) (ls : List Step) (s : DiagService) : Prop :=
  ∃ pre l post s₁ s₂, ls = pre ++ l :: post ∧ Run Does {} pre s₁ ∧ Does s₁ l s₂ ∧
    Run Does s₂ post s ∧ Builds s₁ l s₂ ∧ (∀ y ∈ post, y.keepsDispatcher) ∧ lastProv pre = prov

section
variable {s : DiagService} {ls : List Step}

theorem installed_run (h : Run Does {} ls s) : s.prov = lastProv ls ∧ s.sec = lastSec ls := by
  induction h with
  | nil => exact ⟨rfl, rfl⟩
  | snoc hr hs ih =>
    obtain ⟨o, _, hshow⟩ := reach_acts hr
    have hw := does_wired hshow hs
    rw [lastProv_snoc, lastSec_snoc, ← ih.1, ← ih.2]
    exact ⟨hw.prov, hw.sec⟩

theorem DiagService.Step.keepsDispatcher.secAfter {l : Step} (h : l.keepsDispatcher)
    (sec : Option SecHandle) : l.op.secAfter sec = sec := by
  obtain ⟨op, tr, x⟩ := l
  cases op with
  | setSec sec' => exact absurd rfl (h.2 sec')
  | _ => rfl

/-- From a built dispatcher on, as long as it is kept. -/
theorem kept_run {s₁ s₂ : DiagService} {pre post : List Step} {prov : Option ProvHandle}
    {d : ServiceDispatcher} (hpre : Run Does {} pre s₁) (h : Run Does s₁ post s₂)
    (hi : s₁.initialized = true) (hd : BuiltFrom s₁ prov d)
    (hk : ∀ y ∈ post, y.keepsDispatcher) : s₂.initialized = true ∧ BuiltFrom s₂ prov d := by
  induction h with
  | nil => exact ⟨hi, hd⟩
  | @snoc post t u l hr hs ih =>
    obtain ⟨hi, hd⟩ := ih fun y hy => hk y (List.mem_append_left _ hy)
    have hl := hk l (by simp)
    obtain ⟨o, _, hshow⟩ := reach_acts (hpre.append hr)
    have hw := does_wired hshow hs
    obtain ⟨hi', hd'⟩ := hw.keeps hi hl
    refine ⟨hi', hd'.trans hd.dispatcher, hd.prov, ?_⟩
    rw [hw.sec, hl.secAfter]
    exact hd.sec

theorem BuiltWith.built {prov : Option ProvHandle} (h : BuiltWith prov ls s) :
    ∃ d, BuiltFrom s prov d := by
  obtain ⟨pre, l, post, s₁, s₂, rfl, hpre, hl, hpost, hb, hk, rfl⟩ := h
  obtain ⟨o, _, hshow⟩ := reach_acts hpre
  obtain ⟨_, d, hd⟩ := (does_wired hshow hl).builds hb
  rw [(installed_run hpre).1] at hd
  exact ⟨d, (kept_run (hpre.snoc hl) hpost hb.1 hd hk).2⟩

theorem exists_builtWith (h : Run Does {} ls s) (hi : s.initialized = true) :
    ∃ prov, BuiltWith prov ls s := by
  induction h with
  | nil => cases hi
  | @snoc ls t u l hr hs ih =>
    obtain ⟨o, _, hshow⟩ := reach_acts hr
    have hw := does_wired hshow hs
    by_cases hb : Builds t l u
    · exact ⟨_, ls, l, [], t, u, rfl, hr, hs, .nil, hb, by simp, rfl⟩
    · -- nothing was built, so the dispatcher is an earlier one
      have hold : t.initialized = true := by
        by_contra hn
        exact hb ⟨hi, .inl (by simpa using hn)⟩
      have hl : l.keepsDispatcher := by
        refine ⟨?_, ?_⟩
        · intro hdown
          rw [hw.down hdown] at hi
          cases hi
        · intro sec hop
          exact hb ⟨hi, .inr ⟨sec, hop⟩⟩
      obtain ⟨prov, pre, l', post, s₁, s₂, rfl, hpre, hl', hpost, hb', hk, hp⟩ := ih hold
      refine ⟨prov, pre, l', post ++ [l], s₁, s₂, by simp, hpre, hl', hpost.snoc hs, hb', ?_, hp⟩
      intro y hy
      cases List.mem_append.mp hy with
      | inl hy => exact hk y hy
      | inr hy =>
        rw [List.mem_singleton.mp hy]
        exact hl

/-! ## What is used -/

/-- Everything goes to the PROV and the SEC that were installed last: the pointers of the dispatcher
and of the security access object are the current ones, and so are the receivers of all calls. -/
structure UsesInstalled (ls : List Step) (s : DiagService) : Prop where
  wired : ∃ d sa, s.dispatcher = some d ∧ s.currentSecurity = some sa ∧
    d.prov = lastProv ls ∧ d.sec = lastSec ls ∧ sa.sec = lastSec ls ∧
    d.sessionMgr = s.sessionMgr ∧ d.securityAccess = s.securityAccess
  requests : ∀ request tr lg r, Exec (s.processRequest request) tr lg r →
    GoTo (lastProv ls) (lastSec ls) tr
  vehicleInfo : ∀ tr lg r, Exec s.getVehicleInfo tr lg r → GoTo (lastProv ls) (lastSec ls) tr

theorem uses_installed {d : ServiceDispatcher} {v : View} (h : Run Does {} ls s)
    (hs : Serves s v) (hd : BuiltFrom s (lastProv ls) d) : UsesInstalled ls s := by
  obtain ⟨hprov, hsec⟩ := installed_run h
  have hdv : d = v.dispatcher := by
    have hv := hs.dispatcher
    rw [hd.dispatcher] at hv
    exact Option.some.inj hv
  have hdsec : d.sec = lastSec ls := hd.sec.trans hsec
  refine ⟨⟨d, v.managers.securityAccess, hd.dispatcher, hs.security, hd.prov, hdsec, ?_, ?_, ?_⟩,
    ?_, ?_⟩
  · rw [← hs.sec, ← hdv, hdsec]
  · rw [hdv, hs.sessionRef]
  · rw [hdv, hs.securityRef]
  · intro request tr lg r hx
    obtain ⟨tr₀, tr₁, b, m, ms, rfl, hm, hdis, _⟩ := hx.wp (hs.processRequest_wp request)
    have hgo := hdis.goTo hs.sec
    rw [← hdv, hd.prov, hdsec] at hgo
    refine goTo_append.mpr ⟨?_, hgo⟩
    cases hm <;> simp [Cmd.goesTo]
  · intro tr lg r hx
    have hwp : wp s.getVehicleInfo fun tr _ => GoTo (lastProv ls) (lastSec ls) tr := by
      unfold getVehicleInfo
      cases hp : s.prov with
      | none => exact goTo_nil
      | some p =>
        rw [hp] at hprov
        refine (wp_ask _ _).mpr ?_
        intro x
        simp [Cmd.goesTo, ← hprov]
    exact hx.wp hwp

/-- Everything goes to what was installed last exactly when the PROV installed now is the one that
was installed when the dispatcher was built. -/
theorem installed_iff (h : Run Does {} ls s) (hi : s.initialized = true) :
    UsesInstalled ls s ↔ BuiltWith (lastProv ls) ls s := by
  obtain ⟨v, _, hshow⟩ := reach_serves h hi
  constructor
  · intro hu
    obtain ⟨d, sa, hd, _, hprov, _⟩ := hu.wired
    obtain ⟨prov, hbuilt⟩ := exists_builtWith h hi
    obtain ⟨d', hd'⟩ := hbuilt.built
    have hsame : d' = d := by
      have hd'' := hd'.dispatcher
      rw [hd] at hd''
      exact (Option.some.inj hd'').symm
    rw [← hprov, ← hsame, hd'.prov]
    exact hbuilt
  · intro hbuilt
    obtain ⟨d, hd⟩ := hbuilt.built
    exact uses_installed h hshow hd

end

theorem installed_iff_start :
    UsesInstalled (play {} startScript).1 (play {} startScript).2 ↔
      BuiltWith (lastProv (play {} startScript).1) (play {} startScript).1
        (play {} startScript).2 :=
  installed_iff (play_run {} startScript) rfl

/-- PROV is replaced after initialisation. -/
def replacedScript : List (Op × Oracle) := startScript ++ [(.setProv (some 1), obliging 0)]

def readVinRequest : DiagRequest := { serviceId := 0x22, didOrRid := 0xF190 }

/-- The VIN is then still read from the old one. -/
theorem stale_prov :
    let s := (play {} replacedScript).2
    s.Reachable ∧ s.initialized = true ∧ lastProv (play {} replacedScript).1 = some 1 ∧
      (∃ e ∈ (s.playOne (.processRequest readVinRequest) (obliging 0)).1.trace,
        e.cmd = .prov 0 .readVin) ∧
      ¬ UsesInstalled (play {} replacedScript).1 s := by
  refine ⟨⟨_, play_run {} replacedScript, by decide⟩, rfl, rfl,
    ⟨_, List.mem_of_getElem? (i := 1) rfl, rfl⟩, ?_⟩
  intro hu
  obtain ⟨d, sa, hd, _, hprov, _⟩ := hu.wired
  cases hd
  cases hprov

end Diag
end Tbox
