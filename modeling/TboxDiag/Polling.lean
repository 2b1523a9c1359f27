import TboxDiag.VinStore
import TboxDiag.Lib.Coupling
import TboxDiag.Lib.Stutter

/-!
# Polling

Two runs of an initialised service that differ in polls, reads and requests for unknown services.
The S3 timeout may be found out at different times in the two, but nothing is dispatched before it
is: every request sees the state as `checkedAt` its time. With PROV and SEC behind it, whose
answers depend on the calls they got so far, the service gives the same response to every request
they have in common, and is in the same state right after it (`polling_inert`).
-/

namespace Tbox
namespace Diag

open Effects DiagService ServiceDispatcher

/-! ## PROV and SEC -/

/-- What PROV and SEC answer at a time. -/
structure Answering where
  sec : Time → SecHandle → (c : SecCall) → c.Reply
  prov : Time → ProvHandle → (c : ProvCall) → c.Reply

/-- What PROV and SEC answer after the calls made to them so far. -/
abbrev Backend := Trace → Answering

/-- A call to PROV or SEC. -/
def Cmd.delegates : Cmd → Bool
  | .sec _ _ | .prov _ _ => true
  | _ => false

/-- `is_available` and `read_vin` of PROV. -/
def Cmd.looks : Cmd → Bool
  | .prov _ .isAvailable | .prov _ .readVin => true
  | _ => false

def delegated (tr : Trace) : Trace := tr.filter fun e => e.cmd.delegates

/-- The calls to PROV and SEC that do more than look. -/
def effects (tr : Trace) : Trace := (delegated tr).filter fun e => !e.cmd.looks

/-- PROV's `is_available` and `read_vin` have no effect on later answers of PROV or SEC. -/
def Backend.Overlooks (w : Backend) : Prop :=
  ∀ tr e tr', e.cmd.looks = true → w (tr ++ e :: tr') = w (tr ++ tr')

theorem delegated_append (tr tr' : Trace) : delegated (tr ++ tr') = delegated tr ++ delegated tr' :=
  List.filter_append _ _

theorem effects_append (tr tr' : Trace) : effects (tr ++ tr') = effects tr ++ effects tr' := by
  rw [effects, delegated_append, List.filter_append]
  rfl

/-- Calls of which none does more than look. -/
theorem effects_eq_nil {tr : Trace} (h : ∀ e ∈ tr, e.cmd.delegates = true → e.cmd.looks = true) :
    effects tr = [] := by
  rw [effects, List.filter_eq_nil_iff]
  intro e he
  obtain ⟨he, hd⟩ := List.mem_filter.mp he
  simp [h e he hd]

theorem Ticks.effects {tr : Trace} (h : Ticks tr) : effects tr = [] := by
  refine effects_eq_nil ?_
  intro e he hd
  obtain ⟨site, hsite⟩ := h e he
  rw [hsite] at hd
  cases hd

theorem Quiet.effects {tr : Trace} (h : Quiet tr) : effects tr = [] := by
  refine effects_eq_nil ?_
  intro e he hd
  have ha := h e he
  obtain ⟨c, x⟩ := e
  cases c with
  | sec h c => cases ha
  | prov h c => cases ha
  | _ => cases hd

theorem DidRead.effects {d : ServiceDispatcher} {request : DiagRequest} {tr : Trace}
    {response : DiagResponse} (h : d.DidRead request tr response) : effects tr = [] := by
  refine effects_eq_nil ?_
  intro e he _
  obtain ⟨p, _, hc | hc⟩ := h.calls e he <;> rw [hc] <;> rfl

section
variable {w : Backend}

theorem Backend.Overlooks.filter (hw : w.Overlooks) (pre tr : Trace) :
    w (pre ++ tr) = w (pre ++ tr.filter fun e => !e.cmd.looks) := by
  induction tr generalizing pre with
  | nil => rfl
  | cons e tr ih =>
    cases he : e.cmd.looks with
    | true =>
      rw [hw pre e tr he, ih pre]
      simp [he]
    | false =>
      have hrest := ih (pre ++ [e])
      simpa [he] using hrest

/-- What PROV and SEC answer depends on the calls that do more than look. -/
theorem Backend.Overlooks.congr (hw : w.Overlooks) {tr tr' : Trace}
    (h : effects tr = effects tr') : w (delegated tr) = w (delegated tr') := by
  have hall (tr : Trace) : w (delegated tr) = w (effects tr) := hw.filter [] (delegated tr)
  rw [hall tr, hall tr', h]

end

/-! ## The S3 check -/

/-- The session as it is once the S3 timeout was checked at `t`. -/
def SessionManager.checkedAt (m : SessionManager) (t : Time) : SessionManager :=
  if m.session.sessionType ≠ .default ∧ m.s3Expired t then m.timedOut else m

/-- The time since the last TesterPresent only grows. -/
theorem SessionManager.s3Expired.later {m : SessionManager} {t t' : Time} (h : m.s3Expired t)
    (ht : t ≤ t') : m.s3Expired t' := by
  unfold SessionManager.s3Expired at *
  have hmono : elapsedMs t m.session.lastTesterPresentAt ≤
      elapsedMs t' m.session.lastTesterPresentAt :=
    Nat.div_le_div_right (Nat.sub_le_sub_right ht _)
  omega

/-- A later check finds out all that an earlier one does. -/
theorem SessionManager.checkedAt_checkedAt (m : SessionManager) {t t' : Time} (ht : t ≤ t') :
    (m.checkedAt t).checkedAt t' = m.checkedAt t' := by
  by_cases he : m.session.sessionType ≠ .default ∧ m.s3Expired t
  · have hc : m.checkedAt t = m.timedOut := if_pos he
    have hc' : m.checkedAt t' = m.timedOut := if_pos ⟨he.1, he.2.later ht⟩
    rw [hc, hc']
    exact if_neg fun h => h.1 rfl
  · have hc : m.checkedAt t = m := if_neg he
    rw [hc]

theorem SessionManager.S3Checked.checkedAt {m m' : SessionManager} {tr : Trace} {b : Bool}
    {t : Time} (h : m.S3Checked tr b m') (ht : ∀ e ∈ tr, e.cmd = .now .s3Check → timeOf e = t) :
    m' = m.checkedAt t := by
  cases h with
  | default hd => exact (if_neg fun h => h.1 hd).symm
  | @live x _ he =>
    have hx : x.time = t := ht ⟨.now .s3Check, x⟩ (by simp) rfl
    rw [hx] at he
    exact (if_neg fun h => he h.2).symm
  | @expired x hd he =>
    have hx : x.time = t := ht ⟨.now .s3Check, x⟩ (by simp) rfl
    rw [hx] at he
    exact (if_pos ⟨hd, he⟩).symm

namespace DiagService

/-- The service once the S3 timeout was checked at `t`. -/
def checkedAt (s : DiagService) (t : Time) : DiagService :=
  match s.sessionMgrs.deref s.sessionMgr with
  | none => s
  | some m => { s with sessionMgrs := s.sessionMgrs.store s.sessionMgr (m.checkedAt t) }

@[simp] theorem checkedAt_initialized (s : DiagService) (t : Time) :
    (s.checkedAt t).initialized = s.initialized := by
  unfold checkedAt
  cases s.sessionMgrs.deref s.sessionMgr <;> rfl

theorem checkedAt_checkedAt (s : DiagService) {t t' : Time} (ht : t ≤ t') :
    (s.checkedAt t).checkedAt t' = s.checkedAt t' := by
  cases hm : s.sessionMgrs.deref s.sessionMgr with
  | none => simp [checkedAt, hm]
  | some m =>
    have hstored := Heap.store_deref hm (m.checkedAt t)
    simp [checkedAt, hm, hstored, m.checkedAt_checkedAt ht]

end DiagService

/-! ## What reaches the service -/

inductive Input where
  | poll
  | request (request : DiagRequest)
  | frame (transport : TransportAdapter) (raw : Bytes)
  | pending

/-- ReadDataByIdentifier, or a service that is not supported. -/
def harmless (serviceId : UInt8) : Prop :=
  serviceId = UdsService.readDataByIdentifier ∨
    serviceId ≠ UdsService.diagnosticSessionControl ∧ serviceId ≠ UdsService.testerPresent ∧
      serviceId ≠ UdsService.securityAccess ∧ serviceId ≠ UdsService.routineControl

/-- A poll, or a request for a harmless service. -/
def Input.idle : Input → Prop
  | .poll => True
  | .request r => harmless r.serviceId
  | .frame _ raw => ∀ serviceId ∈ raw.head?, harmless serviceId
  | .pending => False

theorem Dispatched.of_harmless {d : ServiceDispatcher} {ms ms' : Managers} {request : DiagRequest}
    {tr : Trace} {response : DiagResponse} (h : d.Dispatched ms request tr response ms')
    (hs : harmless request.serviceId) : effects tr = [] ∧ ms' = ms := by
  obtain hr | ⟨h₁, h₂, h₃, h₄⟩ := hs
  · obtain ⟨hread, hms⟩ := h.of_read hr
    exact ⟨DidRead.effects hread, hms⟩
  · cases h with
    | session hs _ => exact absurd hs h₁
    | testerPresent hs _ => exact absurd hs h₂
    | badLevel hs _ _ | seed hs _ _ | key hs _ _ => exact absurd hs h₃
    | routine hs _ => exact absurd hs h₄
    | read _ hread => exact ⟨DidRead.effects hread, rfl⟩
    | unsupported _ _ _ _ _ => exact ⟨rfl, rfl⟩

namespace DiagService

/-- What is done once the S3 timeout was checked. -/
def serve (s : DiagService) : Input → M (Option Exchange × DiagService)
  | .poll => pure (none, s)
  | .request request => do
    let (response, s) ← s.dispatch request
    pure (some ⟨request, response⟩, s)
  | .frame transport raw => s.processRaw transport raw
  | .pending =>
    match s.transport with
    | none => pure (none, s)
    | some transport =>
      if !transport.isConnected then do
        let (_, transport) ← transport.connect
        pure (none, { s with transport := some transport })
      else do
        let (raw, transport) ← transport.receive 0
        let s := { s with transport := some transport }
        if raw.isEmpty then
          pure (none, s)
        else
          s.processRaw transport raw

def take (s : DiagService) : Input → M (Option Exchange × DiagService)
  | .poll => do
    let s ← s.checkS3Timeout
    pure (none, s)
  | .request request => do
    let (response, s) ← s.processRequest request
    pure (some ⟨request, response⟩, s)
  | .frame transport raw => s.handleFrame transport raw
  | .pending => s.processPendingRequests

/-- Whatever comes in, the S3 timeout is checked first. -/
theorem take_eq {s : DiagService} (hi : s.initialized = true) (i : Input) :
    s.take i = s.checkS3Timeout >>= fun s => s.serve i := by
  cases i with
  | poll => rfl
  | request request =>
    simp only [take, processRequest, hi, Bool.not_true, Bool.false_eq_true, if_false]
    exact Prog.bind_assoc _ _ _
  | frame transport raw => rfl
  | pending =>
    simp only [take, processPendingRequests, hi, Bool.not_true, Bool.false_eq_true, if_false]
    rfl

theorem dispatch_initialized (s : DiagService) (request : DiagRequest) :
    wp (s.dispatch request) fun _ r => r.2.initialized = s.initialized := by
  unfold dispatch
  cases s.dispatcher with
  | none => rfl
  | some d =>
    dsimp only
    cases s.sessionMgrs.deref d.sessionMgr with
    | none => rfl
    | some m =>
      cases s.securityAccesses.deref d.securityAccess with
      | none => rfl
      | some sa =>
        rw [wp_bind]
        exact wp_of_forall fun _ _ => rfl

theorem processRaw_initialized (s : DiagService) (transport : TransportAdapter) (raw : Bytes) :
    wp (s.processRaw transport raw) fun _ r => r.2.initialized = s.initialized := by
  unfold processRaw
  simp only [wp_bind]
  refine wp_of_forall ?_
  intro tr decoded
  cases decoded with
  | none => rfl
  | some request =>
    simp only [wp_bind, wp_log]
    refine wp_mono (s.dispatch_initialized request) ?_
    intro tr r hr
    refine wp_of_forall ?_
    intro tr' sent
    simp only [wp_ite, wp_bind, wp_log, wp_pure]
    exact ⟨fun _ => hr, fun _ => hr⟩

theorem serve_initialized (s : DiagService) (i : Input) :
    wp (s.serve i) fun _ r => r.2.initialized = s.initialized := by
  cases i with
  | poll => rfl
  | request request =>
    simp only [serve, wp_bind]
    exact wp_mono (s.dispatch_initialized request) fun _ _ h => h
  | frame transport raw => exact s.processRaw_initialized transport raw
  | pending =>
    unfold serve
    cases s.transport with
    | none => rfl
    | some transport =>
      simp only [wp_ite, wp_bind, wp_pure]
      refine ⟨fun _ => wp_of_forall fun _ _ => trivial, ?_⟩
      intro _
      refine wp_of_forall ?_
      intro tr r
      exact ⟨fun _ => trivial, fun _ => processRaw_initialized _ _ _⟩

theorem dispatch_harmless (s : DiagService) {request : DiagRequest}
    (h : harmless request.serviceId) :
    wp (s.dispatch request) fun tr r => effects tr = [] ∧ r.2 = s := by
  unfold dispatch
  cases hdisp : s.dispatcher with
  | none => exact ⟨rfl, rfl⟩
  | some d =>
    dsimp only
    cases hm : s.sessionMgrs.deref d.sessionMgr with
    | none => exact ⟨rfl, rfl⟩
    | some m =>
      cases hsa : s.securityAccesses.deref d.securityAccess with
      | none => exact ⟨rfl, rfl⟩
      | some sa =>
        simp only [wp_bind, wp_pure, List.append_nil]
        refine wp_mono (d.dispatch_wp ⟨m, sa⟩ request) ?_
        intro tr r hr
        obtain ⟨heffects, hms⟩ := Dispatched.of_harmless hr h
        rw [hms, Heap.store_self hm, Heap.store_self hsa, ← hdisp]
        exact ⟨heffects, rfl⟩

theorem processRaw_harmless (s : DiagService) (transport : TransportAdapter) {raw : Bytes}
    (h : ∀ serviceId ∈ raw.head?, harmless serviceId) :
    wp (s.processRaw transport raw) fun tr r => effects tr = [] ∧ r.2 = s := by
  unfold processRaw
  simp only [wp_bind]
  rw [UdsCodec.decodeLogged_wp]
  cases hd : UdsCodec.decode raw { transport := transport.getTransportType } with
  | none => exact ⟨rfl, rfl⟩
  | some request =>
    simp only [wp_bind, wp_log]
    refine wp_mono (s.dispatch_harmless (h _ (UdsCodec.decode_serviceId hd))) ?_
    intro tr r hr
    refine wp_mono (TransportAdapter.send_aside transport _) ?_
    intro tr' sent hquiet
    have heffects : effects (tr ++ tr') = [] := by
      rw [effects_append, hr.1, Quiet.effects hquiet]
      rfl
    simp only [wp_ite, wp_bind, wp_log, wp_pure, List.append_nil, List.nil_append]
    exact ⟨fun _ => ⟨heffects, hr.2⟩, fun _ => ⟨heffects, hr.2⟩⟩

/-- Nothing but a look at PROV comes of an idle input. -/
theorem serve_idle (s : DiagService) {i : Input} (h : i.idle) :
    wp (s.serve i) fun tr r => effects tr = [] ∧ r.2 = s := by
  cases i with
  | poll => exact ⟨rfl, rfl⟩
  | request request =>
    simp only [serve, wp_bind, wp_pure, List.append_nil]
    exact s.dispatch_harmless h
  | frame transport raw => exact s.processRaw_harmless transport h
  | pending => exact absurd h id

/-- The check leaves the service as it is at the time the clock shows. -/
theorem checkS3Timeout_checked (s : DiagService) (t : Time) :
    wp s.checkS3Timeout fun tr s' => Ticks tr ∧
      ((∀ e ∈ tr, e.cmd = .now .s3Check → timeOf e = t) → s' = s.checkedAt t) := by
  unfold checkS3Timeout checkedAt
  cases s.sessionMgrs.deref s.sessionMgr with
  | none => exact ⟨ticks_nil, fun _ => rfl⟩
  | some m =>
    simp only [wp_bind, wp_pure, List.append_nil]
    refine wp_mono m.checkS3Timeout_wp ?_
    intro tr r hr
    refine ⟨hr.ticks, ?_⟩
    intro ht
    rw [hr.checkedAt ht]

end DiagService

/-! ## Runs -/

/-- An input with the outside around it; the oracle tells the time of every call, and answers for
all but PROV and SEC. -/
structure Slot where
  input : Input
  oracle : Oracle
  inserted : Bool
  idle : inserted = true → input.idle

/-- When the S3 timeout is checked. -/
def Slot.time (x : Slot) : Time := (x.oracle (.now .s3Check)).time

/-- The outside of a slot. -/
def Backend.world (w : Backend) (o : Oracle) (tr : Trace) : (c : Cmd) → Stamped c.Reply
  | .sec h c => ⟨(o (.sec h c)).time, (w (delegated tr)).sec (o (.sec h c)).time h c⟩
  | .prov h c => ⟨(o (.prov h c)).time, (w (delegated tr)).prov (o (.prov h c)).time h c⟩
  | .now site => o (.now site)
  | .sock c => o (.sock c)
  | .loadConfig => o .loadConfig
  | .getSection name => o (.getSection name)

theorem Backend.world_time (w : Backend) (o : Oracle) (tr : Trace) (c : Cmd) :
    (w.world o tr c).time = (o c).time := by
  cases c <;> rfl

theorem Backend.Overlooks.world {w : Backend} (hw : w.Overlooks) (o : Oracle)
    {tr tr' : Trace} (h : effects tr = effects tr') : w.world o tr = w.world o tr' := by
  funext c
  cases c with
  | sec h' c => simp only [Backend.world, hw.congr h]
  | prov h' c => simp only [Backend.world, hw.congr h]
  | _ => rfl

/-- The service, and the calls made up to now. -/
abbrev Setting := DiagService × Trace

/-- Take the input of a slot: the exchange and the service after it, and the new setting. -/
def Backend.handle (w : Backend) (x : Setting) (slot : Slot) :
    (Option Exchange × DiagService) × Setting :=
  let r := (x.1.take slot.input).play (w.world slot.oracle) x.2
  (r.2, r.2.2, x.2 ++ r.1)

/-- What is seen of the slots that were not inserted. -/
def Backend.observe (w : Backend) (x : Setting) (slots : List Slot) :
    List (Option Exchange × DiagService) :=
  watch w.handle (fun slot => !slot.inserted) x slots

/-- Two settings that differ, from time `t` on, in what was looked up and in whether the S3
timeout was found out already. -/
structure Agree (t : Time) (x y : Setting) : Prop where
  initialized : x.1.initialized = true
  initialized' : y.1.initialized = true
  effects : effects x.2 = effects y.2
  checked : ∀ t', t ≤ t' → x.1.checkedAt t' = y.1.checkedAt t'

section
variable {w : Backend} {x : Setting}

/-- Every input is served on the service as it is at the time of the slot. -/
theorem Backend.handle_eq (hi : x.1.initialized = true) (slot : Slot) :
    ∃ tr, effects tr = [] ∧
      w.handle x slot =
        let q := ((x.1.checkedAt slot.time).serve slot.input).play (w.world slot.oracle)
          (x.2 ++ tr)
        (q.2, q.2.2, x.2 ++ tr ++ q.1) := by
  let r := x.1.checkS3Timeout.play (w.world slot.oracle) x.2
  have hr := wp_play (x.1.checkS3Timeout_checked slot.time) (w.world slot.oracle) x.2
  have hs : r.2 = x.1.checkedAt slot.time := by
    refine hr.2 ?_
    intro e he hcmd
    obtain ⟨hist, hans⟩ := play_answers _ _ _ e he
    rw [timeOf, hans, Backend.world_time, hcmd]
    rfl
  refine ⟨r.1, hr.1.effects, ?_⟩
  rw [← hs]
  simp only [Backend.handle, take_eq hi, play_bind, List.append_assoc]
  rfl

theorem Backend.Overlooks.stutters (hw : w.Overlooks) :
    Stutters w.handle (fun slot => !slot.inserted) Slot.time Agree := by
  constructor
  · intro t x y slot hxy ht _
    obtain ⟨tr, htr, hx⟩ := w.handle_eq hxy.initialized slot
    obtain ⟨tr', htr', hy⟩ := w.handle_eq hxy.initialized' slot
    have hchecked := hxy.checked slot.time ht
    have heffects : effects (x.2 ++ tr) = effects (y.2 ++ tr') := by
      rw [effects_append, effects_append, htr, htr', hxy.effects]
    have hworld (tr₀ : Trace) :
        w.world slot.oracle (x.2 ++ tr ++ tr₀) = w.world slot.oracle (y.2 ++ tr' ++ tr₀) := by
      refine hw.world slot.oracle ?_
      rw [effects_append, effects_append (y.2 ++ tr'), heffects]
    have hplay := play_congr hworld ((y.1.checkedAt slot.time).serve slot.input)
    rw [hx, hy, hchecked, hplay]
    refine ⟨rfl, ?_⟩
    have hinit := wp_play ((y.1.checkedAt slot.time).serve_initialized slot.input)
      (w.world slot.oracle) (y.2 ++ tr')
    rw [checkedAt_initialized, hxy.initialized'] at hinit
    refine ⟨hinit, hinit, ?_, fun _ _ => rfl⟩
    rw [effects_append, effects_append (y.2 ++ tr'), heffects]
  · intro t x y slot hxy ht hinserted
    obtain ⟨tr, htr, hx⟩ := w.handle_eq hxy.initialized slot
    have hidle := slot.idle (by simpa using hinserted)
    obtain ⟨heffects, hs⟩ := wp_play ((x.1.checkedAt slot.time).serve_idle hidle)
      (w.world slot.oracle) (x.2 ++ tr)
    rw [hx]
    constructor
    · simp only [hs, checkedAt_initialized, hxy.initialized]
    · exact hxy.initialized'
    · simp only [effects_append, heffects, htr, List.append_nil, hxy.effects]
    · intro t' ht'
      simp only [hs, checkedAt_checkedAt _ ht']
      exact hxy.checked t' (ht.trans ht')

end

/-- Polls, reads and requests for unknown services, inserted anywhere and at any time in between,
change neither the response to any other input nor the service right after it. -/
theorem polling_inert {w : Backend} (hw : w.Overlooks) {s : DiagService}
    (hi : s.initialized = true) (tr : Trace) {slots : List Slot}
    (hsorted : slots.Pairwise fun x y => x.time ≤ y.time) :
    w.observe (s, tr) slots = w.observe (s, tr) (slots.filter fun slot => !slot.inserted) := by
  have hagree : Agree 0 (s, tr) (s, tr) := ⟨hi, hi, rfl, fun _ _ => rfl⟩
  exact hw.stutters.watch_filter hagree (fun slot _ => Nat.zero_le slot.time) hsorted

/-- A poll finds out the S3 timeout, and a DID is read, before the next request comes. -/
theorem polling_inert_owned :
    let w : Backend := fun _ => ⟨fun t h c => (obliging t (.sec h c)).reply,
      fun t h c => (obliging t (.prov h c)).reply⟩
    let poll : Slot := ⟨.poll, obliging (millis 6000), true, fun _ => trivial⟩
    let read : Slot :=
      ⟨.request { serviceId := 0x22, didOrRid := 0xF190 }, obliging (millis 6001), true,
        fun _ => .inl rfl⟩
    let late : Slot :=
      ⟨.request { serviceId := 0x3E, sourceAddress := 1 }, obliging (millis 6002), false,
        fun h => absurd h (by decide)⟩
    w.observe (ownedService, []) [poll, read, late] = w.observe (ownedService, []) [late] := by
  intro w poll read late
  exact polling_inert (w := w) (fun _ _ _ _ => rfl) rfl [] (by decide)

end Diag
end Tbox
