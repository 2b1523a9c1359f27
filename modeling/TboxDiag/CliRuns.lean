import TboxDiag.CliCommands
import TboxDiag.SecurityHistory

/-!
# CliRuns

What a call of the command line client can do to the box. Its service is a fresh one, locked and in
the default session, and one request is not enough to change that for a second: only `write_vin`,
which puts four requests to the same service, sends SEC a key or has PROV or SEC do anything
(`only_write_vin_acts`). `WriteVinRun` lists all that `write_vin` can do.
-/

namespace Tbox
namespace Diag

open Effects ServiceDispatcher

namespace DiagCli

/-! ## The fresh service -/

/-- As the service is when its initialisation has succeeded, with `p` and `q` installed. -/
structure Fresh (p : ProvHandle) (q : SecHandle) (s : DiagService) (v : View) : Prop where
  serves : Serves s v
  prov : v.dispatcher.prov = some p
  sec : v.dispatcher.sec = some q
  session : v.managers.sessionMgr.session.sessionType = .default
  state : v.managers.sessionMgr.session.state = .idle
  security : v.managers.securityAccess = .create (some q)

section
variable {p : ProvHandle} {q : SecHandle} {s : DiagService} {v : View}

/-- No section of the configuration raised an exception. -/
def ConfigRead (tr : Trace) : Prop :=
  ∀ e ∈ tr, ∀ name t what, e ≠ ⟨.getSection name, ⟨t, .threw what⟩⟩

theorem configRead_append {tr tr' : Trace} :
    ConfigRead (tr ++ tr') ↔ ConfigRead tr ∧ ConfigRead tr' := by
  simp only [ConfigRead, List.mem_append, or_imp, forall_and]

theorem applySections_read (names : List String) :
    wp (DiagService.applySections names) fun tr result =>
      result = .success ↔ ConfigRead tr := by
  induction names with
  | nil => simp [DiagService.applySections, ConfigRead]
  | cons name names ih =>
    unfold DiagService.applySections
    rw [wp_ask_bind]
    intro x
    obtain ⟨t, reply⟩ := x
    cases reply with
    | threw what => simp [ConfigRead]
    | absent =>
      refine wp_mono ih ?_
      intro tr result h
      rw [h]
      simp [ConfigRead]
    | present =>
      simp only [wp_bind, wp_log, List.nil_append]
      refine wp_mono ih ?_
      intro tr result h
      rw [h]
      simp [ConfigRead]

theorem loadConfig_read :
    wp DiagService.loadConfig fun tr result => result = .success ↔ ConfigRead tr := by
  unfold DiagService.loadConfig
  rw [wp_ask_bind]
  intro x
  obtain ⟨t, reply⟩ := x
  cases reply with
  | snapshot =>
    refine wp_mono (applySections_read _) ?_
    intro tr result h
    rw [h]
    simp [ConfigRead]
  | _ => simp [ConfigRead]

theorem initializeSubmodules_fresh (hprov : s.prov = some p) (hsec : s.sec = some q) :
    wp s.initializeSubmodules fun tr r => Quiet tr ∧ ConfigRead tr ∧ r.1 = .success ∧
      ∃ v, Fresh p q r.2 v := by
  unfold DiagService.initializeSubmodules SessionManager.create
  simp only [wp_bind, wp_now, wp_pure, hsec, hprov]
  intro t
  let m : SessionManager := { session := { lastTesterPresentAt := t.time } }
  refine ⟨?_, by simp [ConfigRead], trivial, ⟨_, ⟨m, .create (some q)⟩⟩, {
    serves := {
      initialized := rfl
      dispatcher := rfl
      sessionRef := rfl
      securityRef := rfl
      session := Heap.alloc_deref _ _
      security := Heap.alloc_deref _ _
      sec := rfl }
    prov := rfl
    sec := rfl
    session := rfl
    state := rfl
    security := rfl }⟩
  intro e he
  rw [List.mem_singleton.mp he]
  exact trivial

/-- The initialisation fails with the configuration, and otherwise leaves a fresh service. -/
theorem initializeService_fresh (hi : s.initialized = false) (hprov : s.prov = some p)
    (hsec : s.sec = some q) :
    wp s.initializeService fun tr r => Quiet tr ∧ (r.1 = .success ↔ ConfigRead tr) ∧
      (r.1 = .success → ∃ v, Fresh p q r.2 v) := by
  unfold DiagService.initializeService
  rw [hi]
  simp only [Bool.false_eq_true, if_false, wp_bind]
  refine wp_mono (wp_and loadConfig_aside loadConfig_read) ?_
  rintro tr result ⟨hquiet, hread⟩
  rw [wp_ite]
  refine ⟨?_, ?_⟩
  · intro hne
    rw [wp_pure, List.append_nil]
    exact ⟨hquiet, hread, fun h => absurd h hne⟩
  · intro hok
    rw [not_not] at hok
    refine wp_mono (initializeSubmodules_fresh hprov hsec) ?_
    rintro tr' r ⟨hq, hread', hr, hfresh⟩
    refine ⟨quiet_append hquiet hq, ?_, fun _ => hfresh⟩
    rw [configRead_append, ← hread]
    exact iff_of_true hr ⟨hok, hread'⟩

end

/-! ## One request -/

section
variable {d : ServiceDispatcher} {ms ms' : Managers} {request : DiagRequest} {tr : Trace}
  {response : DiagResponse}

theorem withSec_plain {K : SecHandle → Trace → DiagResponse → Prop}
    (h : d.WithSec ms.securityAccess K tr response) (hu : ms.unlocked = false) : Plain tr := by
  cases h with
  | locked _ => simp
  | noSec _ => simp
  | unavailable _ _ => simp [Cmd.plain]
  | ready hn _ _ _ =>
    have hu' : ms.securityAccess.unlocked UdsSecurityLevel.level1 = false := hu
    simp [hn] at hu'

/-- Without a seed and locked, nothing is sent to SEC or PROV that matters. -/
theorem dispatched_plain (h : Dispatched d ms request tr response ms')
    (hseed : (ms.securityAccess.entry 1).seedRequested = false) (hu : ms.unlocked = false) :
    Plain tr := by
  cases h with
  | session _ hm => exact hm.ticks.plain
  | testerPresent _ hm => exact hm.ticks.plain
  | badLevel _ _ _ => simp
  | seed _ _ hq =>
    cases hq with
    | noSec _ => simp
    | unavailable _ _ => simp [Cmd.plain]
    | lockedOut _ _ hl => simp [Cmd.plain, hl.ticks.plain]
    | noSeed _ _ hl _ => simp [Cmd.plain, hl.ticks.plain]
    | issued _ _ hl _ => simp [Cmd.plain, hl.ticks.plain]
  | key _ _ hq =>
    cases hq with
    | noSec _ => simp
    | unavailable _ _ => simp [Cmd.plain]
    | lockedOut _ _ hl => simp [Cmd.plain, hl.ticks.plain]
    | noSeed _ _ hl _ => simp [Cmd.plain, hl.ticks.plain]
    | rejected _ _ _ hs _ _ | accepted _ _ _ hs _ =>
      rw [SecurityAccess.seedLevelOfKey_two] at hs
      simp [hseed] at hs
  | routine _ hr =>
    cases hr with
    | generateKeyPair _ _ hw => exact withSec_plain hw hu
    | readCsr _ _ hw => exact withSec_plain hw hu
    | injectCertificate _ _ hw => exact withSec_plain hw hu
    | writeVin hn _ _ _ _ => simp [hn] at hu
    | unavailable _ _ _ => simp [Cmd.plain]
    | outOfRange _ _ _ => simp [Cmd.plain]
    | _ => simp
  | read _ hr => exact hr.plain
  | unsupported _ _ _ _ _ => simp

variable {p : ProvHandle} {q : SecHandle} {s : DiagService} {v : View}

theorem Fresh.entry (h : Fresh p q s v) (level : UInt8) :
    v.managers.securityAccess.entry level = {} := by
  rw [h.security]
  rfl

theorem Fresh.locked (h : Fresh p q s v) : v.managers.unlocked = false := by
  rw [Managers.unlocked, SecurityAccess.unlocked, h.entry]

/-- The session of a fresh service cannot expire. -/
theorem Fresh.handled (h : Fresh p q s v) (request : DiagRequest) :
    wp (s.processRequest request) fun tr r => ∃ ms,
      Dispatched v.dispatcher v.managers request tr r.1 ms ∧
        Serves r.2 { v with managers := ms } := by
  refine wp_mono (h.serves.processRequest_wp request) ?_
  rintro tr r ⟨tr₀, tr₁, b, m, ms, rfl, hm, hd, hs⟩
  cases hm with
  | default _ => exact ⟨ms, hd, hs⟩
  | live hn _ | expired hn _ => exact absurd h.session hn

theorem Fresh.processRequest_plain (h : Fresh p q s v) (request : DiagRequest) :
    wp (s.processRequest request) fun tr _ => Plain tr := by
  refine wp_mono (h.handled request) ?_
  rintro tr r ⟨ms, hd, -⟩
  exact dispatched_plain hd (by rw [h.entry]) h.locked

theorem Fresh.send_plain (h : Fresh p q s v) (request : DiagRequest) :
    wp (send s request) fun tr _ => Plain tr := by
  unfold send
  simp only [wp_bind, wp_pure, List.append_nil]
  exact h.processRequest_plain request

/-- The arguments name the command that writes a VIN, and give one. -/
def WritesVin (argv : List Bytes) (vin : Bytes) : Prop :=
  ∃ rest, commandLine argv = asciiBytes "write_vin" :: vin :: rest

theorem Fresh.run_plain (h : Fresh p q s v) {command : Bytes} {args : List Bytes}
    (hn : ¬ ∃ vin rest, command :: args = asciiBytes "write_vin" :: vin :: rest) :
    wp (run s command args) fun tr _ => Plain tr := by
  have branch (name : String) {x y : M (Exit × List Line)}
      (hx : command = asciiBytes name → wp x fun tr _ => Plain tr)
      (hy : wp y fun tr _ => Plain tr) :
      wp (if command = asciiBytes name then x else y) fun tr _ => Plain tr :=
    (wp_ite ..).mpr ⟨hx, fun _ => hy⟩
  unfold run
  refine branch "init" (fun _ => plain_nil) ?_
  refine branch "session" (fun _ => ?_) ?_
  · cases args with
    | nil => exact plain_nil
    | cons sessionType _ =>
      cases hs : sessionId? sessionType with
      | none => simp [hs]
      | some sessionId => simpa [hs] using h.send_plain (sessionRequest sessionId)
  refine branch "tester_present" (fun _ => h.send_plain _) ?_
  refine branch "security_access" (fun _ => ?_) ?_
  · cases args with
    | nil => exact plain_nil
    | cons level _ =>
      cases hl : stoi16 level with
      | none => simp [hl]
      | some l => simpa [hl] using h.send_plain (seedRequest (UInt8.ofInt l))
  refine branch "send_key" (fun _ => ?_) ?_
  · cases args with
    | nil => exact plain_nil
    | cons level args =>
      cases args with
      | nil => exact plain_nil
      | cons key _ =>
        cases hl : stoi16 level with
        | none => simp [hl]
        | some l =>
          cases hk : hexToBytes key with
          | none => simp [hl, hk]
          | some k => simpa [hl, hk] using h.send_plain (keyRequest (UInt8.ofInt l) k)
  refine branch "read_vin" (fun _ => ?_) ?_
  · unfold readVin
    simp only [wp_bind, wp_pure, List.append_nil]
    exact h.processRequest_plain _
  refine branch "read_binding" (fun _ => h.send_plain _) ?_
  refine branch "write_vin" (fun hc => ?_) ?_
  · cases args with
    | nil => exact plain_nil
    | cons vin rest => exact absurd ⟨vin, rest, by rw [hc]⟩ hn
  refine branch "generate_key_pair" (fun _ => h.send_plain _) ?_
  refine branch "read_csr" (fun _ => ?_) ?_
  · unfold readCsr
    simp only [wp_bind, wp_pure, List.append_nil]
    exact h.processRequest_plain _
  refine branch "inject_cert" (fun _ => ?_) ?_
  · cases args with
    | nil => exact plain_nil
    | cons cert _ =>
      cases hc : hexToBytes cert with
      | none => simp [hc]
      | some c => simpa [hc] using h.send_plain (routineRequest Rid.injectCertificate c)
  refine branch "raw" (fun _ => ?_) ?_
  · cases args with
    | nil => exact plain_nil
    | cons hex _ =>
      cases hb : hexToBytes hex with
      | none => simp [hb]
      | some bytes =>
        cases hr : rawRequest bytes with
        | none => simp [hb, hr]
        | some request => simpa [hb, hr] using h.send_plain request
  exact branch "status" (fun _ => plain_nil) plain_nil

/-! ## The program up to its command -/

/-- The program gets as far as a service. -/
def Environment.Starts (env : Environment) (tr : Trace) : Prop :=
  env.provConnects = true ∧ env.secConnects = true ∧ ConfigRead tr

theorem main_fresh {env : Environment} {argv : List Bytes} {command : Bytes} {args : List Bytes}
    {Q : Trace → Exit × List Line → Prop} (hargs : commandLine argv = command :: args)
    (hfail : ∀ tr lines, Quiet tr → ¬ env.Starts tr → Q tr (.code 1, lines))
    (hrun : ∀ tr s v lines, Quiet tr → env.provConnects = true → env.secConnects = true →
      ConfigRead tr → Fresh env.prov env.sec s v →
      wp (run s command args) fun tr' r => Q (tr ++ tr') (r.1, lines ++ r.2)) :
    wp (main env argv) Q := by
  unfold main
  rw [hargs]
  simp only [wp_ite, Bool.not_eq_true', Bool.not_eq_false]
  refine ⟨?_, fun hp => ⟨?_, fun hq => ?_⟩⟩
  · intro hp
    exact hfail [] _ quiet_nil (by simp [Environment.Starts, hp])
  · intro hq
    exact hfail [] _ quiet_nil (by simp [Environment.Starts, hq])
  rw [wp_bind]
  refine wp_mono (initializeService_fresh (p := env.prov) (q := env.sec) rfl rfl rfl) ?_
  rintro tr ⟨result, s⟩ ⟨hquiet, hread, hfresh⟩
  rw [wp_ite]
  refine ⟨fun hne => ?_, fun hok => ?_⟩
  · rw [wp_pure, List.append_nil]
    exact hfail tr _ hquiet fun h => hne (hread.mpr h.2.2)
  · rw [not_not] at hok
    obtain ⟨v, hv⟩ := hfresh hok
    simp only [wp_bind, wp_pure, List.append_nil]
    exact hrun tr s v _ hquiet hp hq (hread.mp hok) hv

/-- No command but `write_vin` sends SEC a key, or has SEC or PROV carry anything out. -/
theorem only_write_vin_acts {env : Environment} {argv : List Bytes} {tr : Trace}
    {lg : List LogRecord} {r : Exit × List Line} (hx : Exec (main env argv) tr lg r)
    (hn : ∀ vin, ¬ WritesVin argv vin) : Plain tr := by
  refine hx.wp (Q := fun tr _ => Plain tr) ?_
  cases hargs : commandLine argv with
  | nil =>
    unfold main
    rw [hargs]
    exact plain_nil
  | cons command args =>
    refine main_fresh hargs (fun tr _ hquiet _ => hquiet.plain) ?_
    intro tr s v lines hquiet _ _ _ hfresh
    refine wp_mono (hfresh.run_plain ?_) ?_
    · rintro ⟨vin, rest, heq⟩
      exact hn vin ⟨rest, hargs.trans heq⟩
    · intro tr' _ hp
      simpa using ⟨hquiet.plain, hp⟩

/-- Both connect. -/
def connected : Environment :=
  { provPath := asciiBytes "/tmp/tbox-prov.sock", provConnects := true, prov := 0
    secPath := asciiBytes "/tmp/tbox-sec.sock", secConnects := true, sec := 0 }

theorem only_write_vin_acts_keyPair :
    let argv := [asciiBytes "generate_key_pair"]
    Plain ((main connected argv).run (obliging 0)).1 := by
  intro argv
  refine only_write_vin_acts (exec_run (obliging 0) (main connected argv)) ?_
  rintro vin ⟨rest, h⟩
  cases h

/-! ## Writing a VIN -/

/-- A call to SEC or PROV. -/
def toPeer : Cmd → Bool
  | .sec _ _ => true
  | .prov _ _ => true
  | _ => false

/-- What the service asks SEC and PROV, and what they answer. -/
def peers (tr : Trace) : Trace := tr.filter fun e => toPeer e.cmd

@[simp] theorem peers_nil : peers [] = [] := rfl

@[simp] theorem peers_append (tr tr' : Trace) : peers (tr ++ tr') = peers tr ++ peers tr' := by
  simp [peers]

@[simp] theorem peers_sec (c : SecCall) (x : Stamped c.Reply) (tr : Trace) :
    peers (⟨.sec q c, x⟩ :: tr) = ⟨.sec q c, x⟩ :: peers tr := rfl

@[simp] theorem peers_prov (c : ProvCall) (x : Stamped c.Reply) (tr : Trace) :
    peers (⟨.prov p c, x⟩ :: tr) = ⟨.prov p c, x⟩ :: peers tr := rfl

theorem peers_ticks {tr : Trace} (h : Ticks tr) : peers tr = [] := by
  refine List.filter_eq_nil_iff.mpr ?_
  intro e he
  obtain ⟨site, hc⟩ := h e he
  rw [hc]
  exact Bool.false_ne_true

theorem peers_quiet {tr : Trace} (h : Quiet tr) : peers tr = [] := by
  refine List.filter_eq_nil_iff.mpr ?_
  rintro ⟨c, x⟩ he
  have ha := h _ he
  cases c with
  | sec _ _ => cases ha
  | prov _ _ => cases ha
  | _ => exact Bool.false_ne_true

inductive SeedFailed (q : SecHandle) : Trace → Prop where
  | unavailable {x : Stamped Bool} : x.reply = false → SeedFailed q [⟨.sec q .isAvailable, x⟩]
  | noSeed {x : Stamped Bool} {y : Stamped (Bool × Bytes)} : x.reply = true → y.reply.1 = false →
      SeedFailed q [⟨.sec q .isAvailable, x⟩, ⟨.sec q (.getSeed 1), y⟩]

inductive KeyFailed (q : SecHandle) (key : Bytes) : Trace → Prop where
  | unavailable {x : Stamped Bool} : x.reply = false → KeyFailed q key [⟨.sec q .isAvailable, x⟩]
  | rejected {x y : Stamped Bool} : x.reply = true → y.reply = false →
      KeyFailed q key [⟨.sec q .isAvailable, x⟩, ⟨.sec q (.verifyKey 2 key), y⟩]

inductive VinSent (p : ProvHandle) (vin : Bytes) : Trace → Prop where
  | unavailable {x : Stamped Bool} : x.reply = false → VinSent p vin [⟨.prov p .isAvailable, x⟩]
  | short {x : Stamped Bool} : x.reply = true → vin.length < vinLength →
      VinSent p vin [⟨.prov p .isAvailable, x⟩]
  | written {x : Stamped Bool} {y : Stamped DiagErrorCode} : x.reply = true →
      vinLength ≤ vin.length → VinSent p vin [⟨.prov p .isAvailable, x⟩,
        ⟨.prov p (.writeVin (vin.take vinLength) (vin.drop vinLength)), y⟩]

/-- All that `write_vin` can come to: what SEC and PROV are asked, and how the process ends. The
key is the seed that SEC has just issued, each byte XORed with 1. -/
inductive WriteVinRun (p : ProvHandle) (q : SecHandle) (vin : Bytes) : Trace → Exit → Prop where
  | noSeed {tr : Trace} : SeedFailed q tr → WriteVinRun p q vin tr (.code 1)
  | noKey {x : Stamped Bool} {y : Stamped (Bool × Bytes)} {tr : Trace} : x.reply = true →
      y.reply.1 = true → KeyFailed q (y.reply.2.map fun b => b ^^^ 0x01) tr →
      WriteVinRun p q vin (⟨.sec q .isAvailable, x⟩ :: ⟨.sec q (.getSeed 1), y⟩ :: tr) (.code 1)
  | unlocked {x x' y' : Stamped Bool} {y : Stamped (Bool × Bytes)} {tr : Trace} :
      x.reply = true → y.reply.1 = true → x'.reply = true → y'.reply = true → VinSent p vin tr →
      WriteVinRun p q vin (⟨.sec q .isAvailable, x⟩ :: ⟨.sec q (.getSeed 1), y⟩ ::
        ⟨.sec q .isAvailable, x'⟩ ::
        ⟨.sec q (.verifyKey 2 (y.reply.2.map fun b => b ^^^ 0x01)), y'⟩ :: tr) (.code 0)

/-- The service between two requests, whatever has become of its session. -/
def Ready (p : ProvHandle) (q : SecHandle) (sa : SecurityAccess) (s : DiagService) : Prop :=
  ∃ v, Serves s v ∧ v.dispatcher.prov = some p ∧ v.dispatcher.sec = some q ∧
    v.managers.securityAccess = sa

variable {sa : SecurityAccess}

theorem Ready.sec (h : Ready p q sa s) : sa.sec = some q := by
  obtain ⟨v, hs, -, hq, rfl⟩ := h
  rw [← hs.sec, hq]

/-- A request is dispatched, also where the session expires first. -/
theorem Ready.takes (h : Ready p q sa s) (request : DiagRequest) :
    wp (s.processRequest request) fun tr r => ∃ d m tr₁ ms, d.prov = some p ∧
      peers tr = peers tr₁ ∧ Dispatched d ⟨m, sa⟩ request tr₁ r.1 ms ∧
      Ready p q ms.securityAccess r.2 := by
  obtain ⟨v, hs, hp, hq, rfl⟩ := h
  refine wp_mono (hs.processRequest_wp request) ?_
  rintro tr r ⟨tr₀, tr₁, b, m, ms, rfl, hm, hd, hserves⟩
  refine ⟨v.dispatcher, m, tr₁, ms, hp, ?_, hd, _, hserves, hp, hq, rfl⟩
  rw [peers_append, peers_ticks hm.ticks, List.nil_append]

/-- A fresh service opens the session. -/
theorem Fresh.opens (h : Fresh p q s v) :
    wp (s.processRequest (sessionRequest SessionType.extended.code)) fun tr r =>
      peers tr = [] ∧ r.1.positive = true ∧ Ready p q (.create (some q)) r.2 := by
  refine wp_mono (h.handled _) ?_
  rintro tr r ⟨ms, hd, hs⟩
  obtain ⟨result, m, hm, hresp, rfl⟩ := hd.of_session rfl
  refine ⟨peers_ticks hm.ticks, ?_, _, hs, h.prov, h.sec, h.security⟩
  cases hm with
  | occupied ho =>
    have hactive := ho.1
    rw [h.state] at hactive
    cases hactive
  | invalid _ hn =>
    have hsome : SessionType.ofCode? (sessionRequest SessionType.extended.code).basicSubFunction
        = some .extended := by decide
    rw [hsome] at hn
    cases hn
  | accepted _ _ =>
    rw [hresp]
    rfl

theorem Ready.asksSeed (h : Ready p q sa s) (he : sa.entry 1 = {}) :
    wp (s.processRequest (seedRequest 0x01)) fun tr r =>
      r.1.positive = false ∧ SeedFailed q (peers tr) ∨
      r.1.positive = true ∧ ∃ x y, x.reply = true ∧ y.reply.1 = true ∧
        peers tr = [⟨.sec q .isAvailable, x⟩, ⟨.sec q (.getSeed 1), y⟩] ∧
        r.1.payload = y.reply.2 ∧ Ready p q (sa.seeded 1 y.reply.2) r.2 := by
  have hsec := h.sec
  refine wp_mono (h.takes _) ?_
  rintro tr r ⟨d, m, tr₁, ms, -, htr, hd, hready⟩
  have hsub : (seedRequest 0x01).basicSubFunction = 1 := by decide
  obtain ⟨result, seed, sa', hq, hresp, rfl⟩ := hd.of_seed rfl hsub
  rw [htr, hresp]
  cases hq with
  | noSec hn => simp [hsec] at hn
  | unavailable hs hx =>
    obtain rfl := Option.some.inj (hsec.symm.trans hs)
    exact .inl ⟨rfl, .unavailable hx⟩
  | lockedOut _ _ hl =>
    cases hl with
    | locked hmax _ =>
      rw [he] at hmax
      exact absurd hmax (by decide)
  | noSeed hs hx hl hy =>
    obtain rfl := Option.some.inj (hsec.symm.trans hs)
    refine .inl ⟨rfl, ?_⟩
    simpa [peers_ticks hl.ticks] using SeedFailed.noSeed hx hy
  | issued hs hx hl hy =>
    obtain rfl := Option.some.inj (hsec.symm.trans hs)
    refine .inr ⟨rfl, _, _, hx, hy, ?_, rfl, hready⟩
    simp [peers_ticks hl.ticks]

theorem Ready.sendsKey (h : Ready p q sa s) (hc : (sa.entry 1).attemptCount = 0)
    (hr : (sa.entry 1).seedRequested = true) (key : Bytes) :
    wp (s.processRequest (keyRequest 0x02 key)) fun tr r =>
      r.1.positive = false ∧ KeyFailed q key (peers tr) ∨
      r.1.positive = true ∧ ∃ x y, x.reply = true ∧ y.reply = true ∧
        peers tr = [⟨.sec q .isAvailable, x⟩, ⟨.sec q (.verifyKey 2 key), y⟩] ∧
        Ready p q (sa.accepted 1) r.2 := by
  have hsec := h.sec
  refine wp_mono (h.takes _) ?_
  rintro tr r ⟨d, m, tr₁, ms, -, htr, hd, hready⟩
  have hsub : (keyRequest 0x02 key).basicSubFunction = 2 := by
    have h2 : ((0x02 ||| 0x80 : UInt8) &&& 0x7F) = 2 := by decide
    exact h2
  obtain ⟨result, sa', hq, hresp, rfl⟩ := hd.of_key rfl hsub
  rw [htr, hresp]
  cases hq with
  | noSec hn => simp [hsec] at hn
  | unavailable hs hx =>
    obtain rfl := Option.some.inj (hsec.symm.trans hs)
    exact .inl ⟨rfl, .unavailable hx⟩
  | lockedOut _ _ hl =>
    cases hl with
    | locked hmax _ =>
      rw [SecurityAccess.seedLevelOfKey_two, hc] at hmax
      exact absurd hmax (by decide)
  | noSeed _ _ _ hn =>
    rw [SecurityAccess.seedLevelOfKey_two, hr] at hn
    cases hn
  | rejected hs hx hl _ hy hdl =>
    obtain rfl := Option.some.inj (hsec.symm.trans hs)
    refine .inl ⟨rfl, ?_⟩
    simpa [keyRequest, peers_ticks hl.ticks, peers_ticks hdl.ticks] using KeyFailed.rejected hx hy
  | accepted hs hx hl _ hy =>
    obtain rfl := Option.some.inj (hsec.symm.trans hs)
    refine .inr ⟨rfl, _, _, hx, hy, ?_, hready⟩
    simp [peers_ticks hl.ticks, keyRequest]

theorem Ready.sendsVin (h : Ready p q sa s) (hu : sa.unlocked UdsSecurityLevel.level1 = true)
    (vin : Bytes) :
    wp (send s (routineRequest Rid.writeVinRoutine vin)) fun tr r =>
      VinSent p vin (peers tr) ∧ r.1 = .code 0 := by
  unfold send
  simp only [wp_bind, wp_pure, List.append_nil]
  refine wp_mono (h.takes _) ?_
  rintro tr ⟨response, s'⟩ ⟨d, m, tr₁, ms, hp, htr, hd, -⟩
  obtain ⟨hrun, -⟩ := hd.of_routine rfl
  refine ⟨?_, trivial⟩
  rw [htr]
  have hrid : (routineRequest Rid.writeVinRoutine vin).didOrRid = Rid.writeVinRoutine := rfl
  have hcert : ¬ isCertificateRid Rid.writeVinRoutine := by decide
  cases hrun with
  | wrongSession hk _ => exact absurd hk hcert
  | generateKeyPair _ hk _ | readCsr _ hk _ | injectCertificate _ hk _ =>
    exact absurd hk (by rw [hrid]; decide)
  | locked _ hn =>
    have hn' : sa.unlocked UdsSecurityLevel.level1 = false := hn
    simp [hu] at hn'
  | noProv _ hn => simp [hp] at hn
  | unavailable _ hs hx =>
    obtain rfl := Option.some.inj (hp.symm.trans hs)
    exact .unavailable hx
  | writeVin _ hs hx _ hv =>
    obtain rfl := Option.some.inj (hp.symm.trans hs)
    cases hv with
    | short hl => exact .short hx hl
    | failed hl _ | done hl _ => exact .written hx hl
  | outOfRange _ _ hne => exact absurd hrid hne

theorem Fresh.writeVin_wp (h : Fresh p q s v) (vin : Bytes) :
    wp (writeVin s vin) fun tr r => WriteVinRun p q vin (peers tr) r.1 := by
  unfold writeVin
  rw [wp_bind]
  refine wp_mono h.opens ?_
  rintro tr₁ ⟨sessionResp, s₁⟩ ⟨htr₁, hpos₁, h₁⟩
  simp only [wp_ite, Bool.not_eq_true']
  refine ⟨fun hn => absurd (hpos₁.symm.trans hn) (by decide), fun _ => ?_⟩
  rw [wp_bind]
  refine wp_mono (h₁.asksSeed rfl) ?_
  rintro tr₂ ⟨seedResp, s₂⟩ (⟨hneg₂, hfail₂⟩ | ⟨hpos₂, x, y, hx, hy, htr₂, hseed, h₂⟩)
  · -- no seed
    simp only [wp_ite, Bool.not_eq_false]
    refine ⟨fun _ => ?_, fun hp => absurd (hp.symm.trans hneg₂) (by decide)⟩
    simpa [htr₁] using WriteVinRun.noSeed hfail₂
  rw [wp_ite]
  refine ⟨fun hn => absurd (hpos₂.symm.trans hn) (by decide), fun _ => ?_⟩
  rw [wp_bind, hseed, keyOfSeed]
  refine wp_mono (h₂.sendsKey (by rfl) (by rfl) _) ?_
  rintro tr₃ ⟨keyResp, s₃⟩ (⟨hneg₃, hfail₃⟩ | ⟨hpos₃, x', y', hx', hy', htr₃, h₃⟩)
  · -- the key is not accepted
    simp only [wp_ite, Bool.not_eq_false]
    refine ⟨fun _ => ?_, fun hp => absurd (hp.symm.trans hneg₃) (by decide)⟩
    simpa [htr₁, htr₂] using WriteVinRun.noKey hx hy hfail₃
  rw [wp_ite]
  refine ⟨fun hn => absurd (hpos₃.symm.trans hn) (by decide), fun _ => ?_⟩
  refine wp_mono (h₃.sendsVin (by rfl) vin) ?_
  rintro tr₄ r ⟨hsent, hexit⟩
  rw [hexit]
  simpa [htr₁, htr₂, htr₃] using WriteVinRun.unlocked hx hy hx' hy' hsent

/-! Only the initialisation reads the configuration. -/

def sectionless : Cmd → Prop
  | .getSection _ => False
  | _ => True

theorem sectionless_of_attended {c : Cmd} (hc : ¬ c.aside) : sectionless c := by
  cases c with
  | getSection _ => exact absurd trivial hc
  | _ => trivial

theorem configRead_of_sectionless {tr : Trace} (h : ∀ e ∈ tr, sectionless e.cmd) :
    ConfigRead tr := by
  rintro e he name t what rfl
  exact h _ he

theorem processRequest_sectionless (s : DiagService) (request : DiagRequest) :
    Issues (S := outside) sectionless (s.processRequest request) := by
  unfold DiagService.processRequest
  refine issues_ite issues_pure (issues_bind ?_ fun s => ?_)
  · unfold DiagService.checkS3Timeout
    cases s.sessionMgrs.deref s.sessionMgr with
    | none => exact issues_pure
    | some m =>
      refine issues_bind (wp_mono m.checkS3Timeout_wp ?_) fun _ => issues_pure
      intro tr r hm e he
      obtain ⟨site, hc⟩ := hm.ticks e he
      rw [hc]
      trivial
  · unfold DiagService.dispatch
    cases s.dispatcher with
    | none => exact issues_pure
    | some d =>
      dsimp only
      split
      · refine issues_bind (wp_mono (d.dispatch_wp _ request) ?_) fun _ => issues_pure
        intro tr r hd e he
        exact sectionless_of_attended (hd.once.1 e he)
      · exact issues_pure

theorem writeVin_sectionless (s : DiagService) (vin : Bytes) :
    Issues (S := outside) sectionless (writeVin s vin) := by
  unfold writeVin
  refine issues_bind (processRequest_sectionless s _) fun r₁ => issues_ite issues_pure ?_
  refine issues_bind (processRequest_sectionless r₁.2 _) fun r₂ => issues_ite issues_pure ?_
  refine issues_bind (processRequest_sectionless r₂.2 _) fun r₃ => issues_ite issues_pure ?_
  exact issues_bind (processRequest_sectionless r₃.2 _) fun _ => issues_pure

/-- Where the program does not get as far as a service, `write_vin` asks nobody anything; from
there on, its run is one of those listed. -/
theorem write_vin_runs {env : Environment} {argv : List Bytes} {vin : Bytes} {tr : Trace}
    {lg : List LogRecord} {r : Exit × List Line} (hx : Exec (main env argv) tr lg r)
    (hvin : WritesVin argv vin) :
    env.Starts tr ∧ WriteVinRun env.prov env.sec vin (peers tr) r.1 ∨
      ¬ env.Starts tr ∧ peers tr = [] ∧ r.1 = .code 1 := by
  obtain ⟨rest, hargs⟩ := hvin
  refine hx.wp (Q := fun tr r =>
    env.Starts tr ∧ WriteVinRun env.prov env.sec vin (peers tr) r.1 ∨
      ¬ env.Starts tr ∧ peers tr = [] ∧ r.1 = .code 1) (main_fresh hargs ?_ ?_)
  · intro tr lines hquiet hn
    exact .inr ⟨hn, peers_quiet hquiet, rfl⟩
  · intro tr s v lines hquiet hp hq hread hfresh
    have hrun : run s (asciiBytes "write_vin") (vin :: rest) = writeVin s vin := rfl
    rw [hrun]
    refine wp_mono (wp_and (hfresh.writeVin_wp vin) (writeVin_sectionless s vin)) ?_
    rintro tr' r ⟨hw, hsections⟩
    refine .inl ⟨⟨hp, hq, configRead_append.mpr ⟨hread, configRead_of_sectionless hsections⟩⟩, ?_⟩
    simpa [peers_quiet hquiet] using hw

theorem write_vin_runs_obliged :
    let argv := [asciiBytes "write_vin", asciiBytes "LSVAB2BR3EN123456"]
    let r := (main connected argv).run (obliging 0)
    connected.Starts r.1 ∧
        WriteVinRun 0 0 (asciiBytes "LSVAB2BR3EN123456") (peers r.1) r.2.2.1 ∨
      ¬ connected.Starts r.1 ∧ peers r.1 = [] ∧ r.2.2.1 = .code 1 := by
  intro argv r
  exact write_vin_runs (exec_run (obliging 0) (main connected argv)) ⟨[], rfl⟩

end

end DiagCli
end Diag
end Tbox
