import TboxDiag.SecurityAccess
import TboxDiag.SecIpcAdapter
import TboxDiag.Lib.Coupling
import TboxDiag.Lib.Run

/-!
# VerdictCounting

Failed keys over the SEC adapter. SecurityAccess asks for the connection, looks at the lockout, and
then hands the key to the adapter, which asks for the connection once more. A key that is handed on
but never judged by SEC comes back as `false` all the same, and is counted like a rejected one.

* `Tried`: what a sendKey over the adapter can do.
* `verdict_counting_iff`: the failures are counted on a verdict of SEC, and only then, in the runs
  in which no key is lost on its way to SEC.
-/

namespace Tbox
namespace Diag

open Effects SecIpcAdapter
open SecurityAccess (seedLevelOfKey)

/-! ## What a trace shows -/

/-- `is_connected` or `connect` answered `true`. -/
def linkUp : Event ipc → Bool
  | ⟨.client _ .isConnected, x⟩ => x.reply
  | ⟨.client _ .connect, x⟩ => x.reply
  | _ => false

/-- What `verify_key` of the client answered, if it was called. -/
def verdict (tr : IpcTrace) : Option SecError :=
  tr.findSome? fun
    | ⟨.client _ (.verifyKey _ _), x⟩ => some x.reply
    | _ => none

/-- The time at which the lockout was looked at. -/
def lockoutReading : Event ipc → Option Time
  | ⟨.outer (.now .lockoutCheck), x⟩ => some x.time
  | _ => none

/-- What a trace shows: how often the link came up, the verdict and the readings. -/
structure IpcShows (tr : IpcTrace) (ups : Nat) (v : Option SecError) (ts : List Time) : Prop where
  ups : tr.countP linkUp = ups
  verdict : verdict tr = v
  readings : tr.filterMap lockoutReading = ts

theorem ipcShows_nil : IpcShows [] 0 none [] := ⟨rfl, rfl, rfl⟩

theorem ipcShows_verifyKey (h : ClientHandle) (level : UInt8) (key : Bytes) (x : Stamped SecError) :
    IpcShows [⟨.client h (.verifyKey level key), x⟩] 0 (some x.reply) [] := ⟨rfl, rfl, rfl⟩

theorem IpcShows.append {tr tr' : IpcTrace} {n n' : Nat} {v v' : Option SecError}
    {ts ts' : List Time} (h : IpcShows tr n v ts) (h' : IpcShows tr' n' v' ts') :
    IpcShows (tr ++ tr') (n + n') (v.or v') (ts ++ ts') := by
  constructor
  · rw [List.countP_append, h.ups, h'.ups]
  · rw [← h.verdict, ← h'.verdict]
    exact List.findSome?_append
  · rw [List.filterMap_append, h.readings, h'.readings]

/-! ## What the adapter makes of the calls -/

section
variable {a a' : SecIpcAdapter} {lo : IpcTrace} {lg : List LogRecord}

/-- The link comes up once in an availability check that succeeds. -/
theorem SecIpcAdapter.Ensured.shows {b : Bool} (h : Ensured a lo b a') :
    IpcShows lo b.toNat none [] := by
  cases h with
  | noClient _ => exact ipcShows_nil
  | connected _ hx => exact ⟨by simp [linkUp, hx], rfl, rfl⟩
  | reconnected _ hx hy =>
    refine ⟨?_, rfl, rfl⟩
    simp only [List.countP_cons, linkUp, hx, hy]
    rfl
  | throttled _ hx hy _ =>
    refine ⟨?_, rfl, rfl⟩
    simp only [List.countP_cons, linkUp, hx, hy]
    rfl
  | @attempted _ _ _ z _ _ hx hy _ =>
    refine ⟨?_, rfl, rfl⟩
    obtain ⟨t, up⟩ := z
    simp only [List.countP_cons, linkUp, hx, hy]
    cases up <;> rfl

theorem available_served {h : SecHandle} {x : Stamped Bool}
    (hx : Exec (handle (.sec h .isAvailable) a) lo lg (x, a')) :
    IpcShows lo x.reply.toNat none [] := by
  have hwp : wp (handle (.sec h .isAvailable) a) fun lo r =>
      IpcShows lo r.1.reply.toNat none [] := by
    simp only [handle, answer, wp_bind, wp_pure, List.append_nil]
    exact wp_mono a.ensureConnected_wp fun _ _ he => he.shows
  exact hx.wp hwp

/-- What becomes of a key: it does not get through to the client, or the link comes up once more
and the client answers. -/
inductive KeyServed (lo : IpcTrace) (ups : Nat) (ts : List Time) : Bool → Prop where
  | unsent : IpcShows lo ups none ts → KeyServed lo ups ts false
  | failed {code : SecError} : IpcShows lo (ups + 1) (some code) ts → code ≠ .success →
      KeyServed lo ups ts false
  | accepted : IpcShows lo (ups + 1) (some .success) ts → KeyServed lo ups ts true

/-- What comes before and after adds to it, but gives no verdict of its own. -/
theorem KeyServed.between {pre post : IpcTrace} {n : Nat} {ts : List Time} {b : Bool}
    (h : KeyServed lo 0 [] b) (hpre : IpcShows pre n none ts) (hpost : IpcShows post 0 none []) :
    KeyServed (pre ++ (lo ++ post)) n ts b := by
  cases h with
  | unsent hshows => simpa using KeyServed.unsent (hpre.append (hshows.append hpost))
  | failed hshows hne =>
    have hall := hpre.append (hshows.append hpost)
    rw [List.append_nil, List.append_nil] at hall
    exact .failed hall hne
  | accepted hshows =>
    have hall := hpre.append (hshows.append hpost)
    rw [List.append_nil, List.append_nil] at hall
    exact .accepted hall

theorem verify_served {h : SecHandle} {level : UInt8} {key : Bytes} {y : Stamped Bool}
    (hx : Exec (handle (.sec h (.verifyKey level key)) a) lo lg (y, a')) :
    KeyServed lo 0 [] y.reply := by
  have hwp : wp (handle (.sec h (.verifyKey level key)) a) fun lo r =>
      KeyServed lo 0 [] r.1.reply := by
    simp only [handle, answer, wp_bind, wp_pure, List.append_nil]
    refine wp_mono (a.verifyKey_wp level key) ?_
    rintro lo ⟨accepted, a'⟩ hr
    cases hr with
    | unavailable he => exact .unsent he.shows
    | @ready h _ _ _ _ _ he hk =>
      cases hk with
      | @accepted x hx =>
        have hshows := he.shows.append (ipcShows_verifyKey h level key x)
        rw [hx] at hshows
        exact .accepted hshows
      | @failed x hx => exact .failed (he.shows.append (ipcShows_verifyKey _ level key x)) hx
  exact hx.wp hwp

theorem passed_served {c : Cmd} {x : Stamped c.Reply}
    (hx : Exec (a.passOn c) lo lg (x, a')) : lo = [⟨.outer c, x⟩] := by
  have hwp : wp (a.passOn c) fun lo r => lo = [⟨.outer c, r.1⟩] := fun _ => rfl
  exact hx.wp hwp

/-- A reading of the clock is passed on. -/
theorem now_served {site : ClockSite} {t : Stamped Unit}
    (h : Served handle a [⟨.now site, t⟩] lo a') : lo = [⟨.outer (.now site), t⟩] := by
  obtain ⟨lo₁, lg, a₁, lo₂, hx, hrest, rfl⟩ := h.cons_inv
  obtain rfl := passed_served hx
  obtain ⟨rfl, _⟩ := hrest.nil_inv
  rfl

end

/-! ## One key -/

/-- The attempts are used up, and the clock shows that the lockout is not over. -/
def LockoutInForce (st : SecurityAccessState) (ts : List Time) : Prop :=
  SecurityConfig.maxAttempts ≤ st.attemptCount ∧ ∃ t ∈ ts, t < st.lockedUntil

section
variable {a a' : SecIpcAdapter} {lo : IpcTrace} {sa : SecurityAccess} {level : UInt8}

theorem lockout_served {tr : Trace} {locked : Bool} (hl : sa.LockoutChecked level tr locked)
    (h : Served handle a tr lo a') :
    ∃ ts, IpcShows lo 0 none ts ∧ (LockoutInForce (sa.entry level) ts ↔ locked = true) := by
  cases hl with
  | few hc =>
    obtain ⟨rfl, _⟩ := h.nil_inv
    refine ⟨[], ipcShows_nil, iff_of_false ?_ Bool.false_ne_true⟩
    rintro ⟨hmax, _⟩
    exact UInt32.not_le.mpr hc hmax
  | @lapsed t hc ht =>
    obtain rfl := now_served h
    refine ⟨[t.time], ⟨rfl, rfl, rfl⟩, iff_of_false ?_ Bool.false_ne_true⟩
    rintro ⟨_, t', ht', hlt⟩
    rw [List.mem_singleton.mp ht'] at hlt
    exact Nat.not_lt.mpr ht hlt
  | @locked t hc ht =>
    obtain rfl := now_served h
    exact ⟨[t.time], ⟨rfl, rfl, rfl⟩, iff_of_true ⟨hc, t.time, by simp, ht⟩ rfl⟩

/-- A sendKey up to the lockout, once the connection is there, and what is served after it. -/
theorem checked_served {h : SecHandle} {x : Stamped Bool} {tr tr' : Trace} {locked : Bool}
    (hl : sa.LockoutChecked level tr locked) (hx : x.reply = true)
    (hserved : Served handle a (⟨.sec h .isAvailable, x⟩ :: (tr ++ tr')) lo a') :
    ∃ pre ts a₁ post, Served handle a₁ tr' post a' ∧ lo = pre ++ post ∧ IpcShows pre 1 none ts ∧
      (LockoutInForce (sa.entry level) ts ↔ locked = true) := by
  obtain ⟨lo₁, lg, a₁, lo₂, hx₁, hrest, rfl⟩ := hserved.cons_inv
  obtain ⟨lo₃, a₂, lo₄, hlockout, hafter, rfl⟩ := hrest.append_inv
  obtain ⟨ts, hshows, hlock⟩ := lockout_served hl hlockout
  have hup := available_served hx₁
  rw [hx] at hup
  exact ⟨lo₁ ++ lo₃, ts, a₂, lo₄, hafter, by simp, hup.append hshows, hlock⟩

theorem deadline_served {st : SecurityAccessState} {tr : Trace} {d : Time}
    (hd : SecurityAccess.Deadline st tr d) (h : Served handle a tr lo a') :
    IpcShows lo 0 none [] := by
  cases hd with
  | kept _ =>
    obtain ⟨rfl, _⟩ := h.nil_inv
    exact ipcShows_nil
  | started _ =>
    obtain rfl := now_served h
    exact ⟨rfl, rfl, rfl⟩

end

/-- A seed is out, the link to SEC comes up and no lockout is in force: the key is handed on. -/
def HandedOn (st : SecurityAccessState) (tr : IpcTrace) : Prop :=
  st.seedRequested = true ∧ 0 < tr.countP linkUp ∧
    ¬ LockoutInForce st (tr.filterMap lockoutReading)

theorem IpcShows.handedOn {st : SecurityAccessState} {tr : IpcTrace} {n : Nat}
    {v : Option SecError} {ts : List Time} (h : IpcShows tr n v ts) (hs : st.seedRequested = true)
    (hn : 0 < n) (hl : ¬ LockoutInForce st ts) : HandedOn st tr := by
  refine ⟨hs, ?_, ?_⟩
  · rwa [h.ups]
  · rwa [h.readings]

/-- What a sendKey over the adapter can do. -/
inductive Tried (sa : SecurityAccess) (level : UInt8) : IpcTrace → SecurityAccess → Prop where
  | refused {tr : IpcTrace} {sa' : SecurityAccess} :
      ¬ HandedOn (sa.entry (seedLevelOfKey level)) tr → (∀ l, sa'.entry l = sa.entry l) →
      Tried sa level tr sa'
  | unsent {tr : IpcTrace} {d : Time} : HandedOn (sa.entry (seedLevelOfKey level)) tr →
      tr.countP linkUp = 1 → verdict tr = none →
      Tried sa level tr (sa.rejected (seedLevelOfKey level) d)
  | failed {tr : IpcTrace} {code : SecError} {d : Time} :
      HandedOn (sa.entry (seedLevelOfKey level)) tr → tr.countP linkUp = 2 →
      verdict tr = some code → code ≠ .success →
      Tried sa level tr (sa.rejected (seedLevelOfKey level) d)
  | accepted {tr : IpcTrace} : HandedOn (sa.entry (seedLevelOfKey level)) tr →
      tr.countP linkUp = 2 → verdict tr = some .success →
      Tried sa level tr (sa.accepted (seedLevelOfKey level))

theorem sendKey_tried (sa : SecurityAccess) (a : SecIpcAdapter) (level : UInt8) (key : Bytes) :
    wp ((sa.sendKey level key).serve handle a) fun lo r => Tried sa level lo r.1.2 := by
  refine wp_mono (wp_serve handle a (sa.sendKey_wp level key)) ?_
  rintro lo ⟨⟨result, sa'⟩, a'⟩ ⟨tr, hserved, hsent⟩
  cases hsent with
  | noSec _ =>
    obtain ⟨rfl, _⟩ := hserved.nil_inv
    refine .refused ?_ fun _ => rfl
    rintro ⟨_, hup, _⟩
    cases hup
  | unavailable _ hx =>
    obtain ⟨lo₁, lg, a₁, lo₂, hx₁, hrest, rfl⟩ := hserved.cons_inv
    obtain ⟨rfl, _⟩ := hrest.nil_inv
    have hdown := (available_served hx₁).ups
    refine .refused ?_ fun _ => rfl
    rintro ⟨_, hup, _⟩
    rw [List.append_nil, hdown, hx] at hup
    cases hup
  | lockedOut _ hx hl =>
    rw [← List.append_nil (_ :: _), List.cons_append] at hserved
    obtain ⟨pre, ts, a₁, post, hrest, rfl, hshows, hlock⟩ := checked_served hl hx hserved
    obtain ⟨rfl, _⟩ := hrest.nil_inv
    refine .refused ?_ fun _ => rfl
    rintro ⟨_, _, hfree⟩
    rw [List.append_nil, hshows.readings] at hfree
    exact hfree (hlock.mpr rfl)
  | noSeed _ hx hl hs =>
    refine .refused ?_ fun l => sa.setEntry_self _ l
    rintro ⟨hs', _⟩
    rw [hs] at hs'
    cases hs'
  | rejected _ hx hl hs hy hd =>
    obtain ⟨pre, ts, a₁, post, hrest, rfl, hpre, hlock⟩ := checked_served hl hx hserved
    obtain ⟨lo₁, lg, a₂, lo₂, hkey, hend, rfl⟩ := hrest.cons_inv
    have hfree := hlock.not.mpr Bool.false_ne_true
    have hall := (verify_served hkey).between hpre (deadline_served hd hend)
    rw [hy] at hall
    cases hall with
    | unsent hshows =>
      exact .unsent (hshows.handedOn hs (by decide) hfree) hshows.ups hshows.verdict
    | failed hshows hne =>
      exact .failed (hshows.handedOn hs (by decide) hfree) hshows.ups hshows.verdict hne
  | accepted _ hx hl hs hy =>
    obtain ⟨pre, ts, a₁, post, hrest, rfl, hpre, hlock⟩ := checked_served hl hx hserved
    obtain ⟨lo₁, lg, a₂, lo₂, hkey, hend, rfl⟩ := hrest.cons_inv
    obtain ⟨rfl, _⟩ := hend.nil_inv
    have hfree := hlock.not.mpr Bool.false_ne_true
    have hall := (verify_served hkey).between hpre ipcShows_nil
    rw [hy] at hall
    cases hall with
    | accepted hshows =>
      exact .accepted (hshows.handedOn hs (by decide) hfree) hshows.ups hshows.verdict

/-! ## Counting -/

/-- No attempt was counted, and no deadline moved. -/
def SameTally (sa sa' : SecurityAccess) : Prop :=
  ∀ level, (sa'.entry level).attemptCount = (sa.entry level).attemptCount ∧
    (sa'.entry level).lockedUntil = (sa.entry level).lockedUntil

/-- The attempts are at most forgotten. -/
def Cleared (sa sa' : SecurityAccess) : Prop :=
  ∀ level, ((sa'.entry level).attemptCount = (sa.entry level).attemptCount ∨
    (sa'.entry level).attemptCount = 0) ∧
      (sa'.entry level).lockedUntil = (sa.entry level).lockedUntil

section
variable (rejects : SecError → Bool)

/-- A key counts as failed if the client's `verify_key` said so, and leaves the tally alone if it
was not called or did not get through. -/
structure VerdictCounted (tr : IpcTrace) (sa sa' : SecurityAccess) : Prop where
  changed : ¬ SameTally sa sa' → (∃ code, verdict tr = some code ∧ rejects code = true) ∨
    verdict tr = some .success ∧ Cleared sa sa'
  unreached : verdict tr = none ∨ verdict tr = some .connectionFailed → SameTally sa sa'

/-- The key is handed on, but the link does not come up a second time, or `verify_key` answers with
a code that neither accepts nor rejects it. -/
def KeyLost (sa : SecurityAccess) (level : UInt8) (tr : IpcTrace) : Prop :=
  HandedOn (sa.entry (seedLevelOfKey level)) tr ∧
    (tr.countP linkUp < 2 ∨
      ∃ code, verdict tr = some code ∧ code ≠ .success ∧ rejects code = false)

variable {rejects} {sa sa' : SecurityAccess} {level : UInt8} {tr : IpcTrace}

theorem SameTally.of_entries (h : ∀ l, sa'.entry l = sa.entry l) : SameTally sa sa' := by
  intro l
  rw [h l]
  exact ⟨rfl, rfl⟩

/-- A rejected key is counted. -/
theorem not_sameTally_rejected (sa : SecurityAccess) (level : UInt8) (d : Time) :
    ¬ SameTally sa (sa.rejected level d) := by
  intro h
  have hcount := (h level).1
  rw [SecurityAccess.rejected_entry] at hcount
  simp at hcount

theorem cleared_accepted (sa : SecurityAccess) (level : UInt8) :
    Cleared sa (sa.accepted level) := by
  intro l
  by_cases hl : l = level
  · rw [hl, SecurityAccess.accepted_entry]
    exact ⟨.inr rfl, rfl⟩
  · rw [SecurityAccess.accepted, SecurityAccess.setEntry_entry_ne sa hl]
    exact ⟨.inl rfl, rfl⟩

/-- A key is counted on a verdict just if it is not lost. -/
theorem Tried.counted_iff (h : Tried sa level tr sa')
    (hfailed : rejects .connectionFailed = false) :
    VerdictCounted rejects tr sa sa' ↔ ¬ KeyLost rejects sa level tr := by
  cases h with
  | refused hn hsame =>
    refine iff_of_true ⟨fun hne => absurd (.of_entries hsame) hne, fun _ => .of_entries hsame⟩ ?_
    intro hlost
    exact hn hlost.1
  | @unsent d hon hup hnone =>
    refine iff_of_false ?_ (not_not.mpr ⟨hon, .inl (by omega)⟩)
    intro hcounted
    exact not_sameTally_rejected sa _ d (hcounted.unreached (.inl hnone))
  | @failed code d hon hup hcode hne =>
    have hchanged := not_sameTally_rejected sa (seedLevelOfKey level) d
    constructor
    · rintro hcounted ⟨_, hlt | ⟨code', hcode', _, hnot⟩⟩
      · omega
      · obtain ⟨code'', hcode'', hr⟩ | ⟨hs, _⟩ := hcounted.changed hchanged
        · rw [hcode', Option.some_inj] at hcode''
          rw [hcode'', hr] at hnot
          cases hnot
        · rw [hcode, Option.some_inj] at hs
          exact hne hs
    · intro hkept
      have hr : rejects code = true := by
        by_contra hno
        exact hkept ⟨hon, .inr ⟨code, hcode, hne, Bool.eq_false_iff.mpr hno⟩⟩
      refine ⟨fun _ => .inl ⟨code, hcode, hr⟩, ?_⟩
      rintro (hnone | hcf)
      · rw [hnone] at hcode
        cases hcode
      · rw [hcf, Option.some_inj] at hcode
        rw [← hcode, hfailed] at hr
        cases hr
  | accepted _ hup hs =>
    refine iff_of_true ⟨fun _ => .inr ⟨hs, cleared_accepted sa _⟩, ?_⟩ ?_
    · rintro (hnone | hcf)
      · rw [hnone] at hs
        cases hs
      · rw [hcf] at hs
        cases hs
    · rintro ⟨_, hlt | ⟨code, hcode, hne, _⟩⟩
      · omega
      · rw [hs, Option.some_inj] at hcode
        exact hne hcode.symm

end

/-! ## Runs -/

/-- What is done with the security access object, or with the adapter under it. -/
inductive KeyOp where
  | requestSeed (level : UInt8)
  | sendKey (level : UInt8) (key : Bytes)
  | lock (level : UInt8)
  | reset
  | other (c : SecCall)
  deriving DecidableEq, Repr

abbrev KeyState := SecurityAccess × SecIpcAdapter

def KeyState.exec (x : KeyState) : KeyOp → Ipc KeyState
  | .requestSeed level => do
    let ((_, _, sa), a) ← (x.1.requestSeed level).serve handle x.2
    pure (sa, a)
  | .sendKey level key => do
    let ((_, sa), a) ← (x.1.sendKey level key).serve handle x.2
    pure (sa, a)
  | .lock level => pure (x.1.lock level, x.2)
  | .reset => pure (x.1.reset, x.2)
  | .other c => do
    let (_, a) ← x.2.answer c
    pure (x.1, a)

/-- What is seen of one operation. -/
structure KeyStep where
  op : KeyOp
  before : SecurityAccess
  after : SecurityAccess
  trace : IpcTrace

/-- One operation. -/
def Performs (x : KeyState) (l : KeyStep) (x' : KeyState) : Prop :=
  l.before = x.1 ∧ l.after = x'.1 ∧ ∃ lg, Exec (x.exec l.op) l.trace lg x'

namespace KeyStep
variable (rejects : SecError → Bool)

def CountsVerdict (l : KeyStep) : Prop :=
  ∀ level key, l.op = .sendKey level key → VerdictCounted rejects l.trace l.before l.after

def LosesKey (l : KeyStep) : Prop :=
  ∃ level key, l.op = .sendKey level key ∧ KeyLost rejects l.before level l.trace

/-- SEC rejected a key for the level. -/
def rejectedAt (level : UInt8) (l : KeyStep) : Bool :=
  match l.op with
  | .sendKey level' _ => seedLevelOfKey level' == level && (verdict l.trace).any rejects
  | _ => false

end KeyStep

/-- No level counts more attempts than before. -/
def NotMore (sa sa' : SecurityAccess) : Prop :=
  ∀ level, (sa'.entry level).attemptCount.toNat ≤ (sa.entry level).attemptCount.toNat

section
variable {sa sa' : SecurityAccess}

theorem notMore_setEntry (sa : SecurityAccess) (level : UInt8) {st : SecurityAccessState}
    (h : st.attemptCount = (sa.entry level).attemptCount) : NotMore sa (sa.setEntry level st) := by
  intro l
  by_cases hl : l = level
  · rw [hl, SecurityAccess.setEntry_entry, h]
  · rw [SecurityAccess.setEntry_entry_ne sa hl]

theorem notMore_seeded (sa : SecurityAccess) (level : UInt8) (seed : Bytes) :
    NotMore sa (sa.seeded level seed) := notMore_setEntry sa level rfl

theorem notMore_lock (sa : SecurityAccess) (level : UInt8) : NotMore sa (sa.lock level) := by
  unfold SecurityAccess.lock
  cases hs : sa.states level with
  | none => exact fun _ => Nat.le_refl _
  | some st =>
    refine notMore_setEntry sa level ?_
    simp [SecurityAccess.entry, hs]

theorem notMore_reset (sa : SecurityAccess) : NotMore sa sa.reset := fun _ => Nat.zero_le _

theorem notMore_seedRequested {level : UInt8} {tr : Trace} {result : DiagErrorCode}
    {seed : Bytes} (h : sa.SeedRequested level tr result seed sa') : NotMore sa sa' := by
  cases h with
  | issued _ _ _ _ => exact notMore_seeded sa level _
  | _ => exact fun _ => Nat.le_refl _

theorem Cleared.notMore (h : Cleared sa sa') : NotMore sa sa' := by
  intro l
  obtain heq | hzero := (h l).1
  · rw [heq]
  · rw [hzero]
    exact Nat.zero_le _

end

theorem Performs.tried {x x' : KeyState} {l : KeyStep} (h : Performs x l x') {level : UInt8}
    {key : Bytes} (hop : l.op = .sendKey level key) : Tried l.before level l.trace l.after := by
  obtain ⟨hbefore, hafter, lg, hx⟩ := h
  rw [hop] at hx
  rw [hbefore, hafter]
  have hwp : wp (x.exec (.sendKey level key)) fun lo x' => Tried x.1 level lo x'.1 := by
    simp only [KeyState.exec, wp_bind, wp_pure, List.append_nil]
    exact sendKey_tried x.1 x.2 level key
  exact hx.wp hwp

/-- Only a sendKey counts an attempt. -/
theorem Performs.notMore {x x' : KeyState} {l : KeyStep} (h : Performs x l x')
    (hop : ∀ level key, l.op ≠ .sendKey level key) : NotMore x.1 x'.1 := by
  obtain ⟨op, before, after, lo⟩ := l
  obtain ⟨_, _, lg, hx⟩ := h
  suffices hwp : wp (x.exec op) fun _ x' => NotMore x.1 x'.1 from hx.wp hwp
  cases op with
  | sendKey level key => exact absurd rfl (hop level key)
  | requestSeed level =>
    simp only [KeyState.exec, wp_bind, wp_pure]
    refine wp_mono (wp_serve handle x.2 (x.1.requestSeed_wp level)) ?_
    rintro lo r ⟨tr, _, hr⟩
    exact notMore_seedRequested hr
  | lock level => exact notMore_lock x.1 level
  | reset => exact notMore_reset x.1
  | other c =>
    simp only [KeyState.exec, wp_bind, wp_pure]
    exact wp_of_forall fun _ _ _ => Nat.le_refl _

section
variable {rejects : SecError → Bool}

theorem Performs.counts_iff {x x' : KeyState} {l : KeyStep} (h : Performs x l x')
    (hfailed : rejects .connectionFailed = false) :
    l.CountsVerdict rejects ↔ ¬ l.LosesKey rejects := by
  constructor
  · rintro hcounts ⟨level, key, hop, hlost⟩
    exact ((h.tried hop).counted_iff hfailed).mp (hcounts level key hop) hlost
  · intro hkept level key hop
    refine ((h.tried hop).counted_iff hfailed).mpr ?_
    intro hlost
    exact hkept ⟨level, key, hop, hlost⟩

/-- A step that counts on a verdict adds at most a rejected key. -/
theorem Performs.count_le {x x' : KeyState} {l : KeyStep} (h : Performs x l x')
    (hcounts : l.CountsVerdict rejects) (level : UInt8) :
    (x'.1.entry level).attemptCount.toNat ≤
      (x.1.entry level).attemptCount.toNat + [l].countP (KeyStep.rejectedAt rejects level) := by
  by_cases hop : ∃ level key, l.op = .sendKey level key
  · obtain ⟨level', key, hop⟩ := hop
    have htried := h.tried hop
    have hcounted := hcounts level' key hop
    rw [h.1, h.2.1] at htried hcounted
    generalize x'.1 = sa' at htried hcounted
    cases htried with
    | refused _ hsame =>
      rw [hsame level]
      omega
    | unsent _ _ hnone =>
      exact absurd (hcounted.unreached (.inl hnone)) (not_sameTally_rejected x.1 _ _)
    | failed _ _ hcode hne =>
      obtain ⟨code, hcode, hr⟩ : ∃ code, verdict l.trace = some code ∧ rejects code = true := by
        obtain hrejected | ⟨hs, _⟩ := hcounted.changed (not_sameTally_rejected x.1 _ _)
        · exact hrejected
        · rw [hcode, Option.some_inj] at hs
          exact absurd hs hne
      by_cases hl : level = seedLevelOfKey level'
      · have hat : l.rejectedAt rejects level = true := by
          simp [KeyStep.rejectedAt, hop, hl, hcode, hr]
        have hcount : [l].countP (KeyStep.rejectedAt rejects level) = 1 := by simp [hat]
        have hadd (c : UInt32) : (c + 1).toNat ≤ c.toNat + 1 := by
          rw [UInt32.toNat_add]
          exact Nat.mod_le _ _
        rw [hcount, hl, SecurityAccess.rejected_entry]
        exact hadd _
      · rw [SecurityAccess.rejected, SecurityAccess.setEntry_entry_ne _ hl]
        omega
    | accepted _ _ _ =>
      have hless := (cleared_accepted x.1 (seedLevelOfKey level')).notMore level
      omega
  · have hless := h.notMore (fun level key hl => hop ⟨level, key, hl⟩) level
    omega

/-- Over the adapter a failed key is counted on a verdict of SEC and only then, and a level counts
no more attempts than SEC rejected keys for it, in just the runs in which no key is lost. -/
theorem verdict_counting_iff (hfailed : rejects .connectionFailed = false)
    {sec : Option SecHandle} {a : SecIpcAdapter} {ls : List KeyStep} {x' : KeyState}
    (h : Run Performs (SecurityAccess.create sec, a) ls x') :
    ((∀ l ∈ ls, l.CountsVerdict rejects) ∧
      ∀ level, (x'.1.entry level).attemptCount.toNat ≤
        ls.countP (KeyStep.rejectedAt rejects level)) ↔
    ∀ l ∈ ls, ¬ l.LosesKey rejects := by
  have hsteps : ∀ l ∈ ls, l.CountsVerdict rejects ↔ ¬ l.LosesKey rejects := by
    refine h.history (fun ls _ => ∀ l ∈ ls, l.CountsVerdict rejects ↔ ¬ l.LosesKey rejects)
      (by simp) ?_
    intro ls x l x' hls hl y hy
    cases List.mem_append.mp hy with
    | inl hy => exact hls y hy
    | inr hy =>
      rw [List.mem_singleton.mp hy]
      exact hl.counts_iff hfailed
  have hcount : (∀ l ∈ ls, l.CountsVerdict rejects) → ∀ level,
      (x'.1.entry level).attemptCount.toNat ≤ ls.countP (KeyStep.rejectedAt rejects level) := by
    refine h.history (fun ls x => (∀ l ∈ ls, l.CountsVerdict rejects) → ∀ level,
      (x.1.entry level).attemptCount.toNat ≤ ls.countP (KeyStep.rejectedAt rejects level)) ?_ ?_
    · exact fun _ _ => Nat.le_refl 0
    · intro ls x l x' ih hl hcounts level
      have hbefore := ih (fun y hy => hcounts y (List.mem_append_left _ hy)) level
      have hstep := hl.count_le (hcounts l (by simp)) level
      rw [List.countP_append]
      omega
  constructor
  · intro hall l hl
    exact (hsteps l hl).mp (hall.1 l hl)
  · intro hkept
    have hcounts : ∀ l ∈ ls, l.CountsVerdict rejects := fun l hl => (hsteps l hl).mpr (hkept l hl)
    exact ⟨hcounts, hcount hcounts⟩

end

/-- Perform the operations one after the other, in the world `w` after the exchange `hist`. -/
def playKeys (w : World ipc) : IpcTrace → KeyState → List KeyOp → List KeyStep × KeyState
  | _, x, [] => ([], x)
  | hist, x, op :: ops =>
    let r := (x.exec op).play w hist
    let q := playKeys w (hist ++ r.1) r.2 ops
    (⟨op, x.1, r.2.1, r.1⟩ :: q.1, q.2)

theorem playKeys_run (w : World ipc) (hist : IpcTrace) (x : KeyState) (ops : List KeyOp) :
    Run Performs x (playKeys w hist x ops).1 (playKeys w hist x ops).2 := by
  induction ops generalizing hist x with
  | nil => exact .nil
  | cons op ops ih => exact (ih _ _).cons ⟨rfl, rfl, exec_play w hist (x.exec op)⟩

/-! ## A link that drops -/

/-- A second for every call. -/
def secondsOf (hist : IpcTrace) : Time := millis (1000 * hist.length)

/-- The link breaks under every key, and comes back when it is asked for. -/
def linkDrops (hist : IpcTrace) : (c : IpcCmd) → Stamped c.Reply
  | .outer c => obliging (secondsOf hist) c
  | .client _ .isConnected =>
    -- the latest of the two calls that change the link
    let change : Event ipc → Option Bool
      | ⟨.client _ .connect, _⟩ => some true
      | ⟨.client _ (.verifyKey _ _), _⟩ => some false
      | _ => none
    ⟨secondsOf hist, (hist.reverse.findSome? change).getD true⟩
  | .client _ .connect => ⟨secondsOf hist, true⟩
  | .client _ (.getSeed _) => ⟨secondsOf hist, (.success, [0x5A])⟩
  | .client _ (.verifyKey _ _) => ⟨secondsOf hist, .connectionFailed⟩
  | .client _ .generateKeyPair => ⟨secondsOf hist, .success⟩
  | .client _ .getCsr => ⟨secondsOf hist, (.success, [])⟩
  | .client _ (.injectCertificate _) => ⟨secondsOf hist, .success⟩
  | .reconnectCheck => ⟨secondsOf hist, ()⟩

/-- Three times a seed is asked for and a key is sent. -/
def threeKeysRun : List KeyStep × KeyState :=
  playKeys linkDrops [] (SecurityAccess.create (some 0), { client := some 0 })
    [.requestSeed 1, .sendKey 2 [0xA5], .requestSeed 1, .sendKey 2 [0xA5], .requestSeed 1,
     .sendKey 2 [0xA5]]

/-- Every code is a rejection but success and a failed connection. -/
def anyOtherCode (code : SecError) : Bool := code ≠ .success ∧ code ≠ .connectionFailed

theorem verdict_counting_iff_threeKeys :
    ((∀ l ∈ threeKeysRun.1, l.CountsVerdict anyOtherCode) ∧
      ∀ level, (threeKeysRun.2.1.entry level).attemptCount.toNat ≤
        threeKeysRun.1.countP (KeyStep.rejectedAt anyOtherCode level)) ↔
    ∀ l ∈ threeKeysRun.1, ¬ l.LosesKey anyOtherCode :=
  verdict_counting_iff (by decide) (playKeys_run linkDrops [] _ _)

/-- SEC gets to see none of the three keys, and the tester is locked out. -/
theorem dropped_link_locks_out :
    Run Performs (SecurityAccess.create (some 0), { client := some 0 }) threeKeysRun.1
        threeKeysRun.2 ∧
      ¬ (∀ l ∈ threeKeysRun.1, l.CountsVerdict anyOtherCode) ∧
      threeKeysRun.1.countP (KeyStep.rejectedAt anyOtherCode 1) = 0 ∧
      (threeKeysRun.2.1.entry 1).attemptCount = SecurityConfig.maxAttempts ∧
      (threeKeysRun.2.1.entry 1).lockedUntil = millis 34000 := by
  refine ⟨playKeys_run linkDrops [] _ _, ?_, by decide, by decide, by decide⟩
  intro hall
  -- the first key: the call ends in CONNECTION_FAILED, and an attempt is counted
  have hcounted := hall (threeKeysRun.1.get ⟨1, by decide⟩) (List.get_mem _ _) 2 [0xA5] rfl
  have hsame := (hcounted.unreached (.inr rfl) 1).1
  exact absurd hsame (by decide)

end Diag
end Tbox
