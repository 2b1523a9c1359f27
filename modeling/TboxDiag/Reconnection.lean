import TboxDiag.SecIpcAdapter
import TboxDiag.RealProvAdapter
import TboxDiag.Lib.Throttle
import Mathlib.Logic.Function.Basic

/-!
# Reconnection

`ensure_connected` of the SEC and the PROV adapter, called by any number of threads. A call is two
atomic steps: a look at the connection without the lock, and, if there is none, the section under
the lock. `reconnect` of the PROV adapter is a third.

The two adapters are machines of one kind: `Connector` says how an adapter calls its client, and
`Machine.splits` that its `ensure_connected` is the two steps, one after the other.
`reconnect_throttled`: in every interleaving the machine keeps 500 ms before each attempt, after
500 ms of rest it makes one, and it never claims a connection that the client denies.
-/

namespace Tbox
namespace Diag

open Effects

/-! ## The machine -/

/-- An interface whose answers carry their time. -/
abbrev stamped (C : Type) (R : C → Type) : Sig := ⟨C, fun c => Stamped (R c)⟩

instance (d t : Nat) (th : Throttle) : Decidable (th.Holds d t) :=
  inferInstanceAs (Decidable (_ ∧ _))

/-- How an adapter calls its client, and what it keeps of its attempts to connect. -/
structure Connector (C : Type) (R : C → Type) (σ : Type) where
  client : σ → Option Nat
  throttle : σ → Throttle
  /-- After an attempt at this time. -/
  tried : σ → Time → σ
  isConnected : Nat → C
  connect : Nat → C
  /-- The reading of the clock under the lock. -/
  clock : C
  /-- What the client's `is_connected` returned. -/
  isConnectedReply : Event (stamped C R) → Option Bool
  /-- What the client's `connect` returned. -/
  connectReply : Event (stamped C R) → Option Bool
  reconnected : LogRecord
  reconnectFailed : LogRecord
  of_isConnected : ∀ h x,
    (isConnectedReply ⟨isConnected h, x⟩).isSome ∧ connectReply ⟨isConnected h, x⟩ = none
  of_clock : ∀ x, isConnectedReply ⟨clock, x⟩ = none ∧ connectReply ⟨clock, x⟩ = none
  of_connect : ∀ h x,
    isConnectedReply ⟨connect h, x⟩ = none ∧ (connectReply ⟨connect h, x⟩).isSome

namespace Connector

section
variable {C : Type} {R : C → Type} {σ : Type} (k : Connector C R σ)

def askConnected (h : Nat) : Prog (stamped C R) LogRecord Bool :=
  .call (k.isConnected h) fun x => .pure ((k.isConnectedReply ⟨k.isConnected h, x⟩).getD false)

def askConnect (h : Nat) : Prog (stamped C R) LogRecord Bool :=
  .call (k.connect h) fun x => .pure ((k.connectReply ⟨k.connect h, x⟩).getD false)

def now : Prog (stamped C R) LogRecord Time := .call k.clock fun x => .pure x.time

@[simp] theorem wp_askConnected (h : Nat) (Q : List (Event (stamped C R)) → Bool → Prop) :
    wp (k.askConnected h) Q ↔ ∀ x, Q [⟨k.isConnected h, x⟩]
      ((k.isConnectedReply ⟨k.isConnected h, x⟩).getD false) := Iff.rfl

@[simp] theorem wp_askConnect (h : Nat) (Q : List (Event (stamped C R)) → Bool → Prop) :
    wp (k.askConnect h) Q ↔ ∀ x, Q [⟨k.connect h, x⟩]
      ((k.connectReply ⟨k.connect h, x⟩).getD false) := Iff.rfl

@[simp] theorem wp_now (Q : List (Event (stamped C R)) → Time → Prop) :
    wp k.now Q ↔ ∀ x : Stamped (R k.clock), Q [⟨k.clock, x⟩] x.time := Iff.rfl

/-- `ensure_connected` up to the lock: `none` where the call goes on to it. -/
def check (a : σ) : Prog (stamped C R) LogRecord (Option Bool) :=
  match k.client a with
  | none => pure (some false)
  | some h => do
    let connected ← k.askConnected h
    if connected then pure (some true) else pure none

/-- `ensure_connected` under the lock. -/
def locked (a : σ) : Prog (stamped C R) LogRecord (Bool × σ) :=
  match k.client a with
  | none => pure (false, a)
  | some h => do
    let connected ← k.askConnected h
    if connected then
      pure (true, a)
    else do
      let t ← k.now
      if (k.throttle a).Holds (millis 500) t then
        pure (false, a)
      else do
        let ok ← k.askConnect h
        if ok then Prog.emit k.reconnected else Prog.emit k.reconnectFailed
        pure (ok, k.tried a t)

end
end Connector

/-- An adapter, as far as its connection goes. -/
structure Machine (C : Type) (R : C → Type) (σ : Type) extends Connector C R σ where
  start : Option Nat → σ
  ensureConnected : σ → Prog (stamped C R) LogRecord (Bool × σ)
  /-- Nobody in between, the two steps are `ensure_connected`. -/
  splits : ∀ a, ensureConnected a = toConnector.check a >>= fun
    | some b => pure (b, a)
    | none => toConnector.locked a
  /-- The SEC adapter has none. -/
  reconnect : Option (σ → Prog (stamped C R) LogRecord (Bool × σ))

inductive Part where
  | check
  | locked
  | reconnect
  deriving DecidableEq, Repr

/-- One atomic step: its caller, the time at which it happens, what it exchanges with the client,
and what the call returns, or `none` if it goes on. -/
structure ConnectStep (C : Type) (R : C → Type) where
  caller : Nat
  part : Part
  time : Time
  trace : List (Event (stamped C R))
  result : Option Bool

/-- The adapter, and the callers between the first look and the lock. -/
structure ConnectState (σ : Type) where
  adapter : σ
  waiting : Nat → Bool

namespace Machine

section
variable {C : Type} {R : C → Type} {σ : Type}

/-- The client answers as it likes: it may have lost the connection since it was last asked. -/
inductive Step (m : Machine C R σ) :
    ConnectState σ → ConnectStep C R → ConnectState σ → Prop where
  | check {s : ConnectState σ} {who : Nat} {t : Time} {tr : List (Event (stamped C R))}
      {lg : List LogRecord} {r : Option Bool} : s.waiting who = false →
      (∀ e ∈ tr, e.ans.time = t) → Exec (m.check s.adapter) tr lg r →
      Step m s ⟨who, .check, t, tr, r⟩
        { s with waiting := Function.update s.waiting who r.isNone }
  | locked {s : ConnectState σ} {who : Nat} {t : Time} {tr : List (Event (stamped C R))}
      {lg : List LogRecord} {b : Bool} {a : σ} : s.waiting who = true →
      (∀ e ∈ tr, e.ans.time = t) → Exec (m.locked s.adapter) tr lg (b, a) →
      Step m s ⟨who, .locked, t, tr, some b⟩ ⟨a, Function.update s.waiting who false⟩
  | reconnect {s : ConnectState σ} {who : Nat} {t : Time} {tr : List (Event (stamped C R))}
      {lg : List LogRecord} {b : Bool} {a : σ} {p : σ → Prog (stamped C R) LogRecord (Bool × σ)} :
      s.waiting who = false → m.reconnect = some p →
      (∀ e ∈ tr, e.ans.time = t) → Exec (p s.adapter) tr lg (b, a) →
      Step m s ⟨who, .reconnect, t, tr, some b⟩ { s with adapter := a }

/-- The adapter as constructed, called by nobody. -/
def init (m : Machine C R σ) (client : Option Nat) : ConnectState σ :=
  ⟨m.start client, fun _ => false⟩

/-- `connect()` is called. -/
def Connects (m : Machine C R σ) (tr : List (Event (stamped C R))) : Prop :=
  ∃ e ∈ tr, (m.connectReply e).isSome

/-- The client is found disconnected. -/
def FindsNone (m : Machine C R σ) (tr : List (Event (stamped C R))) : Prop :=
  ∃ e ∈ tr, m.isConnectedReply e = some false

/-- An attempt made by `ensure_connected`. -/
def Attempt (m : Machine C R σ) (l : ConnectStep C R) : Prop :=
  l.part ≠ .reconnect ∧ m.Connects l.trace

/-- An attempt, or a call of `reconnect`. -/
def Use (m : Machine C R σ) (l : ConnectStep C R) : Prop := m.Attempt l ∨ l.part = .reconnect

/-- None of the steps used the throttle in the interval before `t`. -/
def Rested (m : Machine C R σ) (pre : List (ConnectStep C R)) (t : Time) : Prop :=
  ∀ l ∈ pre, m.Use l → l.time + millis 500 ≤ t

/-- Never too often, never stuck, and never a false claim. -/
structure Throttled (m : Machine C R σ) (client : Option Nat) (ls : List (ConnectStep C R)) :
    Prop where
  /-- Nobody who has a client is turned away before the lock. -/
  goesOn : client ≠ none → ∀ l ∈ ls, l.part = .check → l.result ≠ some false
  /-- Only a call that found no connection goes on to the lock. -/
  waits : ∀ l ∈ ls, l.part = .check → l.result = none → m.FindsNone l.trace
  /-- Under the lock the client is asked again. -/
  asked : ∀ l ∈ ls, l.part = .locked → ∃ e ∈ l.trace, (m.isConnectedReply e).isSome
  /-- Whatever returns `true` was told so by `is_connected()` or by `connect()`. -/
  honest : ∀ l ∈ ls, l.result = some true →
    ∃ e ∈ l.trace, m.isConnectedReply e = some true ∨ m.connectReply e = some true
  /-- An attempt keeps its distance from every use before it. -/
  spaced : ls.Pairwise fun l l' => m.Use l → m.Attempt l' → l.time + millis 500 ≤ l'.time
  /-- A call that finds no connection under the lock, after a rest, attempts and returns the
  outcome. -/
  attempted : ∀ pre l post, ls = pre ++ l :: post → l.part = .locked → m.FindsNone l.trace →
    m.Rested pre l.time → ∃ e ∈ l.trace, ∃ ok, m.connectReply e = some ok ∧ l.result = some ok
  /-- While `connect()` succeeds, a call under the lock succeeds after a rest. -/
  available : ∀ pre l post, ls = pre ++ l :: post → l.part = .locked →
    (∀ e ∈ l.trace, m.connectReply e ≠ some false) → m.Rested pre l.time → l.result = some true

/-! ### What the parts can do -/

/-- The look without the lock. -/
inductive CheckRun (m : Machine C R σ) (a : σ) :
    List (Event (stamped C R)) → Option Bool → Prop where
  | noClient : m.client a = none → CheckRun m a [] (some false)
  | connected {h : Nat} {x : Stamped (R (m.isConnected h))} : m.client a = some h →
      m.isConnectedReply ⟨m.isConnected h, x⟩ = some true →
      CheckRun m a [⟨m.isConnected h, x⟩] (some true)
  | unconnected {h : Nat} {x : Stamped (R (m.isConnected h))} : m.client a = some h →
      m.isConnectedReply ⟨m.isConnected h, x⟩ = some false →
      CheckRun m a [⟨m.isConnected h, x⟩] none

/-- The section under the lock at time `t`. -/
inductive LockedRun (m : Machine C R σ) (a : σ) (t : Time) :
    List (Event (stamped C R)) → Bool → σ → Prop where
  | found {h : Nat} {x : Stamped (R (m.isConnected h))} :
      m.isConnectedReply ⟨m.isConnected h, x⟩ = some true →
      LockedRun m a t [⟨m.isConnected h, x⟩] true a
  | refused {h : Nat} {x : Stamped (R (m.isConnected h))} {y : Stamped (R m.clock)} :
      m.isConnectedReply ⟨m.isConnected h, x⟩ = some false →
      (m.throttle a).Holds (millis 500) t →
      LockedRun m a t [⟨m.isConnected h, x⟩, ⟨m.clock, y⟩] false a
  | attempted {h : Nat} {x : Stamped (R (m.isConnected h))} {y : Stamped (R m.clock)}
      {z : Stamped (R (m.connect h))} {ok : Bool} :
      m.isConnectedReply ⟨m.isConnected h, x⟩ = some false →
      ¬ (m.throttle a).Holds (millis 500) t → m.connectReply ⟨m.connect h, z⟩ = some ok →
      LockedRun m a t [⟨m.isConnected h, x⟩, ⟨m.clock, y⟩, ⟨m.connect h, z⟩] ok (m.tried a t)

variable {m : Machine C R σ} {l : ConnectStep C R}

theorem connected_of_getD {h : Nat} {x : Stamped (R (m.isConnected h))} {b : Bool}
    (hx : (m.isConnectedReply ⟨m.isConnected h, x⟩).getD false = b) :
    m.isConnectedReply ⟨m.isConnected h, x⟩ = some b := by
  obtain ⟨c, hc⟩ := Option.isSome_iff_exists.mp (m.of_isConnected h x).1
  rw [hc] at hx ⊢
  exact congrArg some hx

theorem connect_getD (h : Nat) (x : Stamped (R (m.connect h))) :
    m.connectReply ⟨m.connect h, x⟩ =
      some ((m.connectReply ⟨m.connect h, x⟩).getD false) := by
  obtain ⟨c, hc⟩ := Option.isSome_iff_exists.mp (m.of_connect h x).2
  rw [hc]
  rfl

theorem check_wp (m : Machine C R σ) (a : σ) : wp (m.check a) fun tr r => m.CheckRun a tr r := by
  unfold Connector.check
  cases hc : m.client a with
  | none => exact .noClient hc
  | some h =>
    simp only [wp_bind, wp_ite, wp_pure, Connector.wp_askConnected, Bool.not_eq_true,
      List.append_nil]
    intro x
    refine ⟨?_, ?_⟩
    · intro hx
      exact .connected hc (connected_of_getD hx)
    · intro hx
      exact .unconnected hc (connected_of_getD hx)

theorem locked_wp (m : Machine C R σ) {a : σ} {h : Nat} {t : Time} (hc : m.client a = some h) :
    wp (m.locked a) fun tr r => (∀ e ∈ tr, e.ans.time = t) → m.LockedRun a t tr r.1 r.2 := by
  unfold Connector.locked
  rw [hc]
  simp only [wp_bind, wp_ite, wp_pure, wp_emit, Connector.wp_askConnected, Connector.wp_askConnect,
    Connector.wp_now, Bool.not_eq_true, List.append_nil, List.nil_append, List.cons_append]
  intro x
  refine ⟨?_, ?_⟩
  · intro hx _
    exact .found (connected_of_getD hx)
  · intro hx y
    have hx := connected_of_getD hx
    refine ⟨?_, ?_⟩
    · intro hh ht
      obtain rfl : y.time = t := ht ⟨m.clock, y⟩ (by simp)
      exact .refused hx hh
    · intro hh z
      -- the two records apart, the same whatever `connect` returned
      refine ⟨?_, ?_⟩
      all_goals
        intro _ ht
        obtain rfl : y.time = t := ht ⟨m.clock, y⟩ (by simp)
        exact .attempted hx hh (connect_getD h z)

/-- What an attempt leaves behind, and what `reconnect` does. -/
structure Lawful (m : Machine C R σ) : Prop where
  start (client : Option Nat) :
    m.client (m.start client) = client ∧ (m.throttle (m.start client)).tried = false
  tried (a : σ) (t : Time) :
    m.client (m.tried a t) = m.client a ∧ m.throttle (m.tried a t) = ⟨true, t⟩
  reconnect {p : σ → Prog (stamped C R) LogRecord (Bool × σ)} {a a' : σ} {t : Time}
    {tr : List (Event (stamped C R))} {lg : List LogRecord} {b : Bool} :
    m.reconnect = some p → (∀ e ∈ tr, e.ans.time = t) → Exec (p a) tr lg (b, a') →
    m.client a' = m.client a ∧ (m.client a ≠ none → m.throttle a' = ⟨true, t⟩) ∧
      (b = true → ∃ e ∈ tr, m.connectReply e = some true)

theorem Lawful.locked_client (hm : m.Lawful) (a : σ) :
    wp (m.locked a) fun _ r => m.client r.2 = m.client a := by
  unfold Connector.locked
  cases hc : m.client a with
  | none => exact hc
  | some h =>
    simp only [wp_bind, wp_ite, wp_pure, wp_emit, Connector.wp_askConnected,
      Connector.wp_askConnect, Connector.wp_now, Bool.not_eq_true, hc, (hm.tried a _).1,
      implies_true, and_self]

section
variable {a a' : σ} {t : Time} {tr : List (Event (stamped C R))} {b : Bool} {r : Option Bool}

theorem CheckRun.quiet (h : m.CheckRun a tr r) : ¬ m.Connects tr := by
  cases h with
  | noClient _ => simp [Connects]
  | connected _ _ => simp [Connects, m.of_isConnected]
  | unconnected _ _ => simp [Connects, m.of_isConnected]

theorem CheckRun.waits (h : m.CheckRun a tr none) : m.FindsNone tr ∧ m.client a ≠ none := by
  cases h with
  | unconnected hc hx => exact ⟨⟨_, List.mem_singleton_self _, hx⟩, by simp [hc]⟩

theorem CheckRun.turned_away (h : m.CheckRun a tr (some false)) : m.client a = none := by
  cases h with
  | noClient hc => exact hc

theorem CheckRun.honest (h : m.CheckRun a tr (some true)) :
    ∃ e ∈ tr, m.isConnectedReply e = some true := by
  cases h with
  | connected _ hx => exact ⟨_, List.mem_singleton_self _, hx⟩

theorem LockedRun.asked (h : m.LockedRun a t tr b a') :
    ∃ e ∈ tr, (m.isConnectedReply e).isSome := by
  cases h with
  | found _ => exact ⟨_, List.mem_cons_self, (m.of_isConnected _ _).1⟩
  | refused _ _ => exact ⟨_, List.mem_cons_self, (m.of_isConnected _ _).1⟩
  | attempted _ _ _ => exact ⟨_, List.mem_cons_self, (m.of_isConnected _ _).1⟩

theorem LockedRun.honest (h : m.LockedRun a t tr true a') :
    ∃ e ∈ tr, m.isConnectedReply e = some true ∨ m.connectReply e = some true := by
  cases h with
  | found hx => exact ⟨_, List.mem_cons_self, .inl hx⟩
  | attempted _ _ hz => exact ⟨_, by simp, .inr hz⟩

end

/-! ### The machine as a throttle -/

open Classical in
/-- What a step is to the throttle. -/
noncomputable def kind (m : Machine C R σ) (l : ConnectStep C R) : Throttle.Kind :=
  if l.part = .reconnect then .force
  else if m.Connects l.trace then .pass
  else if l.part = .locked ∧ m.FindsNone l.trace then .refuse
  else .idle

variable {m : Machine C R σ} {l : ConnectStep C R}

theorem kind_uses_iff : (m.kind l).uses ↔ m.Use l := by
  unfold kind Use Attempt Throttle.Kind.uses
  split
  · simp [*]
  split
  · simp [*]
  split
  · simp [*]
  · simp [*]

theorem kind_pass_iff : m.kind l = .pass ↔ m.Attempt l := by
  unfold kind Attempt
  split
  · simp [*]
  split
  · simp [*]
  split
  · simp [*]
  · simp [*]

/-- A machine with a client has the state of a throttle; without one nobody gets to the lock. -/
def Follows (m : Machine C R σ) (s : ConnectState σ) (th : Throttle) : Prop :=
  (m.client s.adapter ≠ none → m.throttle s.adapter = th) ∧
    (m.client s.adapter = none → ∀ who, s.waiting who = false)

theorem waiting_client {s : ConnectState σ} {who : Nat}
    (hidle : m.client s.adapter = none → ∀ who, s.waiting who = false)
    (hw : s.waiting who = true) : ∃ h, m.client s.adapter = some h := by
  refine Option.ne_none_iff_exists'.mp fun hnone => ?_
  rw [hidle hnone who] at hw
  cases hw

/-- A step of the machine is a step of the throttle. -/
theorem Lawful.follows (hm : m.Lawful) {s s' : ConnectState σ} {th : Throttle}
    (hR : m.Follows s th) (h : m.Step s l s') :
    ∃ th', Throttle.Step (millis 500) m.kind ConnectStep.time th l th' ∧ m.Follows s' th' := by
  obtain ⟨hth, hidle⟩ := hR
  cases h with
  | @check who _ _ _ r hw ht hx =>
    have hrun : m.CheckRun s.adapter _ r := hx.wp (m.check_wp _)
    refine ⟨th, .idle (by simp [kind, hrun.quiet]), hth, ?_⟩
    intro hnone who'
    have hr : r.isNone = false := by
      cases r with
      | none => exact absurd hnone hrun.waits.2
      | some b => rfl
    by_cases hwho : who' = who
    · subst hwho
      simpa using hr
    · simpa [Function.update_of_ne hwho] using hidle hnone who'
  | @locked who t _ _ _ _ hw ht hx =>
    obtain ⟨h, hsome⟩ := waiting_client hidle hw
    have hth := hth (by simp [hsome])
    cases hx.wp (m.locked_wp (t := t) hsome) ht with
    | found hyes =>
      refine ⟨th, .idle ?_, fun _ => hth, fun hnone => by simp [hsome] at hnone⟩
      simp [kind, Connects, FindsNone, m.of_isConnected, hyes]
    | refused hno hh =>
      rw [hth] at hh
      refine ⟨th, .refuse ?_ hh, fun _ => hth, fun hnone => by simp [hsome] at hnone⟩
      simp [kind, Connects, FindsNone, m.of_isConnected, m.of_clock, hno]
    | attempted hno hh hz =>
      rw [hth] at hh
      obtain ⟨hc, ht'⟩ := hm.tried s.adapter t
      refine ⟨_, .pass ?_ hh, fun _ => ht', fun hnone => by simp [hc, hsome] at hnone⟩
      simp [kind, Connects, hz]
  | reconnect hw hp ht hx =>
    obtain ⟨hc, ht', -⟩ := hm.reconnect hp ht hx
    refine ⟨_, .force (by simp [kind]), ?_, ?_⟩
    · intro hsome
      exact ht' (hc ▸ hsome)
    · intro hnone who
      exact hidle (hc ▸ hnone) who

section
variable {client : Option Nat} {ls pre post : List (ConnectStep C R)} {s : ConnectState σ}

theorem Lawful.follows_run (hm : m.Lawful) (h : Run m.Step (m.init client) ls s) :
    ∃ th, Run (Throttle.Step (millis 500) m.kind ConnectStep.time)
      (m.throttle (m.start client)) ls th ∧ m.Follows s th :=
  h.simulates (fun _ _ l _ hR hs => hm.follows (l := l) hR hs) ⟨fun _ => rfl, fun _ _ => rfl⟩

theorem Lawful.client_step (hm : m.Lawful) {s s' : ConnectState σ} (h : m.Step s l s') :
    m.client s'.adapter = m.client s.adapter := by
  cases h with
  | check _ _ _ => rfl
  | locked _ _ hx => exact hx.wp (hm.locked_client _)
  | reconnect _ hp ht hx => exact (hm.reconnect hp ht hx).1

/-- The client is the one the adapter was given. -/
theorem Lawful.client_run (hm : m.Lawful) (h : Run m.Step (m.init client) ls s) :
    m.client s.adapter = client := by
  induction h with
  | nil => exact (hm.start client).1
  | snoc _ hs ih => exact (hm.client_step hs).trans ih

theorem Lawful.goesOn (hm : m.Lawful) (h : Run m.Step (m.init client) ls s)
    (hclient : client ≠ none) (hl : l ∈ ls) (hp : l.part = .check) : l.result ≠ some false := by
  obtain ⟨pre, post, rfl⟩ := List.append_of_mem hl
  obtain ⟨t, t', hpre, hstep, -⟩ := h.at_label
  intro hres
  cases hstep with
  | check _ _ hx =>
    cases hres
    exact hclient ((hm.client_run hpre).symm.trans (hx.wp (m.check_wp _)).turned_away)
  | locked _ _ _ => cases hp
  | reconnect _ _ _ _ => cases hp

/-- A step under the lock is a run of the section, on an adapter with a client. -/
theorem Lawful.lockedRun (hm : m.Lawful) (h : Run m.Step (m.init client) ls s) (hl : l ∈ ls)
    (hp : l.part = .locked) : ∃ a b a', l.result = some b ∧ m.LockedRun a l.time l.trace b a' := by
  obtain ⟨pre, post, rfl⟩ := List.append_of_mem hl
  obtain ⟨t, t', hpre, hstep, -⟩ := h.at_label
  obtain ⟨th, -, -, hidle⟩ := hm.follows_run hpre
  cases hstep with
  | check _ _ _ => cases hp
  | reconnect _ _ _ _ => cases hp
  | locked hw ht hx =>
    obtain ⟨h, hsome⟩ := waiting_client hidle hw
    exact ⟨_, _, _, rfl, hx.wp (m.locked_wp hsome) ht⟩

/-- A section under the lock that finds no connection, after a rest, makes an attempt. -/
theorem Lawful.rested (hm : m.Lawful) (h : Run m.Step (m.init client) (pre ++ l :: post) s)
    (ht : Throttle.Timely ConnectStep.time (pre ++ l :: post)) (hp : l.part = .locked)
    (hf : m.FindsNone l.trace) (hrest : m.Rested pre l.time) :
    ∃ e ∈ l.trace, ∃ ok, m.connectReply e = some ok ∧ l.result = some ok := by
  obtain ⟨th, hrun, -⟩ := hm.follows_run h
  obtain ⟨a, b, a', hres, hlocked⟩ := hm.lockedRun h (by simp) hp
  generalize htr : l.trace = tr at hlocked
  cases hlocked with
  | found hx =>
    obtain ⟨e, he, hno⟩ := hf
    rw [htr, List.mem_singleton] at he
    rw [he, hx] at hno
    cases hno
  | refused hx hh =>
    have hkind : m.kind l = .refuse := by
      simp [kind, hp, htr, Connects, FindsNone, m.of_isConnected, m.of_clock, hx]
    obtain ⟨x, hx, hu, hlt⟩ := Throttle.refused_recent hrun (hm.start client).2 ht hkind
    exact absurd (hrest x hx (kind_uses_iff.mp hu)) (Nat.not_le.mpr hlt)
  | attempted _ _ hz => exact ⟨_, by simp, _, hz, hres⟩

/-- What returns `true` was told so. -/
theorem Lawful.honest (hm : m.Lawful) (h : Run m.Step (m.init client) ls s) (hl : l ∈ ls)
    (hres : l.result = some true) :
    ∃ e ∈ l.trace, m.isConnectedReply e = some true ∨ m.connectReply e = some true := by
  by_cases hp : l.part = .locked
  · obtain ⟨a, b, a', hb, hlocked⟩ := hm.lockedRun h hl hp
    obtain rfl : true = b := Option.some.inj (hres.symm.trans hb)
    exact hlocked.honest
  · obtain ⟨t, t', hstep⟩ := h.of_mem hl
    cases hstep with
    | check _ _ hx =>
      cases hres
      obtain ⟨e, he, hyes⟩ := (hx.wp (m.check_wp _)).honest
      exact ⟨e, he, .inl hyes⟩
    | locked _ _ _ => exact absurd rfl hp
    | reconnect _ hr ht hx =>
      cases hres
      obtain ⟨e, he, hyes⟩ := (hm.reconnect hr ht hx).2.2 rfl
      exact ⟨e, he, .inr hyes⟩

theorem waits_run (h : Run m.Step (m.init client) ls s) (hl : l ∈ ls)
    (hp : l.part = .check) (hres : l.result = none) : m.FindsNone l.trace := by
  obtain ⟨t, t', hstep⟩ := h.of_mem hl
  cases hstep with
  | check _ _ hx =>
    cases hres
    exact (hx.wp (m.check_wp _)).waits.1
  | locked _ _ _ => cases hp
  | reconnect _ _ _ _ => cases hp

/-- A machine that does what it is to do is throttled in every run. -/
theorem Lawful.throttled (hm : m.Lawful) (h : Run m.Step (m.init client) ls s)
    (ht : Throttle.Timely ConnectStep.time ls) : m.Throttled client ls where
  goesOn hclient l hl hp := hm.goesOn h hclient hl hp
  waits l hl hp hres := waits_run h hl hp hres
  asked l hl hp := by
    obtain ⟨_, _, _, _, hlocked⟩ := hm.lockedRun h hl hp
    exact hlocked.asked
  honest l hl hres := hm.honest h hl hres
  spaced := by
    obtain ⟨th, hrun, -⟩ := hm.follows_run h
    have hspaced := Throttle.spaced (by decide) hrun (hm.start client).2 ht
    simpa only [kind_uses_iff, kind_pass_iff] using hspaced
  attempted := by
    rintro pre l post rfl hp hf hrest
    exact hm.rested h ht hp hf hrest
  available := by
    rintro pre l post rfl hp hok hrest
    obtain ⟨a, b, a', hres, hlocked⟩ := hm.lockedRun h (by simp) hp
    by_cases hf : m.FindsNone l.trace
    · obtain ⟨e, he, ok, hreply, hok'⟩ := hm.rested h ht hp hf hrest
      cases ok with
      | true => exact hok'
      | false => exact absurd hreply (hok e he)
    · generalize htr : l.trace = tr at hlocked
      cases hlocked with
      | found _ => exact hres
      | refused hx _ => exact absurd ⟨_, by rw [htr]; simp, hx⟩ hf
      | attempted hx _ _ => exact absurd ⟨_, by rw [htr]; simp, hx⟩ hf

end
end
end Machine

/-! ## The two adapters -/

namespace SecIpcAdapter

def connector : Connector IpcCmd IpcCmd.Reply SecIpcAdapter where
  client := SecIpcAdapter.client
  throttle a := ⟨a.connectAttempted, a.lastConnectAttempt⟩
  tried a t := { a with connectAttempted := true, lastConnectAttempt := t }
  isConnected h := .client h .isConnected
  connect h := .client h .connect
  clock := .reconnectCheck
  isConnectedReply
    | ⟨.client _ .isConnected, x⟩ => some x.reply
    | _ => none
  connectReply
    | ⟨.client _ .connect, x⟩ => some x.reply
    | _ => none
  reconnected := ⟨.downstream, .info, "diag.sec.connected", "SEC IPC reconnected",
    [("downstream", .string "sec-ipc")]⟩
  reconnectFailed := ⟨.downstream, .warn, "diag.sec.connection_failed", "SEC IPC reconnect failed",
    [("downstream", .string "sec-ipc")]⟩
  of_isConnected _ _ := ⟨rfl, rfl⟩
  of_clock _ := ⟨rfl, rfl⟩
  of_connect _ _ := ⟨rfl, rfl⟩

theorem ensureConnected_eq (a : SecIpcAdapter) :
    a.ensureConnected = connector.check a >>= fun
      | some b => pure (b, a)
      | none => connector.locked a := by
  obtain ⟨client, tried, last⟩ := a
  cases client with
  | none => rfl
  | some h =>
    refine congrArg (Prog.call _) (funext ?_)
    rintro ⟨_, connected⟩
    cases connected <;> rfl

def machine : Machine IpcCmd IpcCmd.Reply SecIpcAdapter where
  toConnector := connector
  start client := { client }
  ensureConnected := ensureConnected
  splits := ensureConnected_eq
  reconnect := none

theorem lawful : machine.Lawful where
  start client := ⟨rfl, rfl⟩
  tried a t := ⟨rfl, rfl⟩
  reconnect hp := by cases hp

end SecIpcAdapter

namespace RealProvAdapter

def connector : Connector ProvIpcCmd ProvIpcCmd.Reply RealProvAdapter where
  client := RealProvAdapter.client
  throttle a := ⟨a.connectAttempted, a.lastConnectAttempt⟩
  tried a t := { a with connectAttempted := true, lastConnectAttempt := t }
  isConnected h := .client h .isConnected
  connect h := .client h .connect
  clock := .reconnectCheck
  isConnectedReply
    | ⟨.client _ .isConnected, x⟩ => some x.reply
    | _ => none
  connectReply
    | ⟨.client _ .connect, x⟩ => some x.reply
    | _ => none
  reconnected := ⟨.downstream, .info, "diag.prov.connected", "PROV IPC reconnected",
    [("downstream", .string "prov")]⟩
  reconnectFailed := ⟨.downstream, .warn, "diag.prov.connection_failed",
    "PROV IPC reconnect failed", [("downstream", .string "prov")]⟩
  of_isConnected _ _ := ⟨rfl, rfl⟩
  of_clock _ := ⟨rfl, rfl⟩
  of_connect _ _ := ⟨rfl, rfl⟩

theorem ensureConnected_eq (a : RealProvAdapter) :
    a.ensureConnected = connector.check a >>= fun
      | some b => pure (b, a)
      | none => connector.locked a := by
  obtain ⟨client, tried, last⟩ := a
  cases client with
  | none => rfl
  | some h =>
    refine congrArg (Prog.call _) (funext ?_)
    rintro ⟨_, connected⟩
    cases connected <;> rfl

def machine : Machine ProvIpcCmd ProvIpcCmd.Reply RealProvAdapter where
  toConnector := connector
  start client := { client }
  ensureConnected := ensureConnected
  splits := ensureConnected_eq
  reconnect := some reconnect

theorem reconnect_wp (a : RealProvAdapter) :
    wp a.reconnect fun tr r => ∀ {t : Time}, (∀ e ∈ tr, e.ans.time = t) →
      machine.client r.2 = machine.client a ∧
        (machine.client a ≠ none → machine.throttle r.2 = ⟨true, t⟩) ∧
        (r.1 = true → ∃ e ∈ tr, machine.connectReply e = some true) := by
  unfold reconnect
  cases hc : a.client with
  | none => simp [machine, connector, hc]
  | some h =>
    simp only [wp_bind, wp_pure, ProvIpc.wp_now, List.append_nil, List.cons_append,
      List.nil_append]
    intro now _ ok t ht
    obtain rfl : now.time = t := ht _ List.mem_cons_self
    refine ⟨hc.symm, fun _ => rfl, fun hok => ⟨⟨.client h .connect, ok⟩, by simp, ?_⟩⟩
    exact congrArg some hok

theorem lawful : machine.Lawful where
  start client := ⟨rfl, rfl⟩
  tried a t := ⟨rfl, rfl⟩
  reconnect hp ht hx := by
    cases hp
    exact hx.wp (reconnect_wp _) ht

end RealProvAdapter

/-- Both adapters attempt at most once in 500 ms, after 500 ms of rest they do, and they report a
connection only when there is one. -/
theorem reconnect_throttled :
    (∀ {client : Option Nat} {ls : List (ConnectStep IpcCmd IpcCmd.Reply)}
        {s : ConnectState SecIpcAdapter},
      Run SecIpcAdapter.machine.Step (SecIpcAdapter.machine.init client) ls s →
      Throttle.Timely ConnectStep.time ls → SecIpcAdapter.machine.Throttled client ls) ∧
    (∀ {client : Option Nat} {ls : List (ConnectStep ProvIpcCmd ProvIpcCmd.Reply)}
        {s : ConnectState RealProvAdapter},
      Run RealProvAdapter.machine.Step (RealProvAdapter.machine.init client) ls s →
      Throttle.Timely ConnectStep.time ls → RealProvAdapter.machine.Throttled client ls) :=
  ⟨fun h ht => SecIpcAdapter.lawful.throttled h ht,
    fun h ht => RealProvAdapter.lawful.throttled h ht⟩

/-! ## Two runs -/

/-- Two callers see no connection; the first attempts in vain and the second is refused. The client
reconnects by itself, so that a third one is content under the lock; then it is lost once more, and
the first caller attempts again, 500 ms after the first time. -/
def lostSteps : List (ConnectStep IpcCmd IpcCmd.Reply) :=
  [⟨0, .check, 0, [⟨.client 0 .isConnected, ⟨0, false⟩⟩], none⟩,
   ⟨1, .check, 0, [⟨.client 0 .isConnected, ⟨0, false⟩⟩], none⟩,
   ⟨2, .check, 0, [⟨.client 0 .isConnected, ⟨0, false⟩⟩], none⟩,
   ⟨0, .locked, 0, [⟨.client 0 .isConnected, ⟨0, false⟩⟩, ⟨.reconnectCheck, ⟨0, ()⟩⟩,
      ⟨.client 0 .connect, ⟨0, false⟩⟩], some false⟩,
   ⟨1, .locked, 1, [⟨.client 0 .isConnected, ⟨1, false⟩⟩, ⟨.reconnectCheck, ⟨1, ()⟩⟩],
      some false⟩,
   ⟨2, .locked, 2, [⟨.client 0 .isConnected, ⟨2, true⟩⟩], some true⟩,
   ⟨0, .check, millis 500, [⟨.client 0 .isConnected, ⟨millis 500, false⟩⟩], none⟩,
   ⟨0, .locked, millis 500, [⟨.client 0 .isConnected, ⟨millis 500, false⟩⟩,
      ⟨.reconnectCheck, ⟨millis 500, ()⟩⟩, ⟨.client 0 .connect, ⟨millis 500, true⟩⟩],
      some true⟩]

theorem lost_run :
    ∃ s, Run SecIpcAdapter.machine.Step (SecIpcAdapter.machine.init (some 0)) lostSteps s := by
  exact ⟨_,
    .cons (.check rfl (by simp) (.call .pure)) <|
    .cons (.check rfl (by simp) (.call .pure)) <|
    .cons (.check rfl (by simp) (.call .pure)) <|
    .cons (.locked rfl (by simp) (.call (.call (.call (.tell .pure))))) <|
    .cons (.locked rfl (by simp) (.call (.call .pure))) <|
    .cons (.locked rfl (by simp) (.call .pure)) <|
    .cons (.check rfl (by simp) (.call .pure)) <|
    .cons (.locked rfl (by simp) (.call (.call (.call (.tell .pure))))) .nil⟩

/-- Two callers see no connection; the first attempts in vain and the second is refused. A later
one attempts again, 500 ms after a `reconnect` in between. -/
def troubledSteps : List (ConnectStep ProvIpcCmd ProvIpcCmd.Reply) :=
  [⟨0, .check, 0, [⟨.client 0 .isConnected, ⟨0, false⟩⟩], none⟩,
   ⟨1, .check, 0, [⟨.client 0 .isConnected, ⟨0, false⟩⟩], none⟩,
   ⟨0, .locked, 0, [⟨.client 0 .isConnected, ⟨0, false⟩⟩, ⟨.reconnectCheck, ⟨0, ()⟩⟩,
      ⟨.client 0 .connect, ⟨0, false⟩⟩], some false⟩,
   ⟨1, .locked, 1, [⟨.client 0 .isConnected, ⟨1, false⟩⟩, ⟨.reconnectCheck, ⟨1, ()⟩⟩],
      some false⟩,
   ⟨2, .reconnect, 2, [⟨.reconnectCheck, ⟨2, ()⟩⟩, ⟨.client 0 .disconnect, ⟨2, ()⟩⟩,
      ⟨.client 0 .connect, ⟨2, true⟩⟩], some true⟩,
   ⟨0, .check, 2 + millis 500, [⟨.client 0 .isConnected, ⟨2 + millis 500, false⟩⟩], none⟩,
   ⟨0, .locked, 2 + millis 500, [⟨.client 0 .isConnected, ⟨2 + millis 500, false⟩⟩,
      ⟨.reconnectCheck, ⟨2 + millis 500, ()⟩⟩,
      ⟨.client 0 .connect, ⟨2 + millis 500, true⟩⟩], some true⟩]

theorem troubled_run :
    ∃ s, Run RealProvAdapter.machine.Step (RealProvAdapter.machine.init (some 0))
      troubledSteps s := by
  exact ⟨_,
    .cons (.check rfl (by simp) (.call .pure)) <|
    .cons (.check rfl (by simp) (.call .pure)) <|
    .cons (.locked rfl (by simp) (.call (.call (.call (.tell .pure))))) <|
    .cons (.locked rfl (by simp) (.call (.call .pure))) <|
    .cons (.reconnect rfl rfl (by simp) (.call (.call (.call .pure)))) <|
    .cons (.check rfl (by simp) (.call .pure)) <|
    .cons (.locked rfl (by simp) (.call (.call (.call (.tell .pure))))) .nil⟩

theorem reconnect_throttled_troubled : SecIpcAdapter.machine.Throttled (some 0) lostSteps ∧
    RealProvAdapter.machine.Throttled (some 0) troubledSteps := by
  obtain ⟨s, h⟩ := lost_run
  obtain ⟨s', h'⟩ := troubled_run
  refine ⟨reconnect_throttled.1 h ?_, reconnect_throttled.2 h' ?_⟩
  · simp [Throttle.Timely, lostSteps, millis]
  · simp [Throttle.Timely, troubledSteps, millis]

end Diag
end Tbox
