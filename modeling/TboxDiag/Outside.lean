import TboxDiag.Lib.Prog
import TboxDiag.DataModels

/-!
# Outside

What the service is linked with: the SEC and PROV interfaces behind their pointers, the steady
clock, the configuration manager, the socket calls, and the logger. `M` is the type of the code
that uses them. Every answer carries the time at which it was given, so that a trace says when
each call was made; the program itself sees a time only where it reads the clock.

Log records are what the code hands to `DiagLogAdapter`. The duration and the random trace and
request ids in them are left out.
-/

namespace Tbox
namespace Diag

open Effects

/-! ## Logging -/

inductive Logger where
  | transport
  | session
  | udsRouter
  | downstream
  | response
  | ipc
  deriving DecidableEq, Repr

inductive LogLevel where
  | debug
  | info
  | warn
  | error
  deriving DecidableEq, Repr

inductive FieldValue where
  | string (s : String)
  | int (n : Int)
  | bool (b : Bool)
  deriving DecidableEq, Repr

structure LogRecord where
  logger : Logger
  level : LogLevel
  event : String
  message : String
  fields : List (String × FieldValue) := []
  deriving DecidableEq, Repr

/-- `%0<width>X`. -/
def hexUpper (width n : Nat) : String :=
  let ds := (Nat.toDigits 16 n).map Char.toUpper
  String.ofList (List.replicate (width - ds.length) '0' ++ ds)

/-- `0x%02X`. -/
def hex2 (b : UInt8) : String := "0x" ++ hexUpper 2 b.toNat

/-- `0x%04X`. -/
def hex4 (w : UInt16) : String := "0x" ++ hexUpper 4 w.toNat

/-- `"0x" + std::to_string(b)`, which prints in decimal. -/
def zeroXDec (b : UInt8) : String := "0x" ++ toString b.toNat

/-! ## SEC and PROV -/

inductive CertInjectFailure where
  | none
  | secUnavailable
  | stateNotAllowed
  | invalidFormat
  | keyMismatch
  | certExpired
  | storageFailed
  | unknown
  deriving DecidableEq, Repr

def certInjectFailureName : CertInjectFailure → String
  | .none => "none"
  | .secUnavailable => "sec_unavailable"
  | .stateNotAllowed => "state_not_allowed"
  | .invalidFormat => "invalid_format"
  | .keyMismatch => "key_mismatch"
  | .certExpired => "cert_expired"
  | .storageFailed => "storage_failed"
  | .unknown => "unknown"

/-- The methods of `SecInterface` the service calls. -/
inductive SecCall where
  | isAvailable
  | getSeed (level : UInt8)
  | verifyKey (level : UInt8) (key : Bytes)
  | generateKeyPair
  | getCsr
  | injectCertificate (certDer : Bytes)
  deriving DecidableEq, Repr

/-- What a method returns, its output parameters included. -/
abbrev SecCall.Reply : SecCall → Type
  | .isAvailable => Bool
  | .getSeed _ => Bool × Bytes
  | .verifyKey _ _ => Bool
  | .generateKeyPair => Bool
  | .getCsr => Bool × Bytes
  | .injectCertificate _ => Bool × CertInjectFailure

structure VinReadResult where
  vin : Bytes := []
  bindState : Bytes := []
  valid : Bool := false
  deriving DecidableEq, Repr

/-- The methods of `ProvInterface` the service calls. -/
inductive ProvCall where
  | isAvailable
  | writeVin (vin : Bytes) (payload : Bytes)
  | readVin
  deriving DecidableEq, Repr

abbrev ProvCall.Reply : ProvCall → Type
  | .isAvailable => Bool
  | .writeVin _ _ => DiagErrorCode
  | .readVin => VinReadResult

/-- The object behind a `std::shared_ptr<SecInterface>`. -/
abbrev SecHandle := Nat

/-- The object behind a `std::shared_ptr<ProvInterface>`. -/
abbrev ProvHandle := Nat

/-! ## Sockets and configuration -/

/-- A peer returned by `accept`; `fd` is negative when it fails. -/
structure Accepted where
  fd : Int
  clientIp : String
  clientPort : UInt16
  deriving DecidableEq, Repr

inductive SockCall where
  | poll (fd : Int) (timeoutMs : UInt32)
  | accept (serverFd : Int)
  | recv (fd : Int) (len : Nat)
  | send (fd : Int) (data : Bytes)
  | close (fd : Int)
  deriving DecidableEq, Repr

/-- `recv` answers `none` for `-1`, and otherwise the bytes delivered; `send` its return value. -/
abbrev SockCall.Reply : SockCall → Type
  | .poll _ _ => Int
  | .accept _ => Accepted
  | .recv _ _ => Option Bytes
  | .send _ _ => Int
  | .close _ => Unit

/-- How `ConfigManager::load("diag")` and `getSnapshot()` end. -/
inductive ConfigLoad where
  | notOk (errorCode : UInt32)
  | noSnapshot
  | threw (what : String)
  | snapshot
  deriving DecidableEq, Repr

/-- How `getSection` ends. -/
inductive ConfigSection where
  | absent
  | present
  | threw (what : String)
  deriving DecidableEq, Repr

/-! ## The interface -/

/-- The places where the source reads `steady_clock::now()`. -/
inductive ClockSite where
  | sessionCreated
  | s3Check
  | sessionStarted
  | sessionPresent
  | testerPresent
  | lockoutCheck
  | lockoutStart
  deriving DecidableEq, Repr

inductive Cmd where
  | now (site : ClockSite)
  | sec (h : SecHandle) (c : SecCall)
  | prov (h : ProvHandle) (c : ProvCall)
  | sock (c : SockCall)
  | loadConfig
  | getSection (name : String)
  deriving DecidableEq, Repr

abbrev Cmd.Reply : Cmd → Type
  | .now _ => Unit
  | .sec _ c => c.Reply
  | .prov _ c => c.Reply
  | .sock c => c.Reply
  | .loadConfig => ConfigLoad
  | .getSection _ => ConfigSection

/-- A reply with the time at which it was given. -/
structure Stamped (ρ : Type) where
  time : Time
  reply : ρ

abbrev outside : Sig := ⟨Cmd, fun c => Stamped c.Reply⟩

abbrev Trace := List (Event outside)

/-- What the outside would answer to each command. -/
abbrev Oracle := (c : Cmd) → Stamped c.Reply

/-- Code of the service. -/
abbrev M := Prog outside LogRecord

def ask (c : Cmd) : M c.Reply := .call c fun x => .pure x.reply

/-- `steady_clock::now()`. -/
def now (site : ClockSite) : M Time := .call (.now site) fun x => .pure x.time

def log (logger : Logger) (level : LogLevel) (event message : String)
    (fields : List (String × FieldValue)) : M Unit :=
  Prog.emit ⟨logger, level, event, message, fields⟩

@[simp] theorem wp_ask (c : Cmd) (Q : Trace → c.Reply → Prop) :
    wp (ask c) Q ↔ ∀ x : Stamped c.Reply, Q [⟨c, x⟩] x.reply := Iff.rfl

theorem wp_ask_bind {α : Type} {c : Cmd} {k : c.Reply → M α} {Q : Trace → α → Prop} :
    wp (ask c >>= k) Q ↔ ∀ x : Stamped c.Reply, wp (k x.reply) fun tr a => Q (⟨c, x⟩ :: tr) a :=
  Iff.rfl

theorem exec_ask_bind {α : Type} {c : Cmd} {k : c.Reply → M α} {x : Stamped c.Reply} {tr : Trace}
    {lg : List LogRecord} {a : α} :
    Exec (ask c >>= k) (⟨c, x⟩ :: tr) lg a ↔ Exec (k x.reply) tr lg a := exec_call_iff

theorem exec_ask_inv {α : Type} {c : Cmd} {k : c.Reply → M α} {tr : Trace} {lg : List LogRecord}
    {a : α} (h : Exec (ask c >>= k) tr lg a) :
    ∃ (x : Stamped c.Reply) (tr' : Trace), tr = ⟨c, x⟩ :: tr' ∧ Exec (k x.reply) tr' lg a := by
  cases h with
  | call h => exact ⟨_, _, rfl, h⟩

@[simp] theorem wp_now (site : ClockSite) (Q : Trace → Time → Prop) :
    wp (now site) Q ↔ ∀ x : Stamped Unit, Q [⟨.now site, x⟩] x.time := Iff.rfl

@[simp] theorem wp_log (logger : Logger) (level : LogLevel) (event message : String)
    (fields : List (String × FieldValue)) (Q : Trace → Unit → Prop) :
    wp (log logger level event message fields) Q ↔ Q [] () := Iff.rfl

/-! ## Traces -/

/-- Calls that serve the transport, the configuration or the construction of an object: those no
handler makes. -/
def Cmd.aside : Cmd → Prop
  | .sock _ | .loadConfig | .getSection _ | .now .sessionCreated => True
  | _ => False

def Quiet (tr : Trace) : Prop := ∀ e ∈ tr, e.cmd.aside

@[simp] theorem quiet_nil : Quiet [] := by simp [Quiet]

theorem quiet_append {tr tr' : Trace} (h : Quiet tr) (h' : Quiet tr') : Quiet (tr ++ tr') :=
  List.forall_mem_append.mpr ⟨h, h'⟩

/-- `p` makes no other calls than these. -/
abbrev Aside {α : Type} (p : M α) : Prop := Issues (S := outside) Cmd.aside p

theorem Aside.quiet {α : Type} {p : M α} {tr : Trace} {lg : List LogRecord} {a : α} (h : Aside p)
    (hx : Exec p tr lg a) : Quiet tr := hx.wp h

theorem issues_ask {P : Cmd → Prop} {c : Cmd} (h : P c) :
    Issues (S := outside) P (ask c) := by
  rw [Issues, wp_ask]
  intro x e he
  rw [List.mem_singleton.mp he]
  exact h

theorem aside_ask {c : Cmd} (h : c.aside) : Aside (ask c) := issues_ask h

theorem aside_sock {c : SockCall} : Aside (ask (.sock c)) := aside_ask trivial

theorem issues_log {P : Cmd → Prop} {logger : Logger} {level : LogLevel} {event message : String}
    {fields : List (String × FieldValue)} :
    Issues (S := outside) P (log logger level event message fields) := issues_emit

theorem aside_log {logger : Logger} {level : LogLevel} {event message : String}
    {fields : List (String × FieldValue)} : Aside (log logger level event message fields) :=
  issues_log

def timeOf (e : Event outside) : Time := e.ans.time

/-- The clock never goes back along the trace. -/
def Clocked (tr : Trace) : Prop := tr.Pairwise fun e e' => timeOf e ≤ timeOf e'

instance (tr : Trace) : Decidable (Clocked tr) :=
  inferInstanceAs (Decidable (List.Pairwise (fun e e' => timeOf e ≤ timeOf e') tr))

theorem Clocked.left {tr tr' : Trace} (h : Clocked (tr ++ tr')) : Clocked tr :=
  (List.pairwise_append.mp h).1

theorem Clocked.right {tr tr' : Trace} (h : Clocked (tr ++ tr')) : Clocked tr' :=
  (List.pairwise_append.mp h).2.1

/-- A time no event of the trace comes after. -/
def latest (tr : Trace) : Time := tr.foldr (fun e t => max (timeOf e) t) 0

theorem le_latest {tr : Trace} {e : Event outside} (he : e ∈ tr) : timeOf e ≤ latest tr := by
  induction tr with
  | nil => cases he
  | cons x tr ih =>
    rw [latest, List.foldr_cons, ← latest]
    cases List.mem_cons.mp he with
    | inl h => rw [h]; exact Nat.le_max_left _ _
    | inr h => exact (ih h).trans (Nat.le_max_right _ _)

/-- Events of one time, not before the end of a clocked trace, continue it. -/
theorem Clocked.extend {tr tr' : Trace} {t : Time} (h : Clocked tr) (ht : latest tr ≤ t)
    (hall : ∀ e ∈ tr', timeOf e = t) : Clocked (tr ++ tr') := by
  refine List.pairwise_append.mpr ⟨h, ?_, ?_⟩
  · refine List.pairwise_of_forall_mem_list ?_
    intro a ha b hb
    rw [hall a ha, hall b hb]
  · intro a ha b hb
    rw [hall b hb]
    exact (le_latest ha).trans ht

/-! ## Scenarios -/

/-- The outside at time `t`, when everything works and nothing arrives. -/
def obliging (t : Time) : Oracle
  | .now _ => ⟨t, ()⟩
  | .sec _ .isAvailable => ⟨t, true⟩
  | .sec _ (.getSeed _) => ⟨t, (true, [])⟩
  | .sec _ (.verifyKey _ _) => ⟨t, true⟩
  | .sec _ .generateKeyPair => ⟨t, true⟩
  | .sec _ .getCsr => ⟨t, (true, [])⟩
  | .sec _ (.injectCertificate _) => ⟨t, (true, .none)⟩
  | .prov _ .isAvailable => ⟨t, true⟩
  | .prov _ (.writeVin _ _) => ⟨t, .success⟩
  | .prov _ .readVin => ⟨t, { valid := true }⟩
  | .sock (.poll _ _) => ⟨t, 0⟩
  | .sock (.accept _) => ⟨t, ⟨-1, "", 0⟩⟩
  | .sock (.recv _ _) => ⟨t, none⟩
  | .sock (.send _ data) => ⟨t, (data.length : Int)⟩
  | .sock (.close _) => ⟨t, ()⟩
  | .loadConfig => ⟨t, .noSnapshot⟩
  | .getSection _ => ⟨t, .absent⟩

theorem obliging_time (t : Time) (c : Cmd) : (obliging t c).time = t := by
  cases c with
  | sec h c => cases c <;> rfl
  | prov h c => cases c <;> rfl
  | sock c => cases c <;> rfl
  | _ => rfl

theorem timeOf_obliging {t : Time} {tr : Trace} (h : Answers (obliging t) tr) :
    ∀ e ∈ tr, timeOf e = t := by
  intro e he
  rw [timeOf, h e he]
  exact obliging_time t e.cmd

end Diag
end Tbox
