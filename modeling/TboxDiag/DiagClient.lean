import TboxDiag.DiagIpcDispatcher

/-!
# DiagClient

The other end of the queries: the library by which other processes of the box put them, and read
the answers. It parses an answer twice. `sendRequest` looks for the status, and takes an answer it
cannot read for a success; the query then reads its own fields, and a missing field for its
default.

The JSON library and the connection of the IPC framework are parameters. Texts are those of the
library: neither side looks at one but through it.
-/

namespace Tbox
namespace Diag

open Effects DiagIpcDispatcher

/-! ## Reading an object -/

/-- The bytes of a text of the source. -/
def utf8 (s : String) : Bytes := s.toUTF8.data.toList

/-- A value as it is after parsing: every string is its bytes. -/
def JsonValue.raw : JsonValue → JsonValue
  | .text s => .bytes (utf8 s)
  | v => v

namespace JsonObject

/-- `j.value(key, defaultValue)` of a `bool`; `none` where it throws. -/
def valueBool (j : JsonObject) (key : String) (defaultValue : Bool) : Option Bool :=
  match (j.get? key).map JsonValue.raw with
  | none => some defaultValue
  | some (.bool b) => some b
  | some _ => none

/-- `j.value(key, defaultValue)` of an `int`, which a JSON boolean converts to. -/
def valueInt (j : JsonObject) (key : String) (defaultValue : Int32) : Option Int32 :=
  match (j.get? key).map JsonValue.raw with
  | none => some defaultValue
  | some (.int n) => some (Int32.ofInt n)
  | some (.bool b) => some (if b then 1 else 0)
  | some _ => none

/-- `j.value(key, defaultValue)` of a string. -/
def valueString (j : JsonObject) (key defaultValue : String) : Option Bytes :=
  match (j.get? key).map JsonValue.raw with
  | none => some (utf8 defaultValue)
  | some (.bytes b) => some b
  | some _ => none

/-- The same object, to whoever looks up its keys. -/
def Same (j j' : JsonObject) : Prop :=
  ∀ key, (j.get? key).map JsonValue.raw = (j'.get? key).map JsonValue.raw

section
variable {j j' : JsonObject} {key : String}

theorem Same.valueBool (h : j.Same j') {b : Bool} : j.valueBool key b = j'.valueBool key b := by
  rw [JsonObject.valueBool, JsonObject.valueBool, h key]

theorem Same.valueInt (h : j.Same j') {n : Int32} : j.valueInt key n = j'.valueInt key n := by
  rw [JsonObject.valueInt, JsonObject.valueInt, h key]

theorem Same.valueString (h : j.Same j') {s : String} :
    j.valueString key s = j'.valueString key s := by
  rw [JsonObject.valueString, JsonObject.valueString, h key]

theorem get?_filter_ne {key' : String} (h : key' ≠ key) :
    JsonObject.get? (j.filter fun p => p.1 ≠ key) key' = j.get? key' := by
  unfold JsonObject.get?
  induction j with
  | nil => rfl
  | cons p j ih =>
    by_cases hp : p.1 = key
    · have hne : (key' == p.1) = false := by simpa [hp] using h
      rw [List.filter_cons_of_neg (by simpa using hp), ih, List.lookup_cons, hne]
    · rw [List.filter_cons_of_pos (by simpa using hp), List.lookup_cons, List.lookup_cons, ih]

theorem get?_filter_self : JsonObject.get? (j.filter fun p => p.1 ≠ key) key = none := by
  unfold JsonObject.get?
  refine List.lookup_eq_none_iff.mpr ?_
  intro p hp
  have hne : p.1 ≠ key := by simpa using (List.mem_filter.mp hp).2
  exact bne_iff_ne.mpr hne.symm

theorem get?_set (value : JsonValue) (key' : String) :
    (j.set key value).get? key' = if key' = key then some value else j.get? key' := by
  have hsplit : (j.set key value).get? key' =
      (JsonObject.get? (j.filter fun p => p.1 ≠ key) key').or
        (JsonObject.get? [(key, value)] key') := List.lookup_append
  rw [hsplit]
  by_cases h : key' = key
  · subst h
    rw [get?_filter_self, if_pos rfl]
    simp [JsonObject.get?]
  · rw [get?_filter_ne h, if_neg h]
    have hnone : JsonObject.get? [(key, value)] key' = none := by
      simp [JsonObject.get?, h]
    rw [hnone, Option.or_none]

theorem Same.set (h : j.Same j') (key : String) (value : JsonValue) :
    (j.set key value).Same (j'.set key value) := by
  intro key'
  rw [get?_set, get?_set]
  by_cases hk : key' = key
  · rw [if_pos hk, if_pos hk]
  · rw [if_neg hk, if_neg hk]
    exact h key'

theorem Same.trans {j'' : JsonObject} (h : j.Same j') (h' : j'.Same j'') : j.Same j'' :=
  fun key => (h key).trans (h' key)

theorem dumps_set (h : j.dumps = true) (n : Int) : (j.set key (.int n)).dumps = true := by
  unfold dumps JsonObject.set at *
  rw [List.all_append, Bool.and_eq_true]
  refine ⟨?_, rfl⟩
  rw [List.all_eq_true] at h ⊢
  intro p hp
  exact h p (List.mem_filter.mp hp).1

end
end JsonObject

/-! ## The JSON library -/

/-- `nlohmann::json`; `none` where a function throws. -/
structure JsonLib where
  Text : Type
  dump : JsonObject → Option Text
  parse : Text → Option JsonObject

/-- It dumps what is UTF-8, parses what it dumps, and parses to nothing but UTF-8. -/
structure JsonLib.Lawful (lib : JsonLib) : Prop where
  dump_isSome (j : JsonObject) : (lib.dump j).isSome = j.dumps
  parse_dump {j : JsonObject} {t : lib.Text} : lib.dump j = some t →
    ∃ j', lib.parse t = some j' ∧ j'.Same j
  parse_dumps {j : JsonObject} {t : lib.Text} : lib.parse t = some j → j.dumps = true

/-! ## The connection -/

namespace DiagRetryPolicy

inductive Category where
  | readOnly
  | oneShot
  | write
  deriving DecidableEq, Repr

def categorize (methodId : UInt32) : Category :=
  if methodId = MethodId.getServiceStatus ∨ methodId = MethodId.getVehicleInfo ∨
      methodId = MethodId.isTesterConnected then .readOnly
  else .oneShot

def shouldRetry (methodId : UInt32) : Bool := categorize methodId = .readOnly

end DiagRetryPolicy

/-- The client of the IPC framework: a call returns its status, negative for the transport and
positive for the server, and the text of the response. -/
structure FwClient (Text : Type) where
  isConnected : Bool
  call (methodId : UInt32) (params : Bytes) : Int32 × Text
  callOnce (methodId : UInt32) (params : Bytes) : Int32 × Text

inductive DiagClientError where
  | success
  | connectionFailed
  | timeout
  | serviceError
  | internalError
  | notConnected
  deriving DecidableEq, Repr

structure DiagServiceStatus where
  initialized : Bool := false
  sessionType : Bytes := []
  sessionState : Bytes := []
  securityUnlocked : Bool := false
  transport : Bytes := []
  deriving DecidableEq, Repr

structure VehicleInfo where
  valid : Bool := false
  vin : Bytes := []
  bindState : Bytes := []
  deriving DecidableEq, Repr

/-! ## The client -/

namespace DiagClient

/-- The parameters of every request. -/
def emptyParams : Bytes := utf8 "\x7b\x7d"

section
variable (lib : JsonLib) (fw : FwClient lib.Text)

/-- The business status in a text: a text without a status, or one that is no JSON, counts as a
success. -/
def bizStatus (response : lib.Text) : Int32 :=
  match lib.parse response with
  | some j => (j.valueInt "status" 0).getD 0
  | none => 0

/-- The business status and the text of the response; `none` where there is none. -/
def sendRequest (methodId : UInt32) (params : Bytes) : Option (Int32 × lib.Text) :=
  let (fwStatus, response) :=
    if DiagRetryPolicy.shouldRetry methodId then fw.call methodId params
    else fw.callOnce methodId params
  if fwStatus < 0 then none
  else if fwStatus > 0 then none
  else some (bizStatus lib response, response)

/-- Reading an answer into the caller's variable, as far as it goes. -/
abbrev Reading (σ : Type) := OptionT (StateM σ)

/-- `variable.field = j.value(..)`. -/
def assign {σ α : Type} (value : Option α) (update : σ → α → σ) : Reading σ Unit := do
  let x ← OptionT.mk (pure value)
  modify fun out => update out x

/-- What all queries do: ask, and read the answer. -/
def query {σ : Type} (methodId : UInt32) (read : JsonObject → Reading σ Unit) (out : σ) :
    DiagClientError × σ :=
  if fw.isConnected = false then (.notConnected, out)
  else
    match sendRequest lib fw methodId emptyParams with
    | none => (.connectionFailed, out)
    | some (bizStatus, response) =>
      if bizStatus ≠ 0 then (.serviceError, out)
      else
        match lib.parse response with
        | none => (.internalError, out)
        | some j =>
          match (read j).run out with
          | (some (), out) => (.success, out)
          | (none, out) => (.internalError, out)

def readServiceStatus (j : JsonObject) : Reading DiagServiceStatus Unit := do
  assign (j.valueBool "initialized" false) fun status b => { status with initialized := b }
  assign (j.valueString "session_type" "UNKNOWN") fun status s => { status with sessionType := s }
  assign (j.valueString "session_state" "UNKNOWN") fun status s => { status with sessionState := s }
  assign (j.valueBool "security_unlocked" false) fun status b =>
    { status with securityUnlocked := b }
  assign (j.valueString "transport" "UNKNOWN") fun status s => { status with transport := s }

def getServiceStatus : DiagServiceStatus → DiagClientError × DiagServiceStatus :=
  query lib fw MethodId.getServiceStatus readServiceStatus

def readVehicleInfo (j : JsonObject) : Reading VehicleInfo Unit := do
  assign (j.valueBool "valid" false) fun info b => { info with valid := b }
  if (← get).valid then
    assign (j.valueString "vin" "") fun info s => { info with vin := s }
    assign (j.valueString "bind_state" "UNKNOWN") fun info s => { info with bindState := s }

def getVehicleInfo : VehicleInfo → DiagClientError × VehicleInfo :=
  query lib fw MethodId.getVehicleInfo readVehicleInfo

def readConnected (j : JsonObject) : Reading Bool Unit :=
  assign (j.valueBool "connected" false) fun _ b => b

def isTesterConnected : Bool → DiagClientError × Bool :=
  query lib fw MethodId.isTesterConnected readConnected

end

/-! ### What reading depends on -/

section
variable {j j' : JsonObject}

theorem readServiceStatus_congr (h : j.Same j') : readServiceStatus j = readServiceStatus j' := by
  unfold readServiceStatus
  simp only [h.valueBool, h.valueString]

theorem readVehicleInfo_congr (h : j.Same j') : readVehicleInfo j = readVehicleInfo j' := by
  unfold readVehicleInfo
  simp only [h.valueBool, h.valueString]

theorem readConnected_congr (h : j.Same j') : readConnected j = readConnected j' := by
  unfold readConnected
  rw [h.valueBool]

end

/-- When a query succeeds. -/
theorem query_success {lib : JsonLib} {fw : FwClient lib.Text} {σ : Type} {methodId : UInt32}
    {read : JsonObject → Reading σ Unit} {out : σ}
    (h : (query lib fw methodId read out).1 = .success) :
    ∃ response j, sendRequest lib fw methodId emptyParams = some (0, response) ∧
      lib.parse response = some j ∧
      (read j).run out = (some (), (query lib fw methodId read out).2) := by
  unfold query at *
  split at h
  · cases h
  split at h
  · cases h
  next bizStatus response hsend =>
  split at h
  · cases h
  next hbiz =>
  split at h
  · cases h
  next j hj =>
  rw [ne_eq, not_not] at hbiz
  subst hbiz
  refine ⟨response, j, hsend, hj, ?_⟩
  split at h
  next out' hread => simp_all
  next => cases h

end DiagClient
end Diag
end Tbox
