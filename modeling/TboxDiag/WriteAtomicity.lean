import TboxDiag.RealProvAdapter
import TboxDiag.Dispatched

/-!
# WriteAtomicity

WRITE_VIN with configuration bytes behind the VIN is two writes of the PROV client, one after the
other, and nothing is undone when the second fails. `write_vin_atomic_iff`: the routine is all or
nothing except where PROV took a new VIN and then refused the configuration.
-/

namespace Tbox
namespace Diag

open Effects RealProvAdapter ServiceDispatcher

/-! ## What PROV holds -/

structure ProvHeld where
  vin : Bytes := []
  config : Bytes := []
  deriving DecidableEq, Repr

/-- A write takes effect if it succeeds and has no effect otherwise. -/
def ProvHeld.after (st : ProvHeld) : Event provIpc → ProvHeld
  | ⟨.client _ (.writeVin vin), x⟩ => if x.reply = .success then { st with vin } else st
  | ⟨.client _ (.writeVehicleConfig config), x⟩ =>
    if x.reply = .success then { st with config } else st
  | _ => st

def ProvHeld.afterAll (st : ProvHeld) (tr : ProvTrace) : ProvHeld := tr.foldl ProvHeld.after st

/-- PROV took the VIN. -/
def tookVin : Event provIpc → Prop
  | ⟨.client _ (.writeVin _), x⟩ => x.reply = .success
  | _ => False

/-- PROV did not take the configuration. -/
def refusedConfig : Event provIpc → Prop
  | ⟨.client _ (.writeVehicleConfig _), x⟩ => x.reply ≠ .success
  | _ => False

/-- A negative response leaves PROV as it was; after a positive one it has the VIN, and the
configuration if there was any. -/
def AllOrNothing (st : ProvHeld) (request : DiagRequest) (tr : ProvTrace)
    (response : DiagResponse) : Prop :=
  (response.positive = false → st.afterAll tr = st) ∧
    (response.positive = true →
      (st.afterAll tr).vin = request.payload.take vinLength ∧
      (st.afterAll tr).config =
        if request.payload.drop vinLength = [] then st.config
        else request.payload.drop vinLength)

/-- PROV took a VIN other than the one it had, and refused the configuration. -/
def HalfWritten (st : ProvHeld) (request : DiagRequest) (tr : ProvTrace) : Prop :=
  (∃ e ∈ tr, tookVin e) ∧ (∃ e ∈ tr, refusedConfig e) ∧
    st.vin ≠ request.payload.take vinLength

section
variable {st : ProvHeld} {tr tr' : ProvTrace}

@[simp] theorem afterAll_nil : st.afterAll [] = st := rfl

@[simp] theorem afterAll_cons (e : Event provIpc) :
    st.afterAll (e :: tr) = (st.after e).afterAll tr := rfl

@[simp] theorem afterAll_append : st.afterAll (tr ++ tr') = (st.afterAll tr).afterAll tr' :=
  List.foldl_append

/-- No write is made. -/
def NoWrites (tr : ProvTrace) : Prop :=
  ∀ e ∈ tr, ¬ tookVin e ∧ ¬ refusedConfig e ∧ ∀ st : ProvHeld, st.after e = st

theorem NoWrites.afterAll (h : NoWrites tr) (st : ProvHeld) : st.afterAll tr = st := by
  induction tr with
  | nil => rfl
  | cons e tr ih =>
    obtain ⟨he, htr⟩ := List.forall_mem_cons.mp h
    rw [afterAll_cons, he.2.2]
    exact ih htr

/-- Making sure of the connection writes nothing. -/
theorem ensured_noWrites {a a' : RealProvAdapter} {b : Bool} (h : Ensured a tr b a') :
    NoWrites tr := by
  cases h <;> simp [NoWrites, tookVin, refusedConfig, ProvHeld.after]

/-- Writes that come after others that change nothing. -/
theorem NoWrites.half_iff (h : NoWrites tr) {request : DiagRequest} :
    HalfWritten st request (tr ++ tr') ↔ HalfWritten st request tr' := by
  have skip {P : Event provIpc → Prop} (hP : ∀ e ∈ tr, ¬ P e) :
      (∃ e ∈ tr ++ tr', P e) ↔ ∃ e ∈ tr', P e := by
    constructor
    · rintro ⟨e, he, hp⟩
      cases List.mem_append.mp he with
      | inl he => exact absurd hp (hP e he)
      | inr he => exact ⟨e, he, hp⟩
    · rintro ⟨e, he, hp⟩
      exact ⟨e, List.mem_append_right _ he, hp⟩
  unfold HalfWritten
  rw [skip fun e he => (h e he).1, skip fun e he => (h e he).2.1]

theorem NoWrites.atomic_iff (h : NoWrites tr) {request : DiagRequest} {response : DiagResponse} :
    AllOrNothing st request (tr ++ tr') response ↔ AllOrNothing st request tr' response := by
  unfold AllOrNothing
  rw [afterAll_append, h.afterAll]

theorem noWrites_nil : NoWrites [] := by simp [NoWrites]

/-- What is refused before anything is written. -/
theorem NoWrites.refused (h : NoWrites tr) {request : DiagRequest} {nrc : UInt8}
    {code : DiagErrorCode} :
    AllOrNothing st request tr (routineRefused nrc code) ↔ ¬ HalfWritten st request tr := by
  refine iff_of_true ⟨fun _ => h.afterAll st, fun hp => by cases hp⟩ ?_
  rintro ⟨⟨e, he, htook⟩, _⟩
  exact (h e he).1 htook

end

/-! ## The routine on the adapter -/

/-- The response to a WRITE_VIN of which PROV returned `code`. -/
def writeVinResponse (request : DiagRequest) (code : DiagErrorCode) : DiagResponse :=
  if code = .success then routineDone request []
  else routineRefused Nrc.generalProgrammingFailure code

section
variable {st : ProvHeld} {request : DiagRequest} {a a' : RealProvAdapter} {tr : ProvTrace}

theorem RealProvAdapter.VinWritten.atomic_iff {h : ProvClientHandle} {code : DiagErrorCode}
    (hw : VinWritten (request.payload.take vinLength) (request.payload.drop vinLength) h tr code) :
    AllOrNothing st request tr (writeVinResponse request code) ↔ ¬ HalfWritten st request tr := by
  have refused (code : ProvError) : writeVinResponse request (NrcMapper.provErrorToDiag code) =
      routineRefused Nrc.generalProgrammingFailure (NrcMapper.provErrorToDiag code) :=
    if_neg (NrcMapper.provErrorToDiag_ne_success code)
  have done : writeVinResponse request .success = routineDone request [] := rfl
  cases hw with
  | @refused x hx =>
    rw [refused]
    refine NoWrites.refused ?_
    simp [NoWrites, tookVin, refusedConfig, ProvHeld.after, hx]
  | vinOnly hx hp =>
    rw [done]
    simp [AllOrNothing, HalfWritten, tookVin, refusedConfig, ProvHeld.after, hx, hp, routineDone,
      createPositiveResponse]
  | @configRefused x y hx hp hy =>
    rw [refused]
    have hafter : st.afterAll [⟨.client h (.writeVin (request.payload.take vinLength)), x⟩,
        ⟨.client h (.writeVehicleConfig (request.payload.drop vinLength)), y⟩] =
        { st with vin := request.payload.take vinLength } := by
      simp [ProvHeld.after, hx, hy]
    have hhalf : HalfWritten st request
        [⟨.client h (.writeVin (request.payload.take vinLength)), x⟩,
          ⟨.client h (.writeVehicleConfig (request.payload.drop vinLength)), y⟩] ↔
        st.vin ≠ request.payload.take vinLength := by
      simp [HalfWritten, tookVin, refusedConfig, hx, hy]
    rw [hhalf, not_not]
    unfold AllOrNothing
    rw [hafter]
    constructor
    · rintro ⟨hneg, _⟩
      exact congrArg ProvHeld.vin (hneg rfl).symm
    · intro hsame
      refine ⟨fun _ => ?_, fun hpos => by cases hpos⟩
      rw [← hsame]
  | both hx hp hy =>
    rw [done]
    simp [AllOrNothing, HalfWritten, tookVin, refusedConfig, ProvHeld.after, hx, hy, hp,
      routineDone, createPositiveResponse]

theorem RealProvAdapter.VinWrite.atomic_iff {code : DiagErrorCode}
    (hw : VinWrite a (request.payload.take vinLength) (request.payload.drop vinLength) tr code) :
    AllOrNothing st request tr (writeVinResponse request code) ↔ ¬ HalfWritten st request tr := by
  cases hw with
  | disconnected he =>
    rw [writeVinResponse, if_neg (by simp)]
    exact (ensured_noWrites he).refused
  | written he hwritten =>
    rw [(ensured_noWrites he).atomic_iff, (ensured_noWrites he).half_iff]
    exact hwritten.atomic_iff

theorem ServiceDispatcher.VinRun.response_eq {h : ProvHandle} {up : Trace}
    {response : DiagResponse} (hv : VinRun request h up response)
    (hlen : vinLength ≤ request.payload.length) : ∃ y : Stamped DiagErrorCode,
      up = [⟨.prov h (.writeVin (request.payload.take vinLength)
        (request.payload.drop vinLength)), y⟩] ∧
      response = writeVinResponse request y.reply := by
  cases hv with
  | short hl => omega
  | @failed y _ hy =>
    refine ⟨y, rfl, ?_⟩
    rw [writeVinResponse, if_neg hy]
  | @done y _ hy =>
    refine ⟨y, rfl, ?_⟩
    rw [writeVinResponse, if_pos hy]

variable {errorText : ProvError → String} {lg : List LogRecord}

/-- To say whether PROV is there the adapter makes sure of the connection. -/
theorem available_ensured {h : ProvHandle} {x : Stamped Bool}
    (hx : Exec (RealProvAdapter.handle errorText (.prov h .isAvailable) a) tr lg (x, a')) :
    Ensured a tr x.reply a' := by
  have hwp : wp (RealProvAdapter.handle errorText (.prov h .isAvailable) a) fun tr r =>
      Ensured a tr r.1.reply r.2 := by
    simp only [RealProvAdapter.handle, answer, isAvailable, wp_bind, wp_pure, List.append_nil]
    exact a.ensureConnected_wp
  exact hx.wp hwp

theorem writeVin_served {h : ProvHandle} {vin payload : Bytes} {y : Stamped DiagErrorCode}
    (hx : Exec (RealProvAdapter.handle errorText (.prov h (.writeVin vin payload)) a) tr lg
      (y, a')) : VinWrite a vin payload tr y.reply := by
  have hwp : wp (RealProvAdapter.handle errorText (.prov h (.writeVin vin payload)) a) fun tr r =>
      VinWrite a vin payload tr r.1.reply := by
    simp only [RealProvAdapter.handle, answer, wp_bind, wp_pure, List.append_nil]
    exact writeVin_wp errorText a vin payload
  exact hx.wp hwp

/-- WRITE_VIN is all or nothing exactly when PROV does not take a new VIN and then refuse the
configuration that goes with it. -/
theorem write_vin_atomic_iff {d : ServiceDispatcher} {ms : Managers} {response : DiagResponse}
    (hrid : request.didOrRid = Rid.writeVinRoutine) (hlen : vinLength ≤ request.payload.length)
    (hx : Exec ((d.handleRoutineControl ms request).serve (RealProvAdapter.handle errorText) a)
      tr lg (response, a')) :
    AllOrNothing st request tr response ↔ ¬ HalfWritten st request tr := by
  have hwp := wp_serve (RealProvAdapter.handle errorText) a (d.handleRoutineControl_wp ms request)
  obtain ⟨up, hserved, hrun⟩ := hx.wp hwp
  have hcert : ¬ isCertificateRid request.didOrRid := by
    rw [hrid]
    decide
  cases hrun with
  | wrongSession hc _ => exact absurd hc hcert
  | generateKeyPair _ hr _ => exact absurd (.inl hr) hcert
  | readCsr _ hr _ => exact absurd (.inr (.inl hr)) hcert
  | injectCertificate _ hr _ => exact absurd (.inr (.inr hr)) hcert
  | outOfRange _ _ hne => exact absurd hrid hne
  | locked _ _ | noProv _ _ =>
    obtain ⟨rfl, _⟩ := hserved.nil_inv
    exact noWrites_nil.refused
  | unavailable _ _ _ =>
    obtain ⟨lo₁, lg₁, a₁, lo₂, havail, hrest, rfl⟩ := hserved.cons_inv
    obtain ⟨rfl, _⟩ := hrest.nil_inv
    rw [List.append_nil]
    exact (ensured_noWrites (available_ensured havail)).refused
  | writeVin _ _ _ _ hv =>
    obtain ⟨y, rfl, rfl⟩ := hv.response_eq hlen
    obtain ⟨lo₁, lg₁, a₁, lo₂, havail, hserved₁, rfl⟩ := hserved.cons_inv
    obtain ⟨lo₃, lg₃, a₂, lo₄, hwrite, hrest, rfl⟩ := hserved₁.cons_inv
    obtain ⟨rfl, _⟩ := hrest.nil_inv
    have hfree := ensured_noWrites (available_ensured havail)
    rw [List.append_nil, hfree.atomic_iff, hfree.half_iff]
    exact (writeVin_served hwrite).atomic_iff

end

/-! ## Scenarios -/

/-- PROV with a connected client that answers its two writes so. -/
def provAnswers (vinCode configCode : ProvError) : (c : ProvIpcCmd) → Stamped c.Reply
  | .outer c => obliging 0 c
  | .reconnectCheck => ⟨0, ()⟩
  | .client _ .isConnected => ⟨0, true⟩
  | .client _ .connect => ⟨0, true⟩
  | .client _ .disconnect => ⟨0, ()⟩
  | .client _ (.writeVin _) => ⟨0, vinCode⟩
  | .client _ (.writeVehicleConfig _) => ⟨0, configCode⟩
  | .client _ .readVin => ⟨0, []⟩
  | .client _ .getProvisionState => ⟨0, .none⟩

/-- A VIN and one byte of configuration. -/
def vinAndConfig : DiagRequest :=
  { serviceId := 0x31, subFunction := 0x01, didOrRid := 0xFF00,
    payload := List.replicate 17 0x41 ++ [0x01] }

/-- Level 1 is unlocked. -/
def unlockedManagers : Managers :=
  ⟨{}, (SecurityAccess.create (some 0)).setEntry 1 { unlocked := true }⟩

/-- WRITE_VIN on a dispatcher with PROV, where the writes are answered so. -/
def writeBoth (vinCode configCode : ProvError) :
    ProvTrace × List LogRecord × DiagResponse × RealProvAdapter :=
  ((({ prov := some 0, sec := some 0, sessionMgr := none, securityAccess := none } :
    ServiceDispatcher).handleRoutineControl unlockedManagers vinAndConfig).serve
      (RealProvAdapter.handle fun _ => "") { client := some 0 }).run
        (provAnswers vinCode configCode)

theorem write_vin_atomic_iff_both :
    AllOrNothing {} vinAndConfig (writeBoth 0 0).1 (writeBoth 0 0).2.2.1 ↔
      ¬ HalfWritten {} vinAndConfig (writeBoth 0 0).1 :=
  write_vin_atomic_iff rfl (by decide) (exec_run _ _)

/-- The configuration is refused with code 1006: the response is negative, and PROV has the VIN. -/
theorem half_written :
    (writeBoth 0 1006).2.2.1.positive = false ∧
      (({} : ProvHeld).afterAll (writeBoth 0 1006).1).vin = List.replicate 17 0x41 ∧
      ¬ AllOrNothing {} vinAndConfig (writeBoth 0 1006).1 (writeBoth 0 1006).2.2.1 := by
  have hneg : (writeBoth 0 1006).2.2.1.positive = false := by decide
  have hvin : (({} : ProvHeld).afterAll (writeBoth 0 1006).1).vin = List.replicate 17 0x41 := by
    decide
  refine ⟨hneg, hvin, ?_⟩
  intro h
  have hsame := congrArg ProvHeld.vin (h.1 hneg)
  rw [hvin] at hsame
  cases hsame

end Diag
end Tbox
