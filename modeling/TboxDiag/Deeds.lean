import TboxDiag.SecIpcAdapter

/-!
# Deeds

What SEC and PROV report as done. A `Deed` is an operation that one of them ended with success, with
its data; `deeds` are those of a trace of the service, and `clientDeeds` those of a trace below the
SEC adapter, where the client of the SEC process reports in place of SEC. An operation that failed
half-way, or whose answer was lost, is none.
-/

namespace Tbox
namespace Diag

open Effects

inductive Deed where
  | seedIssued (seed : Bytes)
  | keyAccepted (key : Bytes)
  | vinWritten (vin extraPayload : Bytes)
  | keyPairGenerated
  | csrRead (csrDer : Bytes)
  | certificateInjected (certDer : Bytes)
  deriving DecidableEq, Repr

/-! ## Of the service -/

def SecCall.deed : (c : SecCall) → c.Reply → Option Deed
  | .isAvailable, _ => none
  | .getSeed _, r => if r.1 then some (.seedIssued r.2) else none
  | .verifyKey _ key, r => if r then some (.keyAccepted key) else none
  | .generateKeyPair, r => if r then some .keyPairGenerated else none
  | .getCsr, r => if r.1 then some (.csrRead r.2) else none
  | .injectCertificate certDer, r => if r.1 then some (.certificateInjected certDer) else none

def ProvCall.deed : (c : ProvCall) → c.Reply → Option Deed
  | .writeVin vin extraPayload, r =>
    if r = .success then some (.vinWritten vin extraPayload) else none
  | _, _ => none

def deed : Event outside → Option Deed
  | ⟨.sec _ c, x⟩ => c.deed x.reply
  | ⟨.prov _ c, x⟩ => c.deed x.reply
  | _ => none

def deeds (tr : Trace) : List Deed := tr.filterMap deed

@[simp] theorem deeds_nil : deeds [] = [] := rfl

@[simp] theorem deeds_cons (e : Event outside) (tr : Trace) :
    deeds (e :: tr) = (deed e).toList ++ deeds tr := by
  cases h : deed e with
  | none => simp [deeds, h]
  | some a => simp [deeds, h]

@[simp] theorem deeds_append (tr tr' : Trace) : deeds (tr ++ tr') = deeds tr ++ deeds tr' :=
  List.filterMap_append

@[simp] theorem deed_secAvailable (h : SecHandle) (x : Stamped Bool) :
    deed ⟨.sec h .isAvailable, x⟩ = none := rfl

@[simp] theorem deed_provAvailable (h : ProvHandle) (x : Stamped Bool) :
    deed ⟨.prov h .isAvailable, x⟩ = none := rfl

theorem Quiet.deeds {tr : Trace} (h : Quiet tr) : deeds tr = [] := by
  refine List.filterMap_eq_nil_iff.mpr ?_
  rintro ⟨c, x⟩ he
  have ha := h _ he
  cases c with
  | sec _ _ => cases ha
  | prov _ _ => cases ha
  | _ => rfl

/-! ## Below the adapter -/

def ClientCall.deed : (c : ClientCall) → c.Reply → Option Deed
  | .isConnected, _ | .connect, _ => none
  | .getSeed _, r => if r.1 = SecError.success then some (.seedIssued r.2) else none
  | .verifyKey _ key, r => if r = SecError.success then some (.keyAccepted key) else none
  | .generateKeyPair, r => if r = SecError.success then some .keyPairGenerated else none
  | .getCsr, r => if r.1 = SecError.success then some (.csrRead r.2) else none
  | .injectCertificate certDer, r =>
    if r = SecError.success then some (.certificateInjected certDer) else none

def clientDeed : Event ipc → Option Deed
  | ⟨.outer (.prov _ c), x⟩ => c.deed x.reply
  | ⟨.client _ c, x⟩ => c.deed x.reply
  | _ => none

def clientDeeds (tr : IpcTrace) : List Deed := tr.filterMap clientDeed

@[simp] theorem clientDeeds_nil : clientDeeds [] = [] := rfl

@[simp] theorem clientDeeds_cons (e : Event ipc) (tr : IpcTrace) :
    clientDeeds (e :: tr) = (clientDeed e).toList ++ clientDeeds tr := by
  cases h : clientDeed e with
  | none => simp [clientDeeds, h]
  | some a => simp [clientDeeds, h]

@[simp] theorem clientDeeds_append (tr tr' : IpcTrace) :
    clientDeeds (tr ++ tr') = clientDeeds tr ++ clientDeeds tr' := List.filterMap_append

theorem mem_clientDeeds {d : Deed} {tr : IpcTrace} :
    d ∈ clientDeeds tr ↔ ∃ e ∈ tr, clientDeed e = some d := List.mem_filterMap

/-- Of the commands below, those that are not calls of SEC are passed on as they are. -/
theorem clientDeed_outer {c : Cmd} (x : Stamped c.Reply) (hc : ∀ h q, c ≠ .sec h q) :
    clientDeed ⟨.outer c, x⟩ = deed ⟨c, x⟩ := by
  cases c with
  | sec h q => exact absurd rfl (hc h q)
  | _ => rfl

end Diag
end Tbox
