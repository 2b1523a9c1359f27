import TboxDiag.LogTwins
import TboxDiag.RealProvAdapter

/-!
# ProvTwins

The PROV adapter under two runs that differ in bytes only. `provTwin D` is `outsideTwin D` below the
adapter, where the VINs written and read back may differ too; the adapter answers corresponding
calls of the service by twins, so a service that is its own twin stays one on the adapter.
-/

namespace Tbox
namespace Diag

open Effects

/-! ## What may differ below the adapter -/

def ProvReading.next (r : Reading) : Event provIpc → Reading
  | ⟨.outer c, x⟩ => r.next ⟨c, x⟩
  | _ => r

inductive ProvCmdTwin : ProvIpcCmd → ProvIpcCmd → Prop where
  | outer {c c' : Cmd} : CmdTwin c c' → ProvCmdTwin (.outer c) (.outer c')
  | same {c : ProvIpcCmd} : ProvCmdTwin c c
  | vin {h : ProvClientHandle} {vin vin' : Bytes} : vin.length = vin'.length →
      ProvCmdTwin (.client h (.writeVin vin)) (.client h (.writeVin vin'))

inductive ProvAnsTwin (D : Bytes → Bytes → Prop) :
    Reading → Event provIpc → Event provIpc → Prop where
  | outer {r : Reading} {c c' : Cmd} {x : Stamped c.Reply} {x' : Stamped c'.Reply} :
      AnsTwin D r ⟨c, x⟩ ⟨c', x'⟩ → ProvAnsTwin D r ⟨.outer c, x⟩ ⟨.outer c', x'⟩
  | same {r : Reading} {e : Event provIpc} : ProvAnsTwin D r e e
  | vin {r : Reading} {h : ProvClientHandle} {vin vin' : Bytes} {x : Stamped ProvError} :
      ProvAnsTwin D r ⟨.client h (.writeVin vin), x⟩ ⟨.client h (.writeVin vin'), x⟩
  | readBack {r : Reading} {h : ProvClientHandle} {t : Time} {vin vin' : Bytes} :
      vin.length = vin'.length →
      ProvAnsTwin D r ⟨.client h .readVin, ⟨t, vin⟩⟩ ⟨.client h .readVin, ⟨t, vin'⟩⟩

theorem ProvAnsTwin.outer_inv {D : Bytes → Bytes → Prop} {r : Reading} {c c' : Cmd}
    {x : Stamped c.Reply} {x' : Stamped c'.Reply}
    (h : ProvAnsTwin D r ⟨.outer c, x⟩ ⟨.outer c', x'⟩) : AnsTwin D r ⟨c, x⟩ ⟨c', x'⟩ := by
  cases h with
  | outer h => exact h
  | same => exact .same

abbrev provTwin (D : Bytes → Bytes → Prop) : Link provIpc Reading :=
  ⟨ProvReading.next, ProvCmdTwin, ProvAnsTwin D⟩

/-! ## The adapter -/

namespace RealProvAdapter

/-- A call of the client, or a look at the clock. -/
def inner : ProvIpcCmd → Prop
  | .outer _ => False
  | _ => True

/-- Its answer holds no VIN. -/
def plain : ProvIpcCmd → Prop
  | .outer _ | .client _ .readVin => False
  | _ => True

theorem inner_of_plain {c : ProvIpcCmd} (hc : plain c) : inner c := by
  cases c with
  | outer c => exact hc.elim
  | client h c => trivial
  | reconnectCheck => trivial

section
variable {D : Bytes → Bytes → Prop} {α : Type} {a : RealProvAdapter} {r : Reading}
  {errorText : ProvError → String}

theorem next_inner {c : ProvIpcCmd} (hc : inner c) (x : Stamped c.Reply) :
    ProvReading.next r ⟨c, x⟩ = r := by
  cases c with
  | outer c => exact hc.elim
  | client h c => rfl
  | reconnectCheck => rfl

theorem ignores_plain : (provTwin D).Ignores plain where
  cmd _ := .same
  ans hc h := by
    cases h with
    | same => rfl
    | vin => rfl
    | outer _ => exact hc.elim
    | readBack _ => exact hc.elim
  next hc := next_inner (inner_of_plain hc) _

theorem only_client {P : ProvIpcCmd → Prop} {h : ProvClientHandle} {c : ProvClientCall}
    (hc : P (.client h c)) : Only P (ProvIpc.ask h c) := ⟨hc, fun _ => trivial⟩

theorem only_log {P : ProvIpcCmd → Prop} {level : LogLevel} {event message : String}
    {fields : List (String × FieldValue)} : Only P (ProvIpc.log level event message fields) :=
  trivial

theorem ensureConnected_only : Only plain a.ensureConnected := by
  unfold ensureConnected
  split
  · exact only_pure
  · refine only_bind (only_client trivial) fun _ => only_ite only_pure ?_
    refine only_bind (only_client trivial) fun _ => only_ite only_pure ?_
    refine only_bind ⟨trivial, fun _ => trivial⟩ fun _ => only_ite only_pure ?_
    refine only_bind (only_client trivial) fun _ => only_ite ?_ ?_
    · exact only_bind only_log fun _ => only_pure
    · exact only_bind only_log fun _ => only_pure

theorem writeVehicleConfig_only {h : ProvClientHandle} {payload : Bytes} :
    Only plain (writeVehicleConfig errorText h payload) := by
  unfold writeVehicleConfig
  refine only_bind only_log fun _ => only_bind (only_client trivial) fun _ => only_ite ?_ only_pure
  exact only_bind only_log fun _ => only_pure

theorem writeVin_only {vin payload : Bytes} : Only plain (writeVin errorText a vin payload) := by
  unfold writeVin isAvailable
  refine only_bind ensureConnected_only fun _ => ?_
  dsimp only
  split
  · refine only_bind only_log fun _ => only_bind (only_client trivial) fun _ => only_ite ?_ ?_
    · exact only_bind only_log fun _ => only_pure
    · exact only_ite (only_bind writeVehicleConfig_only fun _ => only_pure) only_pure
  · exact only_bind only_log fun _ => only_pure

theorem readVin_only : Only inner a.readVin := by
  unfold readVin isAvailable
  refine only_bind (ensureConnected_only.mono fun _ => inner_of_plain) fun _ => ?_
  dsimp only
  split
  · refine only_bind only_log fun _ => only_bind (only_client trivial) fun _ => ?_
    refine only_bind only_log fun _ => only_bind (only_client trivial) fun _ => ?_
    exact only_bind only_log fun _ => only_bind only_log fun _ => only_pure
  · exact only_bind only_log fun _ => only_pure

theorem answer_only {c : ProvCall} : Only inner (answer errorText a c) := by
  cases c with
  | isAvailable => exact ensureConnected_only.mono fun _ => inner_of_plain
  | writeVin vin payload => exact writeVin_only.mono fun _ => inner_of_plain
  | readVin => exact readVin_only

/-! ### Under the service -/

/-- Corresponding replies of the adapter. -/
def ReplyTwin : (c : ProvCall) → c.Reply → c.Reply → Prop
  | .readVin, y, y' => y' = { y with vin := y'.vin } ∧ y.vin.length = y'.vin.length
  | _, y, y' => y = y'

theorem ReplyTwin.ansTwin {h : ProvHandle} {c : ProvCall} {y y' : c.Reply}
    (hy : ReplyTwin c y y') : AnsTwin D r ⟨.prov h c, ⟨0, y⟩⟩ ⟨.prov h c, ⟨0, y'⟩⟩ := by
  cases c with
  | readVin =>
    obtain ⟨vin, bindState, valid⟩ := y
    obtain ⟨hrest, hlen⟩ := hy
    rw [hrest]
    exact .vin hlen
  | _ =>
    have hy' : y = y' := hy
    subst hy'
    exact .same

/-- The VIN that is read back goes to the caller, and nowhere else. -/
theorem readVin_twin :
    Twin (provTwin D) (fun r' y y' => r' = r ∧ ReplyTwin .readVin y.1 y'.1 ∧ y.2 = y'.2) r
      a.readVin a.readVin := by
  unfold readVin isAvailable
  refine (ignores_plain.twin ensureConnected_only).bind ?_
  rintro _ ⟨available, a₁⟩ _ ⟨rfl, rfl⟩
  dsimp only
  split
  · refine .tell (.call .same ?_)
    intro x x' hans
    have hlen : x.reply.length = x'.reply.length := by
      cases hans with
      | same => rfl
      | readBack hlen => exact hlen
    refine .tell (.call .same ?_)
    intro y y' hans
    obtain rfl := ignores_plain.ans (c := .client _ .getProvisionState) trivial hans
    exact .tell (.tell (.pure ⟨rfl, ⟨rfl, hlen⟩, rfl⟩))
  · exact .tell (.pure ⟨rfl, ⟨rfl, rfl⟩, rfl⟩)

theorem answer_twin {c : ProvCall} :
    Twin (provTwin D) (fun r' y y' => r' = r ∧ ReplyTwin c y.1 y'.1 ∧ y.2 = y'.2) r
      (answer errorText a c) (answer errorText a c) := by
  cases c with
  | isAvailable =>
    refine (ignores_plain.twin ensureConnected_only).mono ?_
    rintro r' y _ ⟨rfl, rfl⟩
    exact ⟨rfl, rfl, rfl⟩
  | writeVin vin payload =>
    refine (ignores_plain.twin writeVin_only).mono ?_
    rintro r' y _ ⟨rfl, rfl⟩
    exact ⟨rfl, rfl, rfl⟩
  | readVin => exact readVin_twin

/-- The adapter answers corresponding calls of the service by twins. -/
theorem handle_twin {c c' : Cmd} (hc : CmdTwin c c') :
    Twin (provTwin D)
      (fun r' y y' => AnsTwin D r ⟨c, y.1⟩ ⟨c', y'.1⟩ ∧ r' = r.next ⟨c, y.1⟩ ∧ y.2 = y'.2) r
      (handle errorText c a) (handle errorText c' a) := by
  have pass {c c' : Cmd} (hc : CmdTwin c c') :
      Twin (provTwin D)
        (fun r' y y' => AnsTwin D r ⟨c, y.1⟩ ⟨c', y'.1⟩ ∧ r' = r.next ⟨c, y.1⟩ ∧ y.2 = y'.2) r
        (a.passOn c) (a.passOn c') :=
    .call (.outer hc) fun _ _ hans => .pure ⟨hans.outer_inv, rfl, rfl⟩
  cases hc with
  | same =>
    cases c with
    | prov h c =>
      refine answer_twin.bind ?_
      rintro _ ⟨reply, a₁⟩ ⟨reply', a₁'⟩ ⟨rfl, hreply, ha⟩
      exact .pure ⟨hreply.ansTwin, rfl, ha⟩
    | _ => exact pass .same
  | key hlen => exact pass (.key hlen)
  | sent hlen => exact pass (.sent hlen)

/-- Twins stay twins on the adapter. -/
theorem serve_twin {β : Type} {R : Reading → α → β → Prop} {p : M α} {q : M β}
    (h : Twin (outsideTwin D) R r p q) :
    Twin (provTwin D) (fun r y y' => R r y.1 y'.1 ∧ y.2 = y'.2) r (p.serve (handle errorText) a)
      (q.serve (handle errorText) a) :=
  h.serve (fun _ _ _ _ hc => handle_twin hc) a

end
end RealProvAdapter

end Diag
end Tbox
