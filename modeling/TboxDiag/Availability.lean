import TboxDiag.Lifecycle

/-!
# Availability

How the service deals with a SEC or a PROV that is not there. An operation turns to one of them at
most, asks first whether it is available, and calls it at most once, after a yes (`Consults`). After
a no it is over: the request is refused, and no seed, attempt or unlocked level is lost
(`availability_respected`).
-/

namespace Tbox
namespace Diag

open Effects DiagService ServiceDispatcher

inductive Dependency where
  | sec (h : SecHandle)
  | prov (h : ProvHandle)
  deriving DecidableEq, Repr

/-- What an operation does with SEC or PROV: ask whether it is there, or call it. -/
inductive Contact where
  | probe (k : Dependency) (there : Bool)
  | use (k : Dependency)
  deriving DecidableEq, Repr

def contact : Event outside → Option Contact
  | ⟨.sec h .isAvailable, x⟩ => some (.probe (.sec h) x.reply)
  | ⟨.sec h _, _⟩ => some (.use (.sec h))
  | ⟨.prov h .isAvailable, x⟩ => some (.probe (.prov h) x.reply)
  | ⟨.prov h _, _⟩ => some (.use (.prov h))
  | _ => none

def contacts (tr : Trace) : List Contact := tr.filterMap contact

inductive Consults : List Contact → Prop where
  | nobody : Consults []
  | absent {k : Dependency} : Consults [.probe k false]
  | spared {k : Dependency} : Consults [.probe k true]
  | used {k : Dependency} : Consults [.probe k true, .use k]

/-- A dependency was found to be absent. -/
def Absent (tr : Trace) : Prop := ∃ k, .probe k false ∈ contacts tr

/-! ## Traces -/

section
variable {tr tr' : Trace}

@[simp] theorem contacts_nil : contacts [] = [] := rfl

@[simp] theorem contacts_append : contacts (tr ++ tr') = contacts tr ++ contacts tr' :=
  List.filterMap_append

@[simp] theorem contacts_probeSec (h : SecHandle) (x : Stamped Bool) :
    contacts (⟨.sec h .isAvailable, x⟩ :: tr) = .probe (.sec h) x.reply :: contacts tr := rfl

@[simp] theorem contacts_probeProv (h : ProvHandle) (x : Stamped Bool) :
    contacts (⟨.prov h .isAvailable, x⟩ :: tr) = .probe (.prov h) x.reply :: contacts tr := rfl

theorem contacts_useSec (h : SecHandle) {c : SecCall} (x : Stamped c.Reply)
    (hc : c ≠ .isAvailable) :
    contacts (⟨.sec h c, x⟩ :: tr) = .use (.sec h) :: contacts tr := by
  cases c with
  | isAvailable => exact absurd rfl hc
  | _ => rfl

theorem contacts_useProv (h : ProvHandle) {c : ProvCall} (x : Stamped c.Reply)
    (hc : c ≠ .isAvailable) :
    contacts (⟨.prov h c, x⟩ :: tr) = .use (.prov h) :: contacts tr := by
  cases c with
  | isAvailable => exact absurd rfl hc
  | _ => rfl

theorem Ticks.contacts (h : Ticks tr) : contacts tr = [] := by
  refine List.filterMap_eq_nil_iff.mpr ?_
  intro e he
  obtain ⟨c, x⟩ := e
  obtain ⟨site, hc⟩ := h _ he
  cases hc
  rfl

theorem Quiet.contacts (h : Quiet tr) : contacts tr = [] := by
  refine List.filterMap_eq_nil_iff.mpr ?_
  intro e he
  obtain ⟨c, x⟩ := e
  have ha := h _ he
  cases c with
  | sec _ _ | prov _ _ => cases ha
  | _ => rfl

end

/-! ## The handlers -/

/-- What an operation that answered `response` did with its dependency; `P` holds after a no. -/
structure Respects (tr : Trace) (response : DiagResponse) (P : Prop) : Prop where
  consults : Consults (contacts tr)
  absent : Absent tr → response.positive = false ∧ P

section
variable {tr : Trace} {response : DiagResponse} {P : Prop}

theorem respects_of_nobody (h : contacts tr = []) : Respects tr response P where
  consults := by rw [h]; exact .nobody
  absent := by simp [Absent, h]

theorem respects_of_used {k : Dependency} (h : contacts tr = [.probe k true, .use k]) :
    Respects tr response P where
  consults := by rw [h]; exact .used
  absent := by simp [Absent, h]

theorem respects_of_spared {k : Dependency} (h : contacts tr = [.probe k true]) :
    Respects tr response P where
  consults := by rw [h]; exact .spared
  absent := by simp [Absent, h]

theorem respects_of_absent {k : Dependency} (h : contacts tr = [.probe k false])
    (hn : response.positive = false) (hP : P) : Respects tr response P where
  consults := by rw [h]; exact .absent
  absent _ := ⟨hn, hP⟩

end

section
variable {d : ServiceDispatcher} {ms ms' : Managers} {request : DiagRequest} {tr : Trace}
  {response : DiagResponse} {P : Prop}

/-- The rest of a certificate routine: at most one call to the SEC that is there. -/
theorem ServiceDispatcher.WithSec.respects {sa : SecurityAccess}
    {K : SecHandle → Trace → DiagResponse → Prop} (h : d.WithSec sa K tr response)
    (hK : ∀ h tr response, K h tr response →
      contacts tr = [] ∨ contacts tr = [.use (.sec h)]) (hP : P) : Respects tr response P := by
  cases h with
  | locked _ | noSec _ => exact respects_of_nobody rfl
  | @unavailable h _ _ hx =>
    refine respects_of_absent (k := .sec h) ?_ rfl hP
    simp [hx]
  | @ready h _ _ _ _ _ hx hk =>
    rcases hK _ _ _ hk with hnone | hone
    · refine respects_of_spared (k := .sec h) ?_
      simp [hx, hnone]
    · refine respects_of_used (k := .sec h) ?_
      simp [hx, hone]

theorem ServiceDispatcher.RoutineRun.respects (h : d.RoutineRun ms request tr response) (hP : P) :
    Respects tr response P := by
  cases h with
  | wrongSession _ _ | locked _ _ | noProv _ _ => exact respects_of_nobody rfl
  | generateKeyPair _ _ hw =>
    refine hw.respects ?_ hP
    intro h tr response hk
    cases hk <;> exact .inr rfl
  | readCsr _ _ hw =>
    refine hw.respects ?_ hP
    intro h tr response hk
    cases hk <;> exact .inr rfl
  | injectCertificate _ _ hw =>
    refine hw.respects ?_ hP
    intro h tr response hk
    cases hk with
    | empty _ => exact .inl rfl
    | failed _ _ | done _ _ => exact .inr rfl
  | @unavailable h _ _ _ hx =>
    refine respects_of_absent (k := .prov h) ?_ rfl hP
    simp [hx]
  | @writeVin h _ _ _ _ _ hx _ hv =>
    cases hv with
    | short _ =>
      refine respects_of_spared (k := .prov h) ?_
      simp [hx]
    | failed _ _ | done _ _ =>
      refine respects_of_used (k := .prov h) ?_
      simp [hx, contacts_useProv]
  | @outOfRange h x _ _ _ =>
    cases hx : x.reply with
    | true =>
      refine respects_of_spared (k := .prov h) ?_
      simp [hx]
    | false =>
      refine respects_of_absent (k := .prov h) ?_ rfl hP
      simp [hx]

theorem ServiceDispatcher.DidRead.respects (h : d.DidRead request tr response) (hP : P) :
    Respects tr response P := by
  cases h with
  | noProv _ | outOfRange _ => exact respects_of_nobody rfl
  | @unavailable h _ _ hx =>
    refine respects_of_absent (k := .prov h) ?_ rfl hP
    simp [hx]
  | @invalid h _ _ _ _ hx _ | @read h _ _ _ _ hx _ =>
    refine respects_of_used (k := .prov h) ?_
    simp [hx, contacts_useProv]

theorem SecurityAccess.SeedRequested.respects {sa sa' : SecurityAccess} {level : UInt8}
    {result : DiagErrorCode} {seed : Bytes} {refusal : UInt8}
    (h : sa.SeedRequested level tr result seed sa') :
    Respects tr (securityAccessResponse request result refusal seed) (sa' = sa) := by
  cases h with
  | noSec _ => exact respects_of_nobody rfl
  | @unavailable h _ _ hx =>
    refine respects_of_absent (k := .sec h) ?_ rfl rfl
    simp [hx]
  | @lockedOut h _ _ _ hx hl =>
    refine respects_of_spared (k := .sec h) ?_
    simp [hx, hl.ticks.contacts]
  | @noSeed h _ _ _ _ hx hl _ | @issued h _ _ _ _ hx hl _ =>
    refine respects_of_used (k := .sec h) ?_
    simp [hx, hl.ticks.contacts, contacts_useSec]

theorem SecurityAccess.KeySent.respects {sa sa' : SecurityAccess} {level : UInt8} {key : Bytes}
    {result : DiagErrorCode} {refusal : UInt8} (h : sa.KeySent level key tr result sa') :
    Respects tr (securityAccessResponse request result refusal []) (sa' = sa) := by
  cases h with
  | noSec _ => exact respects_of_nobody rfl
  | @unavailable h _ _ hx =>
    refine respects_of_absent (k := .sec h) ?_ rfl rfl
    simp [hx]
  | @lockedOut h _ _ _ hx hl | @noSeed h _ _ _ hx hl _ =>
    refine respects_of_spared (k := .sec h) ?_
    simp [hx, hl.ticks.contacts]
  | @rejected h _ _ _ _ _ _ hx hl _ _ hd =>
    refine respects_of_used (k := .sec h) ?_
    simp [hx, hl.ticks.contacts, hd.ticks.contacts, contacts_useSec]
  | @accepted h _ _ _ _ hx hl _ _ =>
    refine respects_of_used (k := .sec h) ?_
    simp [hx, hl.ticks.contacts, contacts_useSec]

theorem ServiceDispatcher.Dispatched.respects (h : Dispatched d ms request tr response ms') :
    Respects tr response (ms'.securityAccess = ms.securityAccess) := by
  cases h with
  | session _ hm => exact respects_of_nobody hm.ticks.contacts
  | testerPresent _ hm => exact respects_of_nobody hm.ticks.contacts
  | badLevel _ _ _ | unsupported _ _ _ _ _ => exact respects_of_nobody rfl
  | seed _ _ hq => exact hq.respects
  | key _ _ hq => exact hq.respects
  | routine _ hr => exact hr.respects rfl
  | read _ hr => exact hr.respects rfl

end

/-! ## The service -/

/-- After any run, an operation asks one dependency at most whether it is there, and calls it at
most once and after a yes only; after a no it refuses the request, and its security state is what it
was. -/
theorem availability_respected {ls : List Step} {s s' : DiagService} {l : Step}
    (hr : Run Does {} ls s) (hl : Does s l s') :
    Consults (contacts l.trace) ∧
    (Absent l.trace → (∃ x, l.exchange = some x ∧ x.response.positive = false) ∧
      ∀ level, s'.securityState level = s.securityState level) := by
  obtain ⟨o, -, hshow⟩ := reach_acts hr
  obtain ⟨o', hact, hshow'⟩ := does_acts hshow hl
  have idle (h : contacts l.trace = []) : Consults (contacts l.trace) ∧
      (Absent l.trace → (∃ x, l.exchange = some x ∧ x.response.positive = false) ∧
        ∀ level, s'.securityState level = s.securityState level) := by
    refine ⟨?_, fun habsent => ?_⟩
    · rw [h]
      exact .nobody
    · simp [Absent, h] at habsent
  cases hact with
  | rest hq _ | start hq | shutdown hq => exact idle hq.contacts
  | keep _ _ | setSec => exact idle rfl
  | poll hm hq => exact idle (by simp [hm.ticks.contacts, hq.contacts])
  | @serve v op request response b m ms tr₀ tr₁ tr₂ tr₃ _ hm hq₁ hd hq₃ =>
    have hsame : contacts (tr₀ ++ (tr₁ ++ (tr₂ ++ tr₃))) = contacts tr₂ := by
      simp [hm.ticks.contacts, hq₁.contacts, hq₃.contacts]
    obtain ⟨hconsults, habsent⟩ := hd.respects
    simp only [Absent, hsame]
    refine ⟨hconsults, fun h => ?_⟩
    obtain ⟨hn, hsa⟩ := habsent h
    refine ⟨⟨_, rfl, hn⟩, ?_⟩
    intro level
    rw [Serves.securityState hshow, Serves.securityState hshow']
    exact congrArg (SecurityAccess.entry · level) hsa

/-- The obliging outside, with SEC away. -/
def secAway : Oracle
  | .sec _ .isAvailable => ⟨0, false⟩
  | c => obliging 0 c

/-- A seed is out, and the key comes while SEC is away: the seed is still out. -/
theorem availability_respected_away :
    let r := DiagService.play {} (extendedScript ++
      [(.processRequest { serviceId := 0x27, subFunction := 0x01, sourceAddress := 1 },
        obliging 0)])
    let q := r.2.playOne
      (.processRequest { serviceId := 0x27, subFunction := 0x02, sourceAddress := 1 }) secAway
    (r.2.securityState 1).seedRequested = true ∧
      (q.2.securityState 1).seedRequested = true := by
  intro r q
  have hrun := DiagService.play_run {} (extendedScript ++
    [(.processRequest { serviceId := 0x27, subFunction := 0x01, sourceAddress := 1 }, obliging 0)])
  have hout : (r.2.securityState 1).seedRequested = true := rfl
  have habsent : Absent q.1.trace := ⟨.sec 0, by decide⟩
  refine ⟨hout, ?_⟩
  rw [((availability_respected hrun (r.2.playOne_does _ _)).2 habsent).2 1]
  exact hout

end Diag
end Tbox
