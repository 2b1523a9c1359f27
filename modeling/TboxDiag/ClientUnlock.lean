import TboxDiag.Acknowledgement
import TboxDiag.UnlockGating

/-!
# ClientUnlock

The unlock, as the client of the SEC process sees it. `ClientUnlocked` is read off what the client
itself did: it gave a seed, took the key that was sent to it while this seed was pending, and gave
no other since. `client_only_unlocked`: neither the client nor PROV is asked for a protected
operation unless the history of the run below the adapter shows such an unlock.
-/

namespace Tbox
namespace Diag

open Effects DiagService SecIpcAdapter

/-- The operations of the client, and the one of PROV, that a locked level keeps back. -/
def IpcCmd.downstream : IpcCmd → Prop
  | .client _ .generateKeyPair | .client _ .getCsr | .client _ (.injectCertificate _) => True
  | .outer (.prov _ (.writeVin _ _)) => True
  | _ => False

namespace ClientStep

/-- The client gave a seed. -/
def issues (k : ClientStep) : Prop := ∃ e ∈ k.trace, clientIssues e = true

/-- A requestSeed, answered positively with a seed that the client gave. -/
def seedIssued (k : ClientStep) : Prop :=
  ∃ x, k.exchange = some x ∧ x.seedIssued ∧
    ∃ e ∈ k.trace, clientDeed e = some (.seedIssued x.response.payload)

/-- The client was sent a key. -/
def keyJudged (k : ClientStep) : Prop := ∃ e ∈ k.trace, clientVerifies e = true

/-- A sendKey whose key the client took. -/
def keyAccepted (k : ClientStep) : Prop :=
  ∃ x, k.exchange = some x ∧ x.sendsKey ∧
    ∃ e ∈ k.trace, clientDeed e = some (.keyAccepted x.request.payload)

def resets (k : ClientStep) : Prop := k.op = .shutdown ∨ ∃ sec, k.op = .setSec sec

end ClientStep

/-- The client gave a seed, and was sent no key since. -/
def ClientSeedPending : List ClientStep → Prop :=
  Since (fun _ k => k.seedIssued) fun k => ¬ k.keyJudged

/-- The client took a key while its seed was pending, and since then it gave no seed and nothing
reset. -/
def ClientUnlocked : List ClientStep → Prop :=
  Since (fun ks k => k.keyAccepted ∧ ClientSeedPending ks) fun k => ¬ k.issues ∧ ¬ k.resets

/-! ## What is reported of seeds and keys -/

section
variable {x : Exchange}

theorem reported_seedIssued (h : x.seedIssued) :
    x.reported = some (.seedIssued x.response.payload) := by
  obtain ⟨hs, hb, hp⟩ := h
  simp [Exchange.reported, hs, hb, hp]

theorem seedIssued_of_reported {seed : Bytes} (h : x.reported = some (.seedIssued seed)) :
    x.seedIssued := by
  unfold Exchange.reported at h
  by_cases hp : x.response.positive = false
  · simp [hp] at h
  by_cases hs : x.request.serviceId = UdsService.securityAccess
  · by_cases hb : x.request.basicSubFunction = 1
    · exact ⟨hs, hb, by simpa using hp⟩
    · simp [hp, hs, hb] at h
  · -- no routine issues a seed
    rw [if_neg hp, if_neg hs] at h
    repeat' split at h
    all_goals cases h

theorem key_of_reported {key : Bytes} (h : x.reported = some (.keyAccepted key)) :
    key = x.request.payload := by
  unfold Exchange.reported at h
  by_cases hp : x.response.positive = false
  · simp [hp] at h
  by_cases hs : x.request.serviceId = UdsService.securityAccess
  · by_cases hb : x.request.basicSubFunction = 1
    · simp [hp, hs, hb] at h
    · simpa [hp, hs, hb] using h.symm
  · rw [if_neg hp, if_neg hs] at h
    repeat' split at h
    all_goals cases h

end

/-! ## From the service to the client -/

section
variable {l : Step} {k : ClientStep} {f : Event ipc} {tr : Trace} {lo : IpcTrace}

theorem AllBelow.origin (h : AllBelow tr lo) (hf : f ∈ lo) :
    ∃ e ∈ tr, ∃ lo', Below e lo' ∧ f ∈ lo' := by
  induction h with
  | nil => cases hf
  | cons he _ ih =>
    cases List.mem_append.mp hf with
    | inl hf => exact ⟨_, List.mem_cons_self .., _, he, hf⟩
    | inr hf =>
      obtain ⟨e, hmem, hbelow⟩ := ih hf
      exact ⟨e, List.mem_cons_of_mem _ hmem, hbelow⟩

/-- A key the client is sent is one the service sends. -/
theorem Carried.keyJudged (h : Carried l k) (hk : k.keyJudged) : l.keyJudged := by
  obtain ⟨⟨c, x⟩, hf, hv⟩ := hk
  obtain ⟨e, he, lo', hbelow, hmem⟩ := h.below.origin hf
  have hjudged : (keyVerdict e).isSome := by
    cases hbelow with
    | other _ =>
      rw [List.mem_singleton.mp hmem] at hv
      cases hv
    | sec hr =>
      rcases hr.same _ hmem with hl | ⟨_, call, hcall, rfl⟩
      · rw [(link_idle hl).2] at hv
        cases hv
      · cases call with
        | verifyKey level key =>
          rename_i c _ _
          cases c <;> first | rfl | cases hcall
        | _ => cases hv
  obtain ⟨v, hverdict⟩ := Option.isSome_iff_exists.mp hjudged
  exact List.ne_nil_of_mem (List.mem_filterMap.mpr ⟨e, he, hverdict⟩)

theorem Acknowledged.mem_iff (h : Acknowledged l k) (d : Deed) :
    (∃ e ∈ k.trace, clientDeed e = some d) ↔ ∃ x, k.exchange = some x ∧ x.reported = some d := by
  rw [← mem_clientDeeds, h.deeds, Option.mem_toList, ClientStep.reported,
    Option.bind_eq_some_iff]

/-- A seed the service issues is one the client gave. -/
theorem Acknowledged.seedIssued (h : Acknowledged l k) (hl : l.seedIssued) : k.seedIssued := by
  obtain ⟨x, hx, hi⟩ := hl
  have hx : k.exchange = some x := h.exchange.trans hx
  exact ⟨x, hx, hi, (h.mem_iff _).mpr ⟨x, hx, reported_seedIssued hi⟩⟩

/-- And the other way round. -/
theorem Acknowledged.issues (h : Acknowledged l k) (hk : k.issues) : l.seedIssued := by
  obtain ⟨⟨c, y⟩, he, hi⟩ := hk
  obtain ⟨seed, hd⟩ : ∃ seed, clientDeed ⟨c, y⟩ = some (.seedIssued seed) := by
    cases c with
    | client _ c =>
      cases c with
      | getSeed level => exact ⟨y.reply.2, if_pos (of_decide_eq_true hi)⟩
      | _ => cases hi
    | _ => cases hi
  obtain ⟨x, hx, hr⟩ := (h.mem_iff _).mp ⟨_, he, hd⟩
  exact ⟨x, h.exchange.symm.trans hx, seedIssued_of_reported hr⟩

/-- A key the service takes is one the client took. -/
theorem Acknowledged.keyAccepted (h : Acknowledged l k) (hl : l.keyAccepted) : k.keyAccepted := by
  obtain ⟨⟨x, hx, hsends⟩, t, ht⟩ := hl
  have hx : k.exchange = some x := h.exchange.trans hx
  obtain ⟨⟨c, y⟩, he, hverdict⟩ := List.mem_filterMap.mp ht
  obtain ⟨key, hd⟩ : ∃ key, deed ⟨c, y⟩ = some (.keyAccepted key) := by
    cases c with
    | sec _ c =>
      cases c with
      | verifyKey level key =>
        have hyes : y.reply = true := congrArg Prod.snd (Option.some.inj hverdict)
        exact ⟨key, if_pos hyes⟩
      | _ => cases hverdict
    | _ => cases hverdict
  have hmem : Deed.keyAccepted key ∈ clientDeeds k.trace := by
    rw [h.below.deeds]
    exact List.mem_filterMap.mpr ⟨_, he, hd⟩
  have hbelow := mem_clientDeeds.mp hmem
  obtain ⟨x', hx', hr⟩ := (h.mem_iff _).mp hbelow
  obtain rfl : x' = x := Option.some.inj (hx'.symm.trans hx)
  exact ⟨x', hx, hsends, key_of_reported hr ▸ hbelow⟩

theorem link_not_downstream {c : IpcCmd} (h : c.link = true) : ¬ c.downstream := by
  cases c with
  | client _ c => cases c <;> simp [IpcCmd.link, IpcCmd.downstream] at h ⊢
  | outer _ => cases h
  | reconnectCheck => exact id

/-- A protected operation of the client, or of PROV, is one of the service. -/
theorem Carried.downstream (h : Carried l k) (hk : ∃ f ∈ k.trace, f.cmd.downstream) :
    l.calls Cmd.downstream := by
  obtain ⟨⟨cmd, z⟩, hf, hd⟩ := hk
  obtain ⟨⟨c, x⟩, he, lo', hbelow, hmem⟩ := h.below.origin hf
  refine ⟨_, he, ?_⟩
  cases hbelow with
  | other hc =>
    cases List.mem_singleton.mp hmem
    cases c with
    | sec _ _ => exact absurd rfl (hc _ _)
    | prov _ q => cases q <;> first | exact trivial | cases hd
    | _ => cases hd
  | @sec _ c _ _ hr =>
    rcases hr.same _ hmem with hlink | ⟨_, call, hcall, rfl⟩
    · exact absurd hd (link_not_downstream hlink)
    · cases c with
      | isAvailable => cases hcall
      | getSeed _ | verifyKey _ _ =>
        cases hcall
        cases hd
      | _ => trivial

theorem pending_below {ls : List Step} {ks : List ClientStep} (ha : Alongside Acknowledged ls ks)
    (hs : SeedPending ls) : ClientSeedPending ks :=
  hs.alongside ha (fun _ _ _ _ _ hR => hR.seedIssued) fun _ _ hR hn hj => hn (hR.keyJudged hj)

/-- Neither the client nor PROV is asked for a protected operation unless the client itself gave a
seed and took the key for it. -/
theorem client_only_unlocked {a : SecIpcAdapter} {y : DiagService × SecIpcAdapter}
    {pre post : List ClientStep} (h : Run DoesOver ({}, a) (pre ++ k :: post) y)
    (hk : ∃ f ∈ k.trace, f.cmd.downstream) : ClientUnlocked pre := by
  obtain ⟨x, x', hpre, hstep, _⟩ := h.at_label
  obtain ⟨ls, hrun, halong⟩ := over_acknowledged hpre
  obtain ⟨l, hl, hcarries⟩ := does_over hstep
  refine (unlocked_before hrun hl (hcarries.downstream hk)).alongside halong ?_ ?_
  · rintro ls ks l k ha hR ⟨hacc, hseed⟩
    exact ⟨hR.keyAccepted hacc, pending_below ha hseed⟩
  · rintro l k hR ⟨hn, hr⟩
    refine ⟨fun hi => hn (hR.issues hi), fun hreset => hr ?_⟩
    rwa [Step.resets, ← hR.op]

end

theorem client_only_unlocked_writeVin : ClientUnlocked unlockOver.1 := by
  have hrun := (playOver_run ({}, { client := some 0 }) unlockOps).append
    (playOver_run unlockOver.2 [writeVinOp 1])
  exact client_only_unlocked hrun ⟨_, List.mem_of_getElem? (i := 2) rfl, trivial⟩

end Diag
end Tbox
