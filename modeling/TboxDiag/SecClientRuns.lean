import TboxDiag.KeyTrials
import TboxDiag.VerdictCounting
import TboxDiag.Deeds
import TboxDiag.Lib.History

/-!
# SecClientRuns

The service on its SEC adapter, as the client of the SEC process sees it. `Relay` says what the
client is asked for one call of the service; a run of the service on the adapter is a run of the
service, step for step (`over_run`). What the service ensures of its calls it so ensures of those
of the client: one key for each seed (`client_key_per_seed`).
-/

namespace Tbox
namespace Diag

open Effects DiagService SecIpcAdapter

/-! ## One call -/

/-- The call of the client behind a call of the service. -/
def SecCall.toClient : SecCall → Option ClientCall
  | .isAvailable => none
  | .getSeed level => some (.getSeed level)
  | .verifyKey level key => some (.verifyKey level key)
  | .generateKeyPair => some .generateKeyPair
  | .getCsr => some .getCsr
  | .injectCertificate certDer => some (.injectCertificate certDer)

/-- It looks after the connection. -/
def IpcCmd.link : IpcCmd → Bool
  | .client _ .isConnected => true
  | .client _ .connect => true
  | .reconnectCheck => true
  | _ => false

/-- What the client is asked for one call: beside the connection, the same; the service is told
what the client reported as done. Only a seed may be asked for twice. -/
structure Relay (c : SecCall) (lo : IpcTrace) (reply : c.Reply) : Prop where
  same : ∀ e ∈ lo, e.cmd.link = true ∨ ∃ h call, c.toClient = some call ∧ e.cmd = .client h call
  told : clientDeeds lo = (c.deed reply).toList
  once : (∃ level, c = .getSeed level) ∨ lo.countP (fun e => !e.cmd.link) ≤ 1

section
variable {a a' : SecIpcAdapter} {lo tr tr' : IpcTrace}

/-- Only the connection is looked after. -/
def LinkOnly (tr : IpcTrace) : Prop := ∀ e ∈ tr, e.cmd.link = true

theorem link_no_deed {f : Event ipc} (h : f.cmd.link = true) : clientDeed f = none := by
  obtain ⟨c, x⟩ := f
  cases c with
  | client _ c =>
    cases c with
    | isConnected => rfl
    | connect => rfl
    | _ => cases h
  | outer _ => cases h
  | reconnectCheck => rfl

theorem LinkOnly.clientDeeds (h : LinkOnly tr) : clientDeeds tr = [] :=
  List.filterMap_eq_nil_iff.mpr fun e he => link_no_deed (h e he)

theorem SecIpcAdapter.Ensured.linkOnly {b : Bool} (h : Ensured a tr b a') : LinkOnly tr := by
  cases h <;> simp [LinkOnly, IpcCmd.link]

theorem LinkOnly.relay {c : SecCall} {reply : c.Reply} (h : LinkOnly tr)
    (hr : c.deed reply = none) : Relay c tr reply where
  same := fun e he => .inl (h e he)
  told := by
    rw [h.clientDeeds, hr]
    rfl
  once := .inr (by
    rw [List.countP_eq_zero.mpr (fun e he => by simp [h e he])]
    exact Nat.zero_le _)

theorem Relay.after {c : SecCall} {reply : c.Reply} (h : Relay c tr' reply) (hl : LinkOnly tr) :
    Relay c (tr ++ tr') reply where
  same := by
    intro e he
    cases List.mem_append.mp he with
    | inl he => exact .inl (hl e he)
    | inr he => exact h.same e he
  told := by
    rw [clientDeeds_append, hl.clientDeeds, List.nil_append]
    exact h.told
  once := by
    refine h.once.imp_right fun hone => ?_
    rw [List.countP_append, List.countP_eq_zero.mpr (fun e he => by simp [hl e he]), Nat.zero_add]
    exact hone

/-- A single call, which the service is told about as the client answers it. -/
theorem relay_call {c : SecCall} {call : ClientCall} {h : ClientHandle} {reply : c.Reply}
    {x : Stamped call.Reply} (hc : c.toClient = some call)
    (hd : call.deed x.reply = c.deed reply) : Relay c [⟨.client h call, x⟩] reply where
  same := by
    intro e he
    rw [List.mem_singleton.mp he]
    exact .inr ⟨h, call, hc, rfl⟩
  told := by
    rw [clientDeeds_cons, clientDeeds_nil, List.append_nil]
    exact congrArg Option.toList hd
  once := .inr (List.countP_le_length ..)

theorem withClient_relay {c : SecCall} {operation : String} {refused : c.Reply}
    {k : ClientHandle → SecIpcAdapter → Ipc (c.Reply × SecIpcAdapter)}
    (hrefused : c.deed refused = none)
    (hk : ∀ h a, wp (k h a) fun tr r => Relay c tr r.1) :
    wp (a.withClient operation refused k) fun tr r => Relay c tr r.1 := by
  refine wp_mono (a.withClient_wp (K := fun _ tr r => Relay c tr r) hk) ?_
  intro tr r h
  cases h with
  | unavailable he => exact he.linkOnly.relay hrefused
  | ready _ he hK => exact hK.after he.linkOnly

/-- A seed the client did not get, before what is done next. -/
theorem relay_again {level : UInt8} {reply : Bool × Bytes} {h : ClientHandle}
    {x : Stamped (SecError × Bytes)} (hr : Relay (.getSeed level) tr reply)
    (hx : x.reply.1 ≠ SecError.success) :
    Relay (.getSeed level) (⟨.client h (.getSeed level), x⟩ :: tr) reply where
  same := by
    intro e he
    cases List.mem_cons.mp he with
    | inl he =>
      rw [he]
      exact .inr ⟨h, _, rfl, rfl⟩
    | inr he => exact hr.same e he
  told := by
    have hnone : clientDeed ⟨.client h (.getSeed level), x⟩ = none := if_neg hx
    rw [clientDeeds_cons, hnone]
    exact hr.told
  once := .inl ⟨level, rfl⟩

theorem retrySeed_relay (a : SecIpcAdapter) (h : ClientHandle) (level : UInt8)
    (x : Stamped (SecError × Bytes)) :
    wp (a.retrySeed h level x.reply) fun tr r =>
      Relay (.getSeed level) (⟨.client h (.getSeed level), x⟩ :: tr)
        (decide (r.1.1 = SecError.success), r.1.2) := by
  have single (y : Stamped (SecError × Bytes)) :
      Relay (.getSeed level) [⟨.client h (.getSeed level), y⟩]
        (decide (y.reply.1 = SecError.success), y.reply.2) := by
    refine relay_call rfl ?_
    simp [ClientCall.deed, SecCall.deed]
  unfold retrySeed
  rw [wp_ite]
  refine ⟨fun hlost => ?_, fun _ => single x⟩
  have hx : x.reply.1 ≠ SecError.success := by
    rw [hlost]
    decide
  rw [wp_bind]
  refine wp_mono a.ensureConnected_wp ?_
  rintro tr ⟨connected, a'⟩ he
  rw [wp_ite]
  refine ⟨fun _ => ?_, fun _ => ?_⟩
  · simp only [wp_bind, wp_logDownstream, wp_pure, List.nil_append, List.append_nil]
    intro y
    exact relay_again ((single y).after he.linkOnly) hx
  · rw [wp_pure, List.append_nil]
    exact relay_again (he.linkOnly.relay (by simp [SecCall.deed, hx])) hx

theorem getSeed_relay (a : SecIpcAdapter) (level : UInt8) :
    wp (a.getSeed level) fun tr r => Relay (.getSeed level) tr r.1 := by
  refine withClient_relay (c := .getSeed level) rfl fun h a => ?_
  rw [wp_bind]
  intro x
  show wp (a.retrySeed h level x.reply >>= _) _
  rw [wp_bind]
  refine wp_mono (retrySeed_relay a h level x) ?_
  rintro tr ⟨⟨result, seed⟩, a'⟩ hr
  simp only [wp_ite, wp_bind, wp_pure, logFailed, logSucceeded, wp_logDownstream, List.append_nil]
  refine ⟨fun hn => ?_, fun hs => ?_⟩
  · simpa [hn] using hr
  · simpa [not_not.mp hs] using hr

/-- The answer by the code the client ended with. -/
theorem relay_told {c : SecCall} {call : ClientCall} {h : ClientHandle} {x : Stamped call.Reply}
    {code : SecError} {no yes : c.Reply} (hc : c.toClient = some call) (hno : c.deed no = none)
    (hcall : call.deed x.reply = if code = SecError.success then c.deed yes else none) :
    (code ≠ SecError.success → Relay c [⟨.client h call, x⟩] no) ∧
      (¬ code ≠ SecError.success → Relay c [⟨.client h call, x⟩] yes) := by
  refine ⟨fun hn => relay_call hc ?_, fun hs => relay_call hc ?_⟩
  · rw [hcall, if_neg hn, hno]
  · rw [hcall, if_pos (not_not.mp hs)]

theorem answer_relay (a : SecIpcAdapter) (c : SecCall) :
    wp (a.answer c) fun tr r => Relay c tr r.1 := by
  cases c with
  | isAvailable => exact wp_mono a.ensureConnected_wp fun _ _ he => he.linkOnly.relay rfl
  | getSeed level => exact getSeed_relay a level
  | verifyKey level key =>
    unfold answer verifyKey
    refine withClient_relay (c := .verifyKey level key) rfl fun h a => ?_
    simp only [wp_bind, wp_ite, wp_pure, logFailed, logSucceeded, wp_logDownstream,
      List.append_nil]
    intro x
    refine relay_told ?_ ?_ ?_ <;> rfl
  | generateKeyPair =>
    unfold answer generateKeyPair
    refine withClient_relay (c := .generateKeyPair) rfl fun h a => ?_
    simp only [wp_bind, wp_ite, wp_pure, logFailed, logSucceeded, wp_logDownstream,
      List.append_nil]
    intro x
    refine relay_told ?_ ?_ ?_ <;> rfl
  | getCsr =>
    unfold answer getCsr
    refine withClient_relay (c := .getCsr) rfl fun h a => ?_
    simp only [wp_bind, wp_ite, wp_pure, logFailed, logSucceeded, wp_logDownstream,
      List.append_nil]
    intro x
    refine relay_told ?_ ?_ ?_ <;> rfl
  | injectCertificate certDer =>
    unfold answer injectCertificate
    refine withClient_relay (c := .injectCertificate certDer) rfl fun h a => ?_
    simp only [wp_bind, wp_ite, wp_pure, logFailed, logSucceeded, wp_logDownstream,
      List.append_nil]
    intro x
    refine relay_told ?_ ?_ ?_ <;> rfl

end

/-! ## The calls of a trace -/

/-- A call of the service with its answer, and what comes of it below: one of SEC is relayed, any
other is passed on. -/
inductive Below : Event outside → IpcTrace → Prop where
  | sec {h : SecHandle} {c : SecCall} {x : Stamped c.Reply} {lo : IpcTrace} :
      Relay c lo x.reply → Below ⟨.sec h c, x⟩ lo
  | other {c : Cmd} {x : Stamped c.Reply} : (∀ h q, c ≠ .sec h q) → Below ⟨c, x⟩ [⟨.outer c, x⟩]

inductive AllBelow : Trace → IpcTrace → Prop where
  | nil : AllBelow [] []
  | cons {e : Event outside} {tr : Trace} {lo lo' : IpcTrace} : Below e lo → AllBelow tr lo' →
      AllBelow (e :: tr) (lo ++ lo')

theorem handle_below {a a' : SecIpcAdapter} {c : Cmd} {x : Stamped c.Reply} {lo : IpcTrace}
    {lg : List LogRecord} (hx : Exec (handle c a) lo lg (x, a')) : Below ⟨c, x⟩ lo := by
  cases c with
  | sec h q =>
    have hwp : wp (handle (.sec h q) a) fun lo r => Relay q lo r.1.reply := by
      simp only [handle, wp_bind, wp_pure, List.append_nil]
      exact answer_relay a q
    exact .sec (hx.wp hwp)
  | _ =>
    rw [passed_served hx]
    exact .other fun _ _ h => Cmd.noConfusion h

theorem served_below {a a' : SecIpcAdapter} {tr : Trace} {lo : IpcTrace}
    (h : Served handle a tr lo a') : AllBelow tr lo := by
  induction h with
  | nil => exact .nil
  | cons hx _ ih => exact .cons (handle_below hx) ih

/-- `get_seed` of the client succeeded. -/
def clientIssues : Event ipc → Bool
  | ⟨.client _ (.getSeed _), x⟩ => x.reply.1 = SecError.success
  | _ => false

/-- `verify_key` of the client was called. -/
def clientVerifies : Event ipc → Bool
  | ⟨.client _ (.verifyKey _ _), _⟩ => true
  | _ => false

section
variable {e : Event outside} {f : Event ipc} {tr : Trace} {lo : IpcTrace} {b b' d : Bool}

theorem link_idle (h : f.cmd.link = true) : clientIssues f = false ∧ clientVerifies f = false := by
  obtain ⟨c, x⟩ := f
  cases c with
  | client _ c =>
    cases c with
    | getSeed _ => cases h
    | verifyKey _ _ => cases h
    | _ => exact ⟨rfl, rfl⟩
  | _ => exact ⟨rfl, rfl⟩

/-- What comes of a call that asks for no seed and sends no key does neither. -/
theorem Relay.idle {c : SecCall} {reply : c.Reply} (h : Relay c lo reply)
    (hc : ∀ call, c.toClient = some call →
      (∀ level, call ≠ .getSeed level) ∧ ∀ level key, call ≠ .verifyKey level key) :
    ∀ f ∈ lo, clientIssues f = false ∧ clientVerifies f = false := by
  rintro ⟨cmd, x⟩ hf
  rcases h.same _ hf with hl | ⟨_, call, hcall, rfl⟩
  · exact link_idle hl
  · obtain ⟨hseed, hkey⟩ := hc call hcall
    cases call with
    | getSeed level => exact absurd rfl (hseed level)
    | verifyKey level key => exact absurd rfl (hkey level key)
    | _ => exact ⟨rfl, rfl⟩

/-- The client's calls for a seed: none of them sends a key, and one succeeds if the service gets a
seed. -/
theorem Relay.seed {level : UInt8} {reply : Bool × Bytes} (h : Relay (.getSeed level) lo reply) :
    (∀ f ∈ lo, clientVerifies f = false) ∧
      (reply.1 = true ↔ ∃ f ∈ lo, clientIssues f = true) := by
  have hseed : ∀ f ∈ lo, f.cmd.link = true ∨
      ∃ (hc : ClientHandle) (x : Stamped (SecError × Bytes)),
        f = ⟨.client hc (.getSeed level), x⟩ := by
    rintro ⟨cmd, x⟩ hf
    rcases h.same _ hf with hl | ⟨hc, call, hcall, rfl⟩
    · exact .inl hl
    · cases hcall
      exact .inr ⟨hc, x, rfl⟩
  have hdeed : ∀ f ∈ lo, clientIssues f = (clientDeed f).isSome := by
    intro f hf
    rcases hseed f hf with hl | ⟨hc, x, rfl⟩
    · rw [(link_idle hl).1, link_no_deed hl]
      rfl
    · by_cases hx : x.reply.1 = SecError.success
      · simp [clientIssues, clientDeed, ClientCall.deed, hx]
      · simp [clientIssues, clientDeed, ClientCall.deed, hx]
  refine ⟨fun f hf => ?_, ?_⟩
  · rcases hseed f hf with hl | ⟨hc, x, rfl⟩
    · exact (link_idle hl).2
    · rfl
  · have htold : clientDeeds lo = if reply.1 then [.seedIssued reply.2] else [] := by
      rw [h.told, SecCall.deed]
      cases reply.1 <;> rfl
    constructor
    · intro hr
      rw [if_pos hr] at htold
      obtain ⟨f, hf, hd⟩ := mem_clientDeeds.mp (htold ▸ List.mem_singleton_self _)
      exact ⟨f, hf, by rw [hdeed f hf, hd]; rfl⟩
    · rintro ⟨f, hf, hi⟩
      rw [hdeed f hf] at hi
      obtain ⟨d, hd⟩ := Option.isSome_iff_exists.mp hi
      have hmem := mem_clientDeeds.mpr ⟨f, hf, hd⟩
      rw [htold] at hmem
      by_contra hr
      rw [if_neg hr] at hmem
      cases hmem

theorem Relay.key {level : UInt8} {key : Bytes} {reply : Bool}
    (h : Relay (.verifyKey level key) lo reply) :
    (∀ f ∈ lo, clientIssues f = false) ∧ lo.countP clientVerifies ≤ 1 := by
  have hkey : ∀ f ∈ lo, f.cmd.link = true ∨ clientIssues f = false := by
    rintro ⟨cmd, x⟩ hf
    rcases h.same _ hf with hl | ⟨hc, call, hcall, rfl⟩
    · exact .inl hl
    · cases hcall
      exact .inr rfl
  refine ⟨fun f hf => (hkey f hf).elim (fun hl => (link_idle hl).1) id, ?_⟩
  obtain ⟨level', hl⟩ | hone := h.once
  · cases hl
  · refine (List.countP_mono_left fun f _ hv => ?_).trans hone
    have hlink : f.cmd.link ≠ true := by
      intro hl
      rw [(link_idle hl).2] at hv
      cases hv
    simpa using hlink

/-- A permit of the service is one of the client. -/
theorem Below.covers (h : Below e lo) (hb : holdSeed b [e] = some b') (hd : b = true → d = true) :
    ∃ d', hold clientIssues clientVerifies d lo = some d' ∧ (b' = true → d' = true) := by
  have idle (hi : issuesSeed e = false) (hv : verifiesKey e = false)
      (hlo : ∀ f ∈ lo, clientIssues f = false ∧ clientVerifies f = false) :
      ∃ d', hold clientIssues clientVerifies d lo = some d' ∧ (b' = true → d' = true) := by
    have hsame : holdSeed b [e] = some b := hold_of_idle (by simp [hi, hv])
    rw [hsame, Option.some_inj] at hb
    exact ⟨d, hold_of_idle hlo, hb ▸ hd⟩
  cases h with
  | @other c x hc =>
    refine idle ?_ ?_ (by simp [clientIssues, clientVerifies]) <;>
      cases c <;> first | rfl | exact absurd rfl (hc _ _)
  | @sec h c x _ hr =>
    cases c with
    | getSeed level =>
      obtain ⟨hnone, hiff⟩ := hr.seed
      cases hx : x.reply.1 with
      | true => exact ⟨true, hold_of_issue hnone (hiff.mp hx), fun _ => rfl⟩
      | false =>
        refine idle hx rfl fun f hf => ⟨Bool.eq_false_iff.mpr fun hi => ?_, hnone f hf⟩
        rw [hiff.mpr ⟨f, hf, hi⟩] at hx
        cases hx
    | verifyKey level key =>
      obtain ⟨hnone, hone⟩ := hr.key
      have hheld : b = true := by
        by_contra hn
        rw [Bool.eq_false_iff.mpr hn] at hb
        cases hb
      obtain rfl := hd hheld
      obtain ⟨d', hd'⟩ := hold_of_one hnone hone
      refine ⟨d', hd', fun ht => ?_⟩
      rw [hheld, ht] at hb
      cases hb
    | _ => exact idle rfl rfl (hr.idle (by rintro call ⟨⟩ <;> exact ⟨nofun, nofun⟩))

theorem AllBelow.covers (h : AllBelow tr lo) (hb : holdSeed b tr = some b')
    (hd : b = true → d = true) :
    ∃ d', hold clientIssues clientVerifies d lo = some d' ∧ (b' = true → d' = true) := by
  induction h generalizing b d with
  | nil =>
    cases hb
    exact ⟨d, rfl, hd⟩
  | @cons e tr lo lo' he _ ih =>
    have hsplit : holdSeed b ([e] ++ tr) = some b' := hb
    obtain ⟨b₁, hb₁, hrest⟩ := hold_left hsplit
    obtain ⟨d₁, hd₁, hle⟩ := he.covers hb₁ hd
    obtain ⟨d', hd', hle'⟩ := ih hrest hle
    refine ⟨d', ?_, hle'⟩
    rw [hold_append, hd₁]
    exact hd'

end

/-! ## Runs -/

/-- What is seen below the adapter of one operation. -/
structure ClientStep where
  op : Op
  trace : IpcTrace
  exchange : Option Exchange

/-- One operation of the service on its adapter. -/
def DoesOver (x : DiagService × SecIpcAdapter) (k : ClientStep) (y : DiagService × SecIpcAdapter) :
    Prop :=
  ∃ lg, Exec ((x.1.exec k.op).serve handle x.2) k.trace lg ((k.exchange, y.1), y.2)

/-- The same operation, seen above and below the adapter. -/
structure Carried (l : Step) (k : ClientStep) : Prop where
  op : k.op = l.op
  exchange : k.exchange = l.exchange
  below : AllBelow l.trace k.trace

theorem does_over {x y : DiagService × SecIpcAdapter} {k : ClientStep} (h : DoesOver x k y) :
    ∃ l, Does x.1 l y.1 ∧ Carried l k := by
  obtain ⟨lg, hx⟩ := h
  obtain ⟨tr, hserved, lg', hupper⟩ := hx.wp (wp_serve handle x.2 (wp_exec (x.1.exec k.op)))
  exact ⟨⟨k.op, tr, k.exchange⟩, ⟨lg', hupper⟩, rfl, rfl, served_below hserved⟩

/-- A run on the adapter is one of the service, step for step. -/
theorem over_run {x y : DiagService × SecIpcAdapter} {ks : List ClientStep}
    (h : Run DoesOver x ks y) : ∃ ls, Run Does x.1 ls y.1 ∧ Alongside Carried ls ks := by
  have hstep : ∀ x k y, DoesOver x k y → ∃ l, Does (Prod.fst x) l (Prod.fst y) ∧ Carried l k :=
    fun _ _ _ => does_over
  exact Run.alongside hstep h

/-- The calls of a whole run. -/
def clientTraceOf (ks : List ClientStep) : IpcTrace := ks.flatMap ClientStep.trace

theorem AllBelow.append {tr tr' : Trace} {lo lo' : IpcTrace} (h : AllBelow tr lo)
    (h' : AllBelow tr' lo') : AllBelow (tr ++ tr') (lo ++ lo') := by
  induction h with
  | nil => exact h'
  | cons he _ ih =>
    rw [List.append_assoc]
    exact .cons he ih

theorem Carried.all_below {ls : List Step} {ks : List ClientStep} (h : Alongside Carried ls ks) :
    AllBelow (traceOf ls) (clientTraceOf ks) := by
  induction h with
  | nil => exact .nil
  | snoc _ hk ih =>
    have hall := ih.append hk.below
    simpa [traceOf, clientTraceOf] using hall

/-- The client is sent one key for each seed it gave: between two calls of its `verify_key` its
`get_seed` succeeded, and up to any call there are at most as many of the first as of the second. -/
theorem client_key_per_seed {a : SecIpcAdapter} {y : DiagService × SecIpcAdapter}
    {ks : List ClientStep} (h : Run DoesOver ({}, a) ks y) :
    (∀ before between after e e',
      clientTraceOf ks = before ++ e :: (between ++ e' :: after) → clientVerifies e = true →
      clientVerifies e' = true → ∃ x ∈ between, clientIssues x = true) ∧
    ∀ tr rest, clientTraceOf ks = tr ++ rest →
      tr.countP clientVerifies ≤ tr.countP clientIssues := by
  obtain ⟨ls, hrun, hcarried⟩ := over_run h
  obtain ⟨o, hacts, _⟩ := reach_acts hrun
  obtain ⟨b, hb, _⟩ := armed_run hacts
  obtain ⟨d, hd, _⟩ := (Carried.all_below hcarried).covers hb (d := false) (by simp)
  refine ⟨?_, ?_⟩
  · intro before between after e e' htr he he'
    rw [htr] at hd
    exact issued_between hd he he'
  · intro tr rest htr
    rw [htr] at hd
    exact count_left_le hd

/-! ## Scenarios -/

/-- The outside, when the client is connected and does all it is asked. -/
def obligingClient : (c : IpcCmd) → Stamped c.Reply
  | .outer c => obliging 0 c
  | .client _ .isConnected => ⟨0, true⟩
  | .client _ .connect => ⟨0, true⟩
  | .client _ (.getSeed _) => ⟨0, SecError.success, []⟩
  | .client _ (.verifyKey _ _) => ⟨0, SecError.success⟩
  | .client _ .generateKeyPair => ⟨0, SecError.success⟩
  | .client _ .getCsr => ⟨0, SecError.success, []⟩
  | .client _ (.injectCertificate _) => ⟨0, SecError.success⟩
  | .reconnectCheck => ⟨0, ()⟩

/-- Run operations against it. -/
def playOver (x : DiagService × SecIpcAdapter) :
    List Op → List ClientStep × (DiagService × SecIpcAdapter)
  | [] => ([], x)
  | op :: ops =>
    let r := ((x.1.exec op).serve handle x.2).run obligingClient
    let q := playOver (r.2.2.1.2, r.2.2.2) ops
    (⟨op, r.1, r.2.2.1.1⟩ :: q.1, q.2)

theorem playOver_run (x : DiagService × SecIpcAdapter) (ops : List Op) :
    Run DoesOver x (playOver x ops).1 (playOver x ops).2 := by
  induction ops generalizing x with
  | nil => exact .nil
  | cons op ops ih =>
    have hx := exec_run obligingClient ((x.1.exec op).serve handle x.2)
    exact .cons ⟨_, hx⟩ (ih _)

/-- Level 1 is unlocked, and a VIN is written. -/
def unlockOps : List Op := ownedScript.map Prod.fst

def unlockOver : List ClientStep × (DiagService × SecIpcAdapter) :=
  playOver ({}, { client := some 0 }) unlockOps

theorem client_key_per_seed_twice :
    let lo := clientTraceOf (playOver ({}, { client := some 0 }) (twoTrials.map Prod.fst)).1
    (∃ before between after e e', lo = before ++ e :: (between ++ e' :: after) ∧
      clientVerifies e = true ∧ clientVerifies e' = true ∧ ∃ x ∈ between, clientIssues x = true) ∧
    lo.countP clientVerifies = 2 ∧ lo.countP clientVerifies ≤ lo.countP clientIssues := by
  intro lo
  obtain ⟨hbetween, hcount⟩ := client_key_per_seed
    (playOver_run ({}, { client := some 0 }) (twoTrials.map Prod.fst))
  have hcut : lo = lo.take 11 ++ ⟨.client 0 (.verifyKey 2 [0x5A]), ⟨0, SecError.success⟩⟩ ::
      ((lo.drop 12).take 7 ++
        ⟨.client 0 (.verifyKey 2 [0x5A]), ⟨0, SecError.success⟩⟩ :: lo.drop 20) := rfl
  refine ⟨⟨_, _, _, _, _, hcut, rfl, rfl, hbetween _ _ _ _ _ hcut rfl rfl⟩, rfl, ?_⟩
  exact hcount lo [] (List.append_nil _).symm

end Diag
end Tbox
