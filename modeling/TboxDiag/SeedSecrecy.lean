import TboxDiag.ServiceTwins
import TboxDiag.SecIpcAdapter
import TboxDiag.Lib.Coupling

/-!
# SeedSecrecy

Seeds and keys do not reach the log. The service runs on the SEC adapter, and two runs of it over
the same calls differ in the bytes of the seeds SEC gives and of the keys in the tester's messages:
`seeds_keys_unlogged` shows that they write the same records. What the adapter itself logs of a
seed is its size.
-/

namespace Tbox
namespace Diag

open Effects

/-! ## What may differ below the adapter -/

def SecReading.next (r : Reading) : Event ipc → Reading
  | ⟨.outer c, x⟩ => r.next ⟨c, x⟩
  | _ => r

inductive SecCmdTwin : IpcCmd → IpcCmd → Prop where
  | outer {c c' : Cmd} : CmdTwin c c' → SecCmdTwin (.outer c) (.outer c')
  | same {c : IpcCmd} : SecCmdTwin c c
  | key {h : ClientHandle} {level : UInt8} {key key' : Bytes} : key.length = key'.length →
      SecCmdTwin (.client h (.verifyKey level key)) (.client h (.verifyKey level key'))

inductive SecAnsTwin (D : Bytes → Bytes → Prop) : Reading → Event ipc → Event ipc → Prop where
  | outer {r : Reading} {c c' : Cmd} {x : Stamped c.Reply} {x' : Stamped c'.Reply} :
      AnsTwin D r ⟨c, x⟩ ⟨c', x'⟩ → SecAnsTwin D r ⟨.outer c, x⟩ ⟨.outer c', x'⟩
  | same {r : Reading} {e : Event ipc} : SecAnsTwin D r e e
  | key {r : Reading} {h : ClientHandle} {level : UInt8} {key key' : Bytes}
      {x : Stamped SecError} :
      SecAnsTwin D r ⟨.client h (.verifyKey level key), x⟩ ⟨.client h (.verifyKey level key'), x⟩
  | seed {r : Reading} {h : ClientHandle} {level : UInt8} {t : Time} {code : SecError}
      {seed seed' : Bytes} : seed.length = seed'.length →
      SecAnsTwin D r ⟨.client h (.getSeed level), ⟨t, code, seed⟩⟩
        ⟨.client h (.getSeed level), ⟨t, code, seed'⟩⟩

theorem SecAnsTwin.outer_inv {D : Bytes → Bytes → Prop} {r : Reading} {c c' : Cmd}
    {x : Stamped c.Reply} {x' : Stamped c'.Reply}
    (h : SecAnsTwin D r ⟨.outer c, x⟩ ⟨.outer c', x'⟩) : AnsTwin D r ⟨c, x⟩ ⟨c', x'⟩ := by
  cases h with
  | outer h => exact h
  | same => exact .same

abbrev secTwin (D : Bytes → Bytes → Prop) : Link ipc Reading :=
  ⟨SecReading.next, SecCmdTwin, SecAnsTwin D⟩

/-! ## The adapter -/

namespace SecIpcAdapter

/-- A call of the client whose answer holds no secret. -/
def plain : IpcCmd → Prop
  | .outer _ | .client _ (.getSeed _) => False
  | _ => True

section
variable {D : Bytes → Bytes → Prop} {α β : Type}

theorem ignores_plain : (secTwin D).Ignores plain where
  cmd _ := .same
  ans hc h := by
    cases h with
    | same => rfl
    | key => rfl
    | outer _ => exact hc.elim
    | seed _ => exact hc.elim
  next {c} _ _ hc := by
    cases c with
    | outer c => exact hc.elim
    | client h c => rfl
    | reconnectCheck => rfl

theorem only_client {h : ClientHandle} {c : ClientCall} (hc : plain (.client h c)) :
    Only plain (askClient h c) := ⟨hc, fun _ => trivial⟩

theorem only_log {level : LogLevel} {event message : String}
    {fields : List (String × FieldValue)} :
    Only plain (logDownstream level event message fields) := trivial

theorem log_twin {R : Reading → α → β → Prop} {r : Reading} {level : LogLevel}
    {event message : String} {fields : List (String × FieldValue)} {k : Unit → Ipc α}
    {k' : Unit → Ipc β} (h : Twin (secTwin D) R r (k ()) (k' ())) :
    Twin (secTwin D) R r (logDownstream level event message fields >>= k)
      (logDownstream level event message fields >>= k') := .tell h

variable {a : SecIpcAdapter} {r : Reading}

theorem ensureConnected_only : Only plain a.ensureConnected := by
  unfold ensureConnected
  split
  · exact only_pure
  · refine only_bind (only_client trivial) fun _ => only_ite only_pure ?_
    refine only_bind (only_client trivial) fun _ => only_ite only_pure ?_
    refine only_bind ⟨trivial, fun _ => trivial⟩ fun _ => only_ite only_pure ?_
    refine only_bind (only_client trivial) fun _ => only_ite ?_ ?_
    · exact only_bind only_log fun _ => only_pure
    · exact only_bind only_log fun _ => only_pure

/-- The head of every operation, and what follows it once there is a client. -/
theorem withClient_twin {operation : String} {refused : α} {k k' : ClientHandle → SecIpcAdapter →
      Ipc (α × SecIpcAdapter)} {Q : α → α → Prop} (hrefused : Q refused refused)
    (hk : ∀ h a, Twin (secTwin D) (fun r' y y' => r' = r ∧ Q y.1 y'.1 ∧ y.2 = y'.2) r
      (k h a) (k' h a)) :
    Twin (secTwin D) (fun r' y y' => r' = r ∧ Q y.1 y'.1 ∧ y.2 = y'.2) r
      (a.withClient operation refused k) (a.withClient operation refused k') := by
  unfold withClient isAvailable
  refine (ignores_plain.twin ensureConnected_only).bind ?_
  rintro _ ⟨available, a₁⟩ _ ⟨rfl, rfl⟩
  cases available with
  | false => exact log_twin (.pure ⟨rfl, hrefused, rfl⟩)
  | true =>
    cases hc : a₁.client with
    | none =>
      simp only [hc]
      exact log_twin (.pure ⟨rfl, hrefused, rfl⟩)
    | some h =>
      simp only [hc]
      exact hk h a₁

theorem withClient_only {operation : String} {refused : α}
    {k : ClientHandle → SecIpcAdapter → Ipc (α × SecIpcAdapter)}
    (hk : ∀ h a, Only plain (k h a)) : Only plain (a.withClient operation refused k) := by
  unfold withClient isAvailable
  refine only_bind ensureConnected_only fun _ => ?_
  dsimp only
  split
  · exact hk _ _
  · exact only_bind only_log fun _ => only_pure

/-- The same answer, with as many bytes. -/
def SameSize {ρ : Type} (y y' : ρ × Bytes) : Prop := y.1 = y'.1 ∧ y.2.length = y'.2.length

/-- What the client answers to a request for a seed. -/
theorem askSeed_twin {h : ClientHandle} {level : UInt8} {Q : Reading → α → β → Prop}
    {k : SecError × Bytes → Ipc α} {k' : SecError × Bytes → Ipc β}
    (hk : ∀ code seed seed', seed.length = seed'.length →
      Twin (secTwin D) Q r (k (code, seed)) (k' (code, seed'))) :
    Twin (secTwin D) Q r (askClient h (.getSeed level) >>= k)
      (askClient h (.getSeed level) >>= k') := by
  refine .call .same ?_
  intro x x' hans
  cases hans with
  | same => exact hk _ _ _ rfl
  | seed hlen => exact hk _ _ _ hlen

theorem retrySeed_twin {h : ClientHandle} {level : UInt8} {code : SecError} {seed seed' : Bytes}
    (hlen : seed.length = seed'.length) :
    Twin (secTwin D)
      (fun r' y y' => r' = r ∧ SameSize y.1 y'.1 ∧ y.2 = y'.2) r
      (a.retrySeed h level (code, seed)) (a.retrySeed h level (code, seed')) := by
  unfold retrySeed
  refine .ite (fun _ => ?_) fun _ => .pure ⟨rfl, ⟨rfl, hlen⟩, rfl⟩
  refine (ignores_plain.twin ensureConnected_only).bind ?_
  rintro _ ⟨connected, a₁⟩ _ ⟨rfl, rfl⟩
  refine .ite (fun _ => log_twin ?_) fun _ => .pure ⟨rfl, ⟨rfl, hlen⟩, rfl⟩
  exact askSeed_twin fun code seed seed' hlen => .pure ⟨rfl, ⟨rfl, hlen⟩, rfl⟩

theorem getSeed_twin {level : UInt8} :
    Twin (secTwin D)
      (fun r' y y' => r' = r ∧ SameSize y.1 y'.1 ∧ y.2 = y'.2) r
      (a.getSeed level) (a.getSeed level) := by
  unfold getSeed
  refine withClient_twin (Q := SameSize) ⟨rfl, rfl⟩ ?_
  intro h a
  refine askSeed_twin fun code seed seed' hlen => (retrySeed_twin hlen).bind ?_
  rintro _ ⟨⟨code, seed⟩, a₁⟩ ⟨⟨code', seed'⟩, a₁'⟩ ⟨rfl, ⟨hcode, hlen⟩, ha⟩
  cases hcode
  cases ha
  refine .ite (fun _ => log_twin (.pure ⟨rfl, ⟨rfl, hlen⟩, rfl⟩)) fun _ => ?_
  have hlen' : seed.length = seed'.length := hlen
  simp only [hlen']
  exact log_twin (.pure ⟨rfl, ⟨rfl, hlen⟩, rfl⟩)

theorem verifyKey_twin {level : UInt8} {key key' : Bytes} (hlen : key.length = key'.length) :
    Twin (secTwin D) (fun r' y y' => r' = r ∧ y.1 = y'.1 ∧ y.2 = y'.2) r
      (a.verifyKey level key) (a.verifyKey level key') := by
  unfold verifyKey
  refine withClient_twin (Q := Eq) rfl ?_
  intro h a
  refine .call (.key hlen) ?_
  intro x x' hans
  obtain rfl : x = x' := by
    cases hans with
    | same => rfl
    | key => rfl
  exact .ite (fun _ => log_twin (.pure ⟨rfl, rfl, rfl⟩)) fun _ => log_twin (.pure ⟨rfl, rfl, rfl⟩)

theorem generateKeyPair_only : Only plain a.generateKeyPair := by
  unfold generateKeyPair
  refine withClient_only fun h a => only_bind (only_client trivial) fun _ => only_ite ?_ ?_
  · exact only_bind only_log fun _ => only_pure
  · exact only_bind only_log fun _ => only_pure

theorem getCsr_only : Only plain a.getCsr := by
  unfold getCsr
  refine withClient_only fun h a => only_bind (only_client trivial) fun _ => only_ite ?_ ?_
  · exact only_bind only_log fun _ => only_pure
  · exact only_bind only_log fun _ => only_pure

theorem injectCertificate_only {certDer : Bytes} : Only plain (a.injectCertificate certDer) := by
  unfold injectCertificate
  refine withClient_only fun h a => only_bind (only_client trivial) fun _ => only_ite ?_ ?_
  · exact only_bind only_log fun _ => only_pure
  · exact only_bind only_log fun _ => only_pure

/-! ## Under the service -/

/-- Corresponding replies of the adapter. -/
def ReplyTwin : (c : SecCall) → c.Reply → c.Reply → Prop
  | .getSeed _, y, y' => SameSize y y'
  | _, y, y' => y = y'

theorem ReplyTwin.ansTwin {h : SecHandle} {c : SecCall} {y y' : c.Reply} (hy : ReplyTwin c y y') :
    AnsTwin D r ⟨.sec h c, ⟨0, y⟩⟩ ⟨.sec h c, ⟨0, y'⟩⟩ := by
  cases c with
  | getSeed level =>
    obtain ⟨ok, seed⟩ := y
    obtain ⟨ok', seed'⟩ := y'
    obtain ⟨rfl, hlen⟩ : ok = ok' ∧ seed.length = seed'.length := hy
    exact .seed hlen
  | _ =>
    have hy' : y = y' := hy
    subst hy'
    exact .same

theorem answer_twin {c : SecCall} :
    Twin (secTwin D) (fun r' y y' => r' = r ∧ ReplyTwin c y.1 y'.1 ∧ y.2 = y'.2) r
      (a.answer c) (a.answer c) := by
  have plain {c : SecCall} (hc : ∀ y, ReplyTwin c y y) (hp : Only plain (a.answer c)) :
      Twin (secTwin D) (fun r' y y' => r' = r ∧ ReplyTwin c y.1 y'.1 ∧ y.2 = y'.2) r
        (a.answer c) (a.answer c) := by
    refine (ignores_plain.twin hp).mono ?_
    rintro r' y _ ⟨rfl, rfl⟩
    exact ⟨rfl, hc _, rfl⟩
  cases c with
  | isAvailable => exact plain (fun _ => rfl) ensureConnected_only
  | getSeed level => exact getSeed_twin
  | verifyKey level key => exact verifyKey_twin rfl
  | generateKeyPair => exact plain (fun _ => rfl) generateKeyPair_only
  | getCsr => exact plain (fun _ => rfl) getCsr_only
  | injectCertificate certDer => exact plain (fun _ => rfl) injectCertificate_only

/-- The adapter answers corresponding calls of the service by twins. -/
theorem handle_twin {c c' : Cmd} (hc : CmdTwin c c') :
    Twin (secTwin D)
      (fun r' y y' => AnsTwin D r ⟨c, y.1⟩ ⟨c', y'.1⟩ ∧ r' = r.next ⟨c, y.1⟩ ∧ y.2 = y'.2) r
      (handle c a) (handle c' a) := by
  have pass {c c' : Cmd} (hc : CmdTwin c c') :
      Twin (secTwin D)
        (fun r' y y' => AnsTwin D r ⟨c, y.1⟩ ⟨c', y'.1⟩ ∧ r' = r.next ⟨c, y.1⟩ ∧ y.2 = y'.2) r
        (a.passOn c) (a.passOn c') :=
    .call (.outer hc) fun _ _ hans => .pure ⟨hans.outer_inv, rfl, rfl⟩
  cases hc with
  | same =>
    cases c with
    | sec h c =>
      refine answer_twin.bind ?_
      rintro _ ⟨reply, a₁⟩ ⟨reply', a₁'⟩ ⟨rfl, hreply, ha⟩
      exact .pure ⟨hreply.ansTwin, rfl, ha⟩
    | _ => exact pass .same
  | key hlen =>
    refine (verifyKey_twin hlen).bind ?_
    rintro _ ⟨accepted, a₁⟩ ⟨_, a₁'⟩ ⟨rfl, hreply, ha⟩
    cases hreply
    exact .pure ⟨.key, rfl, ha⟩
  | sent hlen => exact pass (.sent hlen)

end
end SecIpcAdapter

/-! ## The service on the adapter -/

/-- Two runs of any number of calls of `processPendingRequests`, in which the seeds and the keys
may differ, write the same records. -/
theorem seeds_keys_unlogged {n : Nat} {s : DiagService} {a : SecIpcAdapter} {tr tr' : IpcTrace}
    {lg lg' : List LogRecord} {y y' : DiagService × SecIpcAdapter}
    (hx : Exec ((s.pendingRequests n).serve SecIpcAdapter.handle a) tr lg y)
    (hx' : Exec ((s.pendingRequests n).serve SecIpcAdapter.handle a) tr' lg' y')
    (hal : (secTwin UdsCodec.KeyTwin).Alike .idle tr tr') : lg' = lg := by
  have h := (DiagService.pendingRequests_twin (r := .idle) (n := n) (.refl s)).serve
    (fun r c c' a hc => SecIpcAdapter.handle_twin (r := r) (a := a) hc) a
  exact h.logs hx hx' hal

/-! ## Two exchanges -/

/-- Tester 1 holds the extended session, and is connected. -/
def awaitingSeed : DiagService :=
  { (DiagService.play {} extendedScript).2 with
    transport := some (.doip { connected := true, clientFd := 4 }) }

/-- A requestSeed and then a key of three bytes arrive, and SEC gives `seed` and accepts the key. -/
def seedAndKey (seed key : Bytes) (past : IpcTrace) : (c : ipc.Cmd) → ipc.Ans c
  | .outer (.sock (.poll _ _)) => ⟨0, 1⟩
  | .outer (.sock (.recv _ 8)) =>
    if past.any fun e => decide (e.cmd = .outer (.sock (.recv 4 6))) then
      ⟨0, some [0x02, 0xFD, 0x80, 0x01, 0, 0, 0, 9]⟩
    else
      ⟨0, some [0x02, 0xFD, 0x80, 0x01, 0, 0, 0, 6]⟩
  | .outer (.sock (.recv _ 6)) => ⟨0, some [0, 1, 0, 2, 0x27, 0x01]⟩
  | .outer (.sock (.recv _ _)) => ⟨0, some ([0, 1, 0, 2, 0x27, 0x02] ++ key)⟩
  | .outer c => obliging 0 c
  | .client _ .isConnected => ⟨0, true⟩
  | .client _ .connect => ⟨0, true⟩
  | .client _ (.getSeed _) => ⟨0, SecError.success, seed⟩
  | .client _ (.verifyKey _ _) => ⟨0, SecError.success⟩
  | .client _ .generateKeyPair => ⟨0, SecError.success⟩
  | .client _ .getCsr => ⟨0, SecError.success, []⟩
  | .client _ (.injectCertificate _) => ⟨0, SecError.success⟩
  | .reconnectCheck => ⟨0, ()⟩

/-- Two calls over the SEC adapter. -/
def twoCalls : Prog ipc LogRecord (DiagService × SecIpcAdapter) :=
  (awaitingSeed.pendingRequests 2).serve SecIpcAdapter.handle { client := some 0 }

def unlockRun (seed key : Bytes) : IpcTrace × DiagService × SecIpcAdapter :=
  twoCalls.play (seedAndKey seed key) []

/-- The seed comes back from SEC and goes out to the tester, and the key is in the next message and
in the call of SEC. The rest is the same. -/
theorem unlockRun_alike : (secTwin UdsCodec.KeyTwin).Alike .idle
    (unlockRun [0x11, 0x22] [1, 2, 3]).1 (unlockRun [0x5A, 0xA5] [7, 8, 9]).1 := by
  have hseed : SecAnsTwin UdsCodec.KeyTwin .idle
      ⟨.client 0 (.getSeed 1), ⟨0, SecError.success, [0x11, 0x22]⟩⟩
      ⟨.client 0 (.getSeed 1), ⟨0, SecError.success, [0x5A, 0xA5]⟩⟩ := .seed rfl
  have hpayload : AnsTwin UdsCodec.KeyTwin (.message 0)
      ⟨.sock (.recv 4 9), ⟨0, some ([0, 1, 0, 2] ++ [0x27, 0x02, 1, 2, 3])⟩⟩
      ⟨.sock (.recv 4 9), ⟨0, some ([0, 1, 0, 2] ++ [0x27, 0x02, 7, 8, 9])⟩⟩ :=
    .payload (.message rfl (.key rfl))
  exact fun _ => ⟨.same, fun _ => ⟨.same, fun _ => ⟨.same, fun _ => ⟨.same, fun _ => ⟨.same,
    fun _ => ⟨.same, fun _ => ⟨.same, fun _ => ⟨hseed, fun _ => ⟨.outer .sent,
      fun _ => ⟨.same, fun _ => ⟨.same, fun _ => ⟨.same, fun _ => ⟨.outer hpayload,
        fun _ => ⟨.same, fun _ => ⟨.same, fun _ => ⟨.same, fun _ => ⟨.key,
          fun _ => ⟨.same, trivial⟩⟩⟩⟩⟩⟩⟩⟩⟩⟩⟩⟩⟩⟩⟩⟩⟩⟩

theorem seeds_keys_unlogged_two : ∃ lg,
    Exec twoCalls (unlockRun [0x11, 0x22] [1, 2, 3]).1 lg (unlockRun [0x11, 0x22] [1, 2, 3]).2 ∧
    Exec twoCalls (unlockRun [0x5A, 0xA5] [7, 8, 9]).1 lg (unlockRun [0x5A, 0xA5] [7, 8, 9]).2 := by
  obtain ⟨lg, hx⟩ := exec_play (seedAndKey [0x11, 0x22] [1, 2, 3]) [] twoCalls
  obtain ⟨lg', hx'⟩ := exec_play (seedAndKey [0x5A, 0xA5] [7, 8, 9]) [] twoCalls
  obtain rfl : lg' = lg := seeds_keys_unlogged hx hx' unlockRun_alike
  exact ⟨lg', hx, hx'⟩

end Diag
end Tbox
