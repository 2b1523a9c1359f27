import TboxDiag.LogTwins

/-!
# ServiceTwins

The transport and the service under `outsideTwin`. Two calls of `receive` return the same bytes, or
bytes that differ by `D`; `takeBytes_twin` is the first half of a call of `processPendingRequests`,
and `processRaw_twin` the second, where the bytes differ in a key. `pendingRequests_twin` puts the
calls together: where the messages differ in the bytes of keys only, the two runs write the same
records.
-/

namespace Tbox
namespace Diag

open Effects DoIpAdapter

/-! ## The transport -/

namespace DoIpAdapter

section
variable {D : Bytes → Bytes → Prop} {r : Reading} {a : DoIpAdapter}

theorem send_twin {data data' : Bytes} (h : data.length = data'.length) :
    Twin (outsideTwin D) (fun _ b b' => b = b') r (a.send data) (a.send data') := by
  have hframe : (a.messageFrame a.remoteAddress data).length =
      (a.messageFrame a.remoteAddress data').length := by
    simp [messageFrame, buildDoipFrame, h]
  unfold send
  generalize a.messageFrame a.remoteAddress data = frame at hframe ⊢
  generalize a.messageFrame a.remoteAddress data' = frame' at hframe ⊢
  refine .ite (fun _ => .pure rfl) fun _ => ask_twin (.sent hframe) ?_
  intro x x' hans
  obtain rfl : x = x' := by
    cases hans with
    | same => rfl
    | sent => rfl
  exact .pure (by rw [hframe])

/-- What two calls of `receive` return: the same bytes, or bytes that differ by `D`. -/
abbrev Received (D : Bytes → Bytes → Prop) (_ : Reading) (y y' : Bytes × DoIpAdapter) : Prop :=
  (y.1 = y'.1 ∨ D y.1 y'.1) ∧ y.2 = y'.2

/-- Reads that answer the same. -/
theorem recv_same {α β : Type} {R : Reading → α → β → Prop} {fd : Int} {n : Nat}
    {k : Option Bytes → M α} {k' : Option Bytes → M β}
    (hr : ∀ timeoutMs, r ≠ .message timeoutMs)
    (h : ∀ x, Twin (outsideTwin D) R (Reading.next r ⟨.sock (.recv fd n), x⟩) (k x.reply)
      (k' x.reply)) :
    Twin (outsideTwin D) R r (ask (.sock (.recv fd n)) >>= k)
      (ask (.sock (.recv fd n)) >>= k') := by
  refine ask_twin .same ?_
  intro x x' hans
  cases hans with
  | same => exact h _
  | payload _ => exact absurd rfl (hr _)

theorem poll_same {α β : Type} {R : Reading → α → β → Prop} {fd : Int} {timeoutMs : UInt32}
    {k : Int → M α} {k' : Int → M β}
    (h : ∀ ret, Twin (outsideTwin D) R (.polled timeoutMs) (k ret) (k' ret)) :
    Twin (outsideTwin D) R r (ask (.sock (.poll fd timeoutMs)) >>= k)
      (ask (.sock (.poll fd timeoutMs)) >>= k') := by
  refine ask_twin .same ?_
  intro x x' hans
  obtain rfl := (harmless_same (c := .sock (.poll fd timeoutMs)) trivial).2 r x x' hans
  exact h _

theorem receiveActivation_twin {n : Nat} (hr : ∀ timeoutMs, r ≠ .message timeoutMs) :
    Twin (outsideTwin D) (Received D) r (a.receiveActivation n) (a.receiveActivation n) := by
  unfold receiveActivation
  refine recv_same hr fun x => ?_
  split
  · exact .pure ⟨.inl rfl, rfl⟩
  · refine .ite (fun _ => .pure ⟨.inl rfl, rfl⟩) fun _ => ?_
    exact ask_harmless trivial fun r _ => .pure ⟨.inl rfl, rfl⟩

theorem receiveMessage_twin (hD : Masking D) {n : Nat} :
    Twin (outsideTwin D) (Received D) (.message 0) (a.receiveMessage n) (a.receiveMessage n) := by
  unfold receiveMessage
  refine ask_twin .same ?_
  intro x x' hans
  cases hans with
  | same =>
    split
    · exact .pure ⟨.inl rfl, rfl⟩
    · refine .ite (fun _ => .pure ⟨.inl rfl, rfl⟩) fun _ => ?_
      split
      · exact ask_harmless trivial fun r _ => .pure ⟨.inl rfl, rfl⟩
      · exact .pure ⟨.inl rfl, rfl⟩
  | @payload _ _ _ t p p' hp =>
    cases hp with
    | @message pre raw raw' hpre hraw =>
      obtain ⟨u, us, rfl⟩ := List.exists_cons_of_ne_nil (hD.nonempty hraw)
      obtain ⟨u', us', rfl⟩ := List.exists_cons_of_length_eq_add_one (hD.length hraw).symm
      obtain ⟨b₁, b₂, b₃, b₄, rfl⟩ := List.length_eq_four.mp hpre
      have hlen : (u :: us).length = (u' :: us').length := hD.length hraw
      simp only [List.cons_append, List.nil_append, List.length_cons] at hlen ⊢
      rw [hlen]
      refine .ite (fun _ => .pure ⟨.inl rfl, rfl⟩) fun _ => ?_
      exact ask_harmless trivial fun r _ => .pure ⟨.inr hraw, rfl⟩
    | bare hshort hraw =>
      have hlen := hD.length hraw
      simp only
      rw [← hlen]
      refine .ite (fun _ => .pure ⟨.inl rfl, rfl⟩) fun _ => ?_
      split
      · simp only [List.length_cons] at hshort
        omega
      split
      · simp only [List.length_cons] at hlen hshort
        omega
      · exact .pure ⟨.inr hraw, rfl⟩
    | unread hlen hn =>
      have hn' : p.length ≠ n := hn.resolve_right (by simp)
      simp only [← hlen, if_pos hn']
      exact .pure ⟨.inl rfl, rfl⟩

theorem receive_twin (hD : Masking D) :
    Twin (outsideTwin D) (Received D) r (a.receive 0) (a.receive 0) := by
  unfold receive
  refine .ite (fun _ => .pure ⟨.inl rfl, rfl⟩) fun _ => poll_same fun ret => ?_
  refine .ite (fun _ => .pure ⟨.inl rfl, rfl⟩) fun _ => recv_same (by simp) fun header => ?_
  split
  next _ _ t₁ t₀ l₃ l₂ l₁ l₀ hheader =>
    have hnext : Reading.next (.polled 0) ⟨.sock (.recv a.clientFd 8), header⟩ =
        if ofBytes16 t₁ t₀ = diagnosticMessage then .message 0 else .idle := by
      simp [Reading.next, hheader]
    rw [hnext]
    refine .ite (fun _ => log_twin (.pure ⟨.inl rfl, rfl⟩)) fun _ => ?_
    refine .ite (fun htype => ?_) fun _ => ?_
    · rw [htype, if_neg (by decide)]
      exact receiveActivation_twin (by simp)
    · refine .ite (fun _ => .pure ⟨.inl rfl, rfl⟩) fun htype => ?_
      rw [if_pos (not_not.mp htype)]
      exact receiveMessage_twin hD
  · exact .pure ⟨.inl rfl, rfl⟩

/-! ### Connecting -/

theorem closeClient_only : Only Cmd.harmless a.closeClient := by
  unfold closeClient
  refine only_ite (only_bind (only_ask trivial) fun _ => ?_) ?_
  · exact only_bind only_log fun _ => only_pure
  · exact only_bind only_log fun _ => only_pure

theorem activate_only {testerAddr : UInt16} : Only Cmd.harmless (a.activate testerAddr) := by
  unfold activate
  exact only_bind (only_ask trivial) fun _ => only_bind only_log fun _ => only_pure

theorem unexpected_only {payloadType : UInt16} :
    Only Cmd.harmless (doipHandshake.unexpected payloadType) :=
  only_bind only_log fun _ => only_pure

/-- A diagnostic message in the handshake is not looked at. -/
theorem doipHandshake_twin :
    Twin (outsideTwin D) (fun _ b b' => b = b') r a.doipHandshake a.doipHandshake := by
  unfold doipHandshake
  refine poll_same fun ret => .ite (fun _ => log_twin (.pure rfl)) fun _ => ?_
  refine recv_same (by simp) fun header => ?_
  split
  next _ _ t₁ t₀ l₃ l₂ l₁ l₀ hheader =>
    refine .ite (fun _ => ?_) fun _ => .ite (fun _ => ?_) fun _ => ?_
    · have hnext : Reading.next (.polled 3000) ⟨.sock (.recv a.clientFd 8), header⟩ =
          if ofBytes16 t₁ t₀ = diagnosticMessage then .message 3000 else .idle := by
        simp [Reading.next, hheader]
      rw [hnext]
      by_cases htype : ofBytes16 t₁ t₀ = diagnosticMessage
      · rw [if_pos htype]
        refine ask_twin .same ?_
        intro x x' hans
        rw [if_neg (by rw [htype]; decide), if_neg (by rw [htype]; decide)]
        exact harmless_twin unexpected_only
      · rw [if_neg htype]
        refine recv_same (by simp) fun data => .ite (fun _ => ?_) fun _ => ?_
        · split
          · exact harmless_twin activate_only
          · exact harmless_twin activate_only
        · exact harmless_twin unexpected_only
    · exact harmless_twin activate_only
    · exact harmless_twin unexpected_only
  · exact .pure rfl

theorem connect_twin :
    Twin (outsideTwin D) (fun _ y y' => y = y') r a.connect a.connect := by
  unfold connect
  refine .ite (fun _ => .pure rfl) fun _ => .ite (fun _ => log_twin (.pure rfl)) fun _ => ?_
  refine poll_same fun ret => .ite (fun _ => .pure rfl) fun _ => ?_
  refine ask_harmless trivial fun r peer => .ite (fun _ => log_twin (.pure rfl)) fun _ => ?_
  refine log_twin (log_twin (doipHandshake_twin.bind ?_))
  rintro r ok _ rfl
  refine .ite (fun _ => log_twin ?_) fun _ => .pure rfl
  refine (harmless_twin closeClient_only).bind ?_
  rintro r a' _ rfl
  exact .pure rfl

end
end DoIpAdapter

namespace TransportAdapter

variable {D : Bytes → Bytes → Prop} {r : Reading} {a : TransportAdapter}

theorem connect_twin : Twin (outsideTwin D) (fun _ y y' => y = y') r a.connect a.connect := by
  cases a with
  | doip a =>
    refine DoIpAdapter.connect_twin.bind ?_
    rintro r y _ rfl
    exact .pure rfl
  | doCan a => exact .pure rfl

theorem send_twin {data data' : Bytes} (h : data.length = data'.length) :
    Twin (outsideTwin D) (fun _ b b' => b = b') r (a.send data) (a.send data') := by
  cases a with
  | doip a => exact DoIpAdapter.send_twin h
  | doCan a => exact .pure rfl

theorem receive_twin (hD : Masking D) :
    Twin (outsideTwin D) (fun _ y y' => (y.1 = y'.1 ∨ D y.1 y'.1) ∧ y.2 = y'.2) r
      (a.receive 0) (a.receive 0) := by
  cases a with
  | doip a =>
    refine (DoIpAdapter.receive_twin hD).bind ?_
    rintro r ⟨raw, a₁⟩ ⟨raw', a₁'⟩ ⟨hraw, rfl⟩
    exact .pure ⟨hraw, rfl⟩
  | doCan a => exact .pure ⟨.inl rfl, rfl⟩

end TransportAdapter

/-! ## The service -/

/-- The same service, but for the seeds in its security access objects. -/
structure DiagService.Twin (s s' : DiagService) : Prop where
  rest : s' = { s with securityAccesses := s'.securityAccesses }
  security (p : Option Ref) : Option.Rel SecurityAccess.Twin (s.securityAccesses.deref p)
    (s'.securityAccesses.deref p)

theorem DiagService.Twin.refl (s : DiagService) : s.Twin s := by
  refine ⟨rfl, ?_⟩
  intro p
  cases s.securityAccesses.deref p with
  | none => exact .none
  | some sa => exact .some (.refl sa)

/-- Twins stored in the same place. -/
theorem store_twin {h h' : Heap SecurityAccess} {sa sa' : SecurityAccess}
    (hh : ∀ p, Option.Rel SecurityAccess.Twin (h.deref p) (h'.deref p)) (hsa : sa.Twin sa')
    (q p : Option Ref) :
    Option.Rel SecurityAccess.Twin ((h.store q sa).deref p) ((h'.store q sa').deref p) := by
  cases p with
  | none => exact .none
  | some i =>
    cases q with
    | none => exact hh (some i)
    | some j =>
      have hi := hh (some i)
      simp only [Heap.store, Heap.deref, Option.bind_some, List.getElem?_set] at hi ⊢
      by_cases hij : j = i
      · subst hij
        simp only [if_true]
        cases ha : h.cells[j]? with
        | none =>
          rw [ha] at hi
          have hb : h'.cells[j]? = none := by
            generalize h'.cells[j]? = o at hi
            cases hi
            rfl
          rw [if_neg (by simpa using List.getElem?_eq_none_iff.mp ha),
            if_neg (by simpa using List.getElem?_eq_none_iff.mp hb)]
          exact .none
        | some b =>
          rw [ha] at hi
          obtain ⟨b', hb⟩ : ∃ b', h'.cells[j]? = some b' := by
            generalize h'.cells[j]? = o at hi
            cases hi
            exact ⟨_, rfl⟩
          rw [if_pos (List.getElem?_eq_some_iff.mp ha).1,
            if_pos (List.getElem?_eq_some_iff.mp hb).1]
          exact .some hsa
      · simpa only [hij, if_false] using hi

namespace DiagService

section
variable {D : Bytes → Bytes → Prop} {r : Reading} {s s' : DiagService}

theorem s3_only {m : SessionManager} : Only Cmd.harmless m.checkS3Timeout := by
  unfold SessionManager.checkS3Timeout
  refine only_ite only_pure (only_bind (only_now trivial) fun _ => only_ite ?_ only_pure)
  exact only_bind only_log fun _ => only_pure

theorem checkS3Timeout_twin (h : s.Twin s') :
    Effects.Twin (outsideTwin D) (fun _ s s' => s.Twin s') r s.checkS3Timeout
      s'.checkS3Timeout := by
  obtain ⟨hrest, hsec⟩ := h
  generalize s'.securityAccesses = h' at hrest hsec
  subst hrest
  unfold checkS3Timeout
  cases s.sessionMgrs.deref s.sessionMgr with
  | none => exact .pure ⟨rfl, hsec⟩
  | some m =>
    refine (harmless_twin s3_only).bind ?_
    rintro r y _ rfl
    exact .pure ⟨rfl, hsec⟩

theorem dispatch_twin (h : s.Twin s') {q q' : DiagRequest} (hq : q.Twin q') :
    Effects.Twin (outsideTwin D) (fun _ y y' => y.1.Twin y'.1 ∧ y.2.Twin y'.2) r
      (s.dispatch q) (s'.dispatch q') := by
  have hd : s'.dispatcher = s.dispatcher := by rw [h.rest]
  have hm : s'.sessionMgrs = s.sessionMgrs := by rw [h.rest]
  unfold dispatch
  rw [hd, hm]
  have empty {r : Reading} : Effects.Twin (outsideTwin D)
      (fun _ y y' => y.1.Twin y'.1 ∧ y.2.Twin y'.2) r
      (pure ({}, s) : M (DiagResponse × DiagService))
      (pure ({}, s')) := .pure ⟨.refl _, h⟩
  cases s.dispatcher with
  | none => exact empty
  | some d =>
    dsimp only
    cases s.sessionMgrs.deref d.sessionMgr with
    | none => exact empty
    | some m =>
      have hsec := h.security d.securityAccess
      generalize s.securityAccesses.deref d.securityAccess = o at hsec ⊢
      generalize s'.securityAccesses.deref d.securityAccess = o' at hsec ⊢
      cases hsec with
      | none => exact empty
      | @some sa sa' hsa =>
        have hms : Managers.Twin ⟨m, sa⟩ ⟨m, sa'⟩ := ⟨rfl, hsa⟩
        refine (ServiceDispatcher.dispatch_twin hms hq).bind ?_
        rintro r ⟨y, ms⟩ ⟨y', ms'⟩ ⟨hy, hms⟩
        refine .pure ⟨hy, ?_, store_twin h.security hms.securityAccess _⟩
        rw [h.rest, hms.sessionMgr]

/-- What is done with the bytes of a message: nothing is logged of a key but its length. -/
theorem processRaw_twin (h : s.Twin s') {transport : TransportAdapter} {raw raw' : Bytes}
    (hraw : raw = raw' ∨ UdsCodec.KeyTwin raw raw') :
    Effects.Twin (outsideTwin D) (fun _ y y' => y.2.Twin y'.2) r
      (s.processRaw transport raw) (s'.processRaw transport raw') := by
  have hlen : raw'.length = raw.length := by
    cases hraw with
    | inl h => rw [h]
    | inr h => exact (UdsCodec.keyTwin_masking.length h).symm
  unfold processRaw
  refine (UdsCodec.decodeLogged_twin hraw).bind ?_
  intro r q q' hq
  cases hq with
  | none =>
    simp only [hlen]
    exact log_twin (.pure h)
  | @some q q' hq =>
    have hdispatch {r : Reading} := dispatch_twin (D := D) (r := r) h hq
    obtain ⟨hpayload, _, _⟩ := hq
    simp only [hlen]
    rw [hpayload] at hdispatch ⊢
    refine log_twin (hdispatch.bind ?_)
    rintro r ⟨y, s₁⟩ ⟨y', s₁'⟩ ⟨hy, hs⟩
    have henc := UdsCodec.encode_twin hy
    refine (TransportAdapter.send_twin henc).bind ?_
    rintro r sent _ rfl
    obtain ⟨hresponse, _⟩ : y.Twin y' := hy
    rw [hresponse] at henc ⊢
    simp only [← henc]
    exact .ite (fun _ => log_twin (log_twin (.pure hs))) fun _ => log_twin (.pure hs)

/-- The first half of `processPendingRequests`: the bytes that came in, and by which transport. -/
def takeBytes (s : DiagService) : M (Option (TransportAdapter × Bytes) × DiagService) :=
  if !s.initialized then
    pure (none, s)
  else do
    let s ← s.checkS3Timeout
    match s.transport with
    | none => pure (none, s)
    | some transport =>
      if !transport.isConnected then do
        let (_, transport) ← transport.connect
        pure (none, { s with transport := some transport })
      else do
        let (raw, transport) ← transport.receive 0
        let s := { s with transport := some transport }
        pure (if raw.isEmpty then none else some (transport, raw), s)

/-- The second half. -/
def answerBytes (y : Option (TransportAdapter × Bytes) × DiagService) :
    M (Option Exchange × DiagService) :=
  match y.1 with
  | none => pure (none, y.2)
  | some (transport, raw) => y.2.processRaw transport raw

theorem processPendingRequests_eq (s : DiagService) :
    s.processPendingRequests = s.takeBytes >>= answerBytes := by
  unfold processPendingRequests takeBytes
  by_cases hi : s.initialized = true
  · simp only [hi, Bool.not_true, Bool.false_eq_true, if_false, Prog.bind_assoc]
    refine congrArg _ (funext fun s => ?_)
    cases s.transport with
    | none => rfl
    | some transport =>
      by_cases hc : transport.isConnected = true
      · simp only [hc, Bool.not_true, Bool.false_eq_true, if_false, Prog.bind_assoc]
        refine congrArg _ (funext fun y => ?_)
        by_cases hr : y.1.isEmpty = true
        · simp only [hr, if_true]
          rfl
        · simp only [hr, if_false, Bool.false_eq_true]
          rfl
      · simp only [hc, Bool.not_false, if_true, Prog.bind_assoc]
        rfl
  · simp only [hi, Bool.not_false, if_true]
    rfl

/-- The same transport, and the same bytes or bytes that differ by `D`. -/
def BytesTwin (D : Bytes → Bytes → Prop) (m m' : TransportAdapter × Bytes) : Prop :=
  m.1 = m'.1 ∧ (m.2 = m'.2 ∨ D m.2 m'.2)

theorem takeBytes_twin (hD : Masking D) (h : s.Twin s') :
    Effects.Twin (outsideTwin D)
      (fun _ y y' => Option.Rel (BytesTwin D) y.1 y'.1 ∧ y.2.Twin y'.2) r
      s.takeBytes s'.takeBytes := by
  have hinit : s'.initialized = s.initialized := by rw [h.rest]
  unfold takeBytes
  rw [hinit]
  refine .ite (fun _ => .pure ⟨.none, h⟩) fun _ => (checkS3Timeout_twin h).bind ?_
  intro r s s' h
  have htransport : s'.transport = s.transport := by rw [h.rest]
  rw [htransport]
  have hset (transport : TransportAdapter) :
      DiagService.Twin { s with transport := some transport }
        { s' with transport := some transport } := by
    refine ⟨?_, h.security⟩
    rw [h.rest]
  cases s.transport with
  | none => exact .pure ⟨.none, h⟩
  | some transport =>
    refine .ite (fun _ => ?_) fun _ => ?_
    · refine TransportAdapter.connect_twin.bind ?_
      rintro r y _ rfl
      exact .pure ⟨.none, hset _⟩
    · refine (TransportAdapter.receive_twin hD).bind ?_
      rintro r ⟨raw, transport⟩ ⟨raw', transport'⟩ ⟨hr, rfl⟩
      refine .pure ⟨?_, hset _⟩
      have hr : raw = raw' ∨ D raw raw' := hr
      have hempty : raw'.isEmpty = raw.isEmpty := by
        cases hr with
        | inl h => rw [h]
        | inr h =>
          have hpos := List.length_pos_of_ne_nil (hD.nonempty h)
          have hpos' : 0 < raw'.length := hD.length h ▸ hpos
          rw [List.isEmpty_eq_false_iff.mpr (hD.nonempty h),
            List.isEmpty_eq_false_iff.mpr (List.ne_nil_of_length_pos hpos')]
      simp only [hempty]
      split
      · exact .none
      · exact .some ⟨rfl, hr⟩

/-- Answering the same message, or messages that differ in a key. -/
theorem answerBytes_twin (h : s.Twin s') {m m' : Option (TransportAdapter × Bytes)}
    (hm : Option.Rel (BytesTwin UdsCodec.KeyTwin) m m') :
    Effects.Twin (outsideTwin D) (fun _ y y' => y.2.Twin y'.2) r (answerBytes (m, s))
      (answerBytes (m', s')) := by
  cases hm with
  | none => exact .pure h
  | @some m m' hm =>
    obtain ⟨transport, raw⟩ := m
    obtain ⟨_, raw'⟩ := m'
    obtain ⟨rfl, hraw⟩ := hm
    exact processRaw_twin h hraw

end

/-- `n` calls of `processPendingRequests`, one after the other. -/
def pendingRequests : Nat → DiagService → M DiagService
  | 0, s => pure s
  | n + 1, s => do
    let (_, s) ← s.processPendingRequests
    pendingRequests n s

/-- Runs that differ in keys, seeds and VINs read back write the same records. -/
theorem pendingRequests_twin {r : Reading} {n : Nat} {s s' : DiagService} (h : s.Twin s') :
    Effects.Twin (outsideTwin UdsCodec.KeyTwin) (fun _ s s' => s.Twin s') r
      (pendingRequests n s) (pendingRequests n s') := by
  induction n generalizing r s s' with
  | zero => exact .pure h
  | succ n ih =>
    unfold pendingRequests
    rw [processPendingRequests_eq, processPendingRequests_eq]
    refine ((takeBytes_twin UdsCodec.keyTwin_masking h).bind ?_).bind fun r y y' hs => ih hs
    rintro r ⟨m, s₁⟩ ⟨m', s₁'⟩ ⟨hm, hs⟩
    exact answerBytes_twin hs hm

end DiagService
end Diag
end Tbox
