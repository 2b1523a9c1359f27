import TboxDiag.FrameParsing

/-!
# Activation

A routing activation request is read in two places: by `doipHandshake` while a client connects,
and by `receive` afterwards. `activation_alike_iff`: on a complete request the two do the same
exactly when it has a payload, and one no longer than `receive` allows. `doipHandshake` has no
limit and makes a buffer of whatever size an unknown peer asks for; and where a request has no
payload, `receive` asks for it all the same, and waits until the client sends something else.
-/

namespace Tbox
namespace Diag

open Effects DoIpAdapter

namespace DoIpAdapter

/-- `receive` and `doipHandshake`, which returned `accepted`, treat the request `f` alike: `ios`
and `ios'` are what they do to the connection. `receive` accepts a request by answering it. -/
structure Alike (a : DoIpAdapter) (f : Frame) (ios ios' : List Io) (accepted : Bool) : Prop where
  receive_reply : offered ios =
    if accepted then [activationBytes a.config.localAddress (leadingAddress f.payload)] else []
  handshake_reply : offered ios' =
    if accepted then [activationBytes a.config.localAddress (leadingAddress f.payload)] else []
  consumed : taken ios = taken ios'
  buffers : ∀ n ∈ requested ios ++ requested ios', n ≤ 4096

/-- `receive` finds something and comes back, though the client sends no more than `input`. -/
structure Receives (a : DoIpAdapter) (timeoutMs : UInt32) (input : Bytes) (tr : Trace) : Prop where
  exec : ∃ lg r, Exec (a.receive timeoutMs) tr lg r
  found : found a.clientFd tr = true
  wire : ∃ rest, OpenWire input (iosOf a.clientFd tr) rest

/-- `doipHandshake` does, and returns `accepted`. -/
structure Handshakes (a : DoIpAdapter) (input : Bytes) (tr : Trace) (accepted : Bool) : Prop where
  exec : ∃ lg, Exec a.doipHandshake tr lg accepted
  found : found a.clientFd tr = true
  wire : ∃ rest, OpenWire input (iosOf a.clientFd tr) rest

/-- The two treat `f` alike, whatever the client sends behind it: either both come back or both
wait, and when they come back they have done the same. -/
structure TreatsAlike (a : DoIpAdapter) (timeoutMs : UInt32) (f : Frame) : Prop where
  returns : ∀ tail, (∃ tr, a.Receives timeoutMs (f.bytes ++ tail) tr) ↔
    ∃ tr accepted, a.Handshakes (f.bytes ++ tail) tr accepted
  alike : ∀ tail tr tr' accepted, a.Receives timeoutMs (f.bytes ++ tail) tr →
    a.Handshakes (f.bytes ++ tail) tr' accepted →
    a.Alike f (iosOf a.clientFd tr) (iosOf a.clientFd tr') accepted

section
variable {a : DoIpAdapter} {f : Frame} {tail rest : Bytes} {tr : Trace} {lg : List LogRecord}

/-- Whoever finds `f` reads its header first. -/
theorem header_taken {fd : Int} {timeoutMs : UInt32} {x : Stamped Int} {y : Stamped (Option Bytes)}
    (hw : Wire (f.bytes ++ tail)
      (iosOf fd (⟨.sock (.poll fd timeoutMs), x⟩ :: ⟨.sock (.recv fd 8), y⟩ :: tr)) rest) :
    y.reply = some f.header ∧ Wire (f.payload ++ tail) (iosOf fd tr) rest ∧
      iosOf fd (⟨.sock (.poll fd timeoutMs), x⟩ :: ⟨.sock (.recv fd 8), y⟩ :: tr) =
        .other :: .read 8 (some f.header) :: iosOf fd tr := by
  rw [iosOf_cons, iosOf_cons, ioOf_poll, ioOf_recv, Frame.bytes, List.append_assoc] at hw
  obtain ⟨hy, hw'⟩ := (hw.skip (by simp)).read_front f.header_length.symm
  refine ⟨hy, hw', ?_⟩
  rw [iosOf_cons, iosOf_cons, ioOf_poll, ioOf_recv, hy]

/-- A call of `receive` that finds `f` reads its header and goes on from there. -/
theorem receive_found {timeoutMs : UInt32} {r : Bytes × DoIpAdapter} (hup : a.Up)
    (hx : Exec (a.receive timeoutMs) tr lg r) (hf : found a.clientFd tr = true)
    (hw : Wire (f.bytes ++ tail) (iosOf a.clientFd tr) rest) :
    ∃ tr', iosOf a.clientFd tr = .other :: .read 8 (some f.header) :: iosOf a.clientFd tr' ∧
      Exec (a.receivePayload f.payloadType (UInt32.ofNat f.payload.length)) tr' lg r ∧
      Wire (f.payload ++ tail) (iosOf a.clientFd tr') rest := by
  have hcall := hx
  unfold receive at hx
  rw [if_neg hup.not_down] at hx
  obtain ⟨x, tr₁, rfl, hx₁⟩ := exec_ask_inv hx
  by_cases hret : x.reply ≤ 0
  · rw [if_pos hret] at hx₁
    cases hx₁
    rw [found_cons, foundOf_poll, decide_eq_false (Int.not_lt.mpr hret)] at hf
    cases hf
  rw [if_neg hret] at hx₁
  obtain ⟨y, tr₂, rfl, _⟩ := exec_ask_inv hx₁
  obtain ⟨hy, hw', hios⟩ := header_taken hw
  exact ⟨tr₂, hios, (receive_decodes f hup timeoutMs x y tr₂ lg r (Int.not_le.mp hret) hy).mp hcall, hw'⟩

theorem handshake_found {ok : Bool} (hx : Exec a.doipHandshake tr lg ok)
    (hf : found a.clientFd tr = true) (hw : Wire (f.bytes ++ tail) (iosOf a.clientFd tr) rest) :
    ∃ tr', iosOf a.clientFd tr = .other :: .read 8 (some f.header) :: iosOf a.clientFd tr' ∧
      Exec (a.handshakePayload f.payloadType (UInt32.ofNat f.payload.length)) tr' lg ok ∧
      Wire (f.payload ++ tail) (iosOf a.clientFd tr') rest := by
  have hcall := hx
  unfold doipHandshake at hx
  obtain ⟨x, tr₁, rfl, hx₁⟩ := exec_ask_inv hx
  by_cases hret : x.reply ≤ 0
  · rw [if_pos hret] at hx₁
    cases hx₁ with
    | tell hx =>
      cases hx
      rw [found_cons, foundOf_poll, decide_eq_false (Int.not_lt.mpr hret)] at hf
      cases hf
  rw [if_neg hret] at hx₁
  obtain ⟨y, tr₂, rfl, _⟩ := exec_ask_inv hx₁
  obtain ⟨hy, hw', hios⟩ := header_taken hw
  exact ⟨tr₂, hios, (handshake_decodes f x y tr₂ lg ok (Int.not_le.mp hret) hy).mp hcall, hw'⟩

/-! ## The two bodies -/

theorem receivePayload_activation (hlen : f.payload.length ≤ 4096)
    (htype : f.payloadType = routingActivationRequest) :
    wp (a.receivePayload f.payloadType (UInt32.ofNat f.payload.length))
      (OnWire a.clientFd (f.payload ++ tail) fun tr _ _ => ∃ sent, iosOf a.clientFd tr =
        [.read f.payload.length (some f.payload),
          .write (a.activationFrame (leadingAddress f.payload)) sent]) := by
  have hn : (UInt32.ofNat f.payload.length).toNat = f.payload.length := f.len_toNat
  have hfits : ¬ maxPayload < UInt32.ofNat f.payload.length := by
    rw [UInt32.lt_iff_toNat_lt, hn]
    exact Nat.not_lt.mpr hlen
  unfold receivePayload
  rw [if_neg hfits, if_pos htype, hn]
  unfold receiveActivation
  refine onWire_recv rfl ?_
  intro x hx
  simp only [ne_eq, not_true_eq_false, if_false]
  refine onWire_send ?_
  intro y
  refine onWire_pure ⟨y.reply, ?_⟩
  simp only [iosOf_cons, ioOf_recv, ioOf_send, iosOf_nil, hx]
  rfl

theorem activate_wire (testerAddr : UInt16) (input : Bytes) :
    wp (a.activate testerAddr) (OnWire a.clientFd input fun tr ok _ => ok = true ∧
      (∃ sent, iosOf a.clientFd tr = [.write (a.activationFrame testerAddr) sent])) := by
  unfold activate
  refine onWire_send ?_
  intro y
  refine onWire_pure ⟨rfl, y.reply, ?_⟩
  simp only [iosOf_cons, ioOf_send, iosOf_nil]

/-- The buffer of a whole read is what was read. -/
theorem received_whole (data : Bytes) : received data.length (some data) = data := by
  simp [received]

/-- An activation request during the handshake, of any length. -/
theorem handshakePayload_eq (a : DoIpAdapter) (len : UInt32) :
    a.handshakePayload routingActivationRequest len =
      if 0 < len then do
        let data ← ask (.sock (.recv a.clientFd len.toNat))
        a.activate (leadingAddress (received len.toNat data))
      else a.activate 0x0000 := by
  unfold handshakePayload
  by_cases hlen : 0 < len
  · rw [if_pos hlen, if_pos hlen]
    refine congrArg (ask (.sock (.recv a.clientFd len.toNat)) >>= ·) (funext fun data => ?_)
    rw [if_pos rfl]
    split
    · rename_i h
      rw [h]
      rfl
    · rename_i h
      rw [leadingAddress_short h]
  · rw [if_neg hlen, if_neg hlen, if_pos rfl]

theorem len_pos_iff {len : UInt32} {n : Nat} (hn : len.toNat = n) : 0 < len ↔ 0 < n := by
  rw [UInt32.lt_iff_toNat_lt, hn]
  rfl

theorem handshakePayload_activation (htype : f.payloadType = routingActivationRequest) :
    wp (a.handshakePayload f.payloadType (UInt32.ofNat f.payload.length))
      (OnWire a.clientFd (f.payload ++ tail) fun tr ok _ => ok = true ∧ ∃ sent,
        iosOf a.clientFd tr = (if 0 < f.payload.length
          then [.read f.payload.length (some f.payload)] else []) ++
          [.write (a.activationFrame (leadingAddress f.payload)) sent]) := by
  have hn : (UInt32.ofNat f.payload.length).toNat = f.payload.length := f.len_toNat
  generalize UInt32.ofNat f.payload.length = len at hn
  rw [htype, handshakePayload_eq, wp_ite, len_pos_iff hn, hn]
  refine ⟨?_, ?_⟩
  · intro hpos
    refine onWire_recv rfl ?_
    intro x hx
    rw [received_whole]
    refine wp_mono (activate_wire _ tail) ?_
    intro tr ok hr rest hw
    obtain ⟨hok, sent, hios⟩ := hr rest hw
    refine ⟨hok, sent, ?_⟩
    rw [iosOf_cons, ioOf_recv, hx, hios, if_pos hpos]
    rfl
  · intro hempty
    have hnil : f.payload = [] := List.eq_nil_of_length_eq_zero (by omega)
    refine wp_mono (activate_wire _ (f.payload ++ tail)) ?_
    intro tr ok hr rest hw
    obtain ⟨hok, sent, hios⟩ := hr rest hw
    refine ⟨hok, sent, ?_⟩
    rw [hios, hnil]
    rfl

end

/-! ## Alike -/

section
variable {a : DoIpAdapter} {f : Frame} {tail rest : Bytes} {tr tr' : Trace} {lg : List LogRecord}
  {timeoutMs : UInt32} {r : Bytes × DoIpAdapter} {ok : Bool}

/-- The handshake makes a buffer for the whole request. -/
theorem Alike.fits {ios ios' : List Io} (h : a.Alike f ios ios' ok)
    (hn : f.payload.length ∈ requested ios') : f.payload.length ≤ 4096 :=
  h.buffers _ (List.mem_append_right _ hn)

theorem handshake_ios (htype : f.payloadType = routingActivationRequest)
    (hx : Exec a.doipHandshake tr lg ok) (hf : found a.clientFd tr = true)
    (hw : Wire (f.bytes ++ tail) (iosOf a.clientFd tr) rest) :
    ok = true ∧ ∃ sent, iosOf a.clientFd tr = [.other, .read 8 (some f.header)] ++
      (if 0 < f.payload.length then [.read f.payload.length (some f.payload)] else []) ++
        [.write (a.activationFrame (leadingAddress f.payload)) sent] := by
  obtain ⟨tr₁, hios, hx₁, hw₁⟩ := handshake_found hx hf hw
  obtain ⟨hok, sent, hios₁⟩ := hx₁.wp (handshakePayload_activation htype) _ hw₁
  refine ⟨hok, sent, ?_⟩
  rw [hios, hios₁]
  rfl

theorem receive_ios (htype : f.payloadType = routingActivationRequest)
    (hlen : f.payload.length ≤ 4096) (hup : a.Up) (hx : Exec (a.receive timeoutMs) tr lg r)
    (hf : found a.clientFd tr = true)
    (hw : Wire (f.bytes ++ tail) (iosOf a.clientFd tr) rest) :
    ∃ sent, iosOf a.clientFd tr = [.other, .read 8 (some f.header),
      .read f.payload.length (some f.payload),
      .write (a.activationFrame (leadingAddress f.payload)) sent] := by
  obtain ⟨tr₁, hios, hx₁, hw₁⟩ := receive_found hup hx hf hw
  obtain ⟨sent, hios₁⟩ := hx₁.wp (receivePayload_activation hlen htype) _ hw₁
  refine ⟨sent, ?_⟩
  rw [hios, hios₁]

theorem Receives.alike (htype : f.payloadType = routingActivationRequest) (hup : a.Up)
    (hpos : 0 < f.payload.length) (hlen : f.payload.length ≤ 4096)
    (h : a.Receives timeoutMs (f.bytes ++ tail) tr) (h' : a.Handshakes (f.bytes ++ tail) tr' ok) :
    a.Alike f (iosOf a.clientFd tr) (iosOf a.clientFd tr') ok := by
  obtain ⟨⟨lg, r, hx⟩, hf, rest, hw⟩ := h
  obtain ⟨⟨lg', hx'⟩, hf', rest', hw'⟩ := h'
  obtain ⟨hok, sent', hios'⟩ := handshake_ios htype hx' hf' hw'.wire
  obtain ⟨sent, hios⟩ := receive_ios htype hlen hup hx hf hw.wire
  rw [hios, hios', hok, if_pos hpos, activationFrame_eq]
  refine ⟨rfl, rfl, rfl, ?_⟩
  simp [requested]
  omega

/-! ## Coming back -/

/-- The header of `f` is read when it is there. -/
theorem openWire_header {ios : List Io} (h : OpenWire (f.payload ++ tail) ios rest) :
    OpenWire (f.bytes ++ tail) (.other :: .read 8 (some f.header) :: ios) rest := by
  have hlen : 8 ≤ (f.header ++ (f.payload ++ tail)).length := by simp
  have hprompt : max 8 1 ≤ (f.header ++ (f.payload ++ tail)).length := hlen
  rw [Frame.bytes, List.append_assoc]
  exact .cons ⟨rfl, trivial⟩ (.cons ⟨⟨rfl, le_rfl, fun _ => rfl⟩, hprompt⟩ h)

/-- The poll and the header, in front of what is done with the payload. -/
theorem header_found {fd : Int} (hw : OpenWire (f.payload ++ tail) (iosOf fd tr) rest) :
    let tr' := ⟨.sock (.poll fd timeoutMs), ⟨0, 1⟩⟩ ::
      ⟨.sock (.recv fd 8), ⟨0, some f.header⟩⟩ :: tr
    found fd tr' = true ∧ (∃ rest, OpenWire (f.bytes ++ tail) (iosOf fd tr') rest) ∧
      iosOf fd tr' = .other :: .read 8 (some f.header) :: iosOf fd tr := by
  intro tr'
  have hios : iosOf fd tr' = .other :: .read 8 (some f.header) :: iosOf fd tr := by
    rw [iosOf_cons, iosOf_cons, ioOf_poll, ioOf_recv]
  refine ⟨?_, ⟨rest, ?_⟩, hios⟩
  · rw [found_cons, foundOf_poll]
    rfl
  · rw [hios]
    exact openWire_header hw

/-- `receive` goes on with a frame it has found as `receivePayload` does. -/
theorem receives_of_payload (hup : a.Up)
    (hx : Exec (a.receivePayload f.payloadType (UInt32.ofNat f.payload.length)) tr lg r)
    (hw : OpenWire (f.payload ++ tail) (iosOf a.clientFd tr) rest) :
    ∃ tr', a.Receives timeoutMs (f.bytes ++ tail) tr' ∧
      iosOf a.clientFd tr' = .other :: .read 8 (some f.header) :: iosOf a.clientFd tr := by
  have hcall := (receive_decodes f hup timeoutMs ⟨0, 1⟩ ⟨0, some f.header⟩ tr lg r
    Int.one_pos rfl).mpr hx
  obtain ⟨hf, hw', hios⟩ := header_found hw
  exact ⟨_, ⟨⟨_, _, hcall⟩, hf, hw'⟩, hios⟩

/-- And the handshake as `handshakePayload` does. -/
theorem handshakes_of_payload
    (hx : Exec (a.handshakePayload f.payloadType (UInt32.ofNat f.payload.length)) tr lg ok)
    (hw : OpenWire (f.payload ++ tail) (iosOf a.clientFd tr) rest) :
    ∃ tr', a.Handshakes (f.bytes ++ tail) tr' ok := by
  have hcall := (handshake_decodes f ⟨0, 1⟩ ⟨0, some f.header⟩ tr lg ok Int.one_pos rfl).mpr hx
  obtain ⟨hf, hw', -⟩ := header_found hw
  exact ⟨_, ⟨_, hcall⟩, hf, hw'⟩

/-- The calls that read a payload and send the activation. -/
def activated (a : DoIpAdapter) (f : Frame) : Trace :=
  [⟨.sock (.recv a.clientFd f.payload.length), ⟨0, some f.payload⟩⟩,
    ⟨.sock (.send a.clientFd (a.activationFrame (leadingAddress f.payload))), ⟨0, 21⟩⟩]

/-- A payload is read when it is there, if there is one. -/
theorem openWire_activated (hpos : 0 < f.payload.length) :
    OpenWire (f.payload ++ tail) (iosOf a.clientFd (a.activated f)) tail := by
  have hprompt : max f.payload.length 1 ≤ (f.payload ++ tail).length := by
    rw [List.length_append]
    omega
  simp only [activated, iosOf_cons, iosOf_nil, ioOf_recv, ioOf_send]
  exact .cons ⟨⟨rfl, le_rfl, fun _ => rfl⟩, hprompt⟩ (.single ⟨rfl, trivial⟩)

theorem activate_exec (a : DoIpAdapter) (testerAddr : UInt16) : ∃ lg, Exec (a.activate testerAddr)
    [⟨.sock (.send a.clientFd (a.activationFrame testerAddr)), ⟨0, 21⟩⟩] lg true :=
  ⟨_, .call (.tell .pure)⟩

/-- The handshake comes back from a request of any length. -/
theorem handshake_returns (htype : f.payloadType = routingActivationRequest) (tail : Bytes) :
    ∃ tr, a.Handshakes (f.bytes ++ tail) tr true := by
  have hn : (UInt32.ofNat f.payload.length).toNat = f.payload.length := f.len_toNat
  by_cases hpos : 0 < f.payload.length
  · obtain ⟨lg, hact⟩ := a.activate_exec (leadingAddress f.payload)
    have hx : Exec (a.handshakePayload f.payloadType (UInt32.ofNat f.payload.length))
        (a.activated f) lg true := by
      generalize UInt32.ofNat f.payload.length = len at hn
      rw [htype, handshakePayload_eq, if_pos ((len_pos_iff hn).mpr hpos), hn, activated,
        exec_ask_bind, received_whole]
      exact hact
    exact handshakes_of_payload hx (openWire_activated hpos)
  · obtain ⟨lg, hact⟩ := a.activate_exec 0x0000
    have hx : Exec (a.handshakePayload f.payloadType (UInt32.ofNat f.payload.length))
        [⟨.sock (.send a.clientFd (a.activationFrame 0x0000)), ⟨0, 21⟩⟩] lg true := by
      generalize UInt32.ofNat f.payload.length = len at hn
      rw [htype, handshakePayload_eq, if_neg (mt (len_pos_iff hn).mp hpos)]
      exact hact
    have hw : OpenWire (f.payload ++ tail) (iosOf a.clientFd
        [⟨.sock (.send a.clientFd (a.activationFrame 0x0000)), ⟨0, 21⟩⟩]) (f.payload ++ tail) := by
      simp only [iosOf_cons, iosOf_nil, ioOf_send]
      exact .single ⟨rfl, trivial⟩
    exact handshakes_of_payload hx hw

/-- `receive` comes back from a request that has a payload and is not too long. -/
theorem receive_returns (htype : f.payloadType = routingActivationRequest) (hup : a.Up)
    (hpos : 0 < f.payload.length) (hlen : f.payload.length ≤ 4096) (tail : Bytes) :
    ∃ tr, a.Receives timeoutMs (f.bytes ++ tail) tr := by
  have hn : (UInt32.ofNat f.payload.length).toNat = f.payload.length := f.len_toNat
  have hfits : ¬ maxPayload < UInt32.ofNat f.payload.length := by
    rw [UInt32.lt_iff_toNat_lt, hn]
    exact Nat.not_lt.mpr hlen
  have hx : Exec (a.receivePayload f.payloadType (UInt32.ofNat f.payload.length))
      (a.activated f) [] ([], a) := by
    unfold receivePayload
    rw [if_neg hfits, if_pos htype, hn]
    unfold receiveActivation
    rw [activated, exec_ask_bind]
    simp only [ne_eq, not_true_eq_false, if_false]
    exact .call .pure
  obtain ⟨tr, htr, -⟩ := receives_of_payload hup hx (openWire_activated hpos)
  exact ⟨tr, htr⟩

/-- `receive` does not come back from a request without a payload, unless something follows. -/
theorem empty_request_waits (htype : f.payloadType = routingActivationRequest) (hup : a.Up)
    (hempty : f.payload = []) : ¬ a.Receives timeoutMs f.bytes tr := by
  rintro ⟨⟨lg, r, hx⟩, hf, rest, hw⟩
  rw [← List.append_nil f.bytes] at hw
  obtain ⟨sent, hios⟩ := receive_ios htype (by rw [hempty]; simp) hup hx hf hw.wire
  rw [hios, Frame.bytes, hempty] at hw
  obtain ⟨_, ⟨rfl, -⟩, hw⟩ := hw.cons_inv
  obtain ⟨_, ⟨hmoves, -⟩, hw⟩ := hw.cons_inv
  obtain ⟨-, hrest⟩ := Io.Moves.read_prefix (a := f.header) hmoves
  obtain ⟨_, ⟨-, hprompt⟩, -⟩ := hw.cons_inv
  rw [hrest] at hprompt
  exact absurd hprompt (by simp [Io.Prompt])

/-- `receive` refuses a frame that is too long without reading on. -/
theorem receive_oversized (hup : a.Up) (hbig : 4096 < f.payload.length) (tail : Bytes) :
    ∃ tr, a.Receives timeoutMs (f.bytes ++ tail) tr ∧
      iosOf a.clientFd tr = [.other, .read 8 (some f.header)] := by
  have hlarge : maxPayload < UInt32.ofNat f.payload.length := by
    rw [UInt32.lt_iff_toNat_lt, f.len_toNat]
    exact hbig
  obtain ⟨lg, hx⟩ : ∃ lg, Exec (a.receivePayload f.payloadType (UInt32.ofNat f.payload.length))
      [] lg ([], a) := by
    unfold receivePayload
    rw [if_pos hlarge]
    exact ⟨_, .tell .pure⟩
  exact receives_of_payload hup hx .nil

/-- On a complete routing activation request `receive` and the handshake do the same exactly when
it has between one and 4096 bytes. -/
theorem activation_alike_iff (htype : f.payloadType = routingActivationRequest) (hup : a.Up) :
    a.TreatsAlike timeoutMs f ↔ 0 < f.payload.length ∧ f.payload.length ≤ 4096 := by
  constructor
  · intro h
    obtain ⟨tr', hshake⟩ := handshake_returns (a := a) htype []
    obtain ⟨tr, hreceive⟩ := (h.returns []).mpr ⟨tr', true, hshake⟩
    have hpos : 0 < f.payload.length := by
      by_contra hn
      rw [List.append_nil] at hreceive
      exact empty_request_waits htype hup (List.eq_nil_of_length_eq_zero (by omega)) hreceive
    refine ⟨hpos, (h.alike [] tr tr' true hreceive hshake).fits ?_⟩
    obtain ⟨⟨lg, hx⟩, hf, rest, hw⟩ := hshake
    obtain ⟨-, sent, hios⟩ := handshake_ios htype hx hf hw.wire
    rw [hios, if_pos hpos]
    simp [requested]
  · rintro ⟨hpos, hlen⟩
    refine ⟨fun tail => iff_of_true (receive_returns htype hup hpos hlen tail) ?_,
      fun tail tr tr' ok hr hh => hr.alike htype hup hpos hlen hh⟩
    obtain ⟨tr, h⟩ := handshake_returns (a := a) htype tail
    exact ⟨tr, true, h⟩

/-- Tester 0x0E80 asks for its activation. -/
def activationRequest : Frame :=
  { payloadType := 0x0005, payload := [0x0E, 0x80], fits := by norm_num }

theorem activation_alike_iff_short : clientUp.TreatsAlike 0 activationRequest ↔
    0 < activationRequest.payload.length ∧ activationRequest.payload.length ≤ 4096 :=
  activation_alike_iff rfl clientUp_up

/-- A request of 4097 bytes. -/
def longRequest : Frame :=
  { payloadType := 0x0005, payload := List.replicate 4097 0, fits := by norm_num }

/-- A request of none. -/
def emptyRequest : Frame := .bare 0x0005

/-- `receive` refuses the long request, without an answer, which the handshake accepts; the empty
one, which the handshake accepts, `receive` waits for without end. -/
theorem long_and_empty_requests_differ :
    (∃ tr tr', clientUp.Receives 0 longRequest.bytes tr ∧ offered (iosOf 5 tr) = [] ∧
      clientUp.Handshakes longRequest.bytes tr' true) ∧
    ¬ clientUp.TreatsAlike 0 longRequest ∧
    (∀ tr, ¬ clientUp.Receives 0 emptyRequest.bytes tr) ∧
    (∃ tr, clientUp.Handshakes emptyRequest.bytes tr true) ∧
    ¬ clientUp.TreatsAlike 0 emptyRequest := by
  have hlen : longRequest.payload.length = 4097 := List.length_replicate
  obtain ⟨tr, hreceive, hios⟩ : ∃ tr, clientUp.Receives 0 (longRequest.bytes ++ []) tr ∧
      iosOf clientUp.clientFd tr = [.other, .read 8 (some longRequest.header)] :=
    receive_oversized clientUp_up (by omega) []
  obtain ⟨tr', hshake⟩ := handshake_returns (a := clientUp) (f := longRequest) rfl []
  obtain ⟨tr₀, hempty⟩ := handshake_returns (a := clientUp) (f := emptyRequest) rfl []
  have hwaits (tr : Trace) : ¬ clientUp.Receives 0 emptyRequest.bytes tr :=
    empty_request_waits rfl clientUp_up rfl
  have hios : iosOf 5 tr = _ := hios
  rw [List.append_nil] at hreceive hshake hempty
  refine ⟨⟨tr, tr', hreceive, by rw [hios]; rfl, hshake⟩, fun h => ?_, hwaits, ⟨tr₀, hempty⟩,
    fun h => ?_⟩
  · rw [← List.append_nil longRequest.bytes] at hreceive hshake
    -- the two do not even answer alike
    have hreply := (h.alike [] tr tr' true hreceive hshake).receive_reply
    have hios : iosOf clientUp.clientFd tr = _ := hios
    rw [hios] at hreply
    cases hreply
  · rw [← List.append_nil emptyRequest.bytes] at hempty
    obtain ⟨tr, hr⟩ := (h.returns []).mpr ⟨tr₀, true, hempty⟩
    rw [List.append_nil] at hr
    exact hwaits tr hr

end

end DoIpAdapter
end Diag
end Tbox
