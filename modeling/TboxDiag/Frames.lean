import TboxDiag.DoIpAdapter
import TboxDiag.Lib.Stream

/-!
# Frames

The DoIP adapter on a byte stream. A `Frame` is a header and a payload as long as the header says;
`stream` puts frames one after the other, as a client sends them.

* `frameBytes`: the bytes of a frame, said without the code that builds it; `ackBytes`,
  `messageBytes` and `activationBytes` are those the service sends.
* `iosOf`: what a trace does to the connection `fd`.
* `Took`: what one `receive` makes of a frame, one constructor for each way through the code.
* `receive_frame`: it does nothing else with the frame at the front of the stream.
-/

namespace Tbox
namespace Diag

open Effects DoIpAdapter

/-! ## The connection in a trace -/

def ioOf (fd : Int) : Event outside → Io
  | ⟨.sock (.recv fd' n), x⟩ => if fd' = fd then .read n x.reply else .other
  | ⟨.sock (.send fd' data), x⟩ => if fd' = fd then .write data x.reply else .other
  | _ => .other

def iosOf (fd : Int) (tr : Trace) : List Io := tr.map (ioOf fd)

/-- Something was there to read when the connection was polled. -/
def foundOf (fd : Int) : Event outside → Bool
  | ⟨.sock (.poll fd' _), x⟩ => decide (fd' = fd ∧ 0 < x.reply)
  | _ => false

def found (fd : Int) (tr : Trace) : Bool := tr.any (foundOf fd)

section
variable (fd : Int)

@[simp] theorem ioOf_poll (timeoutMs : UInt32) (x : Stamped Int) :
    ioOf fd ⟨.sock (.poll fd timeoutMs), x⟩ = .other := rfl

@[simp] theorem ioOf_recv (n : Nat) (x : Stamped (Option Bytes)) :
    ioOf fd ⟨.sock (.recv fd n), x⟩ = .read n x.reply := by simp [ioOf]

@[simp] theorem ioOf_send (data : Bytes) (x : Stamped Int) :
    ioOf fd ⟨.sock (.send fd data), x⟩ = .write data x.reply := by simp [ioOf]

@[simp] theorem iosOf_nil : iosOf fd [] = [] := rfl

@[simp] theorem iosOf_cons (e : Event outside) (tr : Trace) :
    iosOf fd (e :: tr) = ioOf fd e :: iosOf fd tr := rfl

@[simp] theorem iosOf_append (tr tr' : Trace) :
    iosOf fd (tr ++ tr') = iosOf fd tr ++ iosOf fd tr' := List.map_append

@[simp] theorem found_cons (e : Event outside) (tr : Trace) :
    found fd (e :: tr) = (foundOf fd e || found fd tr) := rfl

@[simp] theorem found_append (tr tr' : Trace) :
    found fd (tr ++ tr') = (found fd tr || found fd tr') := List.any_append

@[simp] theorem foundOf_poll (timeoutMs : UInt32) (x : Stamped Int) :
    foundOf fd ⟨.sock (.poll fd timeoutMs), x⟩ = decide (0 < x.reply) := by simp [foundOf]

end

/-! ## Calls on a stream -/

section
variable {α : Type} {fd : Int} {input front tail : Bytes} {Q : Trace → α → Bytes → Prop}

/-- `Q` of the trace, the result and the bytes left, where `input` waits to be read on `fd`. -/
def OnWire (fd : Int) (input : Bytes) (Q : Trace → α → Bytes → Prop) (tr : Trace) (r : α) : Prop :=
  ∀ rest, Wire input (iosOf fd tr) rest → Q tr r rest

theorem onWire_pure {r : α} (h : Q [] r input) : wp (pure r : M α) (OnWire fd input Q) := by
  intro rest hw
  obtain rfl := hw.done
  exact h

/-- Bytes that are there are delivered. -/
theorem onWire_recv {n : Nat} {k : Option Bytes → M α} (hn : n = front.length)
    (h : ∀ x : Stamped (Option Bytes), x.reply = some front →
      wp (k (some front)) (OnWire fd tail fun tr => Q (⟨.sock (.recv fd n), x⟩ :: tr))) :
    wp (ask (.sock (.recv fd n)) >>= k) (OnWire fd (front ++ tail) Q) := by
  refine wp_ask_bind.mpr ?_
  intro x
  by_cases hx : x.reply = some front
  · rw [hx]
    refine wp_mono (h x hx) ?_
    intro tr r hr rest hw
    rw [iosOf_cons, ioOf_recv] at hw
    exact hr rest (hw.read_front hn).2
  · refine wp_of_forall ?_
    intro tr r rest hw
    rw [iosOf_cons, ioOf_recv] at hw
    exact absurd (hw.read_front hn).1 hx

theorem onWire_send {data : Bytes} {k : Int → M α}
    (h : ∀ x : Stamped Int,
      wp (k x.reply) (OnWire fd input fun tr => Q (⟨.sock (.send fd data), x⟩ :: tr))) :
    wp (ask (.sock (.send fd data)) >>= k) (OnWire fd input Q) := by
  refine wp_ask_bind.mpr ?_
  intro x
  refine wp_mono (h x) ?_
  intro tr r hr rest hw
  refine hr rest (hw.skip ?_)
  intro n data
  rw [ioOf_send]
  simp

theorem onWire_poll {timeoutMs : UInt32} {k : Int → M α}
    (h : ∀ x : Stamped Int,
      wp (k x.reply) (OnWire fd input fun tr => Q (⟨.sock (.poll fd timeoutMs), x⟩ :: tr))) :
    wp (ask (.sock (.poll fd timeoutMs)) >>= k) (OnWire fd input Q) := by
  refine wp_ask_bind.mpr ?_
  intro x
  refine wp_mono (h x) ?_
  intro tr r hr rest hw
  refine hr rest (hw.skip ?_)
  intro n data
  rw [ioOf_poll]
  simp

end

/-! ## Frames -/

/-- A frame as a client sends it; the first two bytes are not looked at. -/
structure Frame where
  version : UInt8 := 0x02
  inverse : UInt8 := 0xFD
  payloadType : UInt16
  payload : Bytes
  fits : payload.length < 2 ^ 32

namespace Frame

def header (f : Frame) : Bytes :=
  let len := UInt32.ofNat f.payload.length
  [f.version, f.inverse, hiByte f.payloadType, loByte f.payloadType,
   byteAt len 24, byteAt len 16, byteAt len 8, byteAt len 0]

def bytes (f : Frame) : Bytes := f.header ++ f.payload

@[simp] theorem header_length (f : Frame) : f.header.length = 8 := rfl

theorem len_toNat (f : Frame) : (UInt32.ofNat f.payload.length).toNat = f.payload.length := by
  rw [UInt32.toNat_ofNat']
  exact Nat.mod_eq_of_lt f.fits

/-- A frame that is all header. -/
def bare (payloadType : UInt16) : Frame :=
  { payloadType, payload := [], fits := Nat.two_pow_pos 32 }

end Frame

/-- A frame as the service is to send it. Of the length the header has 32 bits. -/
def frameBytes (payloadType : UInt16) (payload : Bytes) : Bytes :=
  [0x02, 0xFD] ++ bigEndian 2 payloadType.toNat ++ bigEndian 4 payload.length ++ payload

/-- A payload whose length the header can hold makes a frame like any other. -/
theorem Frame.bytes_eq (f : Frame) (hv : f.version = 0x02) (hi : f.inverse = 0xFD) :
    f.bytes = frameBytes f.payloadType f.payload := by
  rw [frameBytes, bigEndian_two, bigEndian_four, Frame.bytes, Frame.header, hv, hi]
  rfl

/-- The acknowledgement of a message from `source`: the addresses and the code 0x00. -/
def ackBytes (localAddress source : UInt16) : Bytes :=
  frameBytes 0x8002 (bigEndian 2 localAddress.toNat ++ bigEndian 2 source.toNat ++ [0x00])

/-- A message to `target`: the addresses and the bytes of UDS. -/
def messageBytes (localAddress target : UInt16) (uds : Bytes) : Bytes :=
  frameBytes 0x8001 (bigEndian 2 localAddress.toNat ++ bigEndian 2 target.toNat ++ uds)

/-- The activation of `tester`: the addresses, the code 0x10 and eight bytes that are not used. -/
def activationBytes (localAddress tester : UInt16) : Bytes :=
  frameBytes 0x0006 (bigEndian 2 tester.toNat ++ bigEndian 2 localAddress.toNat ++
    [0x10, 0, 0, 0, 0, 0, 0, 0, 0])

/-- The frames, one after the other. -/
def stream (fs : List Frame) : Bytes := fs.flatMap Frame.bytes

@[simp] theorem stream_nil : stream [] = [] := rfl
@[simp] theorem stream_cons (f : Frame) (fs : List Frame) :
    stream (f :: fs) = f.bytes ++ stream fs := rfl

/-! ## One frame -/

namespace DoIpAdapter

theorem buildDoipFrame_eq (payloadType : UInt16) (payload : Bytes) :
    buildDoipFrame payloadType payload = frameBytes payloadType payload := by
  rw [frameBytes, bigEndian_two, bigEndian_four]
  rfl

theorem ackFrame_eq (a : DoIpAdapter) (source : UInt16) :
    a.ackFrame source = ackBytes a.config.localAddress source := by
  rw [ackFrame, buildDoipFrame_eq, ackBytes, bigEndian_two, bigEndian_two]
  rfl

theorem messageFrame_eq (a : DoIpAdapter) (target : UInt16) (uds : Bytes) :
    a.messageFrame target uds = messageBytes a.config.localAddress target uds := by
  rw [messageFrame, buildDoipFrame_eq, messageBytes, bigEndian_two, bigEndian_two]
  rfl

theorem activationFrame_eq (a : DoIpAdapter) (tester : UInt16) :
    a.activationFrame tester = activationBytes a.config.localAddress tester := by
  rw [activationFrame, buildDoipFrame_eq, activationBytes, bigEndian_two, bigEndian_two]
  rfl

/-- What `receive` makes of the frame `f`: what it does to the connection, the data it returns, the
adapter afterwards, and what it leaves of the payload in the stream. -/
inductive Took (a : DoIpAdapter) (f : Frame) :
    List Io → Bytes → DoIpAdapter → Bytes → Prop where
  | oversized : 4096 < f.payload.length →
      Took a f [.other, .read 8 (some f.header)] [] a f.payload
  | activation {testerAddr : UInt16} {sent : Int} : f.payload.length ≤ 4096 →
      f.payloadType = routingActivationRequest →
      Took a f [.other, .read 8 (some f.header), .read f.payload.length (some f.payload),
        .write (a.activationFrame testerAddr) sent] [] a []
  | unknown : f.payload.length ≤ 4096 → f.payloadType ≠ routingActivationRequest →
      f.payloadType ≠ diagnosticMessage →
      Took a f [.other, .read 8 (some f.header)] [] a f.payload
  | message {s₁ s₀ t₁ t₀ u : UInt8} {us : Bytes} {sent : Int} : f.payload.length ≤ 4096 →
      f.payloadType = diagnosticMessage → f.payload = s₁ :: s₀ :: t₁ :: t₀ :: u :: us →
      Took a f [.other, .read 8 (some f.header), .read f.payload.length (some f.payload),
        .write (a.ackFrame (ofBytes16 s₁ s₀)) sent]
        (u :: us) { a with remoteAddress := ofBytes16 s₁ s₀ } []
  | tiny : f.payload.length ≤ 4 → f.payloadType = diagnosticMessage →
      Took a f [.other, .read 8 (some f.header), .read f.payload.length (some f.payload)]
        f.payload a []

variable {a : DoIpAdapter}

/-- A client is connected. -/
structure Up (a : DoIpAdapter) : Prop where
  connected : a.connected = true
  clientFd : 0 ≤ a.clientFd

theorem Up.not_down (h : a.Up) : ¬ ((!a.connected) = true ∨ a.clientFd < 0) := by
  rw [h.connected]
  simpa using h.clientFd

/-- A call that finds nothing does nothing. -/
theorem receive_idle (hup : a.Up) (timeoutMs : UInt32) :
    wp (a.receive timeoutMs) fun tr r => found a.clientFd tr = false →
      iosOf a.clientFd tr = [.other] ∧ r = ([], a) := by
  unfold receive
  rw [if_neg hup.not_down]
  simp only [wp_bind, wp_ite, wp_pure, List.append_nil]
  intro x
  refine ⟨?_, ?_⟩
  · intro _ _
    exact ⟨rfl, trivial⟩
  · intro hx
    refine wp_of_forall ?_
    intro tr header
    refine wp_of_forall ?_
    intro tr' r hf
    rw [List.singleton_append, found_cons, foundOf_poll, decide_eq_true (Int.not_le.mp hx),
      Bool.true_or] at hf
    cases hf

/-- What is known of a call once it has the header of `f`: it goes on as `Took` says, with `tail`
behind the frame. -/
def Takes (a : DoIpAdapter) (f : Frame) (tail : Bytes) (tr : Trace) (r : Bytes × DoIpAdapter)
    (rest : Bytes) : Prop :=
  ∃ left, Took a f (.other :: .read 8 (some f.header) :: iosOf a.clientFd tr) r.1 r.2 left ∧
    rest = left ++ tail

theorem receiveActivation_frame {f : Frame} {tail : Bytes} (hlen : f.payload.length ≤ 4096)
    (htype : f.payloadType = routingActivationRequest) :
    wp (a.receiveActivation f.payload.length)
      (OnWire a.clientFd (f.payload ++ tail) (Takes a f tail)) := by
  unfold receiveActivation
  refine onWire_recv rfl ?_
  intro x hx
  simp only [ne_eq, not_true_eq_false, if_false]
  refine onWire_send ?_
  intro y
  refine onWire_pure ⟨[], ?_, rfl⟩
  simp only [iosOf_cons, ioOf_recv, ioOf_send, iosOf_nil, hx]
  exact .activation hlen htype

theorem receiveMessage_frame {f : Frame} {tail : Bytes} (hlen : f.payload.length ≤ 4096)
    (htype : f.payloadType = diagnosticMessage) :
    wp (a.receiveMessage f.payload.length)
      (OnWire a.clientFd (f.payload ++ tail) (Takes a f tail)) := by
  unfold receiveMessage
  refine onWire_recv rfl ?_
  intro x hx
  simp only [ne_eq, not_true_eq_false, if_false]
  split
  · rename_i hp
    refine onWire_send ?_
    intro y
    refine onWire_pure ⟨[], ?_, rfl⟩
    simp only [iosOf_cons, ioOf_recv, ioOf_send, iosOf_nil, hx]
    exact .message hlen htype hp
  · rename_i hp
    refine onWire_pure ⟨[], ?_, rfl⟩
    simp only [iosOf_cons, ioOf_recv, iosOf_nil, hx]
    refine .tiny ?_ htype
    -- five bytes or more would have been taken apart
    match hf : f.payload with
    | [] | [_] | [_, _] | [_, _, _] | [_, _, _, _] => simp
    | s₁ :: s₀ :: t₁ :: t₀ :: u :: us => exact absurd hf (hp s₁ s₀ t₁ t₀ u us)

/-- What one call does with the frame at the front of the stream. -/
theorem receive_frame (hup : a.Up) (timeoutMs : UInt32)
    (f : Frame) (tail : Bytes) :
    wp (a.receive timeoutMs) (OnWire a.clientFd (f.bytes ++ tail) fun tr r rest =>
      found a.clientFd tr = true →
      ∃ left, Took a f (iosOf a.clientFd tr) r.1 r.2 left ∧ rest = left ++ tail) := by
  unfold receive
  rw [if_neg hup.not_down]
  refine onWire_poll ?_
  intro x
  rw [wp_ite]
  refine ⟨?_, ?_⟩
  · intro hx
    refine onWire_pure ?_
    intro hfound
    rw [found_cons, foundOf_poll, decide_eq_false (Int.not_lt.mpr hx)] at hfound
    cases hfound
  intro hx
  rw [Frame.bytes, List.append_assoc]
  refine onWire_recv f.header_length.symm ?_
  intro y hy
  have hlen : (UInt32.ofNat f.payload.length).toNat = f.payload.length := f.len_toNat
  simp only [Frame.header, ofBytes16_hi_lo, ofBytes32_byteAt, UInt32.lt_iff_toNat_lt, hlen]
  suffices hwp : wp _ (OnWire a.clientFd (f.payload ++ tail) (Takes a f tail)) by
    refine wp_mono hwp ?_
    intro tr r hr rest hw _
    rw [iosOf_cons, iosOf_cons, ioOf_poll, ioOf_recv, hy]
    exact hr rest hw
  rw [wp_ite]
  refine ⟨?_, ?_⟩
  · intro hbig
    exact onWire_pure ⟨f.payload, .oversized hbig, rfl⟩
  intro hbig
  have hshort : f.payload.length ≤ 4096 := Nat.not_lt.mp hbig
  rw [wp_ite]
  refine ⟨?_, ?_⟩
  · intro htype
    exact receiveActivation_frame hshort htype
  intro htype
  rw [wp_ite]
  refine ⟨?_, ?_⟩
  · intro htype'
    exact onWire_pure ⟨f.payload, .unknown hshort htype htype', rfl⟩
  · intro htype'
    exact receiveMessage_frame hshort (not_not.mp htype')

end DoIpAdapter

/-! ## Scenarios -/

/-- The client has sent `f` (whose payload is not eight bytes long). -/
def sending (f : Frame) (t : Time) : Oracle
  | .sock (.poll _ _) => ⟨t, 1⟩
  | .sock (.recv _ n) => ⟨t, some (if n = 8 then f.header else f.payload)⟩
  | c => obliging t c

/-- The client takes all it is sent. -/
theorem sending_whole {f : Frame} {t : Time} {fd : Int} {tr : Trace}
    (h : Answers (sending f t) tr) : ∀ io ∈ iosOf fd tr, io.Whole := by
  intro io hio
  obtain ⟨⟨c, x⟩, he, rfl⟩ := List.mem_map.mp hio
  have hx : x = sending f t c := h _ he
  cases c with
  | sock c =>
    cases c with
    | send fd' data =>
      subst hx
      by_cases hfd : fd' = fd
      · rw [ioOf, if_pos hfd]
        rfl
      · rw [ioOf, if_neg hfd]
        trivial
    | recv fd' n =>
      by_cases hfd : fd' = fd
      · rw [ioOf, if_pos hfd]
        trivial
      · rw [ioOf, if_neg hfd]
        trivial
    | _ => trivial
  | _ => trivial

/-- An adapter with a client. -/
def clientUp : DoIpAdapter := { clientFd := 5, connected := true }

theorem clientUp_up : clientUp.Up := ⟨rfl, by decide⟩

end Diag
end Tbox
