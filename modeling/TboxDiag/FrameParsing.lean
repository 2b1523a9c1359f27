import TboxDiag.Frames
import Mathlib.Tactic.NormNum

/-!
# FrameParsing

The three places that decode a DoIP header: `parseDoipFrame`, which takes a whole frame out of a
vector, and `receive` and `doipHandshake`, which read the header from the socket.

* `parse_exact_iff`: the parser accepts the complete frames and nothing else, unless the sum of
  the header and the declared length leaves 32 bits.
* `framing_round_trip`: each of the three finds in a built frame what it was built from.
-/

namespace Tbox
namespace Diag

open Effects DoIpAdapter

/-! ## What the parser accepts -/

/-- The big-endian value of `raw[4..7]`. -/
def declaredLength : Bytes → Nat
  | _ :: _ :: _ :: _ :: l₃ :: l₂ :: l₁ :: l₀ :: _ => (ofBytes32 l₃ l₂ l₁ l₀).toNat
  | _ => 0

/-- The header is there, and as many bytes behind it as it declares. -/
def CompleteFrame (raw : Bytes) : Prop := 8 ≤ raw.length ∧ 8 + declaredLength raw ≤ raw.length

/-- The parser accepts `raw` if it is a complete frame and not otherwise; the payload it then gives
back are the declared bytes of `raw`. -/
def ParsesExactly (raw : Bytes) (out : ParsedFrame) : Prop :=
  ((parseDoipFrame raw out).1 = true ↔ CompleteFrame raw) ∧
    ((parseDoipFrame raw out).1 = true →
      (parseDoipFrame raw out).2.payload.length = declaredLength raw ∧
      (parseDoipFrame raw out).2.payload = ((raw.drop 8).take (declaredLength raw)).map some)

theorem declaredLength_lt (raw : Bytes) : declaredLength raw < 2 ^ 32 := by
  unfold declaredLength
  split
  · exact UInt32.toNat_lt _
  · decide

section
variable {raw : Bytes} {out : ParsedFrame}

theorem header_of_length (h : 8 ≤ raw.length) : ∃ v i t₁ t₀ l₃ l₂ l₁ l₀ rest,
    raw = v :: i :: t₁ :: t₀ :: l₃ :: l₂ :: l₁ :: l₀ :: rest := by
  match raw, h with
  | v :: i :: t₁ :: t₀ :: l₃ :: l₂ :: l₁ :: l₀ :: rest, _ =>
    exact ⟨v, i, t₁, t₀, l₃, l₂, l₁, l₀, rest, rfl⟩

theorem parse_headless (h : raw.length < 8) : parseDoipFrame raw out = (false, out) := by
  unfold parseDoipFrame
  split
  · simp only [List.length_cons] at h
    omega
  · rfl

theorem parse_accepts_iff :
    (parseDoipFrame raw out).1 = true ↔
      8 ≤ raw.length ∧ (8 + declaredLength raw) % 2 ^ 32 ≤ raw.length := by
  by_cases h : 8 ≤ raw.length
  · obtain ⟨v, i, t₁, t₀, l₃, l₂, l₁, l₀, rest, rfl⟩ := header_of_length h
    have hsum : (8 + ofBytes32 l₃ l₂ l₁ l₀).toNat =
        (8 + (ofBytes32 l₃ l₂ l₁ l₀).toNat) % 2 ^ 32 := UInt32.toNat_add _ _
    simp only [parseDoipFrame, declaredLength, hsum]
    split
    · rename_i hshort
      refine iff_of_false (by simp) ?_
      rintro ⟨_, hle⟩
      exact absurd hle (Nat.not_le.mpr hshort)
    · rename_i hshort
      exact iff_of_true rfl ⟨h, Nat.not_lt.mp hshort⟩
  · rw [parse_headless (Nat.not_le.mp h)]
    simp [h]

theorem parse_payload (h : (parseDoipFrame raw out).1 = true) :
    (parseDoipFrame raw out).2.payload = readFrom raw 8 (declaredLength raw) := by
  have hlen : 8 ≤ raw.length := (parse_accepts_iff.mp h).1
  obtain ⟨v, i, t₁, t₀, l₃, l₂, l₁, l₀, rest, rfl⟩ := header_of_length hlen
  simp only [parseDoipFrame] at h ⊢
  split at h
  · cases h
  · rename_i hshort
    rw [if_neg hshort]
    rfl

end

/-- The parser accepts exactly the complete frames, and stays inside the vector, unless a header
declares 2^32 - 8 bytes or more and these are not there. -/
theorem parse_exact_iff (raw : Bytes) (out : ParsedFrame) :
    ParsesExactly raw out ↔
      raw.length < 8 ∨ declaredLength raw < 2 ^ 32 - 8 ∨ 8 + declaredLength raw ≤ raw.length := by
  have hlt : declaredLength raw < 2 ^ 32 := declaredLength_lt raw
  unfold ParsesExactly CompleteFrame
  rw [parse_accepts_iff]
  constructor
  · rintro ⟨haccepts, _⟩
    omega
  · intro h
    refine ⟨by omega, ?_⟩
    rintro ⟨hheader, hsum⟩
    have hcomplete : 8 + declaredLength raw ≤ raw.length := by omega
    have haccepts : (parseDoipFrame raw out).1 = true := parse_accepts_iff.mpr ⟨hheader, hsum⟩
    rw [parse_payload haccepts, readFrom_length, readFrom_eq_iff]
    omega

/-- A header that declares 2^32 - 8 bytes, and none of them. -/
def wrappedFrame : Bytes := [0x02, 0xFD, 0x80, 0x01, 0xFF, 0xFF, 0xFF, 0xF8]

theorem parse_wrapped :
    (parseDoipFrame wrappedFrame {}).1 = true ∧ ¬ CompleteFrame wrappedFrame ∧
      ¬ ParsesExactly wrappedFrame {} := by
  have haccepts : (parseDoipFrame wrappedFrame {}).1 = true := by decide
  have hincomplete : ¬ CompleteFrame wrappedFrame := by
    rintro ⟨_, hle⟩
    revert hle
    decide
  refine ⟨haccepts, hincomplete, ?_⟩
  intro h
  exact hincomplete (h.1.mp haccepts)

/-! ## The header on the socket -/

/-- The address in the first two bytes of a payload, when it has them. -/
def leadingAddress : Bytes → UInt16
  | b₁ :: b₀ :: _ => ofBytes16 b₁ b₀
  | _ => 0x0000

theorem leadingAddress_short {payload : Bytes} (h : ∀ b₁ b₀ bs, payload = b₁ :: b₀ :: bs → False) :
    leadingAddress payload = 0x0000 := by
  unfold leadingAddress
  split
  · exact absurd rfl (h _ _ _)
  · rfl

namespace DoIpAdapter

variable (a : DoIpAdapter)

/-- `receive` from the header on. -/
def receivePayload (payloadType : UInt16) (payloadLen : UInt32) : M (Bytes × DoIpAdapter) :=
  if maxPayload < payloadLen then do
    log .transport .error "diag.transport.payload_too_large" "DoIP payload too large"
      [("payload_size", .int payloadLen.toNat)]
    pure ([], a)
  else if payloadType = routingActivationRequest then
    a.receiveActivation payloadLen.toNat
  else if payloadType ≠ diagnosticMessage then
    pure ([], a)
  else
    a.receiveMessage payloadLen.toNat

/-- `doipHandshake` from the header on. -/
def handshakePayload (payloadType : UInt16) (payloadLen : UInt32) : M Bool :=
  if 0 < payloadLen then do
    let data ← ask (.sock (.recv a.clientFd payloadLen.toNat))
    if payloadType = routingActivationRequest then
      match received payloadLen.toNat data with
      | b₁ :: b₀ :: _ => a.activate (ofBytes16 b₁ b₀)
      | _ => a.activate 0x0000
    else doipHandshake.unexpected payloadType
  else if payloadType = routingActivationRequest then
    a.activate 0x0000
  else doipHandshake.unexpected payloadType

/-- A call of `receive` that is given `header` goes on with `payloadType` and `payloadLen`. -/
def ReceiveDecodes (header : Bytes) (payloadType : UInt16) (payloadLen : UInt32) : Prop :=
  ∀ (timeoutMs : UInt32) (x : Stamped Int) (y : Stamped (Option Bytes)) (tr : Trace)
    (lg : List LogRecord) (r : Bytes × DoIpAdapter), 0 < x.reply → y.reply = some header →
    (Exec (a.receive timeoutMs)
        (⟨.sock (.poll a.clientFd timeoutMs), x⟩ :: ⟨.sock (.recv a.clientFd 8), y⟩ :: tr) lg r ↔
      Exec (a.receivePayload payloadType payloadLen) tr lg r)

/-- A call of `doipHandshake` that is given `header` goes on with `payloadType` and `payloadLen`. -/
def HandshakeDecodes (header : Bytes) (payloadType : UInt16) (payloadLen : UInt32) : Prop :=
  ∀ (x : Stamped Int) (y : Stamped (Option Bytes)) (tr : Trace) (lg : List LogRecord)
    (ok : Bool), 0 < x.reply → y.reply = some header →
    (Exec a.doipHandshake
        (⟨.sock (.poll a.clientFd 3000), x⟩ :: ⟨.sock (.recv a.clientFd 8), y⟩ :: tr) lg ok ↔
      Exec (a.handshakePayload payloadType payloadLen) tr lg ok)

section
variable {a : DoIpAdapter}

theorem receive_decodes_bytes (hup : a.Up) (v i t₁ t₀ l₃ l₂ l₁ l₀ : UInt8) :
    a.ReceiveDecodes [v, i, t₁, t₀, l₃, l₂, l₁, l₀] (ofBytes16 t₁ t₀) (ofBytes32 l₃ l₂ l₁ l₀) := by
  intro timeoutMs x y tr lg r hx hy
  unfold receive
  rw [if_neg hup.not_down, exec_ask_bind, if_neg (Int.not_le.mpr hx), exec_ask_bind, hy]
  rfl

theorem handshake_decodes_bytes (v i t₁ t₀ l₃ l₂ l₁ l₀ : UInt8) :
    a.HandshakeDecodes [v, i, t₁, t₀, l₃, l₂, l₁, l₀] (ofBytes16 t₁ t₀)
      (ofBytes32 l₃ l₂ l₁ l₀) := by
  intro x y tr lg ok hx hy
  unfold doipHandshake
  rw [exec_ask_bind, if_neg (Int.not_le.mpr hx), exec_ask_bind, hy]
  rfl

variable (f : Frame)

theorem receive_decodes (hup : a.Up) :
    a.ReceiveDecodes f.header f.payloadType (UInt32.ofNat f.payload.length) := by
  have h := receive_decodes_bytes hup f.version f.inverse (hiByte f.payloadType)
    (loByte f.payloadType) (byteAt (UInt32.ofNat f.payload.length) 24)
    (byteAt (UInt32.ofNat f.payload.length) 16) (byteAt (UInt32.ofNat f.payload.length) 8)
    (byteAt (UInt32.ofNat f.payload.length) 0)
  rw [ofBytes16_hi_lo, ofBytes32_byteAt] at h
  exact h

theorem handshake_decodes :
    a.HandshakeDecodes f.header f.payloadType (UInt32.ofNat f.payload.length) := by
  have h := handshake_decodes_bytes (a := a) f.version f.inverse (hiByte f.payloadType)
    (loByte f.payloadType) (byteAt (UInt32.ofNat f.payload.length) 24)
    (byteAt (UInt32.ofNat f.payload.length) 16) (byteAt (UInt32.ofNat f.payload.length) 8)
    (byteAt (UInt32.ofNat f.payload.length) 0)
  rw [ofBytes16_hi_lo, ofBytes32_byteAt] at h
  exact h

end

end DoIpAdapter

/-! ## The round trip -/

theorem declaredLength_build {p : Bytes} (hp : p.length < 2 ^ 32) (t : UInt16) (rest : Bytes) :
    declaredLength (buildDoipFrame t p ++ rest) = p.length := by
  simp only [buildDoipFrame, List.cons_append, declaredLength, ofBytes32_byteAt]
  rw [UInt32.toNat_ofNat']
  exact Nat.mod_eq_of_lt hp

theorem build_length (t : UInt16) (p : Bytes) :
    (buildDoipFrame t p).length = 8 + p.length := by
  simp only [buildDoipFrame, List.length_append, List.length_cons, List.length_nil]

theorem parse_build {p : Bytes} (hp : p.length < 2 ^ 32) (t : UInt16) (rest : Bytes)
    (out : ParsedFrame) :
    parseDoipFrame (buildDoipFrame t p ++ rest) out = (true, ⟨t, p.map some⟩) := by
  have hlen := declaredLength_build hp t rest
  have hall : 8 + p.length ≤ (buildDoipFrame t p ++ rest).length := by
    rw [List.length_append, build_length]
    omega
  have haccepts : (parseDoipFrame (buildDoipFrame t p ++ rest) out).1 = true := by
    rw [parse_accepts_iff, hlen]
    omega
  have hpayload := parse_payload haccepts
  rw [hlen, (readFrom_eq_iff _ _ _).mpr (by omega)] at hpayload
  have hp' : (parseDoipFrame (buildDoipFrame t p ++ rest) out).2.payload = p.map some := by
    rw [hpayload]
    simp [buildDoipFrame]
  have ht : (parseDoipFrame (buildDoipFrame t p ++ rest) out).2.payloadType = t := by
    simp only [buildDoipFrame, List.cons_append, parseDoipFrame, ofBytes16_hi_lo]
    split
    · rfl
    · rfl
  generalize parseDoipFrame (buildDoipFrame t p ++ rest) out = r at *
  obtain ⟨ok, t', payload⟩ := r
  simp only at haccepts hp' ht
  rw [haccepts, hp', ht]

/-- The first eight bytes of a built frame. -/
def builtHeader (t : UInt16) (p : Bytes) : Bytes := (buildDoipFrame t p).take 8

/-- What is built is parsed again, whatever follows it, and both readers of the socket find the
type and the length of the payload in the header. -/
theorem framing_round_trip {p : Bytes} (hp : p.length < 2 ^ 32) (t : UInt16) :
    (∀ rest out, parseDoipFrame (buildDoipFrame t p ++ rest) out = (true, ⟨t, p.map some⟩)) ∧
      (p.length ≤ 4096 → ∃ len : UInt32, len.toNat = p.length ∧ ∀ a : DoIpAdapter,
        (a.Up → a.ReceiveDecodes (builtHeader t p) t len) ∧
          a.HandshakeDecodes (builtHeader t p) t len) := by
  let f : Frame := { payloadType := t, payload := p, fits := hp }
  have hheader : builtHeader t p = f.header := rfl
  refine ⟨parse_build hp t, ?_⟩
  intro _
  refine ⟨UInt32.ofNat p.length, f.len_toNat, ?_⟩
  intro a
  rw [hheader]
  exact ⟨receive_decodes f, handshake_decodes f⟩

theorem framing_round_trip_one :
    parseDoipFrame (buildDoipFrame 0x8001 [0x3E] ++ [0x00]) {} = (true, ⟨0x8001, [some 0x3E]⟩) ∧
      ∃ len : UInt32, len.toNat = 1 ∧
        clientUp.ReceiveDecodes [0x02, 0xFD, 0x80, 0x01, 0x00, 0x00, 0x00, 0x01] 0x8001 len ∧
        clientUp.HandshakeDecodes [0x02, 0xFD, 0x80, 0x01, 0x00, 0x00, 0x00, 0x01] 0x8001 len := by
  have hfits : [(0x3E : UInt8)].length < 2 ^ 32 := by norm_num
  obtain ⟨hparse, hread⟩ := framing_round_trip hfits 0x8001
  obtain ⟨len, hlen, hdecodes⟩ := hread (by decide)
  exact ⟨hparse [0x00] {}, len, hlen, (hdecodes clientUp).1 clientUp_up, (hdecodes clientUp).2⟩

end Diag
end Tbox
