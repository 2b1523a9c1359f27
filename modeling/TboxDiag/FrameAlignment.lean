import TboxDiag.Frames
import Mathlib.Tactic.NormNum

/-!
# FrameAlignment

Whether `receive` stays in step with the frames of its client. A call reads a header and then, for
some frames, the payload; what it leaves behind is read as a header by the next call.

* `Frame.drained`: the frames that are taken off the stream whole.
* `frame_aligned_iff`: over any sequence of calls, each consumes its frame and no more exactly when
  the frames that were reached are of this kind.
* `alive_check_misaligned`: an alive check response is not.
-/

namespace Tbox
namespace Diag

open Effects DoIpAdapter

/-- `receive` takes the whole frame off the stream. -/
def Frame.drained (f : Frame) : Prop :=
  f.payload = [] ∨ f.payload.length ≤ 4096 ∧
    (f.payloadType = routingActivationRequest ∨ f.payloadType = diagnosticMessage)

namespace DoIpAdapter.Took

variable {a a' : DoIpAdapter} {f : Frame} {ios : List Io} {raw left : Bytes}

theorem clientFd (h : Took a f ios raw a' left) : a'.clientFd = a.clientFd := by
  cases h <;> rfl

theorem up (h : Took a f ios raw a' left) (hup : a.Up) : a'.Up := by
  cases h <;> exact ⟨hup.connected, hup.clientFd⟩

/-- Something stays behind when the frame is not drained, and only then. -/
theorem left_eq_nil (h : Took a f ios raw a' left) : left = [] ↔ f.drained := by
  unfold Frame.drained
  cases h with
  | oversized hlen =>
    have hne : f.payload ≠ [] := by
      intro he
      rw [he] at hlen
      simp at hlen
    constructor
    · intro he
      exact absurd he hne
    · rintro (he | ⟨hle, _⟩)
      · exact absurd he hne
      · omega
  | activation hlen htype => exact iff_of_true rfl (.inr ⟨hlen, .inl htype⟩)
  | unknown _ htype htype' =>
    constructor
    · intro he
      exact .inl he
    · rintro (he | ⟨_, ht | ht⟩)
      · exact he
      · exact absurd ht htype
      · exact absurd ht htype'
  | message hlen htype _ => exact iff_of_true rfl (.inr ⟨hlen, .inr htype⟩)
  | tiny hlen htype => exact iff_of_true rfl (.inr ⟨by omega, .inr htype⟩)

/-- What was read and what is left are the frame. -/
theorem taken_append (h : Took a f ios raw a' left) : taken ios ++ left = f.bytes := by
  cases h <;> simp [Io.taken, Frame.bytes]

end DoIpAdapter.Took

/-! ## Calls, one after the other -/

/-- A call of `receive`, and what `isConnected` says after it. -/
structure ReceiveCall where
  timeoutMs : UInt32
  trace : Trace
  data : Bytes
  connected : Bool

/-- One call on the bytes that wait to be read. -/
def Receives (s : DoIpAdapter × Bytes) (c : ReceiveCall) (s' : DoIpAdapter × Bytes) : Prop :=
  (∃ lg, Exec (s.1.receive c.timeoutMs) c.trace lg (c.data, s'.1)) ∧
    c.connected = s'.1.connected ∧ Wire s.2 (iosOf s.1.clientFd c.trace) s'.2

/-- The bytes the call takes for a header. -/
def headerRead (ios : List Io) : Option Bytes :=
  ios.findSome? fun
    | .read _ data => data
    | _ => none

/-- The call reads the header of `f`, and consumes `f` and nothing else. -/
def ReceiveCall.consumes (fd : Int) (c : ReceiveCall) (f : Frame) : Prop :=
  headerRead (iosOf fd c.trace) = some f.header ∧ taken (iosOf fd c.trace) = f.bytes

/-- Every call that finds a frame, and leaves the connection up, consumes it: the first of them
the first frame, and so on. -/
def FrameAligned (fd : Int) (fs : List Frame) (cs : List ReceiveCall) : Prop :=
  ∀ p ∈ (cs.filter fun c => found fd c.trace).zip fs, p.1.connected = true → p.1.consumes fd p.2

theorem DoIpAdapter.Took.consumes {a a' : DoIpAdapter} {f : Frame} {c : ReceiveCall}
    {raw left : Bytes} {fd : Int} (h : Took a f (iosOf fd c.trace) raw a' left) :
    c.consumes fd f ↔ f.drained := by
  rw [← h.left_eq_nil]
  have htaken := h.taken_append
  constructor
  · rintro ⟨_, hall⟩
    rw [hall] at htaken
    exact List.append_right_eq_self.mp htaken
  · intro hleft
    rw [hleft, List.append_nil] at htaken
    refine ⟨?_, htaken⟩
    generalize iosOf fd c.trace = ios at h
    cases h <;> rfl

section
variable {s s' : DoIpAdapter × Bytes} {c : ReceiveCall}

/-- A call that finds nothing moves nothing. -/
theorem Receives.idle (h : Receives s c s') (hup : s.1.Up)
    (hf : found s.1.clientFd c.trace = false) : s' = s := by
  obtain ⟨⟨lg, hx⟩, _, hw⟩ := h
  obtain ⟨hios, hr⟩ := hx.wp (receive_idle hup c.timeoutMs) hf
  rw [hios] at hw
  have hrest := (hw.skip (by simp)).done
  rw [Prod.mk.injEq] at hr
  exact Prod.ext hr.2 hrest

theorem Receives.frame {a : DoIpAdapter} {f : Frame} {tail : Bytes}
    (h : Receives (a, f.bytes ++ tail) c s') (hup : a.Up)
    (hf : found a.clientFd c.trace = true) :
    c.connected = true ∧ s'.1.Up ∧ s'.1.clientFd = a.clientFd ∧
      (c.consumes a.clientFd f ↔ f.drained) ∧ (f.drained → s'.2 = tail) := by
  obtain ⟨⟨lg, hx⟩, hcon, hw⟩ := h
  obtain ⟨left, htook, hrest⟩ := hx.wp (receive_frame hup c.timeoutMs f tail) s'.2 hw hf
  have hup' : s'.1.Up := htook.up hup
  refine ⟨hcon.trans hup'.connected, hup', htook.clientFd, htook.consumes, ?_⟩
  intro hd
  rw [hrest, htook.left_eq_nil.mpr hd, List.nil_append]

end

/-- Calls stay in step with the frames exactly as long as these are drained: empty, or routing
activations and diagnostic messages of at most 4096 bytes. -/
theorem frame_aligned_iff {a : DoIpAdapter} {s' : DoIpAdapter × Bytes} {fs : List Frame}
    {cs : List ReceiveCall} (hup : a.Up)
    (h : Run Receives (a, stream fs) cs s') :
    FrameAligned a.clientFd fs cs ↔
      ∀ f ∈ fs.take (cs.filter fun c => found a.clientFd c.trace).length, f.drained := by
  induction cs generalizing a fs with
  | nil => simp [FrameAligned]
  | cons c cs ih =>
    obtain ⟨⟨a₁, rest⟩, hstep, hrun⟩ := h.cons_inv
    cases hf : found a.clientFd c.trace with
    | false =>
      cases hstep.idle hup hf
      rw [FrameAligned, List.filter_cons_of_neg (by rw [hf]; simp)]
      exact ih hup hrun
    | true =>
      rw [FrameAligned, List.filter_cons_of_pos (by exact hf)]
      cases fs with
      | nil => simp
      | cons f fs =>
        obtain ⟨hcon, hup₁, hfd, hconsumes, htail⟩ := hstep.frame hup hf
        simp only at hup₁ hfd htail
        simp only [List.zip_cons_cons, List.forall_mem_cons, List.length_cons,
          List.take_succ_cons, hcon, forall_const, hconsumes]
        refine and_congr_right fun hd => ?_
        obtain rfl := htail hd
        have hrec := ih hup₁ hrun
        rw [hfd] at hrec
        exact hrec

/-! ## Scenarios -/

/-- The call that meets `f`. -/
def DoIpAdapter.callOn (a : DoIpAdapter) (f : Frame) : ReceiveCall × DoIpAdapter :=
  let r := (a.receive 0).run (sending f 0)
  (⟨0, r.1, r.2.2.1, r.2.2.2.connected⟩, r.2.2.2)

theorem DoIpAdapter.receives_callOn {a : DoIpAdapter} {f : Frame} {input rest : Bytes}
    (hw : Wire input (iosOf a.clientFd (a.callOn f).1.trace) rest) :
    Receives (a, input) (a.callOn f).1 ((a.callOn f).2, rest) := by
  have hx := exec_run (sending f 0) (a.receive 0)
  exact ⟨⟨_, hx⟩, rfl, hw⟩

/-- Tester 1 asks to be let in. -/
def enterFrame : Frame :=
  { payloadType := 0x0005, payload := [0x00, 0x01, 0x00, 0x00, 0x00, 0x00, 0x00],
    fits := by norm_num }

/-- Is anybody there? -/
def aliveCheckRequestFrame : Frame := .bare 0x0007

/-- Tester 1 is present. -/
def presentFrame : Frame :=
  { payloadType := 0x8001, payload := [0x00, 0x01, 0x00, 0x01, 0x3E, 0x00],
    fits := by norm_num }

theorem frame_aligned_iff_threeFrames :
    let c₁ := clientUp.callOn enterFrame
    let c₂ := c₁.2.callOn aliveCheckRequestFrame
    let c₃ := c₂.2.callOn presentFrame
    FrameAligned 5 [enterFrame, aliveCheckRequestFrame, presentFrame] [c₁.1, c₂.1, c₃.1] := by
  intro c₁ c₂ c₃
  have hrun : Run Receives
      (clientUp, stream [enterFrame, aliveCheckRequestFrame, presentFrame])
      [c₁.1, c₂.1, c₃.1] (c₃.2, []) := by
    refine .cons (t := (c₁.2, stream [aliveCheckRequestFrame, presentFrame]))
      (DoIpAdapter.receives_callOn (.cons rfl (.cons ⟨rfl, by decide, fun _ => rfl⟩
        (.cons ⟨rfl, by decide, fun _ => rfl⟩ (.single rfl))))) ?_
    refine .cons (t := (c₂.2, stream [presentFrame]))
      (DoIpAdapter.receives_callOn (.cons rfl (.single ⟨rfl, by decide, fun _ => rfl⟩))) ?_
    exact .single (DoIpAdapter.receives_callOn (.cons rfl (.cons ⟨rfl, by decide, fun _ => rfl⟩
      (.cons ⟨rfl, by decide, fun _ => rfl⟩ (.single rfl)))))
  refine (frame_aligned_iff clientUp_up hrun).mpr fun f hf => ?_
  have hmem := List.mem_of_mem_take hf
  simp only [List.mem_cons, List.not_mem_nil, or_false] at hmem
  rcases hmem with rfl | rfl | rfl
  · exact .inr ⟨by decide, .inl rfl⟩
  · exact .inl rfl
  · exact .inr ⟨by decide, .inr rfl⟩

/-- An alive check response of tester 1. -/
def aliveCheckFrame : Frame :=
  { payloadType := 0x0008, payload := [0x00, 0x01], fits := by norm_num }

/-- Its payload is left in the stream. -/
theorem alive_check_misaligned :
    let c := clientUp.callOn aliveCheckFrame
    ∃ rest, Run Receives (clientUp, stream [aliveCheckFrame]) [c.1] (c.2, rest) ∧
      rest = [0x00, 0x01] ∧ ¬ FrameAligned 5 [aliveCheckFrame] [c.1] := by
  intro c
  have hcall : Receives (clientUp, stream [aliveCheckFrame]) c.1 (c.2, [0x00, 0x01]) :=
    DoIpAdapter.receives_callOn (.cons rfl (.single ⟨rfl, by decide, fun _ => rfl⟩))
  refine ⟨_, .single hcall, rfl, ?_⟩
  intro h
  obtain ⟨_, htaken⟩ := h ⟨_, _⟩ (List.mem_singleton_self _) rfl
  have hlen := congrArg List.length htaken
  cases hlen

end Diag
end Tbox
