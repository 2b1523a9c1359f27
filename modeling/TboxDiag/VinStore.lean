import TboxDiag.Conformance
import TboxDiag.SecurityHistory
import TboxDiag.Lib.Register

/-!
# VinStore

The VIN over the wire. UDS frames come in one after the other; a RoutineControl frame for
WRITE_VIN hands its bytes to PROV, and 22 F1 90 reads them back. On a PROV that stores what it is
given, the frames that were answered positively are the writes, and every positive response to
22 F1 90 shows the latest of them (`vin_read_your_writes`).

* `FrameEffect`: what one frame can do to the VIN, and what it can show of it.
* `Framed.effect`: every frame has no other effect.
-/

namespace Tbox
namespace Diag

open Effects DiagService ServiceDispatcher

/-! ## PROV as a store -/

/-- The VIN an event writes to the PROV `h`. -/
def vinWritten (h : ProvHandle) : Event outside → Option Bytes
  | ⟨.prov h' (.writeVin vin _), y⟩ => if h' = h ∧ y.reply = .success then some vin else none
  | _ => none

/-- The VIN an event reads from the PROV `h`. -/
def vinRead (h : ProvHandle) : Event outside → Option Bytes
  | ⟨.prov h' .readVin, y⟩ => if h' = h ∧ y.reply.valid = true then some y.reply.vin else none
  | _ => none

/-- `write_vin` returning success replaces the VIN, returning an error leaves it, and `read_vin`
returns it. -/
def ProvStore (h : ProvHandle) (vin : Bytes) (tr : Trace) : Prop :=
  Reports (vinWritten h) (vinRead h) vin tr

/-- What `write_vin` was given: the VIN and the extra payload. -/
def vinHanded : Event outside → Option (Bytes × Bytes)
  | ⟨.prov _ (.writeVin vin extra), _⟩ => some (vin, extra)
  | _ => none

/-- No VIN is written, or tried to be written. -/
def Unwritten (tr : Trace) : Prop := ∀ e ∈ tr, vinHanded e = none

section
variable {tr tr' : Trace}

@[simp] theorem unwritten_nil : Unwritten [] := by simp [Unwritten]

@[simp] theorem unwritten_append : Unwritten (tr ++ tr') ↔ Unwritten tr ∧ Unwritten tr' :=
  List.forall_mem_append

theorem Unwritten.handed (h : Unwritten tr) : tr.filterMap vinHanded = [] :=
  List.filterMap_eq_nil_iff.mpr h

theorem Unwritten.written (h : Unwritten tr) (p : ProvHandle) :
    ∀ e ∈ tr, vinWritten p e = none := by
  intro e he
  have hn := h e he
  obtain ⟨c, x⟩ := e
  cases c with
  | prov h' c =>
    cases c with
    | writeVin _ _ => cases hn
    | _ => rfl
  | _ => rfl

theorem Unwritten.of_calls (h : ∀ e ∈ tr, ¬ e.cmd.downstream) : Unwritten tr := by
  intro e he
  have hn := h e he
  obtain ⟨c, x⟩ := e
  cases c with
  | prov h' c =>
    cases c with
    | writeVin _ _ => exact absurd trivial hn
    | _ => rfl
  | _ => rfl

theorem Plain.unwritten (h : Plain tr) : Unwritten tr :=
  .of_calls fun _ he => h.not_downstream he

end

/-! ## Frames -/

/-- A frame, as `processPendingRequests` treats it once it was received. -/
def DiagService.handleFrame (s : DiagService) (transport : TransportAdapter) (raw : Bytes) :
    M (Option Exchange × DiagService) := do
  let s ← s.checkS3Timeout
  s.processRaw transport raw

/-- What is seen of a frame: its bytes, the calls, and the bytes of the response. -/
structure FrameStep where
  transport : TransportAdapter
  raw : Bytes
  trace : Trace
  response : Option Bytes

def HandlesFrame (s : DiagService) (l : FrameStep) (s' : DiagService) : Prop :=
  ∃ lg x, Exec (s.handleFrame l.transport l.raw) l.trace lg (x, s') ∧
    l.response = x.map fun x => UdsCodec.encode x.response

namespace FrameStep

/-- There is a response, and it is no negative one. -/
def positive (l : FrameStep) : Prop := ∃ b ∈ l.response.bind List.head?, b ≠ 0x7F

instance (l : FrameStep) : Decidable l.positive :=
  inferInstanceAs (Decidable (∃ b ∈ l.response.bind List.head?, b ≠ 0x7F))

/-- A RoutineControl frame for WRITE_VIN, whatever its control type. -/
def writesVin (l : FrameStep) : Prop :=
  l.raw.head? = some UdsService.routineControl ∧ (l.raw.drop 2).take 2 = [0xFF, 0x00]

instance (l : FrameStep) : Decidable l.writesVin := inferInstanceAs (Decidable (_ ∧ _))

/-- 22 F1 90. -/
def readsVin (l : FrameStep) : Prop :=
  l.raw.take 3 = [UdsService.readDataByIdentifier, 0xF1, 0x90]

/-- The VIN of an accepted write: the first 17 payload bytes. -/
def accepted (l : FrameStep) : Option Bytes :=
  if l.writesVin ∧ l.positive then some ((l.raw.drop 4).take vinLength) else none

end FrameStep

/-! ## What a dispatch does to the VIN -/

inductive VinEffect (d : ServiceDispatcher) (request : DiagRequest) :
    Trace → DiagResponse → Prop where
  | written {h : ProvHandle} {x : Stamped Bool} {y : Stamped DiagErrorCode} :
      request.serviceId = UdsService.routineControl → request.didOrRid = Rid.writeVinRoutine →
      d.prov = some h → vinLength ≤ request.payload.length → y.reply = .success →
      VinEffect d request
        [⟨.prov h .isAvailable, x⟩,
          ⟨.prov h (.writeVin (request.payload.take vinLength)
            (request.payload.drop vinLength)), y⟩]
        (routineDone request [])
  | failed {tr : Trace} {response : DiagResponse} :
      request.serviceId = UdsService.routineControl → request.didOrRid = Rid.writeVinRoutine →
      (∀ h, ∀ e ∈ tr, vinWritten h e = none) → response.positive = false →
      VinEffect d request tr response
  | read {h : ProvHandle} {x : Stamped Bool} {y : Stamped VinReadResult} :
      request.serviceId = UdsService.readDataByIdentifier → request.didOrRid = Did.vin →
      d.prov = some h → y.reply.valid = true →
      VinEffect d request [⟨.prov h .isAvailable, x⟩, ⟨.prov h .readVin, y⟩]
        (createPositiveResponse UdsService.readDataByIdentifier 0
          (didRecord Did.vin y.reply))
  | unread {tr : Trace} {response : DiagResponse} :
      request.serviceId = UdsService.readDataByIdentifier → Unwritten tr →
      response.positive = false → VinEffect d request tr response
  | other {tr : Trace} {response : DiagResponse} : Unwritten tr →
      ¬ (request.serviceId = UdsService.routineControl ∧
        request.didOrRid = Rid.writeVinRoutine) →
      ¬ (request.serviceId = UdsService.readDataByIdentifier ∧ request.didOrRid = Did.vin) →
      VinEffect d request tr response

section
variable {d : ServiceDispatcher} {ms ms' : Managers} {request : DiagRequest} {tr : Trace}
  {response : DiagResponse}

/-- A certificate routine does not write the VIN. -/
theorem ServiceDispatcher.RoutineRun.certificate_unwritten
    (h : d.RoutineRun ms request tr response) (hc : isCertificateRid request.didOrRid) :
    Unwritten tr := by
  intro e he
  have hcall := h.certificate_calls hc e he
  obtain ⟨c, x⟩ := e
  obtain ⟨_, _, _, _, rfl⟩ := hcall
  rfl

theorem ServiceDispatcher.RoutineRun.vinEffect (h : d.RoutineRun ms request tr response)
    (hs : request.serviceId = UdsService.routineControl) : VinEffect d request tr response := by
  have hread : ¬ (request.serviceId = UdsService.readDataByIdentifier ∧
      request.didOrRid = Did.vin) := by
    rw [hs]
    rintro ⟨heq, _⟩
    cases heq
  by_cases hr : request.didOrRid = Rid.writeVinRoutine
  · have hc : ¬ isCertificateRid request.didOrRid := by
      rw [hr]
      decide
    cases h with
    | writeVin _ hp _ _ hv =>
      cases hv with
      | short _ => exact .failed hs hr (by simp [vinWritten]) rfl
      | failed _ hy => exact .failed hs hr (by simp [vinWritten, hy]) rfl
      | done hl hy => exact .written hs hr hp hl hy
    | locked _ _ | noProv _ _ => exact .failed hs hr (by simp) rfl
    | unavailable _ _ _ => exact .failed hs hr (by simp [vinWritten]) rfl
    | outOfRange _ _ hn => exact absurd hr hn
    | wrongSession hc' _ => exact absurd hc' hc
    | generateKeyPair _ hr' _ => exact absurd (.inl hr') hc
    | readCsr _ hr' _ => exact absurd (.inr (.inl hr')) hc
    | injectCertificate _ hr' _ => exact absurd (.inr (.inr hr')) hc
  · refine .other ?_ (fun hw => hr hw.2) hread
    by_cases hc : isCertificateRid request.didOrRid
    · exact h.certificate_unwritten hc
    cases h with
    | writeVin _ _ _ hr' _ => exact absurd hr' hr
    | locked _ _ | noProv _ _ => exact unwritten_nil
    | unavailable _ _ _ | outOfRange _ _ _ => simp [Unwritten, vinHanded]
    | wrongSession hc' _ => exact absurd hc' hc
    | generateKeyPair _ hr' _ => exact absurd (.inl hr') hc
    | readCsr _ hr' _ => exact absurd (.inr (.inl hr')) hc
    | injectCertificate _ hr' _ => exact absurd (.inr (.inr hr')) hc

theorem ServiceDispatcher.DidRead.vinEffect (h : d.DidRead request tr response)
    (hs : request.serviceId = UdsService.readDataByIdentifier) :
    VinEffect d request tr response := by
  have hunwritten : Unwritten tr := h.plain.unwritten
  cases h with
  | read _ hp _ hy =>
    by_cases hd : request.didOrRid = Did.vin
    · rw [hd]
      exact .read hs hd hp hy
    · refine .other hunwritten ?_ (fun hv => hd hv.2)
      rw [hs]
      rintro ⟨heq, _⟩
      cases heq
  | noProv _ | unavailable _ _ | invalid _ _ _ _ | outOfRange _ => exact .unread hs hunwritten rfl

theorem ServiceDispatcher.Dispatched.vinEffect (h : Dispatched d ms request tr response ms') :
    VinEffect d request tr response := by
  by_cases hr : request.serviceId = UdsService.routineControl
  · exact (h.of_routine hr).1.vinEffect hr
  by_cases hd : request.serviceId = UdsService.readDataByIdentifier
  · exact (h.of_read hd).1.vinEffect hd
  refine .other (.of_calls ?_) (fun hw => hr hw.1) (fun hv => hd hv.1)
  intro e he hdown
  exact hr (h.downstream he hdown).1

end

/-! ## What a frame says -/

section
variable {l : FrameStep} {base r : DiagRequest} {response : DiagResponse}

theorem FrameStep.writesVin_iff (hd : UdsCodec.decode l.raw base = some r) :
    l.writesVin ↔
      r.serviceId = UdsService.routineControl ∧ r.didOrRid = Rid.writeVinRoutine := by
  unfold writesVin
  rw [UdsCodec.decode_serviceId hd, Option.some_inj]
  refine and_congr_right ?_
  intro hs
  obtain ⟨hi, lo, rest, hraw, hrid, _⟩ := UdsCodec.decode_routine hd hs
  rw [hraw, hrid, ofBytes16_eq_iff]
  show [hi, lo] = [0xFF, 0x00] ↔ hi = 0xFF ∧ lo = 0x00
  simp

theorem FrameStep.readsVin_iff (hd : UdsCodec.decode l.raw base = some r) :
    l.readsVin ↔ r.serviceId = UdsService.readDataByIdentifier ∧ r.didOrRid = Did.vin := by
  constructor
  · intro hraw
    have hs : r.serviceId = UdsService.readDataByIdentifier := by
      have hhead := UdsCodec.decode_serviceId hd
      have htake : (l.raw.take 3).head? = l.raw.head? := by
        rw [List.head?_take, if_neg (by decide)]
      rw [← htake, hraw] at hhead
      exact (Option.some_inj.mp hhead).symm
    obtain ⟨hi, lo, rest, hraw', hdid⟩ := UdsCodec.decode_read hd hs
    refine ⟨hs, ?_⟩
    rw [readsVin, hraw'] at hraw
    cases hraw
    exact hdid
  · rintro ⟨hs, hdid⟩
    obtain ⟨hi, lo, rest, hraw, hdid'⟩ := UdsCodec.decode_read hd hs
    rw [hdid', ofBytes16_eq_iff] at hdid
    rw [readsVin, hraw, hdid.1, hdid.2]
    rfl

/-- Everything behind the routine identifier is payload. -/
theorem decode_writeVin_payload (hd : UdsCodec.decode l.raw base = some r)
    (hs : r.serviceId = UdsService.routineControl) (hb : base.payload = []) :
    r.payload = l.raw.drop 4 := by
  obtain ⟨hi, lo, rest, hraw, _, hp⟩ := UdsCodec.decode_routine hd hs
  rw [hraw, hp hb]
  rfl

theorem FrameStep.not_positive (hl : l.response = some (UdsCodec.encode response))
    (hr : response.positive = false) : ¬ l.positive := by
  rintro ⟨b, hb, hne⟩
  rw [hl, UdsCodec.encode, hr] at hb
  cases hb
  exact hne rfl

theorem FrameStep.positive_of_done {data : Bytes}
    (hl : l.response = some (UdsCodec.encode (routineDone r data))) : l.positive := by
  refine ⟨UdsService.routineControl + 0x40, ?_, by decide⟩
  rw [hl]
  rfl

end

/-! ## Frames on the service -/

/-- What a frame can do to the VIN, and what it can show of it. -/
structure FrameEffect (d : ServiceDispatcher) (l : FrameStep) : Prop where
  written : ∀ h, d.prov = some h → ∀ vin,
    current (vinWritten h) vin l.trace = l.accepted.getD vin
  shown : l.readsVin → l.positive → Unwritten l.trace ∧ ∃ h vin, d.prov = some h ∧
    (∃ e ∈ l.trace, vinRead h e = some vin) ∧ l.response = some ([0x62, 0xF1, 0x90] ++ vin)
  handed : l.writesVin → l.positive → ∃ vin extra,
    l.trace.filterMap vinHanded = [(vin, extra)] ∧ vin.length = vinLength ∧
      vin ++ extra = l.raw.drop 4

/-- A frame is answered, or it is dropped undecoded. -/
inductive Framed (v : View) (l : FrameStep) (s' : DiagService) : Prop where
  | dropped {b : Bool} {m : SessionManager} : v.managers.sessionMgr.S3Checked l.trace b m →
      l.response = none → Serves s' (v.withSession m) → Framed v l s'
  | answered {b : Bool} {m : SessionManager} {base request : DiagRequest}
      {response : DiagResponse} {ms : Managers} {tr₀ tr₁ tr₂ : Trace} :
      v.managers.sessionMgr.S3Checked tr₀ b m → base.payload = [] →
      UdsCodec.decode l.raw base = some request →
      Dispatched v.dispatcher (v.withSession m).managers request tr₁ response ms → Quiet tr₂ →
      l.trace = tr₀ ++ (tr₁ ++ tr₂) → l.response = some (UdsCodec.encode response) →
      Serves s' { v with managers := ms } → Framed v l s'

theorem HandlesFrame.framed {s s' : DiagService} {v : View} {l : FrameStep}
    (h : HandlesFrame s l s') (hs : Serves s v) : Framed v l s' := by
  obtain ⟨transport, raw, trace, response⟩ := l
  obtain ⟨lg, x, hx, hresponse⟩ := h
  suffices hwp : wp (s.handleFrame transport raw) fun tr r => ∀ response,
      (response = r.1.map fun x => UdsCodec.encode x.response) →
        Framed v ⟨transport, raw, tr, response⟩ r.2 from hx.wp hwp response hresponse
  simp only [handleFrame, wp_bind]
  refine wp_mono hs.checkS3Timeout_wp ?_
  intro tr₀ s₁ hs₁
  obtain ⟨b, m, hm, hs₁, _⟩ := hs₁
  refine wp_mono (hs₁.processRaw_wp transport raw) ?_
  intro tr r hr response hresponse
  cases hd : UdsCodec.decode raw { transport := transport.getTransportType } with
  | none =>
    rw [hd] at hr
    obtain ⟨rfl, rfl⟩ := hr
    refine .dropped (b := b) ?_ hresponse hs₁
    rw [List.append_nil]
    exact hm
  | some request =>
    rw [hd] at hr
    obtain ⟨response', ms, tr₁, tr₂, lg', sent, rfl, hx', hdis, hsend, hs₂, _⟩ := hr
    refine .answered hm rfl hd hdis ((TransportAdapter.send_aside _ _).quiet hsend) rfl ?_ hs₂
    rw [hresponse, hx']
    rfl

section
variable {d : ServiceDispatcher} {l : FrameStep} {base request : DiagRequest}
  {response : DiagResponse} {tr₀ tr₁ tr₂ : Trace}

/-- Around the dispatch, nothing of a frame has to do with the VIN. -/
theorem VinEffect.frame (h : VinEffect d request tr₁ response) (hb : base.payload = [])
    (hd : UdsCodec.decode l.raw base = some request) (h₀ : Unwritten tr₀) (h₂ : Unwritten tr₂)
    (htr : l.trace = tr₀ ++ (tr₁ ++ tr₂)) (hl : l.response = some (UdsCodec.encode response)) :
    FrameEffect d l := by
  have hcurrent (p : ProvHandle) (vin : Bytes) :
      current (vinWritten p) vin l.trace = current (vinWritten p) vin tr₁ := by
    rw [htr, current_append, current_append, current_idle (h₀.written p),
      current_idle (h₂.written p)]
  have hhanded : l.trace.filterMap vinHanded = tr₁.filterMap vinHanded := by
    rw [htr, List.filterMap_append, List.filterMap_append, h₀.handed, h₂.handed,
      List.nil_append, List.append_nil]
  have hunwritten (h₁ : Unwritten tr₁) : Unwritten l.trace := by
    rw [htr]
    simp [h₀, h₁, h₂]
  have hmem {e : Event outside} (he : e ∈ tr₁) : e ∈ l.trace := by
    rw [htr]
    simp [he]
  have hwrites := FrameStep.writesVin_iff hd
  have hreads := FrameStep.readsVin_iff hd
  -- nothing is written, and the frame is not one that was accepted
  have kept (hidle : ∀ h, ∀ e ∈ tr₁, vinWritten h e = none) (hna : ¬ (l.writesVin ∧ l.positive)) :
      ∀ p, d.prov = some p → ∀ vin,
        current (vinWritten p) vin l.trace = l.accepted.getD vin := by
    intro p _ vin
    rw [hcurrent, current_idle (hidle p), FrameStep.accepted, if_neg hna]
    rfl
  cases h with
  | @written p x y hs hr hp hlen hy =>
    have hpos : l.positive := FrameStep.positive_of_done hl
    have hw : l.writesVin := hwrites.mpr ⟨hs, hr⟩
    have hpayload := decode_writeVin_payload hd hs hb
    refine ⟨?_, ?_, ?_⟩
    · intro p' hp' vin
      rw [hp] at hp'
      cases hp'
      rw [hcurrent, FrameStep.accepted, if_pos ⟨hw, hpos⟩, ← hpayload]
      simp [vinWritten, hy]
    · intro hread
      rw [(hreads.mp hread).1] at hs
      cases hs
    · intro _ _
      refine ⟨request.payload.take vinLength, request.payload.drop vinLength, ?_, ?_, ?_⟩
      · rw [hhanded]
        rfl
      · rw [List.length_take]
        exact Nat.min_eq_left hlen
      · rw [List.take_append_drop, hpayload]
  | failed hs hr hidle hneg =>
    have hnpos := FrameStep.not_positive hl hneg
    exact ⟨kept hidle fun ha => hnpos ha.2, fun _ hpos => absurd hpos hnpos,
      fun _ hpos => absurd hpos hnpos⟩
  | @read p x y hs hdid hp hy =>
    have hnw : ¬ l.writesVin := by
      intro hw
      rw [(hwrites.mp hw).1] at hs
      cases hs
    have h₁ : Unwritten [⟨.prov p .isAvailable, x⟩, ⟨.prov p .readVin, y⟩] := by
      simp [Unwritten, vinHanded]
    refine ⟨kept h₁.written fun ha => hnw ha.1, ?_, fun hw => absurd hw hnw⟩
    intro _ _
    have hread : vinRead p ⟨.prov p .readVin, y⟩ = some y.reply.vin := by simp [vinRead, hy]
    exact ⟨hunwritten h₁, p, y.reply.vin, hp, ⟨⟨.prov p .readVin, y⟩, hmem (by simp), hread⟩, hl⟩
  | unread hs h₁ hneg =>
    have hnpos := FrameStep.not_positive hl hneg
    exact ⟨kept h₁.written fun ha => hnpos ha.2, fun _ hpos => absurd hpos hnpos,
      fun _ hpos => absurd hpos hnpos⟩
  | other h₁ hnw hnr =>
    exact ⟨kept h₁.written fun ha => hnw (hwrites.mp ha.1),
      fun hread => absurd (hreads.mp hread) hnr, fun hw => absurd (hwrites.mp hw) hnw⟩

end

theorem Framed.effect {s' : DiagService} {v : View} {l : FrameStep} (h : Framed v l s') :
    FrameEffect v.dispatcher l := by
  cases h with
  | dropped hm hnone _ =>
    have hunwritten : Unwritten l.trace := hm.ticks.plain.unwritten
    have hnpos : ¬ l.positive := by
      rintro ⟨b, hb, _⟩
      rw [hnone] at hb
      cases hb
    refine ⟨?_, fun _ hpos => absurd hpos hnpos, fun _ hpos => absurd hpos hnpos⟩
    intro p _ vin
    rw [current_idle (hunwritten.written p), FrameStep.accepted, if_neg fun ha => hnpos ha.2]
    rfl
  | answered hm hb hd hdis hq htr hl _ =>
    exact hdis.vinEffect.frame hb hd hm.ticks.plain.unwritten hq.plain.unwritten htr hl

/-! ## Runs -/

/-- The calls of a run of frames. -/
def framesTrace (ls : List FrameStep) : Trace := ls.flatMap FrameStep.trace

theorem Framed.serves {s' : DiagService} {v : View} {l : FrameStep} (h : Framed v l s') :
    ∃ v', Serves s' v' ∧ v'.dispatcher = v.dispatcher := by
  cases h with
  | dropped _ _ hs => exact ⟨_, hs, rfl⟩
  | answered _ _ _ _ _ _ _ hs => exact ⟨_, hs, rfl⟩

/-- The dispatcher stays, and every frame has its effect on it. -/
theorem frames_run {s s' : DiagService} {v : View} {ls : List FrameStep}
    (h : Run HandlesFrame s ls s') (hs : Serves s v) :
    ∀ l ∈ ls, FrameEffect v.dispatcher l := by
  have hinv := h.history (fun ls s => (∃ v', Serves s v' ∧ v'.dispatcher = v.dispatcher) ∧
    ∀ l ∈ ls, FrameEffect v.dispatcher l) ⟨⟨v, hs, rfl⟩, by simp⟩ ?_
  · exact hinv.2
  · rintro ls s l s' ⟨⟨v', hs', hd⟩, heffects⟩ hl
    have hframed := hl.framed hs'
    obtain ⟨v'', hs'', hd'⟩ := hframed.serves
    refine ⟨⟨v'', hs'', hd'.trans hd⟩, ?_⟩
    intro y hy
    cases List.mem_append.mp hy with
    | inl hy => exact heffects y hy
    | inr hy =>
      rw [List.mem_singleton.mp hy, ← hd]
      exact hframed.effect

/-- What PROV holds after a run of frames is the VIN of the latest accepted write. -/
theorem current_frames {d : ServiceDispatcher} {p : ProvHandle} {ls : List FrameStep} {vin : Bytes}
    (h : ∀ l ∈ ls, FrameEffect d l) (hp : d.prov = some p) :
    current (vinWritten p) vin (framesTrace ls) = current FrameStep.accepted vin ls := by
  refine current_flatMap ?_
  intro l hl vin
  exact (h l hl).written p hp vin

/-- A positive response to 22 F1 90 shows the first 17 payload bytes of the latest WRITE_VIN that
was answered positively, and such a write hands all its bytes to PROV. -/
theorem vin_read_your_writes (vin₀ : Bytes) {s s' : DiagService} {d : ServiceDispatcher}
    {ls : List FrameStep} (hs : DiagService.Reachable s) (hi : s.initialized = true)
    (hd : s.dispatcher = some d) (h : Run HandlesFrame s ls s')
    (hstore : ∀ p, d.prov = some p → ProvStore p vin₀ (framesTrace ls)) :
    (∀ pre l post, ls = pre ++ l :: post → l.readsVin → l.positive →
      l.response = some ([0x62, 0xF1, 0x90] ++ current FrameStep.accepted vin₀ pre)) ∧
    ∀ l ∈ ls, l.writesVin → l.positive → ∃ vin extra,
      l.trace.filterMap vinHanded = [(vin, extra)] ∧ vin.length = vinLength ∧
        vin ++ extra = l.raw.drop 4 := by
  obtain ⟨hist, hreach, _⟩ := hs
  obtain ⟨v, _, hserves⟩ := reach_serves hreach hi
  obtain rfl := hserves.dispatcher_eq hd
  have heffects := frames_run h hserves
  refine ⟨?_, ?_⟩
  · rintro pre l post rfl hread hpos
    obtain ⟨hunwritten, p, vin, hp, ⟨e, he, hvin⟩, hresponse⟩ :=
      (heffects l (by simp)).shown hread hpos
    -- the report lies between the calls of `pre` and those of `post`
    have hreports : Reports (vinWritten p) (vinRead p)
        (current (vinWritten p) vin₀ (framesTrace pre)) l.trace := by
      have hall := hstore p hp
      rw [framesTrace, List.flatMap_append, List.flatMap_cons] at hall
      exact (Reports.right hall).left
    rw [current_frames (fun y hy => heffects y (List.mem_append_left _ hy)) hp] at hreports
    rw [hresponse, hreports.idle (hunwritten.written p) he hvin]
  · intro l hl hw hpos
    exact (heffects l hl).handed hw hpos

/-- Handle a frame against an oracle. -/
def DiagService.playFrame (s : DiagService) (transport : TransportAdapter) (raw : Bytes)
    (o : Oracle) : FrameStep × DiagService :=
  let r := (s.handleFrame transport raw).run o
  (⟨transport, raw, r.1, r.2.2.1.map fun x => UdsCodec.encode x.response⟩, r.2.2.2)

theorem playFrame_handles (s : DiagService) (transport : TransportAdapter) (raw : Bytes)
    (o : Oracle) :
    HandlesFrame s (s.playFrame transport raw o).1 (s.playFrame transport raw o).2 := by
  have hx := exec_run o (s.handleFrame transport raw)
  exact ⟨_, _, hx, rfl⟩

/-- A PROV that holds the VIN of 17 times 'A'. -/
def holdsVin : Oracle
  | .prov _ .readVin => ⟨0, { vin := List.replicate 17 0x41, valid := true }⟩
  | c => obliging 0 c

/-- The VIN is written in the unlocked session, and read back. -/
theorem vin_read_your_writes_owned :
    let r := ownedService.playFrame (.doip {})
      ([0x31, 0x01, 0xFF, 0x00] ++ List.replicate 17 0x41 ++ [0x01]) (obliging 0)
    let q := r.2.playFrame (.doip {}) [0x22, 0xF1, 0x90] holdsVin
    q.1.response = some ([0x62, 0xF1, 0x90] ++ current FrameStep.accepted [] [r.1]) := by
  intro r q
  have hrun : Run HandlesFrame ownedService [r.1, q.1] q.2 :=
    (Run.single (playFrame_handles ownedService _ _ _)).snoc (playFrame_handles r.2 _ _ _)
  refine (vin_read_your_writes [] ownedService_reachable rfl rfl hrun ?_).1 [r.1] q.1 [] rfl rfl ?_
  · intro p hp
    cases hp
    have htrace : framesTrace [r.1, q.1] =
        [⟨.now .s3Check, ⟨0, ()⟩⟩, ⟨.prov 0 .isAvailable, ⟨0, true⟩⟩,
          ⟨.prov 0 (.writeVin (List.replicate 17 0x41) [0x01]), ⟨0, .success⟩⟩,
          ⟨.now .s3Check, ⟨0, ()⟩⟩, ⟨.prov 0 .isAvailable, ⟨0, true⟩⟩,
          ⟨.prov 0 .readVin, ⟨0, { vin := List.replicate 17 0x41, valid := true }⟩⟩] := rfl
    rw [htrace, ProvStore]
    simp [vinRead, vinWritten]
  · decide

end Diag
end Tbox
