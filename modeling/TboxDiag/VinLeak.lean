import TboxDiag.TakenMessages

/-!
# VinLeak

The VIN reaches the log. The service runs on the PROV adapter, and two runs of it over the same
calls differ in the VINs in the messages of WRITE_VIN. The decoder writes every byte of a
RoutineControl message, and the adapter the VIN it sends to PROV: `vin_unlogged_iff` shows that the
runs write the same records exactly when the messages that are taken carry the same VINs.
-/

namespace Tbox
namespace Diag

open Effects

/-! ## Messages with another VIN -/

/-- A WRITE_VIN message with another VIN. -/
inductive VinTwin : Bytes → Bytes → Prop where
  | vin {sub : UInt8} {vin vin' config : Bytes} : vin.length = 17 → vin'.length = 17 →
      VinTwin (UdsService.routineControl :: sub :: 0xFF :: 0x00 :: (vin ++ config))
        (UdsService.routineControl :: sub :: 0xFF :: 0x00 :: (vin' ++ config))

theorem VinTwin.routine {raw raw' : Bytes} (h : VinTwin raw raw') :
    raw.head? = some UdsService.routineControl ∧ raw'.head? = some UdsService.routineControl := by
  cases h
  exact ⟨rfl, rfl⟩

theorem vinTwin_masking : Masking VinTwin where
  length h := by
    cases h with
    | vin hlen hlen' => simp [hlen, hlen']
  nonempty h := by
    cases h
    simp

/-! ## What the decoder writes -/

namespace UdsCodec

/-- `%02x ` of one byte. -/
def hexBlock (b : UInt8) : List Char :=
  [(b.toNat / 16).digitChar, (b.toNat % 16).digitChar, ' ']

theorem hexDigits_eq (b : UInt8) :
    List.replicate (2 - (Nat.toDigits 16 b.toNat).length) '0' ++ Nat.toDigits 16 b.toNat ++ [' '] =
      hexBlock b := by
  have hb : b.toNat < 256 := b.toNat_lt
  rw [Nat.toDigits_eq_if (by decide)]
  unfold hexBlock
  split
  next h =>
    rw [Nat.div_eq_of_lt h, Nat.mod_eq_of_lt h]
    rfl
  next h =>
    rw [Nat.toDigits_of_lt_base (show b.toNat / 16 < 16 by omega)]
    rfl

theorem digitChar_inj : ∀ m < 16, ∀ n < 16, m.digitChar = n.digitChar → m = n := by decide

theorem hexBlock_inj {b b' : UInt8} (h : hexBlock b = hexBlock b') : b = b' := by
  obtain ⟨hhigh, hlow⟩ := by simpa [hexBlock] using h
  have hb : b.toNat < 256 := b.toNat_lt
  have hb' : b'.toNat < 256 := b'.toNat_lt
  have hdiv := digitChar_inj _ (by omega) _ (by omega) hhigh
  have hmod := digitChar_inj _ (by omega) _ (by omega) hlow
  exact UInt8.toNat_inj.mp (by omega)

theorem rawHex_toList (raw : Bytes) : (rawHex raw).toList = raw.flatMap hexBlock := by
  have hfold (s : String) : (raw.foldl (fun s b =>
      let ds := Nat.toDigits 16 b.toNat
      s ++ String.ofList (List.replicate (2 - ds.length) '0' ++ ds) ++ " ") s).toList =
        s.toList ++ raw.flatMap hexBlock := by
    induction raw generalizing s with
    | nil => simp
    | cons b raw ih =>
      rw [List.foldl_cons, ih, List.flatMap_cons, ← hexDigits_eq]
      simp
  exact hfold ""

theorem rawHex_inj {raw raw' : Bytes} (h : rawHex raw = rawHex raw') : raw = raw' := by
  have hblocks : raw.flatMap hexBlock = raw'.flatMap hexBlock := by
    rw [← rawHex_toList, ← rawHex_toList, h]
  clear h
  induction raw generalizing raw' with
  | nil =>
    cases raw' with
    | nil => rfl
    | cons b' raw' => cases hblocks
  | cons b raw ih =>
    cases raw' with
    | nil => cases hblocks
    | cons b' raw' =>
      simp only [List.flatMap_cons] at hblocks
      obtain ⟨hb, hrest⟩ := List.append_inj hblocks rfl
      rw [hexBlock_inj hb, ih hrest]

/-- The record of a RoutineControl message. -/
def rawRecord (raw : Bytes) : LogRecord :=
  ⟨.udsRouter, .debug, "diag.uds.routine_control_raw", "RoutineControl raw decode",
    [("payload_size", .int raw.length), ("raw_hex", .string (rawHex raw))]⟩

theorem rawRecord_inj {raw raw' : Bytes} (h : rawRecord raw = rawRecord raw') : raw = raw' := by
  have hfield : some ("raw_hex", FieldValue.string (rawHex raw)) =
      some ("raw_hex", .string (rawHex raw')) := congrArg (fun l => l.fields.getLast?) h
  exact rawHex_inj (FieldValue.string.inj (Prod.mk.inj (Option.some.inj hfield)).2)

end UdsCodec

/-! ## Two runs -/

open UdsCodec DiagService

section
variable {errorText : ProvError → String} {a : RealProvAdapter} {s s' : DiagService} {n : Nat}
  {tr tr' : ProvTrace} {lg lg' : List LogRecord}

/-- The first record of a RoutineControl message holds all its bytes. -/
theorem processRaw_record {transport : TransportAdapter} {raw : Bytes}
    {y : (Option Exchange × DiagService) × RealProvAdapter}
    (hraw : raw.head? = some UdsService.routineControl)
    (hx : Exec ((s.processRaw transport raw).serve (RealProvAdapter.handle errorText) a) tr lg y) :
    lg.head? = some (rawRecord raw) := by
  have hlogged (request : DiagRequest) : decodeLogged raw request =
      .tell (rawRecord raw) (pure (decode raw request)) := by
    unfold decodeLogged
    rw [if_pos hraw]
    rfl
  unfold processRaw at hx
  rw [hlogged] at hx
  cases hx
  rfl

/-- What a program takes of the socket, on the adapter. -/
theorem Hears.served {α : Type} {r : Reading} {p : M α} {Q : α → List Bytes}
    {y : α × RealProvAdapter} (h : Hears r p Q)
    (hx : Exec (p.serve (RealProvAdapter.handle errorText) a) tr lg y) :
    provMessages.notes r tr = Q y.1 := by
  obtain ⟨up, hserved, hnotes⟩ := hx.wp (wp_serve _ a h)
  rw [provMessages_below.served hserved]
  exact hnotes

/-- One call and what comes after it: a message is taken, if there is one, and then answered. -/
theorem pendingRequests_cut {y : DiagService × RealProvAdapter}
    (hx : Exec ((pendingRequests (n + 1) s).serve (RealProvAdapter.handle errorText) a) tr lg y) :
    ∃ m s₁ a₁ z a₂ tr₁ tr₂ tr₃ lg₁ lg₂ lg₃,
      Exec (s.takeBytes.serve (RealProvAdapter.handle errorText) a) tr₁ lg₁ ((m, s₁), a₁) ∧
      Exec ((answerBytes (m, s₁)).serve (RealProvAdapter.handle errorText) a₁) tr₂ lg₂ (z, a₂) ∧
      Exec ((pendingRequests n z.2).serve (RealProvAdapter.handle errorText) a₂) tr₃ lg₃ y ∧
      tr = tr₁ ++ (tr₂ ++ tr₃) ∧ lg = lg₁ ++ (lg₂ ++ lg₃) ∧
      ∀ r, ∃ r', provMessages.notes r tr =
        (m.map Prod.snd).toList ++ provMessages.notes r' tr₃ := by
  unfold pendingRequests at hx
  rw [processPendingRequests_eq, serve_bind, serve_bind] at hx
  obtain ⟨⟨z, a₂⟩, tr₁₂, lg₁₂, tr₃, lg₃, hx₁₂, hx₃, rfl, rfl⟩ := exec_bind_inv hx
  obtain ⟨⟨⟨m, s₁⟩, a₁⟩, tr₁, lg₁, tr₂, lg₂, hx₁, hx₂, rfl, rfl⟩ := exec_bind_inv hx₁₂
  refine ⟨m, s₁, a₁, z, a₂, tr₁, tr₂, tr₃, lg₁, lg₂, lg₃, hx₁, hx₂, hx₃,
    List.append_assoc _ _ _, List.append_assoc _ _ _, ?_⟩
  intro r
  refine ⟨provMessages.after (provMessages.after r tr₁) tr₂, ?_⟩
  rw [List.append_assoc, Observer.notes_append, Observer.notes_append,
    s.takeBytes_hears.served hx₁, (answerBytes_hears _).served hx₂]
  rfl

/-- Two messages with different VINs are answered with different records, whatever follows. -/
theorem records_differ {s' : DiagService} {transport : TransportAdapter} {raw raw' : Bytes}
    {y y' : (Option Exchange × DiagService) × RealProvAdapter} (h : VinTwin raw raw')
    (hne : raw' ≠ raw)
    (hx : Exec ((s.processRaw transport raw).serve (RealProvAdapter.handle errorText) a) tr lg y)
    (hx' : Exec ((s'.processRaw transport raw').serve (RealProvAdapter.handle errorText) a) tr'
      lg' y') (more more' : List LogRecord) : lg' ++ more' ≠ lg ++ more := by
  intro hlg
  have hfirst := congrArg List.head? hlg
  rw [List.head?_append, List.head?_append, processRaw_record h.routine.1 hx,
    processRaw_record h.routine.2 hx'] at hfirst
  exact hne (rawRecord_inj (Option.some.inj hfirst))

/-- From services that are twins, and wherever the reading of the messages stands. -/
theorem pendingRequests_logs_iff {r r₁ r₁' : Reading} {y y' : DiagService × RealProvAdapter}
    (hs : s.Twin s')
    (hx : Exec ((pendingRequests n s).serve (RealProvAdapter.handle errorText) a) tr lg y)
    (hx' : Exec ((pendingRequests n s').serve (RealProvAdapter.handle errorText) a) tr' lg' y')
    (hal : (provTwin VinTwin).Alike r tr tr') :
    lg' = lg ↔ provMessages.notes r₁' tr' = provMessages.notes r₁ tr := by
  induction n generalizing r r₁ r₁' s s' a tr tr' lg lg' with
  | zero =>
    cases hx
    cases hx'
    simp
  | succ n ih =>
    obtain ⟨m, s₁, a₁, z, a₂, tr₁, tr₂, tr₃, lg₁, lg₂, lg₃, hx₁, hx₂, hx₃, rfl, rfl, hnotes⟩ :=
      pendingRequests_cut hx
    obtain ⟨m', s₁', a₁', z', a₂', tr₁', tr₂', tr₃', lg₁', lg₂', lg₃', hx₁', hx₂', hx₃', rfl, rfl,
      hnotes'⟩ := pendingRequests_cut hx'
    obtain ⟨r₂, hnotes⟩ := hnotes r₁
    obtain ⟨r₂', hnotes'⟩ := hnotes' r₁'
    obtain ⟨rfl, ⟨⟨hm, hs₁⟩, ha₁⟩, hal₁⟩ :=
      (RealProvAdapter.serve_twin (takeBytes_twin vinTwin_masking hs)).exec hx₁ hx₁' hal
    dsimp only at hm hs₁ ha₁
    subst ha₁
    rw [hnotes, hnotes', List.append_cancel_left_eq]
    by_cases hmm : m' = m
    · -- the same message: the records of this call are the same, and the rest decides
      subst hmm
      have hsame : Option.Rel (BytesTwin KeyTwin) m' m' := by
        cases m' with
        | none => exact .none
        | some m => exact .some ⟨rfl, .inl rfl⟩
      obtain ⟨rfl, ⟨hs₂, ha₂⟩, hal₂⟩ :=
        (RealProvAdapter.serve_twin (answerBytes_twin hs₁ hsame)).exec hx₂ hx₂' hal₁
      dsimp only at hs₂ ha₂
      subst ha₂
      rw [List.append_cancel_left_eq, List.append_cancel_left_eq]
      exact ih hs₂ hx₃ hx₃' hal₂
    · cases hm with
      | none => exact absurd rfl hmm
      | @some m m' hm =>
        obtain ⟨transport, raw⟩ := m
        obtain ⟨_, raw'⟩ := m'
        obtain ⟨rfl, hraw⟩ := hm
        have hne : raw' ≠ raw := fun h => hmm (by rw [h])
        have hraw : VinTwin raw raw' := hraw.resolve_left (Ne.symm hne)
        refine iff_of_false (records_differ hraw hne hx₂ hx₂' _ _) ?_
        intro htaken
        exact hne (List.cons.inj htaken).1

end

/-- Two runs of any number of calls of `processPendingRequests`, in which the VINs of WRITE_VIN may
differ, write the same records if and only if the messages they take are the same. -/
theorem vin_unlogged_iff {errorText : ProvError → String} {n : Nat} {s : DiagService}
    {a : RealProvAdapter} {tr tr' : ProvTrace} {lg lg' : List LogRecord}
    {y y' : DiagService × RealProvAdapter}
    (hx : Exec ((s.pendingRequests n).serve (RealProvAdapter.handle errorText) a) tr lg y)
    (hx' : Exec ((s.pendingRequests n).serve (RealProvAdapter.handle errorText) a) tr' lg' y')
    (hal : (provTwin VinTwin).Alike .idle tr tr') :
    lg' = lg ↔ provMessages.notes .idle tr' = provMessages.notes .idle tr :=
  pendingRequests_logs_iff (.refl s) hx hx' hal

/-! ## Two VINs -/

/-- The service of a tester that has unlocked level 1, connected over DoIP. -/
def awaitingVin : DiagService :=
  { ownedService with transport := some (.doip { connected := true, clientFd := 4 }) }

/-- WRITE_VIN with a VIN of seventeen times the byte `b` arrives, and PROV takes it. -/
def vinArrives (b : UInt8) : (c : provIpc.Cmd) → provIpc.Ans c
  | .outer (.sock (.poll _ _)) => ⟨0, 1⟩
  | .outer (.sock (.recv _ 8)) => ⟨0, some [0x02, 0xFD, 0x80, 0x01, 0, 0, 0, 25]⟩
  | .outer (.sock (.recv _ _)) =>
    ⟨0, some ([0, 1, 0, 2, 0x31, 0x01, 0xFF, 0x00] ++ List.replicate 17 b)⟩
  | .outer c => obliging 0 c
  | .reconnectCheck => ⟨0, ()⟩
  | .client _ .isConnected => ⟨0, true⟩
  | .client _ .connect => ⟨0, true⟩
  | .client _ .disconnect => ⟨0, ()⟩
  | .client _ (.writeVin _) => ⟨0, ProvError.success⟩
  | .client _ (.writeVehicleConfig _) => ⟨0, ProvError.success⟩
  | .client _ .readVin => ⟨0, []⟩
  | .client _ .getProvisionState => ⟨0, .none⟩

def vinRun (b : UInt8) : ProvTrace × List LogRecord × DiagService × RealProvAdapter :=
  ((awaitingVin.pendingRequests 1).serve (RealProvAdapter.handle fun _ => "")
    { client := some 0 }).run (vinArrives b)

theorem vinRun_exec (b : UInt8) :
    Exec ((awaitingVin.pendingRequests 1).serve (RealProvAdapter.handle fun _ => "")
      { client := some 0 }) (vinRun b).1 (vinRun b).2.1 (vinRun b).2.2 :=
  exec_run (vinArrives b) _

/-- Both calls check the time, read the message, acknowledge it, ask PROV and answer. -/
theorem vinRun_alike : (provTwin VinTwin).Alike .idle (vinRun 0x41).1 (vinRun 0x42).1 := by
  have hpayload : AnsTwin VinTwin (.message 0)
      ⟨.sock (.recv 4 25), ⟨0, some ([0, 1, 0, 2] ++
        (UdsService.routineControl :: 0x01 :: 0xFF :: 0x00 :: (List.replicate 17 0x41 ++ [])))⟩⟩
      ⟨.sock (.recv 4 25), ⟨0, some ([0, 1, 0, 2] ++
        (UdsService.routineControl :: 0x01 :: 0xFF :: 0x00 :: (List.replicate 17 0x42 ++ [])))⟩⟩ :=
    .payload (.message rfl (.vin rfl rfl))
  exact fun _ => ⟨.same, fun _ => ⟨.same, fun _ => ⟨.same, fun _ => ⟨.outer hpayload,
    fun _ => ⟨.same, fun _ => ⟨.same, fun _ => ⟨.same, fun _ => ⟨.vin,
      fun _ => ⟨.same, trivial⟩⟩⟩⟩⟩⟩⟩⟩⟩

theorem vin_unlogged_iff_two : (vinRun 0x42).2.1 = (vinRun 0x41).2.1 ↔
    provMessages.notes .idle (vinRun 0x42).1 = provMessages.notes .idle (vinRun 0x41).1 :=
  vin_unlogged_iff (vinRun_exec _) (vinRun_exec _) vinRun_alike

/-- The runs differ in nothing but the VIN, and they do not write the same records. -/
theorem vin_logged : (provTwin VinTwin).Alike .idle (vinRun 0x41).1 (vinRun 0x42).1 ∧
    (vinRun 0x42).2.1 ≠ (vinRun 0x41).2.1 := by
  refine ⟨vinRun_alike, ?_⟩
  intro h
  have htaken : provMessages.notes .idle (vinRun 0x42).1 =
      provMessages.notes .idle (vinRun 0x41).1 :=
    (pendingRequests_logs_iff (.refl _) (vinRun_exec _) (vinRun_exec _) vinRun_alike).mp h
  exact absurd htaken (by decide)

end Diag
end Tbox
