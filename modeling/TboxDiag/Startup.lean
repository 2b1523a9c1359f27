import TboxDiag.Dependencies
import TboxDiag.Lib.History

/-!
# Startup

When the service is up, going by what was done to it. An attempt to initialise it fails when the
lookup of a configuration section throws, and otherwise when SEC or PROV is missing (`startOutcome`,
in this order). A configuration that cannot be loaded at all is passed over. A failed attempt may be
repeated, and leaves the service as little initialised as it was.
-/

namespace Tbox
namespace Diag

open Effects DiagService

/-! ## One attempt -/

/-- The lookup of a configuration section threw. -/
def sectionThrew : Event outside → Bool
  | ⟨.getSection _, ⟨_, .threw _⟩⟩ => true
  | _ => false

def configOutcome (tr : Trace) : DiagErrorCode :=
  if tr.any sectionThrew then .configLoadFailed else .success

/-- The result of an attempt that made the calls `tr`, with `sec` and `prov` installed. -/
def startOutcome (tr : Trace) (sec : Option SecHandle) (prov : Option ProvHandle) :
    DiagErrorCode :=
  if tr.any sectionThrew then .configLoadFailed
  else if sec.isNone then .secUnavailable
  else if prov.isNone then .provUnavailable
  else .success

section
variable {s s' : DiagService} {l : Step} {ls : List Step}

theorem applySections_outcome (names : List String) :
    wp (applySections names) fun tr result => result = configOutcome tr := by
  induction names with
  | nil => rfl
  | cons name names ih =>
    unfold applySections
    rw [wp_ask_bind]
    rintro ⟨t, found⟩
    cases found with
    | absent => exact wp_mono ih fun _ _ h => h
    | present =>
      simp only [wp_bind, wp_log, List.nil_append]
      exact wp_mono ih fun _ _ h => h
    | threw what => rfl

theorem loadConfig_outcome : wp loadConfig fun tr result => result = configOutcome tr := by
  unfold loadConfig
  rw [wp_ask_bind]
  rintro ⟨t, found⟩
  cases found with
  | snapshot => exact wp_mono (applySections_outcome _) fun _ _ h => h
  | _ => rfl

theorem initializeSubmodules_outcome (h : s.initialized = false) :
    wp s.initializeSubmodules fun tr r => tr.any sectionThrew = false ∧
      r.1 = startOutcome tr s.sec s.prov ∧ (r.2.initialized = true ↔ r.1 = .success) := by
  unfold initializeSubmodules SessionManager.create
  simp only [wp_bind, wp_now, wp_pure]
  intro t
  cases hsec : s.sec with
  | none =>
    simp only [wp_bind, wp_log, wp_pure, List.append_nil]
    refine ⟨rfl, rfl, ?_⟩
    simp [h]
  | some sec =>
    cases hprov : s.prov with
    | none =>
      simp only [wp_bind, wp_log, wp_pure, List.append_nil]
      refine ⟨rfl, rfl, ?_⟩
      simp [h]
    | some prov =>
      simp only [wp_pure, List.append_nil]
      exact ⟨rfl, rfl, by simp⟩

theorem initializeService_outcome (h : s.initialized = false) :
    wp s.initializeService fun tr r => r.1 = startOutcome tr s.sec s.prov ∧
      (r.2.initialized = true ↔ r.1 = .success) := by
  unfold DiagService.initializeService
  rw [h]
  simp only [Bool.false_eq_true, if_false, wp_bind, wp_ite, wp_pure, List.append_nil]
  refine wp_mono loadConfig_outcome ?_
  rintro tr result rfl
  by_cases hthrew : tr.any sectionThrew = true
  · refine ⟨fun _ => ?_, fun hok => ?_⟩
    · simp [configOutcome, startOutcome, hthrew, h]
    · simp [configOutcome, hthrew] at hok
  · refine ⟨fun hne => ?_, fun _ => ?_⟩
    · simp [configOutcome, hthrew] at hne
    · refine wp_mono (initializeSubmodules_outcome h) ?_
      rintro tr' r ⟨hquiet, hresult, hup⟩
      refine ⟨?_, hup⟩
      rw [hresult]
      simp [startOutcome, hthrew, hquiet]

/-! ## Along a run -/

/-- An attempt that succeeds. -/
def Starts (pre : List Step) (l : Step) : Prop :=
  l.op = .initializeService ∧ startOutcome l.trace (lastSec pre) (lastProv pre) = .success

/-- An attempt succeeded, and the service was not shut down since. -/
def Up (ls : List Step) : Prop := Since Starts (fun l => l.op ≠ .shutdown) ls

theorem initialized_step (hs : s.prov = lastProv ls ∧ s.sec = lastSec ls) {o : Option View}
    (hshow : Shows s o) (h : Does s l s') :
    s'.initialized = true ↔ Starts ls l ∨ s.initialized = true ∧ l.op ≠ .shutdown := by
  obtain ⟨o', hact, hshow'⟩ := does_acts hshow h
  cases o with
  | some v =>
    -- up before: down only by a shutdown
    have hi : s.initialized = true := Serves.initialized hshow
    cases o' with
    | none =>
      have hi' : s'.initialized = false := hshow'
      cases hact with
      | shutdown _ => simp [hi', Starts]
    | some v' =>
      have hi' : s'.initialized = true := Serves.initialized hshow'
      have hop : l.op ≠ .shutdown := by
        intro hop
        obtain ⟨op, tr, x⟩ := l
        cases hop
        cases hact with
        | keep hne _ => exact hne rfl
        | serve hop _ _ _ _ =>
          rcases hop with hop | hop
          · cases hop
          · cases hop
      simp [hi, hi', hop]
  | none =>
    have hi : s.initialized = false := hshow
    obtain ⟨op, tr, x⟩ := l
    by_cases hop : op = .initializeService
    · subst hop
      obtain ⟨lg, hexec⟩ := h
      have hwp : wp (s.exec .initializeService) fun tr r => r.2.initialized = true ↔
          startOutcome tr s.sec s.prov = .success := by
        simp only [exec, wp_bind, wp_pure, List.append_nil]
        refine wp_mono (initializeService_outcome hi) ?_
        rintro tr r ⟨hresult, hup⟩
        rw [← hresult]
        exact hup
      have hup := hexec.wp hwp
      rw [hs.1, hs.2] at hup
      simp [Starts, hi, hup]
    · cases hact with
      | rest _ _ =>
        have hi' : s'.initialized = false := hshow'
        simp [Starts, hop, hi, hi']
      | start _ => exact absurd rfl hop

theorem initialized_run (hr : Run Does {} ls s) : s.initialized = true ↔ Up ls := by
  induction hr with
  | nil => simp [Up, not_since_nil]
  | snoc hr hs ih =>
    obtain ⟨o, -, hshow⟩ := reach_acts hr
    rw [initialized_step (installed_run hr) hshow hs, ih, Up, Up, since_snoc_iff]

/-- After any run: the service is initialised exactly if an attempt has succeeded and it was not
shut down since, and what the next attempt answers follows from what was installed last and from the
lookups. -/
theorem startup_iff (hr : Run Does {} ls s) :
    (s.isInitialized = true ↔ Up ls) ∧
    ∀ tr lg result s', Exec s.initializeService tr lg (result, s') →
      (s'.isInitialized = true ↔ result = .success) ∧
      (Up ls → result = .success ∧ s' = s ∧ tr = []) ∧
      (¬ Up ls → result = startOutcome tr (lastSec ls) (lastProv ls)) := by
  have hup : s.isInitialized = true ↔ Up ls := initialized_run hr
  refine ⟨hup, ?_⟩
  intro tr lg result s' h
  obtain ⟨hprov, hsec⟩ := installed_run hr
  cases hi : s.initialized with
  | true =>
    have hsame : s.initializeService = pure (.success, s) := if_pos hi
    rw [hsame] at h
    cases h
    exact ⟨by simp [isInitialized, hi], fun _ => ⟨rfl, rfl, rfl⟩, fun hn => absurd (hup.mp hi) hn⟩
  | false =>
    obtain ⟨hresult, hafter⟩ := h.wp (initializeService_outcome hi)
    rw [hsec, hprov] at hresult
    refine ⟨hafter, fun hu => ?_, fun _ => hresult⟩
    have hi' : s.initialized = true := hup.mpr hu
    rw [hi] at hi'
    cases hi'

end

/-- The outside, when the lookup of a section throws. -/
def throwing : Oracle
  | .loadConfig => ⟨0, .snapshot⟩
  | .getSection _ => ⟨0, .threw "type error"⟩
  | c => obliging 0 c

/-- The first attempt has no SEC, and in the second a lookup throws. -/
def attemptsScript : List (Op × Oracle) :=
  [(.setProv (some 0), obliging 0), (.initializeService, obliging 0),
   (.setSec (some 0), obliging 0), (.initializeService, throwing)]

theorem startup_iff_attempts :
    let r := DiagService.play {} attemptsScript
    let q := r.2.playOne .initializeService (obliging 0)
    ¬ Up r.1 ∧ Up (r.1 ++ [q.1]) := by
  intro r q
  have hr : Run Does {} r.1 r.2 := DiagService.play_run {} attemptsScript
  have hq : Run Does {} (r.1 ++ [q.1]) q.2 := hr.snoc (r.2.playOne_does _ _)
  have hdown : ¬ r.2.isInitialized = true := by decide
  exact ⟨mt (startup_iff hr).1.mpr hdown, (startup_iff hq).1.mp rfl⟩

end Diag
end Tbox
