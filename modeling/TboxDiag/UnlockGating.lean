import TboxDiag.SecurityHistory

/-!
# UnlockGating

No downstream operation without an unlock. `Unlocked` reads the unlock off the history of a run:
a key accepted after a seed of its own, and nothing since that locks the level again.

* `Gate`: the invariant, which ties the two hidden flags of level 1 to the history.
* `downstream_only_unlocked`: whenever the service calls a downstream operation, the history
  shows the unlock.
-/

namespace Tbox
namespace Diag

open Effects DiagService

/-- A seed was issued, and no key judged since. -/
def SeedPending : List Step → Prop :=
  Since (fun _ l => l.seedIssued) fun l => ¬ l.keyJudged

/-- A key was accepted while its seed was pending, and since then no seed was issued and nothing
reset. -/
def Unlocked : List Step → Prop :=
  Since (fun ls l => l.keyAccepted ∧ SeedPending ls) fun l => ¬ l.seedIssued ∧ ¬ l.resets

/-- The flags of level 1 say what the history shows. -/
structure Gate (ls : List Step) (st : SecurityAccessState) : Prop where
  seed : st.seedRequested = true → SeedPending ls
  key : st.unlocked = true → Unlocked ls

theorem gate_step {ls : List Step} {st st' : SecurityAccessState} {l : Step} (h : Gate ls st)
    (hl : Level1 st l st') : Gate (ls ++ [l]) st' := by
  cases hl with
  | kept hr hn hv =>
    refine ⟨?_, ?_⟩
    · intro hs
      exact (h.seed hs).snoc (not_not.mpr hv)
    · intro hu
      exact (h.key hu).snoc ⟨hn, hr⟩
  | reset _ _ _ => exact ⟨nofun, nofun⟩
  | seeded _ hi _ => exact ⟨fun _ => since_now hi, nofun⟩
  | rejected hr hn _ _ _ _ =>
    -- the pending seed is used up; an unlock of an earlier key stays
    refine ⟨nofun, ?_⟩
    intro hu
    exact (h.key hu).snoc ⟨hn, hr⟩
  | accepted _ _ ha _ hs =>
    refine ⟨nofun, ?_⟩
    intro _
    exact since_now ⟨ha, h.seed hs⟩

theorem gate_run {st st' : SecurityAccessState} {ls : List Step} (h : Run Level1 st ls st')
    (h0 : Gate [] st) : Gate ls st' := by
  refine h.history Gate h0 ?_
  intro ls st l st' hg hl
  exact gate_step hg hl

/-- Locked, and no seed pending: the history owes nothing. -/
theorem gate_nil {st : SecurityAccessState} (hs : st.seedRequested = false)
    (hu : st.unlocked = false) : Gate [] st := by
  refine ⟨?_, ?_⟩
  · intro h
    rw [hs] at h
    cases h
  · intro h
    rw [hu] at h
    cases h

/-- The history of a step that calls a downstream operation shows an unlock. -/
theorem unlocked_before {s s' : DiagService} {pre : List Step} {l : Step} (hpre : Run Does {} pre s)
    (hstep : Does s l s') (hl : l.calls Cmd.downstream) : Unlocked pre := by
  obtain ⟨o, hrun, hshow⟩ := reach_acts hpre
  obtain ⟨o', hacts, _⟩ := does_acts hshow hstep
  have hgate := gate_run (run_level1 hrun) (gate_nil rfl rfl)
  exact hgate.key (acts_downstream hacts hl)

theorem downstream_only_unlocked {s : DiagService} {pre post : List Step} {l : Step}
    (h : Run Does {} (pre ++ l :: post) s) (hl : l.calls Cmd.downstream) : Unlocked pre := by
  obtain ⟨t, t', hpre, hstep, _⟩ := h.at_label
  exact unlocked_before hpre hstep hl

theorem downstream_only_unlocked_writeVin : Unlocked (play {} ownedScript).1 := by
  have hrun := (play_run {} ownedScript).snoc
    (playOne_does ownedService (writeVinOp 1) (obliging 0))
  refine downstream_only_unlocked hrun ?_
  exact ⟨_, List.mem_of_getElem? (i := 2) rfl, trivial⟩

end Diag
end Tbox
