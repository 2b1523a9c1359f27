import TboxDiag.SecurityHistory
import TboxDiag.Lib.Spacing

/-!
# BruteForce

How fast keys can be tried. The attempt count is cleared by an accepted key only, so from the
third rejection on every rejected key starts a new lockout, and the next key is judged when that
lockout is over: rejections lie the lockout apart (`Paced`). `rejected_bound` counts them in any
window of time.
-/

namespace Tbox
namespace Diag

open Effects DiagService

/-- The times at which SEC rejected a key. -/
def rejectionTimes (vs : List (Time × Bool)) : List Time :=
  vs.filterMap fun v => if v.2 then none else some v.1

/-- How many keys were rejected since the last accepted one. -/
def rejectionsSinceAccepted (vs : List (Time × Bool)) : Nat :=
  (vs.reverse.takeWhile fun v => !v.2).length

section
variable (vs : List (Time × Bool)) (t : Time)

@[simp] theorem rejectionTimes_append (vs' : List (Time × Bool)) :
    rejectionTimes (vs ++ vs') = rejectionTimes vs ++ rejectionTimes vs' := List.filterMap_append

@[simp] theorem rejectionTimes_rejected : rejectionTimes [(t, false)] = [t] := rfl

@[simp] theorem rejectionsSinceAccepted_rejected :
    rejectionsSinceAccepted (vs ++ [(t, false)]) = rejectionsSinceAccepted vs + 1 := by
  simp [rejectionsSinceAccepted]

end

theorem traceOf_snoc (ls : List Step) (l : Step) : traceOf (ls ++ [l]) = traceOf ls ++ l.trace := by
  simp [traceOf]

/-! ## The counter -/

theorem attemptCount_step {st st' : SecurityAccessState} {l : Step} (h : Level1 st l st')
    {vs : List (Time × Bool)} (hc : st.attemptCount.toNat ≤ rejectionsSinceAccepted vs) :
    st'.attemptCount.toNat ≤ rejectionsSinceAccepted (vs ++ verdicts l.trace) := by
  cases h with
  | kept _ _ hv => rwa [hv, List.append_nil]
  | reset _ _ _ => exact Nat.zero_le _
  | seeded _ _ hv => rwa [hv, List.append_nil]
  | rejected _ _ hv _ _ _ =>
    rw [hv, rejectionsSinceAccepted_rejected, UInt32.toNat_add]
    exact (Nat.mod_le _ _).trans (Nat.add_le_add_right hc 1)
  | accepted _ _ _ _ _ => exact Nat.zero_le _

/-- The counter never exceeds the rejections since the last accepted key. -/
theorem attemptCount_run {st : SecurityAccessState} {ls : List Step} (h : Run Level1 {} ls st) :
    st.attemptCount.toNat ≤ rejectionsSinceAccepted (verdicts (traceOf ls)) := by
  refine h.history
    (fun ls st => st.attemptCount.toNat ≤ rejectionsSinceAccepted (verdicts (traceOf ls)))
    (Nat.zero_le _) ?_
  intro ls st l st' hc hl
  rw [traceOf_snoc, verdicts_append]
  exact attemptCount_step hl hc

/-! ## The pace -/

/-- The lockout, on the clock. -/
abbrev lockout : Nat := millis SecurityConfig.lockoutDurationMs

/-- Keys rejected at `ts` since some point of the run have left the state `st`. -/
structure Paced (ts : List Time) (st : SecurityAccessState) : Prop where
  counted : ts.length ≤ st.attemptCount.toNat
  spaced : Spaced lockout (ts.drop 2)
  locked : ∀ t ∈ ts.drop 2, t + lockout ≤ st.lockedUntil

theorem paced_step {ts : List Time} {st st' : SecurityAccessState} {l : Step}
    {vs : List (Time × Bool)} (h : Paced ts st) (hl : Level1 st l st') (hr : ¬ l.resets)
    (ha : ¬ l.keyAccepted) (hclock : Clocked l.trace)
    (hvs : st.attemptCount.toNat ≤ rejectionsSinceAccepted vs)
    (hfew : rejectionsSinceAccepted (vs ++ verdicts l.trace) < 2 ^ 32) :
    Paced (ts ++ rejectionTimes (verdicts l.trace)) st' := by
  cases hl with
  | kept _ _ hv => rw [hv]; simpa [rejectionTimes] using h
  | reset hr' _ _ => exact absurd hr' hr
  | seeded _ _ hv =>
    rw [hv]
    exact ⟨by simpa [rejectionTimes] using h.counted, by simpa [rejectionTimes] using h.spaced,
      by simpa [rejectionTimes] using h.locked⟩
  | accepted _ _ ha' _ _ => exact absurd ha' ha
  | @rejected t d _ _ hv _ hpast hnext =>
    have hcount : (st.attemptCount + 1).toNat = st.attemptCount.toNat + 1 := by
      rw [hv, rejectionsSinceAccepted_rejected] at hfew
      rw [UInt32.toNat_add]
      exact Nat.mod_eq_of_lt ((Nat.add_le_add_right hvs 1).trans_lt hfew)
    rw [hv, rejectionTimes_rejected]
    -- with two earlier rejections the new deadline is this one's
    have hd : 2 ≤ ts.length → t + lockout ≤ d := by
      intro hlen
      refine hnext hclock (UInt32.le_iff_toNat_le.mpr ?_)
      rw [hcount]
      have := h.counted
      exact Nat.succ_le_succ (hlen.trans this)
    -- with three the key was judged after the deadline of the last one
    have hold : ∀ u ∈ ts.drop 2, u + lockout ≤ t := by
      intro u hu
      have hlen : 2 < ts.length := by
        have := List.length_pos_of_mem hu
        rw [List.length_drop] at this
        omega
      refine (h.locked u hu).trans (hpast hclock (UInt32.le_iff_toNat_le.mpr ?_))
      exact hlen.trans_le h.counted
    have hdrop : 2 ≤ ts.length → (ts ++ [t]).drop 2 = ts.drop 2 ++ [t] := by
      intro hlen
      exact List.drop_append_of_le_length hlen
    have hshort : ts.length < 2 → (ts ++ [t]).drop 2 = [] := by
      intro hlen
      refine List.drop_eq_nil_of_le ?_
      simp only [List.length_append, List.length_singleton]
      omega
    refine ⟨?_, ?_, ?_⟩
    · simp only [List.length_append, List.length_singleton, hcount]
      exact Nat.succ_le_succ h.counted
    · by_cases hlen : 2 ≤ ts.length
      · rw [hdrop hlen]
        exact spaced_snoc h.spaced hold
      · rw [hshort (Nat.lt_of_not_le hlen)]
        exact List.Pairwise.nil
    · intro u hu
      by_cases hlen : 2 ≤ ts.length
      · rw [hdrop hlen] at hu
        cases List.mem_append.mp hu with
        | inl hu => exact (hold u hu).trans ((Nat.le_add_right _ _).trans (hd hlen))
        | inr hu =>
          rw [List.mem_singleton.mp hu]
          exact hd hlen
      · rw [hshort (Nat.lt_of_not_le hlen)] at hu
        cases hu

/-- Rejections only add up along a run that accepts no key. -/
theorem rejectionsSinceAccepted_le {st st' : SecurityAccessState} {l : Step}
    (h : Level1 st l st') (ha : ¬ l.keyAccepted) (vs : List (Time × Bool)) :
    rejectionsSinceAccepted vs ≤ rejectionsSinceAccepted (vs ++ verdicts l.trace) := by
  cases h with
  | kept _ _ hv => rw [hv, List.append_nil]
  | reset _ _ hv => rw [hv, List.append_nil]
  | seeded _ _ hv => rw [hv, List.append_nil]
  | rejected _ _ hv _ _ _ =>
    rw [hv, rejectionsSinceAccepted_rejected]
    exact Nat.le_succ _
  | accepted _ _ ha' _ _ => exact absurd ha' ha

theorem paced_run {st st' : SecurityAccessState} {seg : List Step} {vs : List (Time × Bool)}
    (h : Run Level1 st seg st') (hvs : st.attemptCount.toNat ≤ rejectionsSinceAccepted vs)
    (hseg : ∀ l ∈ seg, ¬ l.resets ∧ ¬ l.keyAccepted ∧ Clocked l.trace)
    (hfew : rejectionsSinceAccepted (vs ++ verdicts (traceOf seg)) < 2 ^ 32) :
    Paced (rejectionTimes (verdicts (traceOf seg))) st' := by
  let I : List Step → SecurityAccessState → Prop := fun ls st =>
    (∀ l ∈ ls, ¬ l.resets ∧ ¬ l.keyAccepted ∧ Clocked l.trace) →
    rejectionsSinceAccepted (vs ++ verdicts (traceOf ls)) < 2 ^ 32 →
    st.attemptCount.toNat ≤ rejectionsSinceAccepted (vs ++ verdicts (traceOf ls)) ∧
      Paced (rejectionTimes (verdicts (traceOf ls))) st
  have hrun : I seg st' := by
    refine h.history I ?_ ?_
    · intro _ _
      refine ⟨by simpa [traceOf] using hvs, ?_⟩
      exact ⟨Nat.zero_le _, List.Pairwise.nil, nofun⟩
    · intro ls st l st' ih hl hls hfew
      obtain ⟨hr, ha, hclock⟩ := hls l (by simp)
      rw [traceOf_snoc, verdicts_append, ← List.append_assoc] at hfew ⊢
      have hbefore := (rejectionsSinceAccepted_le hl ha _).trans_lt hfew
      obtain ⟨hcount, hpaced⟩ := ih (fun x hx => hls x (by simp [hx])) hbefore
      rw [rejectionTimes_append]
      exact ⟨attemptCount_step hl hcount, paced_step hpaced hl hr ha hclock hcount hfew⟩
  exact (hrun hseg hfew).2

theorem Clocked.step {ls : List Step} (h : Clocked (traceOf ls)) {l : Step} (hl : l ∈ ls) :
    Clocked l.trace := by
  obtain ⟨a, b, rfl⟩ := List.append_of_mem hl
  rw [traceOf, List.flatMap_append, List.flatMap_cons] at h
  exact h.right.left

/-- In a window of length `w` SEC rejects at most three keys and one more for each lockout that
fits into it, as long as no key is accepted and nothing resets the level. -/
theorem rejected_bound {s : DiagService} {pre seg : List Step}
    (h : Run Does {} (pre ++ seg) s) (hclock : Clocked (traceOf (pre ++ seg)))
    (hreset : ∀ l ∈ seg, ¬ l.resets) (haccepted : ∀ l ∈ seg, ¬ l.keyAccepted)
    (hfew : rejectionsSinceAccepted (verdicts (traceOf (pre ++ seg))) < 2 ^ 32) (a w : Nat) :
    (inWindow a w (rejectionTimes (verdicts (traceOf seg)))).length ≤ 3 + w / lockout := by
  obtain ⟨o, hrun, _⟩ := reach_acts h
  obtain ⟨o₁, hpre, hseg⟩ := hrun.split
  have hcount := attemptCount_run (run_level1 hpre)
  have hall : ∀ l ∈ seg, ¬ l.resets ∧ ¬ l.keyAccepted ∧ Clocked l.trace := by
    intro l hl
    exact ⟨hreset l hl, haccepted l hl, hclock.step (List.mem_append_right _ hl)⟩
  rw [traceOf, List.flatMap_append, ← traceOf, ← traceOf, verdicts_append] at hfew
  have hpaced := paced_run (run_level1 hseg) hcount hall hfew
  exact window_le (by decide) hpaced.spaced a w

/-- A tester that asks for a seed and tries a key. -/
def tryWrongKey (t : Time) : List (Op × Oracle) :=
  [(.processRequest { serviceId := 0x27, subFunction := 0x01 }, obligingNoKey t),
   (.processRequest { serviceId := 0x27, subFunction := 0x02, payload := [0x5A] },
     obligingNoKey t)]

/-- Three keys are rejected, the fourth is refused unjudged, and the last comes when the lockout
ends. -/
def wrongKeyScript : List (Op × Oracle) :=
  tryWrongKey 0 ++ tryWrongKey (millis 1) ++ tryWrongKey (millis 2) ++ tryWrongKey (millis 3) ++
    tryWrongKey (millis 10002)

theorem rejected_bound_wrongKey :
    let seg := (play (play {} startScript).2 wrongKeyScript).1
    verdicts (traceOf seg) =
        [(0, false), (millis 1, false), (millis 2, false), (millis 10002, false)] ∧
      (inWindow 0 (millis 10002) (rejectionTimes (verdicts (traceOf seg)))).length ≤ 3 + 1 := by
  intro seg
  have hrun := (play_run {} startScript).append (play_run (play {} startScript).2 wrongKeyScript)
  have hverdicts : verdicts (traceOf seg) =
      [(0, false), (millis 1, false), (millis 2, false), (millis 10002, false)] := by
    decide +kernel
  refine ⟨hverdicts, ?_⟩
  refine rejected_bound hrun (by decide +kernel) ?_ ?_ (by decide +kernel) 0 (millis 10002)
  · intro l hl
    have hop : l.op ∈ wrongKeyScript.map Prod.fst := by
      have hops : seg.map Step.op = wrongKeyScript.map Prod.fst := rfl
      rw [← hops]
      exact List.mem_map_of_mem hl
    rintro (h | ⟨_, h⟩)
    · rw [h] at hop
      simp [wrongKeyScript, tryWrongKey] at hop
    · rw [h] at hop
      simp [wrongKeyScript, tryWrongKey] at hop
  · rintro l hl ⟨_, t, ht⟩
    obtain ⟨e, he, hv⟩ := List.mem_filterMap.mp ht
    have hmem : (t, true) ∈ verdicts (traceOf seg) :=
      List.mem_filterMap.mpr ⟨e, List.mem_flatMap.mpr ⟨l, hl, he⟩, hv⟩
    rw [hverdicts] at hmem
    simp at hmem

end Diag
end Tbox
