import Readiness.Proofs.Wait.Cadence

/-!
# Range — waits with checked arithmetic

The clock has an end, and the looks of a wait are counted in 32 bits.

* `Wait.checkedRounds` and `Inquiry.checkedRun` are the loop and the whole wait once more, without a
  result as soon as an instant or the counter would leave its range;
* `Inquiry.checkedRun_eq`: a check fails exactly if the cutoff lies beyond the clock or the wait takes
  more looks than the counter can hold;
* `Inquiry.run_stays_in_range`: it does not fail if the cutoff lies before the end of the clock and
  the timers leave room for few enough looks;
* `accepted_pacings_leave_range`: the checks of a pacing ensure neither.
-/

namespace Readiness

namespace Wait

variable {σ α : Type}

/-- The counter of the looks holds numbers below this one. -/
def tickRange : Nat := 0x100000000

/-- The clock can tell the instant. -/
def canTell (instant : Duration) : Bool := instant < clockLimit

/-- The counter can hold the number of a look. -/
def canCount (tick : Nat) : Bool := tick < tickRange

/-- The looks from the instant `now` on, of which the next one has the number `tick`. There is no
result if this number or an instant at which to wake up is out of range. -/
def checkedRounds [Summary α] (pacing : Pacing) (condition : Condition α)
    (observe : Nat → σ → Observation α × σ) (start tick : Nat) (lastObserved : Option String)
    (now : Nat) (source : σ) : Option (Waited σ α) :=
  let deadline := start + pacing.timeoutMillis
  if canCount tick then
    match observe now source with
    | (.never, source) => some (cutOff pacing condition start lastObserved now source)
    | (.after delay result events, source) =>
        let ended := now + delay
        if start + pacing.cutoffMillis < ended then
          some (cutOff pacing condition start lastObserved now source)
        else
          let look : Look α := ⟨now, some (ended, result)⟩
          let events := events ++ lookEvents pacing condition tick (ended - start) result
          match judge pacing condition result with
          | .finish result => some (conclude look events result ended source)
          | .goOn description =>
              if ended < deadline then
                if canTell ((Duration.ofMillis ended).add pacing.interval) then
                  (checkedRounds pacing condition observe start (tick + 1) (some description)
                    (min (ended + pacing.intervalMillis) deadline) source).map (precede look events)
                else none
              else
                some (conclude look events
                  (.error (gaveUp condition (ended - start) (some description))) ended source)
  else none
termination_by start + pacing.timeoutMillis - now
decreasing_by
  have := pacing.intervalMillis_pos
  omega

theorem canCount_eq_filter {tick : Nat} {w : Waited σ α} (single : w.looks.length = 1) :
    (if canCount tick then some w else none) =
      (some w).filter fun w => tick + w.looks.length ≤ tickRange := by
  simp only [Option.filter_some, single, canCount]
  rfl

/-- One more look in front of the others leaves the number of the last one. -/
theorem canCount_precede_eq_filter {tick : Nat} (look : Look α) (events : List Event)
    (rest : Waited σ α) :
    (if canCount tick then
        ((some rest).filter fun w => tick + 1 + w.looks.length ≤ tickRange).map
          (precede look events)
      else none) =
      (some (precede look events rest)).filter fun w => tick + w.looks.length ≤ tickRange := by
  have hlength : tick + (precede look events rest).looks.length = tick + 1 + rest.looks.length := by
    rw [looks_precede, List.length_cons]
    omega
  rw [Option.filter_some, Option.filter_some, hlength]
  by_cases fits : tick + 1 + rest.looks.length ≤ tickRange
  · have counts : canCount tick = true :=
      decide_eq_true (Nat.le_trans (Nat.le_add_right _ _) fits)
    simp only [counts, fits, decide_true, if_true, Option.map_some]
  · simp only [fits, decide_false, Bool.false_eq_true, if_false, Option.map_none, ite_self]

end Wait

open Wait

namespace Inquiry

variable {σ α : Type}

theorem isRepresentable_iff {q : Inquiry σ α} : q.IsRepresentable ↔ q.cutoff < clockLimit :=
  decide_eq_true_iff

theorem deadline_le_cutoff (q : Inquiry σ α) : q.deadline ≤ q.cutoff := Nat.le_add_right _ _

/-- An instant at which to wake up lies before the cutoff. -/
theorem waking_lt_cutoff {q : Inquiry σ α} {ended : Nat}
    (early : ended < q.start + q.pacing.timeoutMillis) :
    (Duration.ofMillis ended).add q.pacing.interval < q.cutoff :=
  Nat.add_lt_add_right (ofMillis_lt_deadline_iff.2 early) _

section Run

variable [Summary α]

/-- The wait with checked arithmetic. -/
def checkedRun (q : Inquiry σ α) : Option (Waited σ α) :=
  if q.deadline < clockLimit then
    if q.cutoff < clockLimit then
      checkedRounds q.pacing q.condition q.observe q.start 1 none q.start q.source
    else none
  else none

/-- Before the end of the clock, only the counter can leave its range. -/
theorem checkedRounds_eq (q : Inquiry σ α) (within : q.cutoff < clockLimit) (tick now : Nat)
    (last : Option String) (source : σ) :
    checkedRounds q.pacing q.condition q.observe q.start tick last now source =
      (some (rounds q.pacing q.condition q.observe q.start tick last now source)).filter
        fun w => tick + w.looks.length ≤ tickRange := by
  -- The cases are the branches of the loop; in each of them the counter is either in range or not.
  fun_induction rounds q.pacing q.condition q.observe q.start tick last now source with
  | case1 tick last now source next hobserve =>
      rw [checkedRounds]
      simp only [hobserve]
      exact canCount_eq_filter rfl
  | case2 tick last now source delay result events next hobserve ended =>
      rename_i late
      rw [checkedRounds]
      simp only [hobserve]
      rw [if_pos late]
      exact canCount_eq_filter rfl
  | case3 tick last now source delay result events next hobserve ended inTime look all final =>
      rename_i hjudge
      rw [checkedRounds]
      simp only [hobserve]
      rw [if_neg inTime]
      simp only [hjudge]
      exact canCount_eq_filter rfl
  | case4 tick last now source deadline delay result events next hobserve ended inTime look all text
      hjudge early =>
      rename_i ih
      have hwaking : canTell ((Duration.ofMillis ended).add q.pacing.interval) = true :=
        decide_eq_true (Nat.lt_trans (waking_lt_cutoff early) within)
      rw [checkedRounds]
      simp only [hobserve]
      rw [if_neg inTime]
      simp only [hjudge]
      rw [if_pos early, if_pos hwaking, ih]
      exact canCount_precede_eq_filter look all _
  | case5 tick last now source deadline delay result events next hobserve ended inTime look all text
      hjudge =>
      rename_i passed
      rw [checkedRounds]
      simp only [hobserve]
      rw [if_neg inTime]
      simp only [hjudge]
      rw [if_neg passed]
      exact canCount_eq_filter rfl

theorem run_of_beyond {q : Inquiry σ α} (beyond : clockLimit ≤ q.cutoff) : q.run = none :=
  if_neg fun representable => Nat.not_lt_of_le beyond (isRepresentable_iff.1 representable)

theorem checkedRun_of_beyond {q : Inquiry σ α} (beyond : clockLimit ≤ q.cutoff) :
    q.checkedRun = none := by
  have hcutoff : ¬ q.cutoff < clockLimit := Nat.not_lt_of_le beyond
  rw [checkedRun, if_neg hcutoff, ite_self]

/-- A check fails exactly if the wait does not return or takes more looks than can be counted. -/
theorem checkedRun_eq (q : Inquiry σ α) :
    q.checkedRun = q.run.filter fun w => canCount w.looks.length := by
  by_cases within : q.cutoff < clockLimit
  · have hrun : q.run =
        some (rounds q.pacing q.condition q.observe q.start 1 none q.start q.source) :=
      if_pos (isRepresentable_iff.2 within)
    have hdeadline : q.deadline < clockLimit := Nat.lt_of_le_of_lt q.deadline_le_cutoff within
    rw [checkedRun, if_pos hdeadline, if_pos within, q.checkedRounds_eq within, hrun]
    simp only [canCount, Nat.add_comm 1, Nat.add_one_le_iff]
  · have beyond := Nat.le_of_not_lt within
    rw [checkedRun_of_beyond beyond, run_of_beyond beyond, Option.filter_none]

/-- A wait takes no more looks than its timers leave room for, and just as many if every answer comes
at once and does not satisfy the condition. -/
theorem Course.looks_le {q : Inquiry σ α} {w : Waited σ α} {k now : Nat} {source : σ}
    {seen : Option (Nat × Except Error α)} (course : Course q 0 w k now source seen) :
    w.looks.length ≤ q.pacing.tickLimit := by
  have hlength := course.length_looks
  have hbound := course.reaches.lt_tickLimit
  omega

theorem checkedRun_of_unmet {q : Inquiry σ α} (within : q.cutoff < clockLimit)
    (unmet : q.InstantlyUnmet) (tooMany : tickRange ≤ q.pacing.tickLimit) : q.checkedRun = none := by
  rcases q.exists_course (isRepresentable_iff.2 within) with ⟨w, k, now, source, seen, hrun, course⟩
  have uncounted : canCount w.looks.length = false := by
    rw [course.length_eq_of_unmet unmet]
    exact decide_eq_false (Nat.not_lt_of_le tooMany)
  rw [checkedRun_eq, hrun, Option.filter_some, uncounted]
  rfl

/-- If the cutoff of a wait lies before the end of the clock and its timers leave room for no more
looks than the counter can hold, no instant and no number of a look leaves its range: the wait with
checked arithmetic returns what the wait without checks does. Beyond the clock neither returns, and
with more room a wait whose condition stays unmet is counted out of range. -/
theorem run_stays_in_range (q : Inquiry σ α) :
    (q.cutoff < clockLimit → q.pacing.tickLimit < tickRange →
      ∃ w, q.run = some w ∧ q.checkedRun = some w ∧ w.looks.length ≤ q.pacing.tickLimit) ∧
    (clockLimit ≤ q.cutoff → q.run = none ∧ q.checkedRun = none) ∧
    (q.cutoff < clockLimit → tickRange ≤ q.pacing.tickLimit → q.InstantlyUnmet →
      q.checkedRun = none) := by
  refine ⟨fun within counts => ?_, fun beyond => ⟨run_of_beyond beyond, checkedRun_of_beyond beyond⟩,
    fun within tooMany unmet => checkedRun_of_unmet within unmet tooMany⟩
  rcases q.exists_course (isRepresentable_iff.2 within) with
    ⟨w, k, now, source, seen, hrun, course⟩
  have counted : canCount w.looks.length = true :=
    decide_eq_true (Nat.lt_of_le_of_lt course.looks_le counts)
  refine ⟨w, hrun, ?_, course.looks_le⟩
  rw [checkedRun_eq, hrun, Option.filter_some, if_pos counted]

end Run

/-! ## Pacings at the limits -/

/-- One millisecond between the looks, for 2³² milliseconds. -/
def hastyPacing : Pacing := ⟨.ofMillis 1, .ofMillis 0x100000000, false, by decide, by decide⟩

/-- The standard interval with the longest timeout that fits in 64 bits. -/
def longestPacing : Pacing :=
  ⟨.ofSecs 2, .ofSecs 0xFFFFFFFFFFFFFFFF, false, Pacing.standard.interval_pos, by decide⟩

def emptyClusterAt (pacing : Pacing) : Inquiry Unit (Option Snapshot) :=
  { emptyCluster with pacing := pacing }

theorem emptyCluster_instantlyUnmet (pacing : Pacing) : (emptyClusterAt pacing).InstantlyUnmet :=
  fun _ _ _ _ => ⟨none, [], rfl, rfl⟩

theorem emptyCluster_stays_in_range :
    emptyCluster.cutoff < clockLimit ∧ emptyCluster.pacing.tickLimit < tickRange ∧
      (∃ w, emptyCluster.checkedRun = some w ∧ w.looks.length ≤ 4) ∧
      clockLimit ≤ (emptyClusterAt longestPacing).cutoff ∧
      (emptyClusterAt longestPacing).run = none ∧
      (emptyClusterAt hastyPacing).cutoff < clockLimit ∧ tickRange ≤ hastyPacing.tickLimit ∧
      (emptyClusterAt hastyPacing).checkedRun = none := by
  have within : emptyCluster.cutoff < clockLimit := by decide
  have counts : emptyCluster.pacing.tickLimit < tickRange := by decide
  have beyond : clockLimit ≤ (emptyClusterAt longestPacing).cutoff := by decide
  have hasty : (emptyClusterAt hastyPacing).cutoff < clockLimit := by decide
  have tooMany : tickRange ≤ hastyPacing.tickLimit := by decide
  rcases (run_stays_in_range emptyCluster).1 within counts with ⟨w, -, hchecked, hlooks⟩
  have hlongest := (run_stays_in_range (emptyClusterAt longestPacing)).2.1 beyond
  have hcounted := (run_stays_in_range (emptyClusterAt hastyPacing)).2.2 hasty tooMany
    (emptyCluster_instantlyUnmet hastyPacing)
  exact ⟨within, counts, ⟨w, hchecked, hlooks⟩, beyond, hlongest.1, hasty, tooMany, hcounted⟩

/-- The longest timeout that settings can have. -/
def longestSettings : Settings :=
  { Settings.standard with pollTimeoutSecs := Settings.secondsLimit - 1 }

/-- The checks of a pacing bound neither the timeout nor the number of intervals in it. -/
theorem accepted_pacings_leave_range :
    longestSettings.pacing = .ok longestPacing ∧
      (∀ (σ α : Type) [Summary α] (q : Inquiry σ α), q.pacing = longestPacing →
        q.run = none ∧ q.checkedRun = none) ∧
      Pacing.make (.ofMillis 1) (.ofMillis 0x100000000) = .ok hastyPacing ∧
      (emptyClusterAt hastyPacing).checkedRun = none := by
  refine ⟨?_, ?_, ?_, ?_⟩
  · exact Pacing.make_eq_ok_iff.2 ⟨by decide, by decide, rfl, rfl, rfl⟩
  · intro σ α _ q hpacing
    have beyond : clockLimit ≤ q.cutoff := by
      have hlong : clockLimit ≤ longestPacing.timeout := by decide
      rw [cutoff, deadline, hpacing]
      exact Nat.le_trans hlong (Nat.le_trans (Nat.le_add_left _ _) (Nat.le_add_right _ _))
    exact ⟨run_of_beyond beyond, checkedRun_of_beyond beyond⟩
  · exact Pacing.make_eq_ok_iff.2 ⟨by decide, by decide, rfl, rfl, rfl⟩
  · exact checkedRun_of_unmet (by decide) (emptyCluster_instantlyUnmet hastyPacing) (by decide)

end Inquiry

end Readiness
