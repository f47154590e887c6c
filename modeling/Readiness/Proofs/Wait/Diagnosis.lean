import Readiness.Proofs.Wait.Looks
import Readiness.Proofs.Wait.Outcome

/-!
# Diagnosis — what a wait that gives up says it has seen

* `completions` are the results of the looks that saw their observation complete, and `diagnosis`
  is the text about the last one of them;
* `Inquiry.run_tells_last_completion`: a wait that gives up of its own accord reports its condition
  and this text, and a wait that hands an error on hands on the last one that it saw.
-/

namespace Readiness

open Wait

section Looks

variable {α : Type}

/-- The results of the observations that were seen to complete. -/
def completions (looks : List (Look α)) : List (Except Error α) :=
  looks.filterMap fun look => look.seen.map (·.2)

/-- What there is to say of the last observation that was seen to complete. -/
def diagnosis [Summary α] (looks : List (Look α)) : String :=
  (completions looks).getLast?.elim "observation did not complete" describe

theorem getLast?_completions {looks : List (Look α)} {now ended : Nat} {result : Except Error α}
    (last : looks.getLast? = some ⟨now, some (ended, result)⟩) :
    (completions looks).getLast? = some result := by
  rcases List.getLast?_eq_some_iff.1 last with ⟨front, rfl⟩
  simp only [completions, List.filterMap_append, List.filterMap_cons, List.filterMap_nil,
    Option.map_some, List.getLast?_append, List.getLast?_singleton, Option.some_or]

/-- A last look that was cut off adds nothing to the completions before it. -/
theorem completions_of_cutOff {looks : List (Look α)} {now : Nat}
    (last : looks.getLast? = some ⟨now, none⟩) :
    completions looks = completions looks.dropLast := by
  rcases List.getLast?_eq_some_iff.1 last with ⟨front, rfl⟩
  simp only [completions, List.filterMap_append, List.filterMap_cons, List.filterMap_nil,
    Option.map_none, List.append_nil, List.dropLast_concat]

end Looks

namespace Inquiry

variable {σ α : Type} [Summary α] {q : Inquiry σ α} {w : Waited σ α} {k now : Nat} {source : σ}

theorem Course.diagnosis_of_cutOff (course : Course q 0 w k now source none)
    (hrun : q.run = some w) :
    diagnosis w.looks = (q.lastSeen k).getD "observation did not complete" := by
  have hlength := course.length_looks
  rw [diagnosis, completions_of_cutOff course.lastLook]
  cases k with
  | zero =>
      -- The only look was cut off.
      have hnone : w.looks.dropLast = [] := by
        rw [← List.length_eq_zero_iff, List.length_dropLast]
        omega
      rw [hnone]
      rfl
  | succ k =>
      -- The look before the last one was seen to complete, as the wait went on after it.
      have hbefore : k < w.looks.length := by omega
      have hlast : k + 1 < w.looks.length := by omega
      have hearlier := looks_shown hrun (List.getElem?_eq_getElem hbefore)
      have hlater := looks_shown hrun (List.getElem?_eq_getElem hlast)
      rcases hearlier.seen_of_next hlater with ⟨ended, result, hseen, -⟩
      have hcompletion : q.completion k = some (ended, result) :=
        (Option.filter_eq_some_iff.1 (hearlier.2.symm.trans hseen)).1
      have hlook : w.looks.dropLast.getLast? = some ⟨w.looks[k].started, some (ended, result)⟩ := by
        have hcount : w.looks.dropLast.length - 1 = k := by
          rw [List.length_dropLast]
          omega
        rw [List.getLast?_eq_getElem?, hcount, List.getElem?_dropLast, if_pos (by omega),
          List.getElem?_eq_getElem hbefore, ← hseen]
      rw [getLast?_completions hlook, lastSeen, hcompletion]
      rfl

theorem Course.diagnosis_of_timeout {seen : Option (Nat × Except Error α)} {description : String}
    {elapsed : Duration} {last : Option String} (course : Course q 0 w k now source seen)
    (hrun : q.run = some w) (timeout : w.result = .error (.timeout description elapsed last))
    (own : ¬ q.HandsOn w) :
    description = q.condition.description ∧ last = some (diagnosis w.looks) := by
  have hclosing := course.closing
  have hlook := course.lastLook
  cases seen with
  | none =>
      have hdiagnosis := course.diagnosis_of_cutOff hrun
      rw [timeout] at hclosing
      generalize w.finished = finished at hclosing
      cases hclosing with
      | cutOff late => exact ⟨rfl, congrArg some hdiagnosis.symm⟩
  | some completion =>
      rw [timeout] at hclosing
      generalize w.finished = finished at hclosing
      cases hclosing with
      | decided completes inTime decides =>
          -- The timeout is an error of the observation, which is handed on.
          have retries : q.pacing.retriesErrors = false := Bool.eq_false_iff.2 decides
          exact absurd ⟨retries, _, hlook, _, _, rfl⟩ own
      | expired completes inTime continues passed =>
          refine ⟨rfl, ?_⟩
          rw [diagnosis, getLast?_completions hlook]
          rfl

/-- A wait that fails on an observation fails with the error of this one, the last to complete. -/
theorem Course.result_of_handsOn {seen : Option (Nat × Except Error α)}
    (course : Course q 0 w k now source seen) (handsOn : q.HandsOn w) :
    ∃ error, w.result = .error error ∧ (completions w.looks).getLast? = some (.error error) := by
  rcases handsOn with ⟨retries, look, hlast, ended, error, hseen⟩
  have hlook := course.lastLook
  rw [Option.mem_def, hlook, Option.some.injEq] at hlast
  subst hlast
  cases hseen
  refine ⟨error, ?_, getLast?_completions hlook⟩
  have hclosing := course.closing
  generalize w.result = final, w.finished = finished at hclosing ⊢
  cases hclosing with
  | decided completes inTime decides => rfl
  | expired completes inTime continues passed =>
      -- An error that is not retried does not leave a wait undecided.
      exact absurd (retries.symm.trans continues) Bool.false_ne_true

/-- A wait that gives up of its own accord reports its condition and the last observation that it
saw complete, or that none did. A wait that does not retry errors hands on, unchanged, the error
with which its last observation completed. -/
theorem run_tells_last_completion (q : Inquiry σ α) (representable : q.IsRepresentable) :
    ∃ w, q.run = some w ∧ q.noting.run = some (w.noted []) ∧
      (∀ (j : Nat) (look : Look α), w.looks[j]? = some look → q.Shows j look) ∧
      (∀ description elapsed last, w.result = .error (.timeout description elapsed last) →
        ¬ q.HandsOn w →
          description = q.condition.description ∧ last = some (diagnosis w.looks)) ∧
      (q.HandsOn w → ∃ error, w.result = .error error ∧
        (completions w.looks).getLast? = some (.error error)) := by
  rcases q.exists_course representable with ⟨w, k, now, source, seen, hrun, course⟩
  refine ⟨w, hrun, ?_, fun j look => looks_shown hrun, ?_, course.result_of_handsOn⟩
  · rw [run_noting, hrun]
    rfl
  · exact fun description elapsed last timeout own => course.diagnosis_of_timeout hrun timeout own

/-- An error that is retried, then a state, and then nothing. -/
def flakyScript : Inquiry (Script (Option Snapshot)) (Option Snapshot) where
  pacing := ⟨.ofSecs 4, .ofSecs 20, true, by decide, by decide⟩
  condition := ⟨"present", Option.isSome⟩
  observe _ script :=
    let (step, rest) := Script.next none script
    (step.observe, rest)
  start := 0
  source := [.fail 0 (.io "reset"), .answer 0 none, .hang]

theorem flakyScript_tells_of_the_state :
    flakyScript.IsRepresentable ∧ ∃ w, flakyScript.run = some w ∧
      w.result = .error (.timeout "present" (.ofSecs 24) (some "absent")) ∧
      diagnosis w.looks = "absent" := by
  have representable : flakyScript.IsRepresentable := by decide
  have hticks : flakyScript.tickAt 1 = some (4000, [.answer 0 none, .hang]) ∧
      flakyScript.tickAt 2 = some (8000, [.hang]) := by
    simp [tickAt, flakyScript, Script.next, ScriptStep.observe, Observation.completed,
      Pacing.intervalMillis, Pacing.timeoutMillis, Duration.timerMillis, Duration.ofSecs]
  have hsecond : flakyScript.completion 1 = some (4000, .ok none) := completion_of_tickAt hticks.1
  have hthird : flakyScript.completion 2 = none := completion_of_tickAt hticks.2
  rcases flakyScript.exists_course representable with ⟨w, k, now, source, seen, hrun, course⟩
  -- The wait goes on after the error and after the state, and not after the silence.
  have hresult : w.result = .error (.timeout "present" (.ofSecs 24) (some "absent")) := by
    rcases course with ⟨⟨htick, undecided⟩, closing, -, -, -⟩
    obtain rfl | rfl | rfl | hmore : k = 0 ∨ k = 1 ∨ k = 2 ∨ 2 < k := by omega
    · cases htick
      exact absurd rfl (closing.not_continues rfl (by decide))
    · cases hticks.1.symm.trans htick
      exact absurd rfl (closing.not_continues rfl (by decide))
    · cases hticks.2.symm.trans htick
      have hlast : flakyScript.lastSeen 2 = some "absent" := by
        rw [lastSeen, hsecond]
        rfl
      rw [hlast] at closing
      generalize w.result = final, w.finished = finished at closing ⊢
      cases closing with
      | cutOff late => rfl
      | decided completes inTime decides => cases completes
      | expired completes inTime continues passed => cases completes
    · rcases undecided 2 hmore with ⟨ended, result, hcompletion, -⟩
      cases hthird.symm.trans hcompletion
  rcases run_tells_last_completion flakyScript representable with ⟨other, hother, -, -, tells, -⟩
  cases hrun.symm.trans hother
  have own : ¬ flakyScript.HandsOn w := fun h => Bool.noConfusion h.1
  rcases tells _ _ _ hresult own with ⟨-, hlast⟩
  exact ⟨representable, w, hrun, hresult, (Option.some.inj hlast).symm⟩

/-- A timeout that is handed on is about another wait, and may say nothing of an observation. -/
theorem nestedTimeout_tells_of_another_wait :
    nestedTimeout.IsRepresentable ∧ ∃ w description elapsed last, nestedTimeout.run = some w ∧
      w.result = .error (.timeout description elapsed last) ∧
      description ≠ nestedTimeout.condition.description ∧ last = none := by
  have representable : nestedTimeout.IsRepresentable := by decide
  rcases nestedTimeout.exists_course representable with ⟨w, k, now, source, seen, hrun, course⟩
  have hresult : w.result = .error (.timeout "inner" .zero none) :=
    (course.eq_of_decides (m := 0) (fun j hj => absurd hj (Nat.not_lt_zero j)) rfl (by decide)
      (by simp [Continues, nestedTimeout])).2.1
  exact ⟨representable, w, _, _, _, hrun, hresult, by decide, rfl⟩

end Inquiry

end Readiness
