import Readiness.Proofs.Wait.Record

/-!
# Looks — the record that a wait leaves

* `Inquiry.Shows`: a look records an observation. It began when the observation did, and it has seen
  the observation complete unless that came after the cutoff;
* `Inquiry.noting` is the same inquiry, of a source that also notes the instants at which it is
  asked;
* `Inquiry.looks_shown`: the looks of a wait record its observations one by one, and
  `Inquiry.run_noting`: the source was asked at their instants and at no others.
-/

namespace Readiness

open Wait

variable {σ α : Type}

/-- A wait whose source has noted the instants of the looks behind earlier ones. -/
def Waited.noted (w : Waited σ α) (earlier : List Nat) : Waited (σ × List Nat) α :=
  ⟨⟨w.result, w.finished, (w.source, earlier ++ w.looks.map (·.started)), w.events⟩, w.looks⟩

namespace Inquiry

/-- The look records observation `k`, which the wait makes. -/
def Shows (q : Inquiry σ α) (k : Nat) (look : Look α) : Prop :=
  (∃ source, q.Reaches k look.started source) ∧
    look.seen = (q.completion k).filter (·.1 ≤ q.start + q.pacing.cutoffMillis)

theorem filter_eq_some_of_le {limit ended : Nat} {result : Except Error α} (h : ended ≤ limit) :
    (some (ended, result)).filter (·.1 ≤ limit) = some (ended, result) := by
  rw [Option.filter_some, if_pos (decide_eq_true h)]

theorem filter_eq_none_of_lt {limit ended : Nat} {result : Except Error α} (h : limit < ended) :
    (some (ended, result)).filter (·.1 ≤ limit) = none := by
  rw [Option.filter_some, if_neg (by simpa using Nat.not_le_of_lt h)]

namespace Shows

variable {q : Inquiry σ α} {k : Nat} {look earlier later : Look α}

/-- An observation that is followed by another one was seen to complete before the deadline. -/
theorem seen_of_next (h : q.Shows k earlier) (next : q.Shows (k + 1) later) :
    ∃ ended result, earlier.seen = some (ended, result) ∧
      earlier.started ≤ ended ∧ ended < q.start + q.pacing.timeoutMillis ∧
      later.started = min (ended + q.pacing.intervalMillis) (q.start + q.pacing.timeoutMillis) := by
  rcases next with ⟨⟨source, reaches⟩, -⟩
  rcases h with ⟨⟨state, hearlier⟩, hseen⟩
  rcases reaches.2 k (Nat.lt_succ_self k) with ⟨ended, result, hcompletion, early, -⟩
  rcases reaches.prev with ⟨before, other, ended', result', hbefore, hended, -, hlater⟩
  -- Both are the one completion of observation `k`.
  cases hearlier.1.symm.trans hbefore.1
  have hsame := completion_of_tickAt hbefore.1
  rw [hcompletion, hended] at hsame
  cases hsame
  have hbound := ofMillis_lt_deadline_iff.1 early
  have inTime : ended ≤ q.start + q.pacing.cutoffMillis :=
    Nat.le_trans (Nat.le_of_lt hbound) (Nat.add_le_add_left q.pacing.timeoutMillis_le_cutoffMillis _)
  refine ⟨ended, result, ?_, Observation.le_of_completed hended, hbound, hlater⟩
  rw [hseen, hcompletion, filter_eq_some_of_le inTime]

end Shows

/-- The only look of the rounds that begin and end with observation `k`. -/
theorem Reaches.shows_only {q : Inquiry σ α} {k now : Nat} {source : σ}
    {seen : Option (Nat × Except Error α)} (reaches : q.Reaches k now source)
    (hseen : seen = ((q.observe now source).1.completed now).filter
      (·.1 ≤ q.start + q.pacing.cutoffMillis))
    {j : Nat} {look : Look α} (hlook : [(⟨now, seen⟩ : Look α)][j]? = some look) :
    q.Shows (k + j) look := by
  cases j with
  | zero =>
      cases hlook
      exact ⟨⟨source, reaches⟩, by rw [hseen, Nat.add_zero, completion_of_tickAt reaches.1]⟩
  | succ j => cases hlook

section Rounds

variable [Summary α]

/-- The looks from observation `k` on record the observations from there on. -/
theorem rounds_shown (q : Inquiry σ α) (tick : Nat) {k now : Nat} {last : Option String} {source : σ}
    (reaches : q.Reaches k now source) (j : Nat) (look : Look α)
    (hlook : (rounds q.pacing q.condition q.observe q.start tick last now source).looks[j]? =
      some look) : q.Shows (k + j) look := by
  -- The cases are the branches of the loop; only the first look is about observation `k` itself.
  fun_induction rounds q.pacing q.condition q.observe q.start tick last now source
    generalizing k j with
  | case1 tick last now source next hobserve =>
      refine reaches.shows_only ?_ hlook
      rw [hobserve]
      rfl
  | case2 tick last now source delay result events next hobserve ended =>
      rename_i late
      refine reaches.shows_only ?_ hlook
      rw [hobserve, Observation.completed, filter_eq_none_of_lt late]
  | case3 tick last now source delay result events next hobserve ended inTime look' all final =>
      refine reaches.shows_only ?_ hlook
      rw [hobserve, Observation.completed, filter_eq_some_of_le (Nat.le_of_not_lt inTime)]
  | case4 tick last now source deadline delay result events next hobserve ended inTime look' all text
      hjudge early =>
      rename_i ih
      rcases judge_goOn hjudge with ⟨continues, -⟩
      have hnext := reaches.next hobserve rfl early continues
      rw [looks_precede] at hlook
      cases j with
      | zero =>
          rw [List.getElem?_cons_zero] at hlook
          refine reaches.shows_only (j := 0) ?_ hlook
          rw [hobserve, Observation.completed, filter_eq_some_of_le (Nat.le_of_not_lt inTime)]
      | succ j =>
          rw [List.getElem?_cons_succ] at hlook
          have hshown := ih hnext j hlook
          rwa [Nat.add_right_comm k 1 j] at hshown
  | case5 tick last now source deadline delay result events next hobserve ended inTime look' all text
      hjudge =>
      refine reaches.shows_only ?_ hlook
      rw [hobserve, Observation.completed, filter_eq_some_of_le (Nat.le_of_not_lt inTime)]

theorem looks_shown {q : Inquiry σ α} {w : Waited σ α} (hrun : q.run = some w) {j : Nat}
    {look : Look α} (hlook : w.looks[j]? = some look) : q.Shows j look := by
  unfold run Wait.run at hrun
  split at hrun
  · cases hrun
    have := q.rounds_shown 1 (Reaches.start q) j look hlook
    rwa [Nat.zero_add] at this
  · cases hrun

/-! ## Noting the instants -/

/-- The same inquiry, of a source that also notes the instants at which it is asked. -/
def noting (q : Inquiry σ α) : Inquiry (σ × List Nat) α where
  pacing := q.pacing
  condition := q.condition
  observe now s :=
    let (answer, next) := q.observe now s.1
    (answer, next, s.2 ++ [now])
  start := q.start
  source := (q.source, [])

/-- The source is asked at the instants of the looks. -/
theorem run_noting (q : Inquiry σ α) : q.noting.run = q.run.map (·.noted []) := by
  have hrecorded : q.noting.run = _ := q.run_recording (fun now _ => now) []
  rw [hrecorded]
  cases hrun : q.run with
  | none => rfl
  | some w =>
      rw [Option.map_some, Option.map_some, Waited.noted, looks_started hrun]
      rfl

end Rounds

end Inquiry

end Readiness
