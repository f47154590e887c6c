import Mathlib.Algebra.Order.Floor.Div
import Readiness.Proofs.Wait.Looks
import Readiness.Settings

/-!
# Cadence — when a wait looks, and how often

* `Pacing.Obtainable`: the ways to come by a pacing, and `Pacing.make_eq_ok_iff`: all of them check
  the interval and the timeout;
* `Inquiry.Cadence`: the instants of the looks of a wait. A look follows the one before it after the
  interval, or at the deadline when that is sooner, and it is the last one there;
* `Inquiry.run_keeps_cadence`: every wait keeps it, whatever its observations do.
-/

namespace Readiness

open Wait

/-! ## Obtaining a pacing -/

namespace Pacing

theorem make_eq_ok_iff {interval timeout : Duration} {pacing : Pacing} :
    make interval timeout = .ok pacing ↔
      Duration.zero < interval ∧ interval ≤ timeout ∧ pacing.interval = interval ∧
        pacing.timeout = timeout ∧ pacing.retriesErrors = false := by
  constructor
  · intro h
    unfold make at h
    split at h
    · cases h
    · split at h
      · cases h
      · split at h
        · cases h
        · next positive ordered =>
            cases h
            exact ⟨Nat.pos_of_ne_zero positive, Nat.le_of_not_lt ordered, rfl, rfl, rfl⟩
  · rintro ⟨positive, ordered, rfl, rfl, retries⟩
    have htimeout : ¬ pacing.timeout.nanos = 0 :=
      Nat.pos_iff_ne_zero.1 (Nat.lt_of_lt_of_le positive ordered)
    unfold make
    rw [if_neg htimeout, dif_neg (Nat.pos_iff_ne_zero.1 positive), dif_neg (Nat.not_lt_of_le ordered)]
    cases pacing
    cases retries
    rfl

/-- The ways to come by a pacing. -/
inductive Obtainable : Pacing → Prop where
  | standard : Obtainable standard
  | make {interval timeout : Duration} {pacing : Pacing} (made : make interval timeout = .ok pacing) :
      Obtainable pacing
  | ofTimeout {timeout : Duration} {pacing : Pacing} (made : ofTimeout timeout = .ok pacing) :
      Obtainable pacing
  | retrying {pacing : Pacing} (before : Obtainable pacing) (retry : Bool) :
      Obtainable (pacing.retrying retry)
  | ofSettings {settings : Settings} {pacing : Pacing} (made : settings.pacing = .ok pacing) :
      Obtainable pacing

/-- However a pacing was obtained, its interval is not zero and not longer than its timeout. -/
theorem Obtainable.bounds {pacing : Pacing} (h : pacing.Obtainable) :
    Duration.zero < pacing.interval ∧ pacing.interval ≤ pacing.timeout := by
  have checked {interval timeout : Duration} {pacing : Pacing}
      (made : Pacing.make interval timeout = .ok pacing) :
      Duration.zero < pacing.interval ∧ pacing.interval ≤ pacing.timeout := by
    rcases make_eq_ok_iff.1 made with ⟨positive, ordered, rfl, rfl, -⟩
    exact ⟨positive, ordered⟩
  induction h with
  | standard => exact ⟨by decide, by decide⟩
  | make made => exact checked made
  | ofTimeout made => exact checked made
  | retrying before retry ih => exact ih
  | ofSettings made => exact checked made

/-- The most looks that a wait can take: one at the start, and one for every interval that has begun
before the deadline. -/
def lookLimit (pacing : Pacing) : Nat := pacing.timeout.nanos ⌈/⌉ pacing.interval.nanos + 1

theorem Exact.timeout_nanos_eq {pacing : Pacing} (exact : pacing.Exact) :
    pacing.timeoutMillis * 1000000 = pacing.timeout.nanos :=
  congrArg Duration.nanos exact.2

/-- The most looks that the timers of a wait leave room for. -/
def tickLimit (pacing : Pacing) : Nat := pacing.timeoutMillis ⌈/⌉ pacing.intervalMillis + 1

theorem tickLimit_le_iff {pacing : Pacing} {count : Nat} :
    pacing.tickLimit ≤ count + 1 ↔ pacing.timeoutMillis ≤ pacing.intervalMillis * count := by
  rw [tickLimit, Nat.add_le_add_iff_right, ceilDiv_le_iff_le_mul pacing.intervalMillis_pos]

/-- Exact timers leave room for just the looks of the timeout. -/
theorem Exact.lookLimit_eq {pacing : Pacing} (exact : pacing.Exact) :
    pacing.lookLimit = pacing.tickLimit := by
  have hceil : pacing.timeout.nanos ⌈/⌉ pacing.interval.nanos =
      pacing.timeoutMillis ⌈/⌉ pacing.intervalMillis := by
    refine eq_of_forall_ge_iff fun count => ?_
    rw [ceilDiv_le_iff_le_mul pacing.interval_pos, ceilDiv_le_iff_le_mul pacing.intervalMillis_pos,
      ← exact.nanos_eq, ← exact.timeout_nanos_eq, Nat.mul_right_comm]
    exact Nat.mul_le_mul_right_iff (by decide)
  rw [lookLimit, hceil, tickLimit]

end Pacing

/-! ## Instants -/

theorem Duration.min_ofMillis (s t : Nat) :
    (Duration.ofMillis s).min (.ofMillis t) = .ofMillis (Min.min s t) := by
  rw [Duration.min, Nat.min_def]
  simp only [Duration.ofMillis_le_ofMillis_iff]
  split <;> rfl

namespace Inquiry

variable {σ α : Type}

/-- What is left until the deadline. -/
def timeLeft (q : Inquiry σ α) (now : Nat) : Duration :=
  ⟨q.deadline.nanos - (Duration.ofMillis now).nanos⟩

theorem deadline_eq_of_exact {q : Inquiry σ α} (exact : q.pacing.Exact) :
    q.deadline = .ofMillis (q.start + q.pacing.timeoutMillis) := by
  have htimeout : Duration.ofMillis q.pacing.timeoutMillis = q.pacing.timeout := exact.2
  rw [deadline, ← Duration.ofMillis_add_ofMillis, htimeout]

theorem timeLeft_eq_of_exact {q : Inquiry σ α} (exact : q.pacing.Exact) (now : Nat) :
    q.timeLeft now = .ofMillis (q.start + q.pacing.timeoutMillis - now) := by
  rw [timeLeft, deadline_eq_of_exact exact]
  exact congrArg Duration.mk (Nat.sub_mul _ _ _).symm

/-- A sleep from `ended` on lasts for the interval, or until the deadline. -/
theorem ofMillis_min_eq {q : Inquiry σ α} (exact : q.pacing.Exact) {ended : Nat}
    (early : ended ≤ q.start + q.pacing.timeoutMillis) :
    Duration.ofMillis (min (ended + q.pacing.intervalMillis) (q.start + q.pacing.timeoutMillis)) =
      (Duration.ofMillis ended).add (q.pacing.interval.min (q.timeLeft ended)) := by
  have interval_eq : q.pacing.interval = .ofMillis q.pacing.intervalMillis := exact.1.symm
  rw [timeLeft_eq_of_exact exact, interval_eq, Duration.min_ofMillis,
    Duration.ofMillis_add_ofMillis, Duration.ofMillis_inj]
  omega

namespace Reaches

variable {q : Inquiry σ α} {k now : Nat} {source : σ}

/-- The instants of the observations grow by an interval at least, up to the deadline. -/
theorem spacing_le (h : q.Reaches k now source) :
    min (q.start + k * q.pacing.intervalMillis) (q.start + q.pacing.timeoutMillis) ≤ now := by
  induction k generalizing now source with
  | zero =>
      cases h.1
      omega
  | succ k ih =>
      rcases h.prev with ⟨before, state, ended, result, hbefore, hended, -, rfl⟩
      have hspacing := ih hbefore
      have hlater := Observation.le_of_completed hended
      rw [Nat.succ_mul]
      omega

/-- When every observation completes at once, they grow by just an interval. -/
theorem spacing_eq (h : q.Reaches k now source)
    (instant : ∀ k now source, q.Reaches k now source →
      ∃ result events, (q.observe now source).1 = .after 0 result events) :
    now = min (q.start + k * q.pacing.intervalMillis) (q.start + q.pacing.timeoutMillis) := by
  induction k generalizing now source with
  | zero =>
      cases h.1
      omega
  | succ k ih =>
      rcases h.prev with ⟨before, state, ended, result, hbefore, hended, -, rfl⟩
      have hspacing := ih hbefore
      rcases instant k before state hbefore with ⟨other, events, hobserve⟩
      rw [hobserve] at hended
      cases hended
      rw [Nat.succ_mul]
      omega

/-- An observation that is followed by another one begins before the deadline. -/
theorem lt_of_undecided {j : Nat} (h : q.Reaches k now source) (undecided : q.Undecided j)
    (before : k < j) : now < q.start + q.pacing.timeoutMillis := by
  rcases undecided k before with ⟨ended, result, hcompletion, early, -⟩
  rw [completion_of_tickAt h.1] at hcompletion
  have hlater := Observation.le_of_completed hcompletion
  have hearly := ofMillis_lt_deadline_iff.1 early
  omega

theorem lt_tickLimit (h : q.Reaches k now source) : k < q.pacing.tickLimit := by
  cases k with
  | zero => exact Nat.succ_pos _
  | succ k =>
      rcases h.prev with ⟨before, state, -, -, hbefore, -⟩
      have hearly := hbefore.lt_of_undecided h.2 (Nat.lt_succ_self k)
      have hspacing := hbefore.spacing_le
      refine Nat.lt_of_not_le fun hlimit => ?_
      have hlong := Pacing.tickLimit_le_iff.1 hlimit
      rw [Nat.mul_comm] at hlong
      omega

end Reaches

/-! ## Cadence -/

/-- The instants of the looks of a wait. -/
structure Cadence (q : Inquiry σ α) (looks : List (Look α)) : Prop where
  shown : ∀ (j : Nat) (look : Look α), looks[j]? = some look → q.Shows j look
  first : looks.head?.map (·.started) = some q.start
  inTime : ∀ look ∈ looks, Duration.ofMillis look.started ≤ q.deadline
  -- A look begins a certain time after the one before it has completed.
  slept : ∀ (j : Nat) (earlier later : Look α), looks[j]? = some earlier → looks[j + 1]? = some later →
    ∃ ended result, earlier.seen = some (ended, result) ∧
      Duration.ofMillis later.started =
        (Duration.ofMillis ended).add (q.pacing.interval.min (q.timeLeft ended))
  apart : ∀ (j : Nat) (earlier later : Look α), looks[j]? = some earlier → looks[j + 1]? = some later →
    (Duration.ofMillis earlier.started).add q.pacing.interval ≤ Duration.ofMillis later.started ∨
      Duration.ofMillis later.started = q.deadline
  -- At most one look begins at the deadline or later.
  single : ∀ (i j : Nat) (one other : Look α), looks[i]? = some one → looks[j]? = some other →
    q.deadline ≤ Duration.ofMillis one.started → q.deadline ≤ Duration.ofMillis other.started →
      i = j
  bounded : looks.length ≤ q.pacing.lookLimit

section Run

variable [Summary α] {q : Inquiry σ α} {w : Waited σ α}

theorem cadence_of_run (exact : q.pacing.Exact) (hrun : q.run = some w) {k now : Nat} {source : σ}
    {seen : Option (Nat × Except Error α)} (course : Course q 0 w k now source seen) :
    q.Cadence w.looks := by
  have shown {j : Nat} {look : Look α} (h : w.looks[j]? = some look) : q.Shows j look :=
    looks_shown hrun h
  have interval_eq : q.pacing.interval = .ofMillis q.pacing.intervalMillis := exact.1.symm
  have deadline_eq := deadline_eq_of_exact exact
  have hlength := course.length_looks
  constructor
  case shown => exact fun j look => shown
  case first =>
    have hpos : 0 < w.looks.length := by omega
    rcases shown (List.getElem?_eq_getElem hpos) with ⟨⟨first, reaches⟩, -⟩
    rw [List.head?_eq_getElem?, List.getElem?_eq_getElem hpos, Option.map_some]
    exact congrArg some (congrArg Prod.fst (Option.some.inj reaches.1)).symm
  case inTime =>
    intro look hmem
    rcases List.mem_iff_getElem?.1 hmem with ⟨j, hlook⟩
    rcases shown hlook with ⟨⟨state, reaches⟩, -⟩
    rw [deadline_eq, Duration.ofMillis_le_ofMillis_iff]
    exact (tickAt_bounds reaches.1).2
  case slept =>
    intro j earlier later hearlier hlater
    rcases (shown hearlier).seen_of_next (shown hlater) with
      ⟨ended, result, hseen, -, early, hstarted⟩
    exact ⟨ended, result, hseen, hstarted ▸ ofMillis_min_eq exact (Nat.le_of_lt early)⟩
  case apart =>
    intro j earlier later hearlier hlater
    rcases (shown hearlier).seen_of_next (shown hlater) with ⟨ended, -, -, forward, -, hstarted⟩
    rw [interval_eq, deadline_eq, Duration.ofMillis_add_ofMillis,
      Duration.ofMillis_le_ofMillis_iff, Duration.ofMillis_inj]
    omega
  case single =>
    intro i j one other hone hother late later
    rcases shown hone with ⟨⟨_, reaches⟩, -⟩
    rcases shown hother with ⟨⟨_, reaches'⟩, -⟩
    rw [deadline_eq, Duration.ofMillis_le_ofMillis_iff] at late later
    -- A look before another one begins before the deadline.
    rcases Nat.lt_trichotomy i j with before | same | after
    · exact absurd (reaches.lt_of_undecided reaches'.2 before) (Nat.not_lt_of_le late)
    · exact same
    · exact absurd (reaches'.lt_of_undecided reaches.2 after) (Nat.not_lt_of_le later)
  case bounded =>
    have := course.reaches.lt_tickLimit
    rw [exact.lookLimit_eq]
    omega

/-- Every observation that the wait makes completes at once, with a state that does not satisfy the
condition. -/
def InstantlyUnmet (q : Inquiry σ α) : Prop :=
  ∀ k now source, q.Reaches k now source → ∃ state events,
    (q.observe now source).1 = .after 0 (.ok state) events ∧ q.condition.holds state = false

theorem Course.length_eq_of_unmet {k now : Nat} {source : σ} {seen : Option (Nat × Except Error α)}
    (course : Course q 0 w k now source seen) (unmet : q.InstantlyUnmet) :
    w.looks.length = q.pacing.tickLimit := by
  have hspacing := course.reaches.spacing_eq fun k now source reaches => by
    rcases unmet k now source reaches with ⟨state, events, hobserve, -⟩
    exact ⟨_, _, hobserve⟩
  rcases unmet k now source course.reaches with ⟨state, events, hobserve, fails⟩
  have hcompleted : (q.observe now source).1.completed now = some (now, .ok state) := by
    rw [hobserve]
    rfl
  -- The wait closes with this look although it decides nothing, so the deadline has come.
  have hpassed : q.start + q.pacing.timeoutMillis ≤ now := Nat.le_of_not_lt fun early =>
    course.closing.not_continues hcompleted early fails
  have hlimit : q.pacing.tickLimit ≤ k + 1 := by
    rw [Pacing.tickLimit_le_iff, Nat.mul_comm]
    omega
  have hlength := course.length_looks
  have hbound := course.reaches.lt_tickLimit
  omega

/-- Every obtainable pacing has an interval that is not zero and not longer than its timeout, and a
wait with it keeps the cadence: its source is asked at the instants of its looks and at no others,
at most once for every interval that begins before the deadline and once more, and that many times
if every answer comes at once and does not satisfy the condition. -/
theorem run_keeps_cadence (q : Inquiry σ α) (obtainable : q.pacing.Obtainable) :
    Duration.zero < q.pacing.interval ∧ q.pacing.interval ≤ q.pacing.timeout ∧
      (q.IsRepresentable → q.pacing.Exact →
        ∃ w, q.run = some w ∧ q.noting.run = some (w.noted []) ∧ q.Cadence w.looks ∧
          (q.InstantlyUnmet → w.looks.length = q.pacing.lookLimit)) := by
  rcases obtainable.bounds with ⟨positive, ordered⟩
  refine ⟨positive, ordered, fun representable exact => ?_⟩
  rcases q.exists_course representable with ⟨w, k, now, source, seen, hrun, course⟩
  refine ⟨w, hrun, ?_, cadence_of_run exact hrun course, fun unmet => ?_⟩
  · rw [run_noting, hrun]
    rfl
  · rw [exact.lookLimit_eq, course.length_eq_of_unmet unmet]

/-- Nothing is ever found. -/
def emptyCluster : Inquiry Unit (Option Snapshot) where
  pacing := ⟨.ofSecs 2, .ofSecs 5, true, by decide, by decide⟩
  condition := ⟨"present", Option.isSome⟩
  observe _ source := (.after 0 (.ok none) [], source)
  start := 0
  source := ()

theorem emptyCluster_is_asked_four_times :
    emptyCluster.pacing.Obtainable ∧ emptyCluster.IsRepresentable ∧ emptyCluster.pacing.Exact ∧
      emptyCluster.InstantlyUnmet ∧
      ∃ w : Waited Unit (Option Snapshot), emptyCluster.noting.run = some (w.noted []) ∧
        emptyCluster.Cadence w.looks ∧ w.looks.length = 4 := by
  have made : Pacing.make (.ofSecs 2) (.ofSecs 5) =
      .ok ⟨.ofSecs 2, .ofSecs 5, false, by decide, by decide⟩ :=
    Pacing.make_eq_ok_iff.2 ⟨by decide, by decide, rfl, rfl, rfl⟩
  have obtainable : emptyCluster.pacing.Obtainable :=
    .retrying (.make made) true
  have representable : emptyCluster.IsRepresentable := by decide
  have exact : emptyCluster.pacing.Exact := by decide
  have unmet : emptyCluster.InstantlyUnmet := fun _ _ _ _ => ⟨none, [], rfl, rfl⟩
  rcases run_keeps_cadence emptyCluster obtainable with ⟨-, -, keeps⟩
  rcases keeps representable exact with ⟨w, -, hnoting, cadence, count⟩
  exact ⟨obtainable, representable, exact, unmet, w, hnoting, cadence, count unmet⟩

end Run

end Inquiry

end Readiness
