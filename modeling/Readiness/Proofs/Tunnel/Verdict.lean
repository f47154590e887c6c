import Readiness.Tunnel.Probe

/-!
# Verdict — what a probe makes of the remote side

A probe races the attempt to open a stream, the failure report, the first read and two timers. This
file says who wins:

* `Probe.Watched` has one rule for each way in which an open stream with a report is judged, and
  `Probe.watch_eq_iff` says that the computed verdict is the one of these rules;
* `Probe.Judged` does the same for an attempt to open a stream, without a deadline, and
  `Probe.Ruling` sets the deadline: `Probe.verdict_eq_iff`;
* `Probe.verdict_le`: the verdict falls by the deadline, whatever the remote side does.

Offsets are counted in milliseconds, from the opening of the stream in `Watched` and from the start of
the attempt otherwise.
-/

namespace Readiness

namespace Probe

variable {settle offset ended : Nat} {remote : RemoteEnd} {report : Report} {verdict : ProbeEnd}

/-! ## Notices -/

/-- When the first read of a stream ends, and with what. -/
def firstRead (remote : RemoteEnd) : Option (Nat × Arrival) := remote.arrivals.head?

/-- No message is delivered up to an offset. -/
def Unreported (report : Report) (offset : Nat) : Prop :=
  ∀ f message, report = .message f message → offset < f

/-- No read ends up to an offset. -/
def Unread (remote : RemoteEnd) (offset : Nat) : Prop :=
  ∀ r arrival, firstRead remote = some (r, arrival) → offset < r

theorem ofStream_eq (remote : RemoteEnd) :
    ofStream remote = ((firstRead remote).map fun read => (read.1, Notice.arrived read.2)).toList := by
  unfold ofStream firstRead
  cases remote.arrivals with
  | nil => rfl
  | cons first rest => rfl

/-- The first listed notice wins at equal offsets. -/
theorem earliest_cons_of_le {last notice : Nat × Notice} {rest : List (Nat × Notice)}
    (h : notice.1 ≤ (earliest last rest).1) : earliest last (notice :: rest) = notice := by
  have hnot : ¬ (earliest last rest).1 < notice.1 := Nat.not_lt_of_le h
  simp only [earliest, hnot, if_false]

theorem earliest_cons_of_lt {last notice : Nat × Notice} {rest : List (Nat × Notice)}
    (h : (earliest last rest).1 < notice.1) :
    earliest last (notice :: rest) = earliest last rest := by
  simp only [earliest, h, if_true]

/-- Notices that come later than all others do not count. -/
theorem earliest_append_of_lt {last : Nat × Notice} {first rest : List (Nat × Notice)}
    (later : ∀ notice ∈ first, (earliest last rest).1 < notice.1) :
    earliest last (first ++ rest) = earliest last rest := by
  induction first with
  | nil => rfl
  | cons notice others ih =>
      rcases List.forall_mem_cons.1 later with ⟨hnotice, hothers⟩
      have hrest := ih hothers
      exact (earliest_cons_of_lt (hrest ▸ hnotice)).trans hrest

theorem earliest_of_read {r : Nat} {arrival : Arrival}
    (read : firstRead remote = some (r, arrival)) (inTime : r ≤ settle) :
    earliest (settle, .timeUp) (ofStream remote) = (r, .arrived arrival) := by
  rw [ofStream_eq, read]
  exact earliest_cons_of_le inTime

theorem earliest_of_unread (unread : Unread remote settle) :
    earliest (settle, .timeUp) (ofStream remote) = (settle, .timeUp) := by
  rw [ofStream_eq]
  cases hread : firstRead remote with
  | none => rfl
  | some read => exact earliest_cons_of_lt (unread read.1 read.2 hread)

/-- Without a message in time, a report has no say, apart from its own end. -/
theorem earliest_of_unreported {last next : Nat × Notice} {rest : List (Nat × Notice)}
    (hnext : earliest last rest = next) (unreported : Unreported report next.1) :
    earliest last (ofReport report ++ rest) = next ∨
      ∃ f, report = .dropped f ∧ earliest last (ofReport report ++ rest) = (f, .unreported) := by
  subst hnext
  cases report with
  | message f message => exact .inl (earliest_cons_of_lt (unreported f message rfl))
  | dropped f =>
      rcases Nat.lt_or_ge (earliest last rest).1 f with hlate | hearly
      · exact .inl (earliest_cons_of_lt hlate)
      · exact .inr ⟨f, rfl, earliest_cons_of_le hearly⟩
  | silent => exact .inl rfl

/-! ## Open streams -/

/-- The rules by which an open stream that carries a report is judged. At equal offsets the report
comes first, then the read, then the end of the quiet period. -/
inductive Watched (settle : Nat) (remote : RemoteEnd) (report : Report) : Nat → ProbeEnd → Prop
  /-- A message is delivered by the first read and in the quiet period. -/
  | reported {f : Nat} {message : String} (delivered : report = .message f message)
      (first : ∀ r arrival, firstRead remote = some (r, arrival) → f ≤ r) (inTime : f ≤ settle) :
      Watched settle remote report f (.failed message)
  /-- The first read brings bytes. -/
  | answered {r : Nat} {bytes : Bytes} (read : firstRead remote = some (r, .data bytes))
      (unreported : Unreported report r) (inTime : r ≤ settle) :
      Watched settle remote report r .ready
  /-- The first read fails. -/
  | broken {r : Nat} {reason : String} (read : firstRead remote = some (r, .failure reason))
      (unreported : Unreported report r) (inTime : r ≤ settle) :
      Watched settle remote report r (.failed reason)
  /-- The stream ends, and the message that explains it trails. -/
  | trailed {r f : Nat} {message : String} (read : firstRead remote = some (r, .eof))
      (inTime : r ≤ settle) (delivered : report = .message f message) (later : r < f)
      (soon : f ≤ r + settle) : Watched settle remote report f (.failed message)
  /-- The stream ends, and its report ends without a message. -/
  | orphaned {r f : Nat} (read : firstRead remote = some (r, .eof)) (inTime : r ≤ settle)
      (dropped : report = .dropped f) :
      Watched settle remote report (min (max r f) (r + settle)) (.failed closedEarly)
  /-- The stream ends, and nothing comes of its report for a while. -/
  | closed {r : Nat} (read : firstRead remote = some (r, .eof)) (inTime : r ≤ settle)
      (kept : ∀ f, report ≠ .dropped f) (unreported : Unreported report (r + settle)) :
      Watched settle remote report (r + settle) (.failed closedEarly)
  /-- Nothing is noticed in the quiet period. -/
  | quiet (unreported : Unreported report settle) (unread : Unread remote settle) :
      Watched settle remote report settle .ready

/-! ## The computed verdict -/

/-- A message that is delivered first decides. -/
theorem watch_of_reported {f : Nat} {message : String}
    (first : ∀ r arrival, firstRead remote = some (r, arrival) → f ≤ r) (inTime : f ≤ settle) :
    watch settle remote (.message f message) = (f, .failed message) := by
  have hfirst : f ≤ (earliest (settle, .timeUp) (ofStream remote)).1 := by
    rw [ofStream_eq]
    cases hread : firstRead remote with
    | none => exact inTime
    | some read =>
        have hread_le := first read.1 read.2 hread
        change f ≤ (if settle < read.1 then _ else _ : Nat × Notice).1
        split
        · exact inTime
        · exact hread_le
  have hnext : earliest (settle, .timeUp) (ofReport (.message f message) ++ ofStream remote) =
      (f, .reported message) := earliest_cons_of_le hfirst
  simp only [watch, hnext]

/-- When a stream ends before its report does anything, the report is waited for from then on. -/
theorem watch_of_ended {r : Nat} (read : firstRead remote = some (r, .eof)) (inTime : r ≤ settle)
    (later : ∀ notice ∈ ofReport report, r < notice.1) :
    watch settle remote report = trail settle report r := by
  have hnext := earliest_of_read read inTime
  have hfirst : earliest (settle, .timeUp) (ofReport report ++ ofStream remote) =
      (r, .arrived .eof) :=
    (earliest_append_of_lt fun notice hmem => hnext ▸ later notice hmem).trans hnext
  simp only [watch, hfirst]

/-- A report that does nothing for a while is given up. -/
theorem trail_of_later {r : Nat} (later : ∀ notice ∈ ofReport report, r + settle < notice.1) :
    trail settle report r = (r + settle, .failed closedEarly) := by
  have hnext : earliest (r + settle, .timeUp) (ofReport report ++ []) = (r + settle, .timeUp) :=
    earliest_append_of_lt later
  rw [List.append_nil] at hnext
  simp only [trail, hnext]

/-- The end of a report is waited for, but not for longer than a message. -/
theorem trail_of_dropped (settle r f : Nat) :
    trail settle (.dropped f) r = (min f (r + settle), .failed closedEarly) := by
  rcases Nat.lt_or_ge (r + settle) f with hover | hsoon
  · have later : ∀ notice ∈ ofReport (.dropped f), r + settle < notice.1 := by
      simpa [ofReport] using hover
    rw [trail_of_later later, Nat.min_eq_right (Nat.le_of_lt hover)]
  · have hnext : earliest (r + settle, .timeUp) (ofReport (.dropped f)) = (f, .unreported) :=
      earliest_cons_of_le hsoon
    simp only [trail, hnext, Nat.min_eq_left hsoon]

/-- The rules determine the verdict. -/
theorem Watched.watch_eq (h : Watched settle remote report offset verdict) :
    watch settle remote report = (offset, verdict) := by
  cases h with
  | reported delivered first inTime =>
      subst delivered
      exact watch_of_reported first inTime
  | answered read unreported inTime =>
      have hnext := earliest_of_read read inTime
      rcases earliest_of_unreported hnext unreported with hsame | ⟨f, -, hdropped⟩
      · simp only [watch, hsame]
      · simp only [watch, hdropped, watchStream, hnext]
  | broken read unreported inTime =>
      have hnext := earliest_of_read read inTime
      rcases earliest_of_unreported hnext unreported with hsame | ⟨f, -, hdropped⟩
      · simp only [watch, hsame]
      · simp only [watch, hdropped, watchStream, hnext]
  | @trailed r _ message read inTime delivered later soon =>
      subst delivered
      have hlater : ∀ notice ∈ ofReport (.message offset message), r < notice.1 := by
        simpa [ofReport] using later
      have htrail : earliest (r + settle, .timeUp) (ofReport (.message offset message)) =
          (offset, .reported message) := earliest_cons_of_le soon
      rw [watch_of_ended read inTime hlater]
      simp only [trail, htrail]
  | @orphaned r f read inTime dropped =>
      subst dropped
      rcases Nat.lt_or_ge r f with hlater | hearlier
      · have hnotices : ∀ notice ∈ ofReport (.dropped f), r < notice.1 := by
          simpa [ofReport] using hlater
        rw [watch_of_ended read inTime hnotices, trail_of_dropped,
          Nat.max_eq_right (Nat.le_of_lt hlater)]
      · have hnext := earliest_of_read read inTime
        have hearly : f ≤ (earliest (settle, .timeUp) (ofStream remote)).1 := hnext ▸ hearlier
        have hfirst : earliest (settle, .timeUp) (ofReport (.dropped f) ++ ofStream remote) =
            (f, .unreported) := earliest_cons_of_le hearly
        have hend : min (max r f) (r + settle) = r := by omega
        simp only [watch, hfirst, watchStream, hnext, hend]
  | @closed r read inTime kept unreported =>
      have hlater : ∀ notice ∈ ofReport report, r + settle < notice.1 := by
        cases report with
        | message f message => simpa [ofReport] using unreported f message rfl
        | dropped f => exact absurd rfl (kept f)
        | silent => simp [ofReport]
      have hnotices : ∀ notice ∈ ofReport report, r < notice.1 := fun notice hmem =>
        Nat.lt_of_le_of_lt (Nat.le_add_right r settle) (hlater notice hmem)
      rw [watch_of_ended read inTime hnotices, trail_of_later hlater]
  | quiet unreported unread =>
      have hnext := earliest_of_unread unread
      rcases earliest_of_unreported hnext unreported with hsame | ⟨f, -, hdropped⟩
      · simp only [watch, hsame]
      · simp only [watch, hdropped, watchStream, hnext]

/-- A report delivers a message by an offset or delivers none up to it. -/
theorem unreported_or (report : Report) (offset : Nat) :
    Unreported report offset ∨ ∃ f message, report = .message f message ∧ f ≤ offset := by
  cases report with
  | message f message =>
      rcases Nat.lt_or_ge offset f with hlater | hearlier
      · refine .inl fun f' message' heq => ?_
        cases heq
        exact hlater
      · exact .inr ⟨f, message, rfl, hearlier⟩
  | dropped f => exact .inl fun _ _ heq => nomatch heq
  | silent => exact .inl fun _ _ heq => nomatch heq

/-- Some rule applies to every stream and every report. -/
theorem exists_watched (settle : Nat) (remote : RemoteEnd) (report : Report) :
    ∃ offset verdict, Watched settle remote report offset verdict := by
  -- Either nothing is read in the quiet period, or the first read ends in it.
  have reads : Unread remote settle ∨
      ∃ r arrival, firstRead remote = some (r, arrival) ∧ r ≤ settle := by
    cases hread : firstRead remote with
    | none => exact .inl fun r arrival read => by rw [hread] at read; cases read
    | some read =>
        rcases Nat.lt_or_ge settle read.1 with hlate | hearly
        · refine .inl fun r arrival other => ?_
          rw [hread] at other
          cases other
          exact hlate
        · exact .inr ⟨read.1, read.2, rfl, hearly⟩
  rcases reads with unread | ⟨r, arrival, read, inTime⟩
  · rcases unreported_or report settle with unreported | ⟨f, message, delivered, hearly⟩
    · exact ⟨_, _, .quiet unreported unread⟩
    · have first : ∀ r arrival, firstRead remote = some (r, arrival) → f ≤ r := fun r arrival read =>
        Nat.le_of_lt (Nat.lt_of_le_of_lt hearly (unread r arrival read))
      exact ⟨_, _, .reported delivered first hearly⟩
  · rcases unreported_or report r with unreported | ⟨f, message, delivered, hearly⟩
    · cases arrival with
      | data bytes => exact ⟨_, _, .answered read unreported inTime⟩
      | failure reason => exact ⟨_, _, .broken read unreported inTime⟩
      | eof =>
          cases report with
          | dropped f => exact ⟨_, _, .orphaned read inTime rfl⟩
          | silent => exact ⟨_, _, .closed read inTime (fun _ => nofun) fun _ _ => nofun⟩
          | message f message =>
              rcases unreported_or (.message f message) (r + settle) with hnone | ⟨_, _, heq, soon⟩
              · exact ⟨_, _, .closed read inTime (fun _ => nofun) hnone⟩
              · cases heq
                exact ⟨_, _, .trailed read inTime rfl (unreported f message rfl) soon⟩
    · have first : ∀ r' arrival', firstRead remote = some (r', arrival') → f ≤ r' := by
        intro r' arrival' other
        rw [read] at other
        cases other
        exact hearly
      exact ⟨_, _, .reported delivered first (Nat.le_trans hearly inTime)⟩

/-- The computed verdict is the one of the rules. -/
theorem watch_eq_iff :
    watch settle remote report = (offset, verdict) ↔ Watched settle remote report offset verdict := by
  constructor
  · intro hwatch
    rcases exists_watched settle remote report with ⟨other, found, h⟩
    have hsame : (other, found) = (offset, verdict) := h.watch_eq.symm.trans hwatch
    cases hsame
    exact h
  · exact Watched.watch_eq

/-! ## Attempts and deadlines -/

/-- The verdict on an attempt to open a stream, at an offset from its start. There is none when the
attempt never ends. -/
inductive Judged (settle : Nat) : Dialing → Nat → ProbeEnd → Prop
  | refused {d : Nat} {error : Error} {events : List (Nat × Event)} :
      Judged settle (.after d (.refused error) events) d (.failed error.dialReason)
  | panicked {d : Nat} {reason : String} {events : List (Nat × Event)} :
      Judged settle (.after d (.panicked reason) events) d (.panicked reason)
  | connected {d : Nat} {remote : RemoteEnd} {events : List (Nat × Event)}
      (unreporting : remote.report = none) :
      Judged settle (.after d (.connected remote) events) d .ready
  | watched {d : Nat} {remote : RemoteEnd} {events : List (Nat × Event)} {report : Report}
      {offset : Nat} {verdict : ProbeEnd} (reporting : remote.report = some report)
      (watched : Watched settle remote report offset verdict) :
      Judged settle (.after d (.connected remote) events) (d + offset) verdict

theorem run_eq_some_iff {dialing : Dialing} :
    run settle dialing = some (offset, verdict) ↔ Judged settle dialing offset verdict := by
  constructor
  · intro h
    cases dialing with
    | never => cases h
    | after d outcome events =>
        cases outcome with
        | refused error =>
            cases h
            exact .refused
        | panicked reason =>
            cases h
            exact .panicked
        | connected remote =>
            cases hreport : remote.report with
            | none =>
                simp only [run, judge, hreport] at h
                cases h
                exact .connected hreport
            | some report =>
                simp only [run, judge, hreport] at h
                cases h
                exact .watched hreport (watch_eq_iff.1 rfl)
  · intro h
    cases h with
    | refused => rfl
    | panicked => rfl
    | connected unreporting => simp only [run, judge, unreporting, Nat.add_zero]
    | watched reporting watched => simp only [run, judge, reporting, watched.watch_eq]

/-- The verdict under a deadline, at which a verdict still counts. -/
inductive Ruling (settle timeout : Duration) (dialing : Dialing) : Nat → ProbeEnd → Prop
  | inTime {offset : Nat} {verdict : ProbeEnd}
      (judged : Judged settle.timerMillis dialing offset verdict)
      (inTime : offset ≤ timeout.timerMillis) : Ruling settle timeout dialing offset verdict
  | tooLate (late : ∀ offset verdict, Judged settle.timerMillis dialing offset verdict →
      timeout.timerMillis < offset) :
      Ruling settle timeout dialing timeout.timerMillis (.failed (Probe.tooLate timeout))

/-- The rules determine the verdict under a deadline. -/
theorem Ruling.verdict_eq {settle timeout : Duration} {dialing : Dialing}
    (h : Ruling settle timeout dialing offset verdict) :
    Probe.verdict settle timeout dialing = (offset, verdict) := by
  cases h with
  | inTime judged inTime =>
      simp only [Probe.verdict, run_eq_some_iff.2 judged, inTime, if_true]
  | tooLate late =>
      cases hrun : run settle.timerMillis dialing with
      | none => simp only [Probe.verdict, hrun]
      | some found =>
          have hlate : ¬ found.1 ≤ timeout.timerMillis :=
            Nat.not_le_of_lt (late found.1 found.2 (run_eq_some_iff.1 hrun))
          simp only [Probe.verdict, hrun, hlate, if_false]

/-- Some rule applies to every attempt and every deadline. -/
theorem exists_ruling (settle timeout : Duration) (dialing : Dialing) :
    ∃ offset verdict, Ruling settle timeout dialing offset verdict := by
  cases hrun : run settle.timerMillis dialing with
  | none =>
      refine ⟨_, _, .tooLate fun offset verdict judged => ?_⟩
      exact nomatch (run_eq_some_iff.2 judged).symm.trans hrun
  | some found =>
      rcases Nat.lt_or_ge timeout.timerMillis found.1 with hlate | inTime
      · refine ⟨_, _, .tooLate fun offset verdict judged => ?_⟩
        cases (run_eq_some_iff.2 judged).symm.trans hrun
        exact hlate
      · exact ⟨found.1, found.2, .inTime (run_eq_some_iff.1 hrun) inTime⟩

/-- The computed verdict under a deadline is the one of the rules. -/
theorem verdict_eq_iff {settle timeout : Duration} {dialing : Dialing} :
    Probe.verdict settle timeout dialing = (offset, verdict) ↔
      Ruling settle timeout dialing offset verdict := by
  constructor
  · intro hverdict
    rcases exists_ruling settle timeout dialing with ⟨other, found, h⟩
    cases h.verdict_eq.symm.trans hverdict
    exact h
  · exact Ruling.verdict_eq

/-- The verdict falls by the deadline, whatever the remote side does. -/
theorem verdict_le (settle timeout : Duration) (dialing : Dialing) :
    (Probe.verdict settle timeout dialing).1 ≤ timeout.timerMillis := by
  rcases hverdict : Probe.verdict settle timeout dialing with ⟨offset, verdict⟩
  cases verdict_eq_iff.1 hverdict with
  | inTime judged inTime => exact inTime
  | tooLate late => exact Nat.le_refl _

end Probe

end Readiness
