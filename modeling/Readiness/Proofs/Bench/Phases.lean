import Readiness.Proofs.Bench.Answers

/-!
# Phases — what the named operations of a bench do, and in which order

* `Operation.Told`: what a single wait of a bench was told;
* `DeploymentPhases`: a wait for a deployment first lists, and asks for the deployment itself only
  once it was listed;
* `CreatesFirst`: an operation that creates the objects of a dependency waits only once all of them
  were applied;
* `phases_run_in_order`: the named operations do so.
-/

namespace Readiness

namespace Bench

namespace Operation

variable {σ α β : Type}

/-! ## Single waits -/

/-- What a wait of a bench is told, of which it returns the state that decides. `shows` is the state
from which a result was read. -/
structure Told (holds : β → Bool) (shows : α → β) (bench : Bench σ) (attempt : Attempt σ α)
    (answers : Answers β) : Prop where
  begun : ∀ instant answer, (instant, answer) ∈ answers → bench.now ≤ instant
  undecided : ∀ instant answer, (instant, answer) ∈ answers.dropLast → ¬ answer.Satisfies holds
  decided : ∀ a, attempt.result = some (.ok a) → holds (shows a) = true ∧
    ∃ instant delay events, answers.getLast? = some (instant, .after delay (.ok (shows a)) events) ∧
      instant + delay ≤ attempt.bench.now
  inTime : attempt.bench.now ≤ bench.now + bench.pacing.cutoffMillis
  returns : Wait.isRepresentable bench.pacing bench.now = true → attempt.result.isSome = true

/-- The end of a wait, with its result seen through a function. -/
def endedBy (f : Except Error β → Except Error α) (waited : Waited σ β) : Ended σ α :=
  ⟨f waited.result, waited.finished, waited.source, waited.events⟩

/-- A wait on a bench is told what a journal has. -/
theorem activity_told [Summary β] {bench : Bench σ} (condition : Condition β)
    (observe : Nat → σ → Observation β × σ) (entry : Observation β → Entry)
    (f : Except Error β → Except Error α) (shows : α → β) {wait : Bench σ → Option (Ended σ α)}
    {logging : Bench (σ × Journal) → Option (Ended (σ × Journal) α)}
    (hwait : wait bench =
      (Wait.run bench.pacing condition observe bench.now bench.remote).map (endedBy f))
    (hlogging : ∀ journal, logging (bench.withJournal journal) =
      (Wait.run bench.pacing condition (journaling entry observe) bench.now
        (bench.remote, journal)).map (endedBy f))
    (reads : ∀ result a, f result = .ok a → result = .ok (shows a)) :
    ∃ answers, Logs (activity logging) (activity wait) bench (entriesOf entry answers) ∧
      Told condition.holds shows bench (activity wait bench) answers := by
  cases representable : Wait.isRepresentable bench.pacing bench.now with
  | false =>
      have hrun {τ : Type} (observe : Nat → τ → Observation β × τ) (s : τ) :
          Wait.run bench.pacing condition observe bench.now s = none :=
        if_neg (by simp only [representable, Bool.false_eq_true, not_false_eq_true])
      have hnone : activity wait bench = ⟨none, bench⟩ := by
        simp only [activity, hwait, hrun, Option.map_none]
      refine ⟨[], fun journal => ?_, ?_⟩
      · rw [hnone]
        simp only [activity, hlogging, hrun, Option.map_none, entriesOf, List.map_nil,
          List.append_nil]
      · rw [hnone]
        exact ⟨nofun, nofun, nofun, Nat.le_add_right _ _, fun h =>
          absurd (representable.symm.trans h) Bool.false_ne_true⟩
  | true =>
      rcases Wait.run_hears bench.pacing condition observe bench.now bench.remote representable with
        ⟨waited, answers, hrun, hforward, hcutoff, hears, hjournal⟩
      have hactivity : activity wait bench =
          ⟨some (f waited.result), bench.resume waited.finished waited.source waited.events⟩ := by
        simp only [activity, hwait, hrun, Option.map_some, endedBy]
      have hnow : (activity wait bench).bench.now = waited.finished := by
        rw [hactivity, now_resume, Nat.max_eq_right hforward]
      refine ⟨answers, fun journal => ?_, ?_⟩
      · rw [hactivity]
        simp only [activity, hlogging, hjournal, Option.map_some, endedBy, Waited.mapSource]
        rw [resume_withJournal]
      · refine ⟨hears.begun, hears.undecided, fun a hresult => ?_, hnow ▸ hcutoff, fun _ => ?_⟩
        · rw [hactivity] at hresult
          rcases hears.decided (shows a) (reads _ a (Option.some.inj hresult)) with
            ⟨holds, instant, delay, events, hlast, hfinished⟩
          exact ⟨holds, instant, delay, events, hlast, by rw [hnow, hfinished]⟩
        · rw [hactivity]
          rfl

theorem waitFor_told (target : Target) (condition : Condition Snapshot) (bench : Bench σ) :
    ∃ gets, Logs (waitFor target condition) (waitFor target condition) bench
        (entriesOf (.got target) gets) ∧
      Told (·.any condition.holds) some bench (waitFor target condition bench) gets := by
  have reads (result : Except Error (Option Snapshot)) (snapshot : Snapshot)
      (h : Wait.presentResult target result = .ok snapshot) : result = .ok (some snapshot) := by
    rcases result with error | _ | found
    · cases h
    · cases h
    · cases h
      rfl
  exact activity_told (Wait.resourceCondition target condition)
    (fun now s => bench.source.get now target s) (.got target) (Wait.presentResult target) some rfl
    (fun _ => rfl) reads

/-- The name is in a listing. -/
def names (name : String) (listing : List Snapshot) : Bool := listing.any (·.name = name)

theorem waitListed_told (kind : Kind) (ns name : String) (bench : Bench σ) :
    ∃ lists, Logs (waitListed kind ns name) (waitListed kind ns name) bench
        (entriesOf (.listed kind ns none) lists) ∧
      Told (names name) id bench (waitListed kind ns name bench) lists := by
  have hholds : (Wait.listingCondition kind ns (.resourcesFound [name])).holds = names name :=
    funext fun _ => Bool.and_true _
  rw [← hholds]
  exact activity_told (Wait.listingCondition kind ns (.resourcesFound [name]))
    (fun now s => bench.source.list now kind ns none s) (.listed kind ns none) id id rfl
    (fun _ => rfl) fun _ _ h => h

/-! ## Two phases -/

/-- What a wait for a deployment asks, listings before the deployment itself, and what comes of it. -/
structure DeploymentPhases (bench : Bench σ) (ns name : String) (lists : Answers (List Snapshot))
    (gets : Answers (Option Snapshot)) : Prop where
  begun : ∀ instant answer, (instant, answer) ∈ lists → bench.now ≤ instant
  -- A listing with the name is the last one.
  lasting : ∀ instant answer, (instant, answer) ∈ lists.dropLast → ¬ answer.Satisfies (names name)
  -- The deployment is only asked for after a listing with the name has come.
  listed : ∀ later get, (later, get) ∈ gets → ∃ instant delay listing events,
    lists.getLast? = some (instant, .after delay (.ok listing) events) ∧
      names name listing = true ∧ instant + delay ≤ later
  failed : ∀ error, (waitListed .deployment ns name bench).result = some (.error error) →
    gets = [] ∧ (waitForDeployment ns name bench).result = some (.error error)
  unending : (waitListed .deployment ns name bench).result = none →
    gets = [] ∧ (waitForDeployment ns name bench).result = none
  available : ∀ snapshot, (waitForDeployment ns name bench).result = some (.ok snapshot) →
    snapshot.hasCondition Condition.available = true ∧ ∃ instant delay events,
      gets.getLast? = some (instant, .after delay (.ok (some snapshot)) events)
  inTime : (waitForDeployment ns name bench).bench.now ≤ bench.now + 2 * bench.pacing.cutoffMillis
  returns : Wait.isRepresentable bench.pacing (bench.now + bench.pacing.cutoffMillis) = true →
    (waitForDeployment ns name bench).result.isSome = true

def deploymentEntries (ns name : String) (lists : Answers (List Snapshot))
    (gets : Answers (Option Snapshot)) : Journal :=
  entriesOf (.listed .deployment ns none) lists ++
    entriesOf (.got ⟨.deployment, some ns, name⟩) gets

theorem isRepresentable_mono {pacing : Pacing} {earlier later : Nat} (order : earlier ≤ later)
    (h : Wait.isRepresentable pacing later = true) : Wait.isRepresentable pacing earlier = true := by
  have hlater : (((Duration.ofMillis later).add pacing.timeout).add pacing.interval).nanos <
      Wait.clockLimit.nanos := of_decide_eq_true h
  refine decide_eq_true (Nat.lt_of_le_of_lt ?_ hlater)
  simp only [Duration.add, Duration.ofMillis]
  omega

theorem waitListed_frame (kind : Kind) (ns name : String) (bench : Bench σ) :
    (waitListed kind ns name bench).bench.pacing = bench.pacing ∧
      (waitListed kind ns name bench).bench.source = bench.source := by
  unfold waitListed
  exact activity_frame _ bench

section Deployments

variable {bench : Bench σ} {ns name : String} {lists : Answers (List Snapshot)}

theorem DeploymentPhases.of_error {error : Error}
    (told : Told (names name) id bench (waitListed .deployment ns name bench) lists)
    (failed : (waitListed .deployment ns name bench).result = some (.error error)) :
    DeploymentPhases bench ns name lists [] := by
  have hboth : (waitForDeployment ns name bench).result = some (.error error) ∧
      (waitForDeployment ns name bench).bench = (waitListed .deployment ns name bench).bench :=
    andThen_fails failed
  rcases hboth with ⟨hresult, hbench⟩
  refine ⟨told.begun, told.undecided, fun _ _ hmem => absurd hmem List.not_mem_nil, fun other h => ?_,
    fun h => ?_, fun _ h => ?_, ?_, fun _ => ?_⟩
  · rw [failed] at h
    cases h
    exact ⟨rfl, hresult⟩
  · exact nomatch failed.symm.trans h
  · exact nomatch hresult.symm.trans h
  · rw [hbench]
    exact Nat.le_trans told.inTime (by omega)
  · rw [hresult]
    rfl

theorem DeploymentPhases.of_none
    (told : Told (names name) id bench (waitListed .deployment ns name bench) lists)
    (unending : (waitListed .deployment ns name bench).result = none) :
    DeploymentPhases bench ns name lists [] := by
  have hboth : (waitForDeployment ns name bench).result = none ∧
      (waitForDeployment ns name bench).bench = (waitListed .deployment ns name bench).bench :=
    andThen_hangs unending
  rcases hboth with ⟨hresult, hbench⟩
  refine ⟨told.begun, told.undecided, fun _ _ hmem => absurd hmem List.not_mem_nil, fun other h => ?_,
    fun h => ?_, fun _ h => ?_, ?_, fun representable => ?_⟩
  · exact nomatch unending.symm.trans h
  · exact ⟨rfl, hresult⟩
  · exact nomatch hresult.symm.trans h
  · rw [hbench]
    exact Nat.le_trans told.inTime (by omega)
  · have hreturns := told.returns (isRepresentable_mono (Nat.le_add_right _ _) representable)
    rw [unending] at hreturns
    cases hreturns

theorem DeploymentPhases.of_ok {listing : List Snapshot} {gets : Answers (Option Snapshot)}
    (told : Told (names name) id bench (waitListed .deployment ns name bench) lists)
    (listed : (waitListed .deployment ns name bench).result = some (.ok listing))
    (further : Told (·.any (·.hasCondition Condition.available)) some
      (waitListed .deployment ns name bench).bench
      (waitFor ⟨.deployment, some ns, name⟩ (.statusTrue Condition.available)
        (waitListed .deployment ns name bench).bench) gets) :
    DeploymentPhases bench ns name lists gets := by
  have hattempt : waitForDeployment ns name bench =
      (waitFor ⟨.deployment, some ns, name⟩ (.statusTrue Condition.available)).noting
        (fun _ => resourceEvent "Deployment available" ⟨.deployment, some ns, name⟩ [])
        (waitListed .deployment ns name bench).bench := andThen_of_ok listed
  rcases result_noting
    (waitFor ⟨.deployment, some ns, name⟩ (.statusTrue Condition.available))
    (fun _ => resourceEvent "Deployment available" ⟨.deployment, some ns, name⟩ [])
    (waitListed .deployment ns name bench).bench with ⟨hresult, hnow⟩
  rw [← hattempt] at hresult hnow
  have hpacing := (waitListed_frame .deployment ns name bench).1
  have hfirst := told.inTime
  have hsecond := further.inTime
  rcases told.decided listing listed with ⟨contains, instant, delay, events, hlast, hended⟩
  refine ⟨told.begun, told.undecided, fun later get hmem => ?_, fun other h => ?_, fun h => ?_,
    fun snapshot h => ?_, ?_, fun representable => ?_⟩
  · exact ⟨instant, delay, listing, events, hlast, contains,
      Nat.le_trans hended (further.begun later get hmem)⟩
  · rw [listed] at h
    cases h
  · rw [listed] at h
    cases h
  · rcases further.decided snapshot (hresult.symm.trans h) with
      ⟨hholds, instant, delay, events, hlast, -⟩
    exact ⟨hholds, instant, delay, events, hlast⟩
  · rw [hnow]
    rw [hpacing] at hsecond
    omega
  · rw [hresult]
    refine further.returns ?_
    rw [hpacing]
    exact isRepresentable_mono hfirst representable

end Deployments

theorem waitForDeployment_phases (ns name : String) (bench : Bench σ) :
    ∃ lists gets, Logs (waitForDeployment ns name) (waitForDeployment ns name) bench
        (deploymentEntries ns name lists gets) ∧ DeploymentPhases bench ns name lists gets := by
  rcases waitListed_told .deployment ns name bench with ⟨lists, hlists, told⟩
  have hentries : deploymentEntries ns name lists [] = entriesOf (.listed .deployment ns none) lists :=
    List.append_nil _
  rcases hlisted : (waitListed .deployment ns name bench).result with _ | error | listing
  · refine ⟨lists, [], ?_, .of_none told hlisted⟩
    rw [hentries]
    exact hlists.andThen_of_not_ok fun _ h => nomatch hlisted.symm.trans h
  · refine ⟨lists, [], ?_, .of_error told hlisted⟩
    rw [hentries]
    exact hlists.andThen_of_not_ok fun _ h => nomatch hlisted.symm.trans h
  · rcases waitFor_told ⟨.deployment, some ns, name⟩ (.statusTrue Condition.available)
      (waitListed .deployment ns name bench).bench with ⟨gets, hgets, further⟩
    exact ⟨lists, gets, hlists.andThen hlisted (hgets.noting _), .of_ok told hlisted further⟩

/-! ## Creating objects first -/

/-- An operation creates the objects of a dependency, which leaves the bench `left`, and begins to wait
there when all of them were applied. `Waits` says what the wait asks from there on. -/
inductive CreatesFirst (bench left : Bench σ) (name ns : String) (wait : Operation σ α)
    (Waits : Journal → Prop) : Attempt σ α → Journal → Prop
  | noApplier (absent : bench.applier = none) :
      CreatesFirst bench left name ns wait Waits ⟨some (.error noApplier), left⟩ []
  | unloaded {error : Error} (present : bench.applier.isSome = true)
      (loading : Manifest.loadDir bench.files (bench.settings.manifestDir name) ns = .error error) :
      CreatesFirst bench left name ns wait Waits ⟨some (.error error), left⟩ []
  | refused {manifests : List Manifest} {requests : Requests} {error : Error}
      (present : bench.applier.isSome = true)
      (loaded : Manifest.loadDir bench.files (bench.settings.manifestDir name) ns = .ok manifests)
      (refused : Applied manifests left.now (some (.error error)) requests) :
      CreatesFirst bench left name ns wait Waits ⟨some (.error error), left⟩ requests.entries
  | hung {manifests : List Manifest} {requests : Requests} (present : bench.applier.isSome = true)
      (loaded : Manifest.loadDir bench.files (bench.settings.manifestDir name) ns = .ok manifests)
      (hung : Applied manifests left.now none requests) :
      CreatesFirst bench left name ns wait Waits ⟨none, left⟩ requests.entries
  | applied {manifests : List Manifest} {requests : Requests} {count : Nat} {journal : Journal}
      (present : bench.applier.isSome = true)
      (loaded : Manifest.loadDir bench.files (bench.settings.manifestDir name) ns = .ok manifests)
      (applied : Applied manifests left.now (some (.ok count)) requests) (waits : Waits journal) :
      CreatesFirst bench left name ns wait Waits (wait left) (requests.entries ++ journal)

section Creating

variable {wait : Operation σ α} {logging : Operation (σ × Journal) α}

theorem createsFirst_of_absent {Waits : Journal → Prop} {bench : Bench σ}
    (absent : bench.applier = none) (name ns : String) :
    Logs ((applyDependency name ns).andThen fun _ => logging)
        ((applyDependency name ns).andThen fun _ => wait) bench [] ∧
      CreatesFirst bench (applyDependency name ns bench).bench name ns wait Waits
        ((applyDependency name ns).andThen (fun _ => wait) bench) [] := by
  have hattempt : applyDependency name ns bench = ⟨some (.error noApplier), bench⟩ := by
    simp only [applyDependency, applyDir, absent]
  have hresult : (applyDependency name ns bench).result = some (.error noApplier) := by
    rw [hattempt]
  have hlogs : Logs (applyDependency name ns) (applyDependency name ns) bench [] := by
    intro journal
    rw [hattempt, List.append_nil]
    simp only [applyDependency, applyDir, withJournal, absent, Option.map_none]
  refine ⟨hlogs.andThen_of_not_ok fun _ h => (nomatch hresult.symm.trans h), ?_⟩
  rw [andThen_of_error hresult]
  exact .noApplier absent

/-- Nothing is sent for a dependency whose manifests cannot be loaded, and otherwise they are sent. -/
theorem applyDependency_applied {bench : Bench σ} {applier : Applier σ}
    (supported : bench.applier = some applier) (name ns : String) :
    let attempt := applyDependency name ns bench
    ∃ requests : Requests,
      Logs (applyDependency name ns) (applyDependency name ns) bench requests.entries ∧
      ((∃ error, Manifest.loadDir bench.files (bench.settings.manifestDir name) ns = .error error ∧
          attempt.result = some (.error error) ∧ requests = []) ∨
        ∃ manifests, Manifest.loadDir bench.files (bench.settings.manifestDir name) ns = .ok manifests ∧
          Applied manifests attempt.bench.now attempt.result requests) := by
  rcases deliverDir_applied applier bench.files (bench.settings.manifestDir name) ns bench.now
    bench.remote with ⟨requests, hforward, hcases, hjournal⟩
  generalize hdelivery : deliverDir applier bench.files (bench.settings.manifestDir name) ns
    bench.now bench.remote = delivery at hforward hcases hjournal
  have hattempt : applyDependency name ns bench =
      ⟨delivery.outcome, bench.resume delivery.finished delivery.state delivery.events⟩ := by
    simp only [applyDependency, applyDir, supported, hdelivery]
  refine ⟨requests, fun journal => ?_, ?_⟩
  · have happlied : applyDependency name ns (bench.withJournal journal) =
        let logged := delivery.mapState (·, journal ++ requests.entries)
        ⟨logged.outcome,
          (bench.withJournal journal).resume logged.finished logged.state logged.events⟩ := by
      rw [← hjournal journal]
      simp only [applyDependency, applyDir]
      simp only [withJournal, supported, Option.map_some]
      rfl
    rw [happlied, hattempt]
    exact congrArg (Attempt.mk delivery.outcome) (resume_withJournal bench journal _ _ _ _)
  · rw [hattempt]
    simpa only [now_resume, Nat.max_eq_right hforward] using hcases

/-- Whatever an operation waits for, it creates the objects of a dependency first. -/
theorem creates_first {Waits : Journal → Prop} {bench : Bench σ} {name ns : String}
    {journal : Journal} (logs : Logs logging wait (applyDependency name ns bench).bench journal)
    (waits : Waits journal) :
    ∃ journal, Logs ((applyDependency name ns).andThen fun _ => logging)
        ((applyDependency name ns).andThen fun _ => wait) bench journal ∧
      CreatesFirst bench (applyDependency name ns bench).bench name ns wait Waits
        ((applyDependency name ns).andThen (fun _ => wait) bench) journal := by
  cases happlier : bench.applier with
  | none => exact ⟨[], createsFirst_of_absent happlier name ns⟩
  | some applier =>
      have present : bench.applier.isSome = true := by rw [happlier, Option.isSome_some]
      rcases applyDependency_applied happlier name ns with ⟨requests, hlogs, hcases⟩
      rcases hresult : (applyDependency name ns bench).result with _ | error | count
      · rw [hresult] at hcases
        rcases hcases with ⟨error, -, hfailed, -⟩ | ⟨manifests, hload, hung⟩
        · cases hfailed
        · refine ⟨requests.entries,
            hlogs.andThen_of_not_ok fun _ h => (nomatch hresult.symm.trans h), ?_⟩
          rw [andThen_of_none hresult]
          exact .hung present hload hung
      · refine ⟨requests.entries,
          hlogs.andThen_of_not_ok fun _ h => (nomatch hresult.symm.trans h), ?_⟩
        rw [hresult] at hcases
        rw [andThen_of_error hresult]
        rcases hcases with ⟨other, hload, hfailed, rfl⟩ | ⟨manifests, hload, refused⟩
        · cases hfailed
          exact .unloaded present hload
        · exact .refused present hload refused
      · rw [hresult] at hcases
        rcases hcases with ⟨error, -, hfailed, -⟩ | ⟨manifests, hload, applied⟩
        · cases hfailed
        · refine ⟨requests.entries ++ journal, hlogs.andThen hresult logs, ?_⟩
          rw [andThen_of_ok hresult]
          exact .applied present hload applied waits

end Creating

/-! ## The named operations -/

/-- Every named operation goes through its phases in order, whatever the source, the applier and the
tunnels do. -/
theorem phases_run_in_order (bench : Bench σ) (name ns : String) :
    let left := (applyDependency name ns bench).bench
    (∃ lists gets, Logs (waitForDeployment ns name) (waitForDeployment ns name) bench
        (deploymentEntries ns name lists gets) ∧ DeploymentPhases bench ns name lists gets) ∧
      (bench.pacing.Exact →
        bench.pacing.timeout.add bench.pacing.interval = .ofMillis bench.pacing.cutoffMillis) ∧
      (∃ journal, Logs (deploy name ns) (deploy name ns) bench journal ∧
        CreatesFirst bench left name ns (waitForDeployment ns name)
          (fun journal => ∃ lists gets, journal = deploymentEntries ns name lists gets ∧
            DeploymentPhases left ns name lists gets)
          (deploy name ns bench) journal) ∧
      ∃ journal, Logs (deployReplicas name ns) (deployReplicas name ns) bench journal ∧
        CreatesFirst bench left name ns (waitForPod ns (name ++ "-0"))
          (fun journal => ∃ gets, journal = entriesOf (.got ⟨.pod, some ns, name ++ "-0"⟩) gets ∧
            ∀ instant answer, (instant, answer) ∈ gets → left.now ≤ instant)
          (deployReplicas name ns bench) journal := by
  intro left
  refine ⟨waitForDeployment_phases ns name bench, fun exact => exact.add_eq, ?_, ?_⟩
  · rcases waitForDeployment_phases ns name left with ⟨lists, gets, hlogs, hphases⟩
    exact creates_first hlogs ⟨lists, gets, rfl, hphases⟩
  · rcases waitFor_told ⟨.pod, some ns, name ++ "-0"⟩ (.statusTrue Condition.ready) left with
      ⟨gets, hlogs, told⟩
    exact creates_first (hlogs.noting _) ⟨gets, rfl, told.begun⟩

/-! ## First answers -/

section First

variable {bench : Bench σ} {kind : Kind} {ns name : String} {target : Target} {delay : Nat}
  {events : List Event} {next : σ}

theorem waitListed_of_first {listing : List Snapshot}
    (representable : Wait.isRepresentable bench.pacing bench.now = true)
    (answer : bench.source.list bench.now kind ns none bench.remote =
      (.after delay (.ok listing) events, next))
    (inTime : delay ≤ bench.pacing.cutoffMillis) (contains : names name listing = true) :
    (waitListed kind ns name bench).result = some (.ok listing) ∧
      (waitListed kind ns name bench).bench.now = bench.now + delay := by
  have holds : (Wait.listingCondition kind ns (.resourcesFound [name])).holds listing = true :=
    (Bool.and_true _).trans contains
  rcases Wait.run_of_first _ (fun now s => bench.source.list now kind ns none s) representable answer
    inTime holds with ⟨waited, hrun, hresult, hfinished⟩
  have hboth : (waitListed kind ns name bench).result = some waited.result ∧
      (waitListed kind ns name bench).bench.now = max bench.now waited.finished :=
    activity_of_some _ (by simp only [Wait.forListing, hrun, Option.map_some])
  rw [hboth.1, hboth.2, hresult, hfinished]
  exact ⟨rfl, Nat.max_eq_right (Nat.le_add_right _ _)⟩

theorem waitFor_of_run {condition : Condition Snapshot} {waited : Waited σ (Option Snapshot)}
    (run : Wait.run bench.pacing (Wait.resourceCondition target condition)
      (fun now s => bench.source.get now target s) bench.now bench.remote = some waited) :
    (waitFor target condition bench).result = some (Wait.presentResult target waited.result) ∧
      (waitFor target condition bench).bench.now = max bench.now waited.finished := by
  have hends : Wait.forResource bench.source bench.pacing target condition bench.now bench.remote =
      some ⟨Wait.presentResult target waited.result, waited.finished, waited.source, waited.events⟩ := by
    simp only [Wait.forResource, run, Option.map_some]
  exact activity_of_some (fun bench => Wait.forResource bench.source bench.pacing target condition
    bench.now bench.remote) hends

theorem waitFor_of_first {condition : Condition Snapshot} {snapshot : Snapshot}
    (representable : Wait.isRepresentable bench.pacing bench.now = true)
    (answer : bench.source.get bench.now target bench.remote =
      (.after delay (.ok (some snapshot)) events, next))
    (inTime : delay ≤ bench.pacing.cutoffMillis) (satisfied : condition.holds snapshot = true) :
    (waitFor target condition bench).result = some (.ok snapshot) := by
  have holds : (Wait.resourceCondition target condition).holds (some snapshot) = true := satisfied
  rcases Wait.run_of_first _ (fun now s => bench.source.get now target s) representable answer inTime
    holds with ⟨waited, hrun, hresult, -⟩
  rw [(waitFor_of_run hrun).1, hresult]
  rfl

theorem waitFor_of_hanging (condition : Condition Snapshot)
    (representable : Wait.isRepresentable bench.pacing bench.now = true)
    (answer : bench.source.get bench.now target bench.remote = (.never, next)) :
    (waitFor target condition bench).bench.now = bench.now + bench.pacing.cutoffMillis := by
  rcases Wait.run_of_hanging (Wait.resourceCondition target condition)
    (fun now s => bench.source.get now target s) representable answer with ⟨waited, hrun, hfinished⟩
  rw [(waitFor_of_run hrun).2, hfinished]
  exact Nat.max_eq_right (Nat.le_add_right _ _)

end First

/-- A bench without tunnels and without an applier. -/
def unconnected (settings : Settings) (pacing : Pacing) (source : Source Unit) : Bench Unit :=
  ⟨settings, pacing, .directory [], source, none,
    .begin (.idle true ()) settings.tunnelOptions ⟨⟨fun _ _ _ _ => (.never, ())⟩, .reliable⟩⟩

/-- A deployment with a status. -/
def deployment (status : Json.Value) : Snapshot := ⟨.deployment, some "test", "web", [], status⟩

def availableDeployment : Snapshot :=
  deployment (.obj [("conditions", .arr [.arr [.str "Available", .str "True"]])])

/-- It takes five milliseconds to list a deployment and seven to get it, and it is available. -/
def promptBench : Bench Unit :=
  unconnected .standard .standard
    ⟨fun _ _ s => (.after 7 (.ok (some availableDeployment)) [], s),
      fun _ _ _ _ s => (.after 5 (.ok [availableDeployment]) [], s)⟩

theorem promptBench_waits_in_order :
    (waitForDeployment "test" "web" promptBench).result = some (.ok availableDeployment) ∧
      (∃ lists gets, Logs (waitForDeployment "test" "web") (waitForDeployment "test" "web")
          promptBench (deploymentEntries "test" "web" lists gets) ∧
        ∃ instant delay events,
          gets.getLast? = some (instant, .after delay (.ok (some availableDeployment)) events)) ∧
      Logs (deploy "web" "test") (deploy "web" "test") promptBench [] ∧
      (deploy "web" "test" promptBench).result = some (.error noApplier) := by
  rcases phases_run_in_order promptBench "web" "test" with
    ⟨⟨lists, gets, hlogs, hphases⟩, -, ⟨journal, hdeploy, hcreates⟩, -⟩
  have representable : Wait.isRepresentable promptBench.pacing promptBench.now = true := by decide
  have hlist : promptBench.source.list promptBench.now .deployment "test" none promptBench.remote =
      (.after 5 (.ok [availableDeployment]) [], ()) := rfl
  have hnamed : names "web" [availableDeployment] = true := by decide
  rcases waitListed_of_first representable hlist (by decide) hnamed with ⟨hlisted, hnow⟩
  have hgot : (waitFor ⟨.deployment, some "test", "web"⟩ (.statusTrue Condition.available)
      (waitListed .deployment "test" "web" promptBench).bench).result =
        some (.ok availableDeployment) := by
    rcases waitListed_frame .deployment "test" "web" promptBench with ⟨hpacing, hsource⟩
    refine waitFor_of_first ?_ (by rw [hsource]; rfl) (by rw [hpacing]; decide) (by decide)
    rw [hpacing, hnow]
    decide
  have hresult : (waitForDeployment "test" "web" promptBench).result =
      some (.ok availableDeployment) := by
    rw [waitForDeployment, andThen_of_ok hlisted]
    exact (result_noting _ _ _).1.trans hgot
  refine ⟨hresult, ⟨lists, gets, hlogs, (hphases.available _ hresult).2⟩, ?_⟩
  generalize deploy "web" "test" promptBench = attempt at hcreates ⊢
  cases hcreates with
  | noApplier absent => exact ⟨hdeploy, rfl⟩
  | unloaded present loading => cases present
  | refused present loaded refused => cases present
  | hung present loaded hung => cases present
  | applied present loaded applied waits => cases present

/-- A listing takes until just before its wait is cut off, and nothing else is answered. -/
def lateBench : Bench Unit :=
  unconnected .standard ⟨.ofMillis 1000, ⟨1000000100⟩, false, by decide, by decide⟩
    ⟨fun _ _ s => (.never, s), fun _ _ _ _ s => (.after 2000 (.ok [deployment .null]) [], s)⟩

/-- Each of the two phases is cut off after a whole number of milliseconds, which may be longer than
the timeout and the interval. -/
theorem lateBench_overruns :
    let attempt := waitForDeployment "test" "web" lateBench
    let window := lateBench.pacing.timeout.add lateBench.pacing.interval
    lateBench.now = 0 ∧ attempt.result.isSome = true ∧
      window.add window < Duration.ofMillis attempt.bench.now := by
  intro attempt window
  have representable : Wait.isRepresentable lateBench.pacing lateBench.now = true := by decide
  have hlist : lateBench.source.list lateBench.now .deployment "test" none lateBench.remote =
      (.after 2000 (.ok [deployment .null]) [], ()) := rfl
  have hnamed : names "web" [deployment .null] = true := by decide
  rcases waitListed_of_first representable hlist (by decide) hnamed with ⟨hlisted, hnow⟩
  rcases waitListed_frame .deployment "test" "web" lateBench with ⟨hpacing, hsource⟩
  rcases waitForDeployment_phases "test" "web" lateBench with ⟨lists, gets, -, hphases⟩
  generalize hleft : (waitListed .deployment "test" "web" lateBench).bench = left at hnow hpacing hsource
  have hsilent : left.source.get left.now ⟨.deployment, some "test", "web"⟩ left.remote =
      (.never, ()) := by
    rw [hsource]
    rfl
  have hget := waitFor_of_hanging (.statusTrue Condition.available)
    (by rw [hpacing, hnow]; decide) hsilent
  have hattempt : attempt.bench.now = 4001 := by
    simp only [attempt, waitForDeployment]
    rw [andThen_of_ok hlisted, (result_noting _ _ _).2, hleft, hget, hpacing, hnow]
    decide
  refine ⟨rfl, hphases.returns (by decide), ?_⟩
  rw [hattempt]
  decide

end Operation

end Bench

end Readiness
