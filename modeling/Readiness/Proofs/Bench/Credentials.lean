import Mathlib
import Readiness.Proofs.Attempt.Sequence
import Readiness.Proofs.Bench.Phases
import Readiness.Proofs.Wait.Cadence
import Readiness.Proofs.Wait.Presence

/-!
# Credentials — the name of an issued secret is one that was observed

* `Bench.Paced`: the pacing of a bench is that of its settings. It is when the bench is made, and
  `Operation.Steady`: operations keep it;
* `Operation.waitFor_answers`: the answers to a wait for one resource, when it returns;
* `Operation.Issues`: a status names a secret. The condition of the wait and the reading of its result
  walk the status separately, and both find such a name;
* `Operation.issued_credential_was_observed`: the name that a wait returns is not empty, the last answer
  had it and none of the answers before had any.
-/

namespace Readiness

open Json (Value)

namespace Bench

variable {σ α β : Type}

/-! ## The pacing of a bench -/

/-- Every wait of the bench goes by the settings. -/
def Paced (bench : Bench σ) : Prop := bench.settings.pacing = .ok bench.pacing

theorem paced_of_make {settings : Settings} {files : FileTree} {source : Source σ}
    {applier : Option (Applier σ)} {surroundings : Surroundings σ} {relay : Relay σ} {bench : Bench σ}
    (made : make settings files source applier surroundings relay = .ok bench) : bench.Paced := by
  rcases Readiness.Attempt.bind_eq_ok_iff.1 made with ⟨pacing, valid, same⟩
  cases same
  exact valid

/-- The settings have no say in what to do about an error: it ends a wait. -/
theorem Paced.retriesErrors_eq {bench : Bench σ} (paced : bench.Paced) :
    bench.pacing.retriesErrors = false :=
  (Pacing.make_eq_ok_iff.1 paced).2.2.2.2

theorem Paced.run {bench : Bench σ} (paced : bench.Paced) (command : Command) :
    (bench.run command).2.Paced := paced

theorem Paced.forward {bench left : Bench σ} {reply : Reply} {name ns : String} {query : LabelQuery}
    {remotePort : Nat} (paced : bench.Paced)
    (returns : bench.forward name ns query remotePort = some (reply, left)) : left.Paced := by
  rcases Option.map_eq_some_iff.1 returns with ⟨opened, -, same⟩
  cases same
  exact paced

namespace Operation

/-- An operation leaves a bench with its settings and its pacing. -/
def Steady (operation : Operation σ α) : Prop := ∀ bench,
  (operation bench).bench.settings = bench.settings ∧ (operation bench).bench.pacing = bench.pacing

namespace Steady

variable {operation : Operation σ α} {bench : Bench σ}

theorem paced (steady : operation.Steady) (paced : bench.Paced) : (operation bench).bench.Paced := by
  unfold Paced
  rw [(steady bench).1, (steady bench).2]
  exact paced

theorem andThen {next : α → Operation σ β} (steady : operation.Steady)
    (further : ∀ a, (next a).Steady) : (operation.andThen next).Steady := by
  intro bench
  rcases hresult : (operation bench).result with _ | error | a
  · rw [andThen_of_none hresult]
    exact steady bench
  · rw [andThen_of_error hresult]
    exact steady bench
  · rw [andThen_of_ok hresult, (further a _).1, (further a _).2]
    exact steady bench

theorem noting (steady : operation.Steady) (event : α → Event) : (operation.noting event).Steady :=
  steady.andThen fun _ _ => ⟨rfl, rfl⟩

theorem map (f : α → β) (steady : operation.Steady) : (operation.map f).Steady :=
  steady.andThen fun _ _ => ⟨rfl, rfl⟩

theorem request (ask : Bench σ → Observation α × σ) : (request ask).Steady := by
  intro bench
  unfold Operation.request
  split <;> exact ⟨rfl, rfl⟩

theorem activity (run : Bench σ → Option (Ended σ α)) : (activity run).Steady := by
  intro bench
  unfold Operation.activity
  split <;> exact ⟨rfl, rfl⟩

theorem waitForDeployment (ns name : String) : (waitForDeployment (σ := σ) ns name).Steady :=
  (activity _).andThen fun _ => (activity _).noting _

theorem waitForPod (ns name : String) : (waitForPod (σ := σ) ns name).Steady := (activity _).noting _

theorem waitForResource (kind : Kind) (ns name : String) :
    (waitForResource (σ := σ) kind ns name).Steady := (activity _).noting _

theorem waitForCredential (kind : Kind) (ns name : String) :
    (waitForCredential (σ := σ) kind ns name).Steady := ((activity _).map _).noting _

theorem applyDir (dir ns : String) : (applyDir (σ := σ) dir ns).Steady := by
  intro bench
  unfold Operation.applyDir
  split <;> exact ⟨rfl, rfl⟩

theorem applyDependency (name ns : String) : (applyDependency (σ := σ) name ns).Steady :=
  fun bench => applyDir (bench.settings.manifestDir name) ns bench

theorem deploy (name ns : String) : (deploy (σ := σ) name ns).Steady :=
  (applyDependency name ns).andThen fun _ => waitForDeployment ns name

theorem deployReplicas (name ns : String) : (deployReplicas (σ := σ) name ns).Steady :=
  (applyDependency name ns).andThen fun _ => waitForPod ns (firstReplica name)

theorem apply (manifest : Manifest) : (apply (σ := σ) manifest).Steady := by
  intro bench
  unfold Operation.apply
  split
  · exact ⟨rfl, rfl⟩
  · exact request _ bench

theorem converse (endpoint : Endpoint) (port : Nat) (written : Bytes) (ends : Bool) :
    (converse (σ := σ) endpoint port written ends).Steady := by
  intro bench
  unfold Operation.converse
  dsimp only
  split <;> exact ⟨rfl, rfl⟩

end Steady

/-! ## Answers to a wait -/

theorem result_activity (run : Bench σ → Option (Ended σ α)) (bench : Bench σ) :
    (activity run bench).result = (run bench).map (·.result) := by
  unfold activity
  cases run bench <;> rfl

/-- A wait with a journal that ends as one without it does what that one does. -/
theorem activity_logs {wait : Bench σ → Option (Ended σ α)}
    {logging : Bench (σ × Journal) → Option (Ended (σ × Journal) α)} {bench : Bench σ}
    {ended : Ended σ α} {entries : Journal} (ends : wait bench = some ended)
    (logged : ∀ journal, logging (bench.withJournal journal) =
      some ⟨ended.result, ended.finished, (ended.source, journal ++ entries), ended.events⟩) :
    Logs (activity logging) (activity wait) bench entries := by
  intro journal
  simp only [activity, ends, logged]
  rw [resume_withJournal]

/-- A wait for a resource that returns was told the answers that a journal has. Those before the last
one leave it undecided, and the last one settles it. -/
theorem waitFor_answers {target : Target} {condition : Condition Snapshot} {bench : Bench σ}
    {result : Except Error Snapshot}
    (returns : (waitFor target condition bench).result = some result) :
    ∃ earlier instant answer finished,
      Logs (waitFor target condition) (waitFor target condition) bench
        (entriesOf (.got target) (earlier ++ [(instant, answer)])) ∧
      (∀ before other, (before, other) ∈ earlier → ∃ delay result events,
        other = .after delay result events ∧ Wait.Unmet bench.pacing condition result) ∧
      Wait.Settles bench.pacing target condition bench.now instant answer result finished := by
  let q := Wait.resourceInquiry bench.source bench.pacing target condition bench.now bench.remote
  have hwait : Wait.forResource bench.source bench.pacing target condition bench.now bench.remote =
      q.run.map (endedBy (Wait.presentResult target)) := rfl
  rw [waitFor, result_activity, hwait, Option.map_map] at returns
  have representable : q.IsRepresentable := by
    by_contra unrepresentable
    have hrun : q.run = none := if_neg unrepresentable
    rw [hrun] at returns
    cases returns
  rcases q.exists_course representable with ⟨w, k, now, next, seen, hrun, course⟩
  have hlength : w.looks.length = k + 1 := course.length_looks
  rw [hrun] at hwait returns
  cases returns
  refine ⟨q.answers 0 k, now, (bench.source.get now target next).1, w.finished, ?_, ?_,
    Wait.settles_of_course course⟩
  · refine activity_logs hwait fun journal => ?_
    have hrecorded :=
      q.run_recording (fun instant answer => (instant, Entry.got target answer)) journal
    rw [hrun, Option.map_some, hlength, course.reaches.answers_concat] at hrecorded
    exact congrArg (Option.map (endedBy (Wait.presentResult target))) hrecorded
  · intro before other hmem
    rcases Inquiry.Undecided.of_mem course.reaches.2 hmem with
      ⟨delay, result, events, hanswer, -, continues⟩
    exact ⟨delay, result, events, hanswer, Wait.continues_iff_unmet.1 continues⟩

/-! ## The name of a secret -/

/-- The status names a secret: it has a reference, which has a name that is not empty. -/
inductive Issues : Value → String → Prop
  | named {fields reference : Dict Value} {secret : String}
      (found : Dict.find? "secretRef" fields = some (.obj reference))
      (name : Dict.find? "name" reference = some (.str secret)) (notEmpty : secret ≠ "") :
      Issues (.obj fields) secret

theorem field_credentialPath (snapshot : Snapshot) : snapshot.field credentialPath =
    (snapshot.status.get? "secretRef").bind fun reference => reference.get? "name" := by
  have path : Text.segments '.' credentialPath = ["secretRef", "name"] := by cbv
  rw [Snapshot.field, path, Value.lookup_cons]
  simp only [Value.lookup_cons, Value.lookup_nil, Option.bind_fun_some]

theorem issues_iff {snapshot : Snapshot} {secret : String} : Issues snapshot.status secret ↔
    snapshot.field credentialPath = some (.str secret) ∧ secret ≠ "" := by
  rw [field_credentialPath, Option.bind_eq_some_iff]
  constructor
  · intro h
    generalize snapshot.status = status at h ⊢
    cases h with
    | named found name notEmpty => exact ⟨⟨_, found, name⟩, notEmpty⟩
  · rintro ⟨⟨reference, found, name⟩, notEmpty⟩
    rcases Value.get?_eq_some_iff.1 found with ⟨fields, status, found⟩
    rcases Value.get?_eq_some_iff.1 name with ⟨entries, rfl, name⟩
    rw [status]
    exact .named found name notEmpty

/-- The condition of the wait finds a name exactly if there is one. -/
theorem fieldSet_holds_iff {snapshot : Snapshot} :
    (Condition.fieldSet credentialPath).holds snapshot = true ↔
      ∃ secret, Issues snapshot.status secret := by
  have set (found : Option Value) : Condition.isSetText found = true ↔
      ∃ text, found = some (.str text) ∧ text ≠ "" := by
    rcases found with _ | _ | _ | _ | _ | _ | _ <;> simp [Condition.isSetText]
  simp only [issues_iff]
  exact set _

/-- The name of a secret, or another text when there is none. -/
def credentialOr (fallback : Snapshot → String) (snapshot : Snapshot) : String :=
  ((snapshot.field credentialPath).bind Value.asString?).getD (fallback snapshot)

/-- The result of the wait is read where its condition has found a name. -/
theorem credentialOr_of_issues (fallback : Snapshot → String) {snapshot : Snapshot} {secret : String}
    (issues : Issues snapshot.status secret) : credentialOr fallback snapshot = secret := by
  rw [credentialOr, (issues_iff.1 issues).1]
  rfl

theorem credentialOf_of_issues {snapshot : Snapshot} {secret : String}
    (issues : Issues snapshot.status secret) : credentialOf snapshot = secret :=
  credentialOr_of_issues (fun _ => "") issues

/-! ## The wait for a secret -/

/-- The wait for a credential with another text in place of a name that is missing. -/
def waitForCredentialOr (fallback : Snapshot → String) (kind : Kind) (ns name : String) :
    Operation σ String :=
  let target : Target := ⟨kind, some ns, name⟩
  ((waitFor target (.fieldSet credentialPath)).map (credentialOr fallback)).noting fun secret =>
    resourceEvent "Credential issued" target [("secret", .text secret)]

section Waiting

variable {bench : Bench σ} {kind : Kind} {ns name secret : String}

theorem waitFor_issues {target : Target} {snapshot : Snapshot}
    (returns : (waitFor target (.fieldSet credentialPath) bench).result = some (.ok snapshot)) :
    ∃ secret, Issues snapshot.status secret := by
  rcases waitFor_answers returns with ⟨earlier, instant, answer, finished, -, -, settles⟩
  cases settles with
  | found holds inTime => exact fieldSet_holds_iff.1 holds

/-- A function of the result matters only where there is one. -/
theorem map_congr {operation : Operation σ α} {f g : α → β}
    (agree : ∀ a, (operation bench).result = some (.ok a) → f a = g a) :
    operation.map f bench = operation.map g bench := by
  unfold map
  rcases hresult : (operation bench).result with _ | error | a
  · rw [andThen_of_none hresult, andThen_of_none hresult]
  · rw [andThen_of_error hresult, andThen_of_error hresult]
  · rw [andThen_of_ok hresult, andThen_of_ok hresult, agree a hresult]

/-- What follows on an operation depends on what came of it alone. -/
theorem andThen_congr {operation other : Operation σ α} (next : α → Operation σ β)
    (same : operation bench = other bench) : operation.andThen next bench = other.andThen next bench := by
  unfold andThen
  rw [same]

/-- The text in place of a missing name is never used. -/
theorem waitForCredentialOr_eq (fallback : Snapshot → String) :
    waitForCredentialOr fallback kind ns name bench = waitForCredential kind ns name bench := by
  refine andThen_congr _ (map_congr fun snapshot returns => ?_)
  rcases waitFor_issues returns with ⟨secret, issues⟩
  exact (credentialOr_of_issues fallback issues).trans (credentialOf_of_issues issues).symm

/-- What a wait for a credential returns was read from the state that the wait for the resource
returned. -/
theorem exists_of_waitForCredential
    (returns : (waitForCredential kind ns name bench).result = some (.ok secret)) :
    ∃ snapshot, (waitFor ⟨kind, some ns, name⟩ (.fieldSet credentialPath) bench).result =
      some (.ok snapshot) ∧ credentialOf snapshot = secret := by
  unfold waitForCredential at returns
  rw [(result_noting _ _ _).1, map] at returns
  rcases hresult : (waitFor ⟨kind, some ns, name⟩ (.fieldSet credentialPath) bench).result with
    _ | error | snapshot
  · rw [andThen_of_none hresult] at returns
    cases returns
  · rw [andThen_of_error hresult] at returns
    cases returns
  · rw [andThen_of_ok hresult] at returns
    cases returns
    exact ⟨snapshot, rfl, rfl⟩

end Waiting

/-- An answer without the name of a secret: the resource is absent, or its status names none. -/
inductive Unissued : Observation (Option Snapshot) → Prop
  | absent (delay : Nat) (events : List Event) : Unissued (.after delay (.ok none) events)
  | nameless {delay : Nat} {snapshot : Snapshot} {events : List Event}
      (none : ∀ secret, ¬ Issues snapshot.status secret) :
      Unissued (.after delay (.ok (some snapshot)) events)

theorem unissued_of_unmet {pacing : Pacing} {delay : Nat} {result : Except Error (Option Snapshot)}
    {events : List Event} (retries : pacing.retriesErrors = false)
    (unmet : Wait.Unmet pacing (.fieldSet credentialPath) result) :
    Unissued (.after delay result events) := by
  rcases result with error | _ | snapshot
  · cases unmet.symm.trans retries
  · exact .absent delay events
  · refine .nameless fun secret issues => ?_
    cases (fieldSet_holds_iff.2 ⟨secret, issues⟩).symm.trans unmet

/-- When a wait for a credential returns a name, the name is not empty, and the last answer about the
resource has just this name at its place in the status. All answers before were without any name. The
text that would stand for a missing name is never used, whatever it is. -/
theorem issued_credential_was_observed (bench : Bench σ) (paced : bench.Paced) (kind : Kind)
    (ns name : String) :
    (∀ secret, (waitForCredential kind ns name bench).result = some (.ok secret) →
      secret ≠ "" ∧ ∃ earlier instant delay snapshot events,
        Logs (waitForCredential kind ns name) (waitForCredential kind ns name) bench
          (entriesOf (.got ⟨kind, some ns, name⟩)
            (earlier ++ [(instant, .after delay (.ok (some snapshot)) events)])) ∧
        Issues snapshot.status secret ∧
        ∀ before answer, (before, answer) ∈ earlier → Unissued answer) ∧
      ∀ fallback, waitForCredentialOr fallback kind ns name bench =
        waitForCredential kind ns name bench := by
  refine ⟨fun secret returns => ?_, waitForCredentialOr_eq⟩
  rcases exists_of_waitForCredential returns with ⟨snapshot, found, rfl⟩
  rcases waitFor_issues found with ⟨secret, issues⟩
  rw [credentialOf_of_issues issues]
  rcases waitFor_answers found with ⟨earlier, instant, answer, finished, logs, unmet, settles⟩
  refine ⟨(issues_iff.1 issues).2, earlier, instant, ?_⟩
  cases settles with
  | @found delay _ events holds inTime =>
      refine ⟨delay, snapshot, events, (logs.map credentialOf).noting _, issues, ?_⟩
      intro before other mem
      rcases unmet before other mem with ⟨delay, result, events, rfl, unmet⟩
      exact unissued_of_unmet paced.retriesErrors_eq unmet

/-- A status that names a secret. -/
def issuedStatus : Value := .obj [("secretRef", .obj [("name", .str "pg-admin")])]

/-- A resource is absent for a second, and then its status names a secret. -/
def issuingBench : Bench Unit :=
  unconnected .standard .standard
    ⟨fun now target s => (.after 5 (.ok (if now < 1000 then none
      else some ⟨target.kind, target.namespaceName, target.name, [], issuedStatus⟩)) [], s),
      fun _ _ _ _ s => (.never, s)⟩

/-- The second look finds the name. -/
theorem issuingBench_returns_name :
    issuingBench.Paced ∧
      (waitForCredential .deployment "e2e" "pg" issuingBench).result = some (.ok "pg-admin") ∧
      ∃ earlier instant delay snapshot events,
        Logs (waitForCredential .deployment "e2e" "pg") (waitForCredential .deployment "e2e" "pg")
          issuingBench (entriesOf (.got ⟨.deployment, some "e2e", "pg"⟩)
            (earlier ++ [(instant, .after delay (.ok (some snapshot)) events)])) ∧
        Issues snapshot.status "pg-admin" := by
  have paced : issuingBench.Paced := Pacing.make_eq_ok_iff.2 ⟨by decide, by decide, rfl, rfl, rfl⟩
  let target : Target := ⟨.deployment, some "e2e", "pg"⟩
  let q := Wait.resourceInquiry issuingBench.source issuingBench.pacing target
    (.fieldSet credentialPath) 0 ()
  let issued : Snapshot := ⟨.deployment, some "e2e", "pg", [], issuedStatus⟩
  have issues : Issues issued.status "pg-admin" := .named rfl rfl (by decide)
  have holds : (Condition.fieldSet credentialPath).holds issued = true :=
    fieldSet_holds_iff.2 ⟨_, issues⟩
  have representable : q.IsRepresentable := by decide
  have undecided : q.Undecided 1 := by
    intro j hj
    obtain rfl : j = 0 := by omega
    exact ⟨5, .ok none, rfl, by decide, rfl⟩
  have second : q.tickAt 1 = some (2005, ()) := by decide
  have decides : q.completion 1 = some (2010, .ok (some issued)) :=
    Inquiry.completion_of_tickAt second
  rcases q.exists_course representable with ⟨w, k, now, next, seen, hrun, course⟩
  have ends : ¬ Wait.Continues q.pacing q.condition (.ok (some issued)) := fun goesOn =>
    Bool.false_ne_true (goesOn.symm.trans holds)
  have hresult : w.result = .ok (some issued) :=
    (course.eq_of_decides undecided decides (by decide) ends).2.1
  have found : (waitFor target (.fieldSet credentialPath) issuingBench).result = some (.ok issued) := by
    rw [(waitFor_of_run hrun).1, hresult]
    rfl
  have returns :
      (waitForCredential .deployment "e2e" "pg" issuingBench).result = some (.ok "pg-admin") := by
    rw [waitForCredential, (result_noting _ _ _).1, map, andThen_of_ok found,
      credentialOf_of_issues issues]
  rcases (issued_credential_was_observed issuingBench paced .deployment "e2e" "pg").1 _ returns with
    ⟨-, earlier, instant, delay, snapshot, events, logs, named, -⟩
  exact ⟨paced, returns, earlier, instant, delay, snapshot, events, logs, named⟩

end Operation

end Bench

end Readiness
