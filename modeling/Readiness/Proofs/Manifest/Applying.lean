import Readiness.Apply
import Readiness.Proofs.Manifest.Loading

/-!
# Applying — all manifests are loaded before the first one is sent

* `Applier.Sends`: manifests are sent one after the other and all of them succeed, and
  `Applier.sends_cases`: there is a first one that does not, unless all do;
* `Delivery.sent` are the manifests that an applier received;
* `apply_sends_a_prefix`: nothing is sent unless the whole directory can be loaded, and then a prefix
  of its manifests is, up to the first one that fails.
-/

namespace Readiness

variable {σ : Type} {applier : Applier σ} {now later : Nat} {s last : σ}
  {manifests : List Manifest}

/-! ## What an applier answers -/

/-- Manifests are sent one after the other, from an instant and a state to others, and each of them
succeeds. -/
inductive Applier.Sends (applier : Applier σ) : Nat → σ → List Manifest → Nat → σ → Prop
  | nothing (now : Nat) (s : σ) : Sends applier now s [] now s
  | next {now later delay : Nat} {s after last : σ} {manifest : Manifest}
      {manifests : List Manifest} {events : List Event}
      (answer : applier.apply now manifest s = (.after delay (.ok ()) events, after))
      (rest : Sends applier (now + delay) after manifests later last) :
      Sends applier now s (manifest :: manifests) later last

/-- A request succeeds. -/
def Applier.Succeeds (applier : Applier σ) (now : Nat) (manifest : Manifest) (s : σ) : Prop :=
  ∃ delay events after, applier.apply now manifest s = (.after delay (.ok ()) events, after)

/-- Either all manifests succeed, or there is a first one that does not. -/
theorem Applier.sends_cases (applier : Applier σ) (now : Nat) (s : σ) (manifests : List Manifest) :
    (∃ later last, applier.Sends now s manifests later last) ∨
      ∃ sent manifest rest later last, manifests = sent ++ manifest :: rest ∧
        applier.Sends now s sent later last ∧ ¬ applier.Succeeds later manifest last := by
  induction manifests generalizing now s with
  | nil => exact .inl ⟨now, s, .nothing now s⟩
  | cons first rest ih =>
      by_cases succeeds : applier.Succeeds now first s
      · rcases succeeds with ⟨delay, events, after, answer⟩
        rcases ih (now + delay) after with
          ⟨later, last, hsends⟩ | ⟨sent, manifest, more, later, last, rfl, hsends, hfails⟩
        · exact .inl ⟨later, last, .next answer hsends⟩
        · exact .inr ⟨first :: sent, manifest, more, later, last, rfl, .next answer hsends, hfails⟩
      · exact .inr ⟨[], first, rest, now, s, rfl, .nothing now s, succeeds⟩

/-! ## What an applier received -/

namespace Delivery

/-- The manifests that were sent, the first one first. -/
def sent (delivery : Delivery (Applier.Recorded σ)) : List Manifest :=
  (delivery.state.2.map (·.2)).reverse

/-- A delivery without the record of what was sent. -/
def forget (delivery : Delivery (Applier.Recorded σ)) : Delivery σ :=
  ⟨delivery.outcome, delivery.finished, delivery.events, delivery.state.1⟩

end Delivery

/-- Recording what is sent changes nothing else. -/
theorem forget_applyAll (applier : Applier σ) (now count : Nat) (events : List Event) (s : σ)
    (log : List (Nat × Manifest)) (manifests : List Manifest) :
    (applyAll applier.recorded now count events (s, log) manifests).forget =
      applyAll applier now count events s manifests := by
  induction manifests generalizing now count events s log with
  | nil => rfl
  | cons first rest ih =>
      have hrecorded : applier.recorded.apply now first (s, log) =
          ((applier.apply now first s).1, (applier.apply now first s).2, (now, first) :: log) := rfl
      rcases hanswer : applier.apply now first s with ⟨answer, after⟩
      rw [hanswer] at hrecorded
      cases answer with
      | never => simp only [applyAll, hrecorded, hanswer, Delivery.forget]
      | after delay result more =>
          cases result with
          | error error => simp only [applyAll, hrecorded, hanswer, Delivery.forget]
          | ok done =>
              simp only [applyAll, hrecorded, hanswer]
              exact ih _ _ _ _ _

theorem forget_announce (dir ns : String) (delivery : Delivery (Applier.Recorded σ)) :
    (delivery.announce dir ns).forget = delivery.forget.announce dir ns := by
  unfold Delivery.announce Delivery.forget
  dsimp only
  split <;> rfl

theorem forget_deliverDir (applier : Applier σ) (files : FileTree) (dir ns : String) (now : Nat)
    (s : σ) :
    (deliverDir applier.recorded files dir ns now (s, [])).forget =
      deliverDir applier files dir ns now s := by
  unfold deliverDir
  cases Manifest.loadDir files dir ns with
  | error error => rfl
  | ok manifests =>
      dsimp only
      rw [forget_announce, forget_applyAll]

/-- Manifests that succeed have been sent when the next ones are. -/
theorem Applier.Sends.applyAll_append {sent : List Manifest}
    (h : applier.Sends now s sent later last) (count : Nat) (events : List Event)
    (log : List (Nat × Manifest)) (rest : List Manifest) :
    ∃ more further,
      applyAll applier.recorded now count events (s, log) (sent ++ rest) =
        applyAll applier.recorded later (count + sent.length) (events ++ more)
          (last, further ++ log) rest ∧
      further.map (·.2) = sent.reverse := by
  induction h generalizing count events log with
  | nothing now s => exact ⟨[], [], by simp, rfl⟩
  | @next now later delay s after last manifest manifests written answer rest ih =>
      rcases ih (count + 1) (events ++ written) ((now, manifest) :: log) with
        ⟨more, further, happlied, hfurther⟩
      refine ⟨written ++ more, further ++ [(now, manifest)], ?_, by simp [hfurther]⟩
      have hcount : count + (manifest :: manifests).length = count + 1 + manifests.length := by
        rw [List.length_cons]
        omega
      simp only [List.cons_append, applyAll, Applier.recorded, answer]
      rw [hcount, List.append_assoc, ← List.append_assoc events]
      exact happlied

/-- When all manifests succeed, all were sent, and the result is their number. -/
theorem Applier.Sends.delivery (h : applier.Sends now s manifests later last) :
    (applyAll applier.recorded now 0 [] (s, []) manifests).sent = manifests ∧
      (applyAll applier.recorded now 0 [] (s, []) manifests).outcome =
        some (.ok manifests.length) := by
  rcases h.applyAll_append 0 [] [] [] with ⟨more, further, happlied, hfurther⟩
  rw [List.append_nil] at happlied
  rw [happlied]
  exact ⟨by simp [applyAll, Delivery.sent, hfurther], by simp [applyAll]⟩

/-- The first manifest that does not succeed is the last one that was sent, and what it was answered
is the result. -/
theorem Applier.Sends.delivery_of_not_succeeds {sent : List Manifest} {manifest : Manifest}
    (h : applier.Sends now s sent later last) (fails : ¬ applier.Succeeds later manifest last)
    (rest : List Manifest) :
    let delivery := applyAll applier.recorded now 0 [] (s, []) (sent ++ manifest :: rest)
    delivery.sent = sent ++ [manifest] ∧
      (∀ delay error events after,
        applier.apply later manifest last = (.after delay (.error error) events, after) →
          delivery.outcome = some (.error error)) ∧
      (∀ after, applier.apply later manifest last = (.never, after) → delivery.outcome = none) := by
  intro delivery
  rcases h.applyAll_append 0 [] [] (manifest :: rest) with ⟨more, further, happlied, hfurther⟩
  rcases hanswer : applier.apply later manifest last with ⟨answer, after⟩
  cases answer with
  | never =>
      have hdelivery : delivery =
          ⟨none, later, [] ++ more, after, (later, manifest) :: (further ++ [])⟩ := by
        simp only [delivery, happlied, applyAll, Applier.recorded, hanswer]
      rw [hdelivery]
      exact ⟨by simp [Delivery.sent, hfurther], by simp, by simp⟩
  | after delay result events =>
      cases result with
      | error error =>
          have hdelivery : delivery = ⟨some (.error error), later + delay, [] ++ more ++ events,
              after, (later, manifest) :: (further ++ [])⟩ := by
            simp only [delivery, happlied, applyAll, Applier.recorded, hanswer]
          rw [hdelivery]
          refine ⟨by simp [Delivery.sent, hfurther], ?_, by simp⟩
          rintro _ _ _ _ ⟨⟩
          rfl
      | ok done => exact absurd ⟨delay, events, after, hanswer⟩ fails

/-- What is sent of some manifests are the first ones, in their order. -/
theorem sent_prefix (applier : Applier σ) (now : Nat) (s : σ) (manifests : List Manifest) :
    (applyAll applier.recorded now 0 [] (s, []) manifests).sent <+: manifests := by
  rcases applier.sends_cases now s manifests with
    ⟨later, last, hsends⟩ | ⟨sent, manifest, rest, later, last, rfl, hsends, hfails⟩
  · exact ⟨[], by rw [List.append_nil, hsends.delivery.1]⟩
  · have hsent := (hsends.delivery_of_not_succeeds hfails rest).1
    exact ⟨rest, by rw [hsent, List.append_assoc, List.singleton_append]⟩

/-! ## Directories -/

/-- A directory that was loaded is sent. Only the event of a success is written besides. -/
theorem deliverDir_of_loadDir {files : FileTree} {dir ns : String}
    (loaded : Manifest.loadDir files dir ns = .ok manifests)
    (applier : Applier (Applier.Recorded σ)) (now : Nat) (s : Applier.Recorded σ) :
    (deliverDir applier files dir ns now s).sent = (applyAll applier now 0 [] s manifests).sent ∧
      (deliverDir applier files dir ns now s).outcome =
        (applyAll applier now 0 [] s manifests).outcome := by
  simp only [deliverDir, loaded, Delivery.sent, Delivery.state_announce, Delivery.outcome_announce,
    and_self]

/-- Nothing is sent unless every file of a directory can be read and parsed and every document in them
is valid; the result is then the error of loading. Otherwise what is sent is a prefix of the loaded
manifests, of which there is one for each document. If all of them succeed, all were sent, and the
result is their number. If one of them is the first to fail, it is the last one that was sent, and the
result is its error. -/
theorem apply_sends_a_prefix (applier : Applier σ) (files : FileTree) (dir ns : String) (now : Nat)
    (s : σ) :
    let delivery := deliverDir applier.recorded files dir ns now (s, [])
    applyDir applier files dir ns now s =
        delivery.outcome.map (fun result =>
          (result, delivery.finished, delivery.events, delivery.state.1)) ∧
      ((¬ ∃ entries, files.find? dir = some (.directory entries) ∧
          Manifest.Loadable dir ns entries) →
        delivery.sent = [] ∧
          ∃ error, Manifest.loadDir files dir ns = .error error ∧
            delivery.outcome = some (.error error)) ∧
      (∀ entries, files.find? dir = some (.directory entries) → Manifest.Loadable dir ns entries →
        ∃ manifests, Manifest.loadDir files dir ns = .ok manifests ∧
          manifests.length = (Manifest.documentsIn dir (Manifest.filesIn entries)).length ∧
          delivery.sent <+: manifests ∧
          (∀ later last, applier.Sends now s manifests later last →
            delivery.sent = manifests ∧ delivery.outcome = some (.ok manifests.length)) ∧
          ∀ sent manifest rest later last, manifests = sent ++ manifest :: rest →
            applier.Sends now s sent later last → ¬ applier.Succeeds later manifest last →
              delivery.sent = sent ++ [manifest] ∧
                (∀ delay error events after,
                  applier.apply later manifest last = (.after delay (.error error) events, after) →
                    delivery.outcome = some (.error error)) ∧
                (∀ after, applier.apply later manifest last = (.never, after) →
                  delivery.outcome = none)) := by
  intro delivery
  refine ⟨?_, ?_, ?_⟩
  · unfold applyDir
    rw [← forget_deliverDir]
    rfl
  · intro hnone
    cases hload : Manifest.loadDir files dir ns with
    | error error =>
        have hdelivery : delivery = ⟨some (.error error), now, [], s, []⟩ := by
          simp only [delivery, deliverDir, hload]
        rw [hdelivery]
        exact ⟨rfl, error, rfl, rfl⟩
    | ok manifests =>
        rcases Manifest.loadDir_eq_ok_iff.1 hload with ⟨entries, hfound, hentries⟩
        have hloadable := Manifest.exists_loadEntries_iff.1 ⟨manifests, hentries⟩
        exact absurd ⟨entries, hfound, hloadable⟩ hnone
  · intro entries found loadable
    rcases Manifest.exists_loadEntries_iff.2 loadable with ⟨manifests, hentries⟩
    have hload : Manifest.loadDir files dir ns = .ok manifests :=
      Manifest.loadDir_eq_ok_iff.2 ⟨entries, found, hentries⟩
    rcases deliverDir_of_loadDir hload applier.recorded now (s, []) with ⟨hsent, houtcome⟩
    rw [hsent, houtcome]
    refine ⟨manifests, hload, Manifest.length_of_loadEntries hentries,
      sent_prefix applier now s manifests, fun later last hsends => hsends.delivery, ?_⟩
    rintro sent manifest rest later last rfl hsends hfails
    exact hsends.delivery_of_not_succeeds hfails rest

/-- An object of a kind with a name. -/
def plainObject (kind name : String) : Json.Value :=
  .obj [("apiVersion", .str "v1"), ("kind", .str kind), ("metadata", .obj [("name", .str name)])]

def serviceText : String :=
  "\x7b\"apiVersion\":\"v1\",\"kind\":\"Service\",\"metadata\":\x7b\"name\":\"db\"\x7d\x7d"

def podText : String :=
  "\x7b\"apiVersion\":\"v1\",\"kind\":\"Pod\",\"metadata\":\x7b\"name\":\"web\"\x7d\x7d"

def jobText : String :=
  "\x7b\"apiVersion\":\"v1\",\"kind\":\"Job\",\"metadata\":\x7b\"name\":\"once\"\x7d\x7d"

/-- Three files with one object each, and a file that cannot be read but is no manifest. -/
def threeObjects : List (String × FileTree) :=
  [("web.json", .file podText.toUTF8), ("db.json", .file serviceText.toUTF8),
    ("README", .unreadable "denied"), ("once.json", .file jobText.toUTF8)]

/-- One request succeeds, and all others fail. -/
def onceApplier (error : Error) : Applier Bool :=
  ⟨fun _ _ used => (.now (if used then .error error else .ok ()), true)⟩

theorem filesIn_threeObjects : Manifest.filesIn threeObjects =
    [("db.json", .file serviceText.toUTF8), ("once.json", .file jobText.toUTF8),
      ("web.json", .file podText.toUTF8)] := by
  unfold threeObjects
  generalize podText.toUTF8 = pod, serviceText.toUTF8 = service, jobText.toUTF8 = job
  cbv

theorem documents?_service :
    Manifest.documents? (.file serviceText.toUTF8) = some [plainObject "Service" "db"] :=
  Manifest.documents?_of_readDocuments (by cbv)

theorem documents?_job :
    Manifest.documents? (.file jobText.toUTF8) = some [plainObject "Job" "once"] :=
  Manifest.documents?_of_readDocuments (by cbv)

theorem documents?_pod :
    Manifest.documents? (.file podText.toUTF8) = some [plainObject "Pod" "web"] :=
  Manifest.documents?_of_readDocuments (by cbv)

theorem documentsIn_threeObjects :
    Manifest.documentsIn "base" (Manifest.filesIn threeObjects) =
      [(Path.join "base" "db.json", plainObject "Service" "db"),
        (Path.join "base" "once.json", plainObject "Job" "once"),
        (Path.join "base" "web.json", plainObject "Pod" "web")] := by
  rw [filesIn_threeObjects]
  simp only [Manifest.documentsIn, List.flatMap_cons, List.flatMap_nil, documents?_service,
    documents?_job, documents?_pod]
  rfl

/-- Objects with a kind and a name are valid, wherever they are sent. -/
theorem exists_isFrom_plainObject (path ns kind name : String) :
    ∃ manifest, Manifest.IsFrom ns (path, plainObject kind name) manifest := by
  unfold Manifest.IsFrom Manifest.ofValue
  by_cases namespaced : Manifest.isNamespaced kind = true
  · exact ⟨_, if_pos namespaced⟩
  · exact ⟨_, if_neg namespaced⟩

theorem loadable_threeObjects : Manifest.Loadable "base" "test" threeObjects where
  read := by
    intro entry hmem manifest
    have hfile := Manifest.mem_filesIn.2 ⟨hmem, manifest⟩
    rw [filesIn_threeObjects] at hfile
    simp only [List.mem_cons, List.not_mem_nil, or_false] at hfile
    rcases hfile with rfl | rfl | rfl
    · rw [documents?_service]
      rfl
    · rw [documents?_job]
      rfl
    · rw [documents?_pod]
      rfl
  valid := by
    intro document hmem
    rw [documentsIn_threeObjects] at hmem
    simp only [List.mem_cons, List.not_mem_nil, or_false] at hmem
    rcases hmem with rfl | rfl | rfl <;> exact exists_isFrom_plainObject _ _ _ _
  some := by
    rw [documentsIn_threeObjects]
    exact List.cons_ne_nil _ _

theorem threeObjects_stop_at_the_second :
    let delivery := deliverDir (onceApplier (.io "refused")).recorded
      (.directory [("base", .directory threeObjects)]) "base" "test" 0 (false, [])
    delivery.sent.length = 2 ∧ delivery.outcome = some (.error (.io "refused")) := by
  rcases apply_sends_a_prefix (onceApplier (.io "refused"))
    (.directory [("base", .directory threeObjects)]) "base" "test" 0 false with ⟨-, -, hloaded⟩
  have hfound : FileTree.find? (.directory [("base", .directory threeObjects)]) "base" =
      some (.directory threeObjects) := by
    generalize threeObjects = entries
    cbv
  rcases hloaded threeObjects hfound loadable_threeObjects with
    ⟨manifests, -, hlength, -, -, hstops⟩
  rw [documentsIn_threeObjects] at hlength
  rcases List.length_eq_three.1 hlength with ⟨first, second, third, rfl⟩
  have hfails : ¬ (onceApplier (.io "refused")).Succeeds 0 second true := by
    rintro ⟨delay, events, after, answer⟩
    cases answer
  rcases hstops [first] second [third] 0 true rfl (.next rfl (.nothing 0 true)) hfails with
    ⟨hsent, hfailed, -⟩
  exact ⟨by rw [hsent]; rfl, hfailed 0 (.io "refused") [] true rfl⟩

end Readiness
