import Mathlib
import Readiness.Proofs.Settings.Sources
import Readiness.Proofs.Wait.Cadence

/-!
# Edits — settings that a program builds up

* `Settings.Edit` is one step of building settings, `Settings.apply` what it does, and
  `Settings.applyAll` does one after the other;
* `Settings.Edit.value?` and `Settings.Edit.cadence?` are what an edit sets, and
  `Settings.read_apply`: it changes nothing else;
* `Settings.Leaves`: the value that a sequence leaves is that of the last edit that sets it;
* `Settings.last_edit_decides`: so it is for every setting and for the exact interval and timeout, which
  stand above the whole seconds wherever they are set, and edits that set different things commute.
-/

namespace Readiness

open Json (Value)

namespace Settings

/-- A step of building settings. -/
inductive Edit where
  | overlay (env : Settings.Environment)
  | polling (interval timeout : Duration)
  | kubeconfig (path : String)
  | context (name : String)
  | manifestRoot (root : String)

namespace Edit

/-- The value that an edit gives a setting. -/
def value? : Edit → Setting → Option Value
  | overlay env, setting => Settings.environmentValue? env setting
  | kubeconfig path, .kubeconfig => some (.str path)
  | context name, .context => some (.str name)
  | manifestRoot root, .manifestRoot => some (.str root)
  | _, _ => none

/-- The exact interval and timeout of an edit. -/
def cadence? : Edit → Option (Duration × Duration)
  | polling interval timeout => some (interval, timeout)
  | _ => none

/-- No setting is set by both edits, nor is the exact cadence. -/
def SetsApart (edit other : Edit) : Prop :=
  (∀ setting, edit.value? setting = none ∨ other.value? setting = none) ∧
    (edit.cadence? = none ∨ other.cadence? = none)

end Edit

variable {s s' : Settings} {edit other : Edit} {edits front back : List Edit} {α : Type}

def apply (s : Settings) : Edit → Except Error Settings
  | .overlay env => s.overlay env
  | .polling interval timeout => .ok (s.withPolling interval timeout)
  | .kubeconfig path => .ok (s.withKubeconfig path)
  | .context name => .ok (s.withContext name)
  | .manifestRoot root => .ok (s.withManifestRoot root)

/-- The edits one after the other. -/
def applyAll (s : Settings) : List Edit → Except Error Settings
  | [] => .ok s
  | edit :: rest => s.apply edit >>= fun s => s.applyAll rest

/-! ## One edit -/

/-- An edit gives the settings that it sets their values and keeps all others. -/
theorem read_apply (h : s.apply edit = .ok s') :
    (∀ setting, s'.read setting = (edit.value? setting).getD (s.read setting)) ∧
      s'.polling = edit.cadence?.or s.polling := by
  cases edit with
  | overlay env => exact read_overlay h
  | polling interval timeout =>
      cases h
      exact ⟨fun setting => rfl, rfl⟩
  | kubeconfig path =>
      cases h
      exact ⟨fun setting => by cases setting <;> rfl, rfl⟩
  | context name =>
      cases h
      exact ⟨fun setting => by cases setting <;> rfl, rfl⟩
  | manifestRoot root =>
      cases h
      exact ⟨fun setting => by cases setting <;> rfl, rfl⟩

/-- Whether an edit succeeds does not depend on the settings. -/
theorem exists_apply (h : s.apply edit = .ok s') (t : Settings) : ∃ t', t.apply edit = .ok t' := by
  cases edit with
  | overlay env => exact exists_overlay_iff.2 (exists_overlay_iff.1 ⟨s', h⟩)
  | polling interval timeout => exact ⟨_, rfl⟩
  | kubeconfig path => exact ⟨_, rfl⟩
  | context name => exact ⟨_, rfl⟩
  | manifestRoot root => exact ⟨_, rfl⟩

/-- Two edits that set different things may change places. -/
theorem apply_swap {middle : Settings} (apart : edit.SetsApart other)
    (first : s.apply edit = .ok middle) (second : middle.apply other = .ok s') :
    ∃ middle', s.apply other = .ok middle' ∧ middle'.apply edit = .ok s' := by
  rcases exists_apply second s with ⟨middle', first'⟩
  rcases exists_apply first middle' with ⟨s'', second'⟩
  rcases read_apply first with ⟨reads, polling⟩
  rcases read_apply second with ⟨reads', polling'⟩
  rcases read_apply first' with ⟨swapped, cadence⟩
  rcases read_apply second' with ⟨swapped', cadence'⟩
  have same : s'' = s' := by
    refine eq_of_read (fun setting => ?_) ?_
    · rw [swapped', swapped, reads', reads]
      rcases apart.1 setting with unset | unset <;> rw [unset] <;> rfl
    · rw [cadence', cadence, polling', polling]
      rcases apart.2 with unset | unset <;> rw [unset] <;> rfl
  exact ⟨middle', first', same ▸ second'⟩

/-! ## Sequences of edits -/

/-- The value that a sequence of edits leaves: that of the last edit that gives one, and the value
before when none does. -/
inductive Leaves (gives : Edit → Option α) (before : α) : List Edit → α → Prop
  | kept {edits : List Edit} (none : ∀ edit ∈ edits, gives edit = none) :
      Leaves gives before edits before
  | last {value : α} (front : List Edit) {edit : Edit} {back : List Edit}
      (given : gives edit = some value) (none : ∀ later ∈ back, gives later = none) :
      Leaves gives before (front ++ edit :: back) value

theorem Leaves.cons {gives : Edit → Option α} {before value : α}
    (h : Leaves gives ((gives edit).getD before) edits value) :
    Leaves gives before (edit :: edits) value := by
  cases h with
  | kept none =>
      cases given : gives edit with
      | none => exact .kept (List.forall_mem_cons.2 ⟨given, none⟩)
      | some value => exact .last [] given none
  | last front given none => exact .last (edit :: front) given none

/-- A sequence leaves one value. -/
theorem Leaves.eq_getLast? {gives : Edit → Option α} {before value : α}
    (h : Leaves gives before edits value) :
    value = ((edits.filterMap gives).getLast?).getD before := by
  cases h with
  | kept none => rw [List.filterMap_eq_nil_iff.2 none]; rfl
  | last front given none =>
      rw [List.filterMap_append, List.filterMap_cons_some given, List.filterMap_eq_nil_iff.2 none,
        List.getLast?_concat]
      rfl

/-- With a value that is given, the one before does not matter. -/
theorem Leaves.map_some {gives : Edit → Option α} {before : Option α} {value : Option α} {other : α}
    (h : Leaves (fun edit => (gives edit).map some) before edits value) :
    Leaves gives (before.getD other) edits (value.getD other) := by
  have unset {edit : Edit} (none : (gives edit).map some = none) : gives edit = .none :=
    Option.map_eq_none_iff.1 none
  cases h with
  | kept none => exact .kept fun edit mem => unset (none edit mem)
  | last front given none =>
      rcases Option.map_eq_some_iff.1 given with ⟨value, found, rfl⟩
      exact .last front found fun later mem => unset (none later mem)

theorem leaves_applyAll (h : s.applyAll edits = .ok s') :
    (∀ setting, Leaves (·.value? setting) (s.read setting) edits (s'.read setting)) ∧
      Leaves (fun edit => edit.cadence?.map some) s.polling edits s'.polling := by
  induction edits generalizing s with
  | nil =>
      cases h
      exact ⟨fun setting => .kept (by simp), .kept (by simp)⟩
  | cons edit rest ih =>
      rcases Attempt.bind_eq_ok_iff.1 h with ⟨middle, first, later⟩
      rcases read_apply first with ⟨reads, polling⟩
      rcases ih later with ⟨values, cadence⟩
      refine ⟨fun setting => .cons (reads setting ▸ values setting), .cons ?_⟩
      have once : (edit.cadence?.map some).getD s.polling = edit.cadence?.or s.polling := by
        cases edit.cadence? <;> rfl
      rwa [once, ← polling]

theorem applyAll_append : s.applyAll (front ++ back) =
    s.applyAll front >>= fun middle => middle.applyAll back := by
  induction front generalizing s with
  | nil => rfl
  | cons edit rest ih =>
      simp only [List.cons_append, applyAll]
      cases s.apply edit with
      | error e => rfl
      | ok middle => exact ih

/-- Neighbours that set different things may change places in a sequence. -/
theorem applyAll_swap (apart : edit.SetsApart other)
    (h : s.applyAll (front ++ edit :: other :: back) = .ok s') :
    s.applyAll (front ++ other :: edit :: back) = .ok s' := by
  rw [applyAll_append] at h ⊢
  rcases Attempt.bind_eq_ok_iff.1 h with ⟨early, before, h⟩
  rcases Attempt.bind_eq_ok_iff.1 h with ⟨middle, first, h⟩
  rcases Attempt.bind_eq_ok_iff.1 h with ⟨late, second, after⟩
  rcases apply_swap apart first second with ⟨middle', first', second'⟩
  refine Attempt.bind_eq_ok_iff.2 ⟨early, before, Attempt.bind_eq_ok_iff.2 ⟨middle', first', ?_⟩⟩
  exact Attempt.bind_eq_ok_iff.2 ⟨late, second', after⟩

/-- The interval and the timeout in whole seconds. -/
def wholeSeconds (s : Settings) : Duration × Duration :=
  (.ofSecs s.pollIntervalSecs, .ofSecs s.pollTimeoutSecs)

/-- The pacing is the cadence when that is one, and it is not rounded. -/
theorem pacing_eq_ok_iff {pacing : Pacing} : s.pacing = .ok pacing ↔
    Duration.zero < s.cadence.1 ∧ s.cadence.1 ≤ s.cadence.2 ∧
      pacing.interval = s.cadence.1 ∧ pacing.timeout = s.cadence.2 ∧
      pacing.retriesErrors = false :=
  Pacing.make_eq_ok_iff

theorem exists_pacing_iff : (∃ pacing, s.pacing = .ok pacing) ↔
    Duration.zero < s.cadence.1 ∧ s.cadence.1 ≤ s.cadence.2 := by
  simp only [pacing_eq_ok_iff]
  constructor
  · rintro ⟨pacing, positive, ordered, -⟩
    exact ⟨positive, ordered⟩
  · rintro ⟨positive, ordered⟩
    exact ⟨⟨s.cadence.1, s.cadence.2, false, positive, ordered⟩, positive, ordered, rfl, rfl, rfl⟩

/-- After a sequence of edits every setting has the value of the last edit that sets it. The interval
and the timeout are exactly those of the last edit that sets them, whatever comes before or behind it,
and without one those that were set before or else the whole seconds that the sequence leaves. They
make a pacing exactly when the interval is positive and no longer than the timeout. Neighbours that set
different things may change places anywhere. -/
theorem last_edit_decides (s : Settings) (edits : List Edit) (h : s.applyAll edits = .ok s') :
    (∀ setting, Leaves (·.value? setting) (s.read setting) edits (s'.read setting)) ∧
      Leaves Edit.cadence? (s.polling.getD s'.wholeSeconds) edits s'.cadence ∧
      ((∃ pacing, s'.pacing = .ok pacing) ↔
        Duration.zero < s'.cadence.1 ∧ s'.cadence.1 ≤ s'.cadence.2) ∧
      (∀ pacing, s'.pacing = .ok pacing →
        pacing.interval = s'.cadence.1 ∧ pacing.timeout = s'.cadence.2) ∧
      ∀ front edit other back, edits = front ++ edit :: other :: back → edit.SetsApart other →
        s.applyAll (front ++ other :: edit :: back) = .ok s' := by
  rcases leaves_applyAll h with ⟨values, polling⟩
  refine ⟨values, polling.map_some, exists_pacing_iff, ?_, ?_⟩
  · intro pacing made
    rcases pacing_eq_ok_iff.1 made with ⟨-, -, interval, timeout, -⟩
    exact ⟨interval, timeout⟩
  · rintro front edit other back rfl apart
    exact applyAll_swap apart h

/-- Parts of a second, then whole seconds of an environment, then a context. -/
def sampleEdits : List Edit :=
  [.polling (.ofMillis 250) (.ofMillis 1500), .overlay sampleEnvironment, .context "explicit"]

/-- The exact interval and timeout outlive the interval of the environment. -/
theorem sampleEdits_keep_cadence :
    ∃ s, standard.applyAll sampleEdits = .ok s ∧ s.read .pollInterval = .num (.int 9) ∧
      s.read .context = .str "explicit" ∧ s.cadence = (.ofMillis 250, .ofMillis 1500) ∧
      ∃ pacing, s.pacing = .ok pacing := by
  have applied : standard.applyAll sampleEdits = .ok
      { standard with
        pollIntervalSecs := 9
        context := some "explicit"
        polling := some (.ofMillis 250, .ofMillis 1500) } := by
    cbv
  rcases last_edit_decides standard sampleEdits applied with ⟨values, cadence, makes, -, -⟩
  refine ⟨_, applied, ?_, ?_, ?_, ?_⟩
  · rw [(values .pollInterval).eq_getLast?]
    cbv
  · rw [(values .context).eq_getLast?]
    cbv
  · rw [cadence.eq_getLast?]
    rfl
  · rw [makes, cadence.eq_getLast?]
    decide

end Settings

end Readiness
