import Readiness.Manifest
import Readiness.Script

/-!
# Apply — creating the objects of a directory

* `Applier` creates one object at an instant, in a state of its own; `Applier.recorded` also keeps
  the manifests that were sent;
* `applyAll` sends manifests one after the other and stops at the first failure, and `Delivery` is
  what came of it;
* `deliverDir` and `applyDir` send the manifests of a directory, and nothing unless all of them were
  loaded.
-/

namespace Readiness

/-- Creates or updates one object. -/
structure Applier (σ : Type) where
  apply : Nat → Manifest → σ → Observation Unit × σ

namespace Applier

variable {σ : Type}

/-- The state of an applier together with the manifests sent to it, the last one first. -/
abbrev Recorded (σ : Type) := σ × List (Nat × Manifest)

def recorded (applier : Applier σ) : Applier (Recorded σ) where
  apply now manifest s :=
    let (answer, next) := applier.apply now manifest s.1
    (answer, next, (now, manifest) :: s.2)

def failing (errors : Dict Error) : Applier σ where
  apply _ manifest s :=
    match Dict.find? manifest.name errors with
    | some error => (.now (.error error), s)
    | none => (.now (.ok ()), s)

end Applier

/-- What came of sending manifests. -/
structure Delivery (σ : Type) where
  -- Absent when an answer never comes.
  outcome : Option (Except Error Nat)
  -- The instant of the last answer.
  finished : Nat
  events : List Event
  state : σ

/-- Sends manifests one after the other; `sent` of them were sent before. -/
def applyAll {σ : Type} (applier : Applier σ) (now sent : Nat) (events : List Event) (s : σ) :
    List Manifest → Delivery σ
  | [] => ⟨some (.ok sent), now, events, s⟩
  | manifest :: rest =>
      match applier.apply now manifest s with
      | (.never, s) => ⟨none, now, events, s⟩
      | (.after delay (.error error) more, s) =>
          ⟨some (.error error), now + delay, events ++ more, s⟩
      | (.after delay (.ok ()) more, s) =>
          applyAll applier (now + delay) (sent + 1) (events ++ more) s rest

def appliedDir (dir ns : String) (count : Nat) : Event :=
  ⟨.info, .manifest, "Applied manifest directory",
    [("dir", .text dir), ("namespace", .text ns), ("count", .number count)]⟩

/-- A delivery with the event that tells of its success. -/
def Delivery.announce {σ : Type} (dir ns : String) (delivery : Delivery σ) : Delivery σ :=
  match delivery.outcome with
  | some (.ok count) => { delivery with events := delivery.events ++ [appliedDir dir ns count] }
  | _ => delivery

@[simp] theorem Delivery.outcome_announce {σ : Type} (dir ns : String) (delivery : Delivery σ) :
    (delivery.announce dir ns).outcome = delivery.outcome := by
  unfold announce
  split <;> rfl

@[simp] theorem Delivery.state_announce {σ : Type} (dir ns : String) (delivery : Delivery σ) :
    (delivery.announce dir ns).state = delivery.state := by
  unfold announce
  split <;> rfl

/-- Sends the manifests of a directory, and nothing unless all of them were loaded. -/
def deliverDir {σ : Type} (applier : Applier σ) (files : FileTree) (dir ns : String) (now : Nat)
    (s : σ) : Delivery σ :=
  match Manifest.loadDir files dir ns with
  | .error error => ⟨some (.error error), now, [], s⟩
  | .ok manifests => (applyAll applier now 0 [] s manifests).announce dir ns

/-- Sends the manifests of a directory. There is no result when an answer never comes. -/
def applyDir {σ : Type} (applier : Applier σ) (files : FileTree) (dir ns : String) (now : Nat)
    (s : σ) : Option (Except Error Nat × Nat × List Event × σ) :=
  let delivery := deliverDir applier files dir ns now s
  delivery.outcome.map fun result => (result, delivery.finished, delivery.events, delivery.state)

end Readiness
