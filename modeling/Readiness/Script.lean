import Readiness.Source

/-!
# Scripts — sources and transports that follow a list

A script lists what becomes of the first, the second and each further request. The last step
repeats for ever; an empty script answers every request with one default.
-/

namespace Readiness

/-- What becomes of one request of a script. -/
inductive ScriptStep (α : Type) where
  | hang
  | fail (delay : Nat) (error : Error)
  | answer (delay : Nat) (value : α)
deriving Repr

namespace ScriptStep

variable {α : Type}

def observe : ScriptStep α → Observation α
  | hang => .never
  | fail delay error => .after delay (.error error) []
  | answer delay value => .after delay (.ok value) []

end ScriptStep

abbrev Script (α : Type) := List (ScriptStep α)

namespace Script

variable {α : Type}

/-- The next step and the script that remains; the last step stays. -/
def next (default : α) : Script α → ScriptStep α × Script α
  | [] => (.answer 0 default, [])
  | [step] => (step, [step])
  | step :: rest => (step, rest)

end Script

/-- Scripts for one resource each, by name, and one for listings. -/
structure ScriptedSource where
  gets : Dict (Script (Option Snapshot))
  lists : Script (List Snapshot)

namespace ScriptedSource

/-- The source that follows scripts. A resource without a script cannot be observed. -/
def source : Source ScriptedSource where
  get _ target s :=
    match Dict.find? target.name s.gets with
    | none => (.now (.error (.observation target.render "unscripted resource")), s)
    | some script =>
        let (step, rest) := Script.next none script
        (step.observe, { s with gets := Dict.insert target.name rest s.gets })
  list _ _ _ _ s :=
    let (step, rest) := Script.next [] s.lists
    (step.observe, { s with lists := rest })

end ScriptedSource

end Readiness
