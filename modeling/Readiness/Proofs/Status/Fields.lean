import Readiness.Proofs.Json.Position
import Readiness.Proofs.Text.Cutting
import Readiness.Snapshot

/-!
# Fields — dotted paths below a status

* `Snapshot.field_append`: of two paths with a dot between them the second one is followed below what
  the first one finds;
* `Snapshot.field_of_hasSegments`: only the segments of a path count;
* `Snapshot.field_of_not_obj`: nothing is found below a value that is no object;
* `Snapshot.field_follows_segments`: a field is what the segments lead to, key after key, and is found
  exactly when each of them stands in the object that those before it have led to.
-/

namespace Readiness

open Json (Value)
open Json.Value (Leads HoldsEach)
open Text (HasSegments)

namespace Snapshot

variable {snapshot : Snapshot} {path p q : String} {keys : List String} {found : Value}

theorem field_of_hasSegments (h : HasSegments '.' path keys) :
    snapshot.field path = snapshot.status.lookup keys := by
  rw [field, Text.hasSegments_iff.1 h]

/-- The second path is followed in a status that is what the first one has found. -/
theorem field_append (snapshot : Snapshot) (p q : String) : snapshot.field (p ++ "." ++ q) =
    (snapshot.field p).bind fun found => field { snapshot with status := found } q := by
  have segments : Text.segments '.' (p ++ "." ++ q) = Text.segments '.' p ++ Text.segments '.' q :=
    Text.segments_append '.' p q
  calc
    snapshot.field (p ++ "." ++ q)
        = snapshot.status.lookup (Text.segments '.' p ++ Text.segments '.' q) :=
          congrArg snapshot.status.lookup segments
    _ = (snapshot.field p).bind fun found => found.lookup (Text.segments '.' q) :=
          Value.lookup_append snapshot.status _ _

theorem field_eq_some_iff (h : HasSegments '.' path keys) :
    snapshot.field path = some found ↔ Leads snapshot.status keys found := by
  rw [field_of_hasSegments h]
  exact Value.lookup_eq_some_iff

theorem exists_field_iff (h : HasSegments '.' path keys) :
    (∃ found, snapshot.field path = some found) ↔ HoldsEach snapshot.status keys :=
  calc
    (∃ found, snapshot.field path = some found)
        ↔ ∃ found, Leads snapshot.status keys found := exists_congr fun _ => field_eq_some_iff h
    _ ↔ HoldsEach snapshot.status keys := Value.exists_leads_iff

/-- A text, an array or any other value that is no object has nothing below it. -/
theorem field_of_not_obj (reached : snapshot.field p = some found)
    (differs : ∀ fields, found ≠ .obj fields) (below : ¬ HasSegments '.' q []) :
    snapshot.field (p ++ "." ++ q) = none := by
  have further : Text.segments '.' q ≠ [] := fun none => below (Text.hasSegments_iff.2 none)
  calc
    snapshot.field (p ++ "." ++ q) = found.lookup (Text.segments '.' q) := by
      rw [field_append, reached]
      rfl
    _ = none := Value.lookup_of_not_obj differs further

/-- A dotted path is followed segment by segment. A path behind another one goes on below what that one
finds, and finds nothing when that one does; of a path only the segments count, that is, its parts that
are not empty; and it finds what they lead to, which is there exactly when each of them stands as a key
in the object that those before it have led to, so that nothing is found below any other value. -/
theorem field_follows_segments (snapshot : Snapshot) :
    (∀ p q, snapshot.field (p ++ "." ++ q) =
      (snapshot.field p).bind fun found => field { snapshot with status := found } q) ∧
    (∀ p q keys, HasSegments '.' p keys → HasSegments '.' q keys →
      snapshot.field p = snapshot.field q) ∧
    (∀ path, ∃ keys, HasSegments '.' path keys ∧
      (∀ found, snapshot.field path = some found ↔ Leads snapshot.status keys found) ∧
      ((∃ found, snapshot.field path = some found) ↔ HoldsEach snapshot.status keys)) ∧
    ∀ p q found, snapshot.field p = some found → (∀ fields, found ≠ .obj fields) →
      ¬ HasSegments '.' q [] → snapshot.field (p ++ "." ++ q) = none := by
  refine ⟨field_append snapshot, ?same, ?way, fun p q found => field_of_not_obj⟩
  case same =>
    intro p q keys hp hq
    exact (field_of_hasSegments hp).trans (field_of_hasSegments hq).symm
  case way =>
    intro path
    have has : HasSegments '.' path (Text.segments '.' path) := Text.hasSegments_iff.2 rfl
    exact ⟨_, has, fun found => field_eq_some_iff has, exists_field_iff has⟩

/-- A status with a text and an array below one key. -/
def issuedStatus : Snapshot :=
  ⟨.secret, some "e2e", "web", [], .obj
    [("secretRef", .obj [("keys", .arr [.str "tls.crt"]), ("name", .str "web-tls")])]⟩

/-- Empty segments make no difference, and no place of an array is entered. -/
theorem issuedStatus_is_followed :
    issuedStatus.field ".secretRef..name." = issuedStatus.field "secretRef.name" ∧
    issuedStatus.field ("secretRef.keys" ++ "." ++ "0") = none := by
  have ⟨_, same, _, below⟩ := field_follows_segments issuedStatus
  have scattered : HasSegments '.' ".secretRef..name." ["secretRef", "name"] :=
    Text.hasSegments_iff.2 (by decide)
  have plain : HasSegments '.' "secretRef.name" ["secretRef", "name"] :=
    Text.hasSegments_iff.2 (by decide)
  have reached : issuedStatus.field "secretRef.keys" = some (.arr [.str "tls.crt"]) := by rfl
  have further : ¬ HasSegments '.' "0" [] := by
    rw [Text.hasSegments_iff]
    decide
  exact ⟨same _ _ _ scattered plain, below _ _ _ reached (fun _ => nofun) further⟩

end Snapshot

end Readiness
