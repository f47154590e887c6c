import Mathlib.Data.List.Forall2
import Readiness.Condition

/-!
# Entries — the conditions of a status, read one by one

* `StatusEntry.Writes`: the shapes of a value from which an entry is read, and
  `StatusEntry.read?_eq_some_iff`: these are all;
* `Snapshot.Lists`: the values listed under `conditions`, none when there is no array;
* `Snapshot.DifferInOthers`: lists that become one another when values that are no entries are
  inserted and removed anywhere;
* `Snapshot.conditions_are_read_one_by_one`: the entries are those of the readable values, in their
  order, and no other value has a part in what is asked of a status.
-/

namespace Readiness

open Json (Value)

namespace StatusEntry

variable {value : Value} {entry : StatusEntry} {items : List Value}

/-! ## Shapes of an entry -/

/-- A reason as a value: null for none, or a text. -/
inductive WritesReason : Value → Option String → Prop
  | null : WritesReason .null none
  | text (reason : String) : WritesReason (.str reason) (some reason)

/-- The values that are entries: an object with the texts `type` and `status` in which the reason may
be missing, and an array of the two texts with or without a reason behind them. -/
inductive Writes : Value → StatusEntry → Prop
  | object {fields : Dict Value} {type status : String}
      (htype : Dict.find? "type" fields = some (.str type))
      (hstatus : Dict.find? "status" fields = some (.str status))
      (absent : Dict.find? "reason" fields = none) : Writes (.obj fields) ⟨type, status, none⟩
  | reasoned {fields : Dict Value} {type status : String} {given : Value} {reason : Option String}
      (htype : Dict.find? "type" fields = some (.str type))
      (hstatus : Dict.find? "status" fields = some (.str status))
      (present : Dict.find? "reason" fields = some given) (writes : WritesReason given reason) :
      Writes (.obj fields) ⟨type, status, reason⟩
  | pair (type status : String) : Writes (.arr [.str type, .str status]) ⟨type, status, none⟩
  | triple (type status : String) {given : Value} {reason : Option String}
      (writes : WritesReason given reason) :
      Writes (.arr [.str type, .str status, given]) ⟨type, status, reason⟩

/-- The value is some entry. -/
def Readable (value : Value) : Prop := ∃ entry, Writes value entry

theorem readReason?_eq_some_iff {reason : Option String} :
    readReason? value = some reason ↔ WritesReason value reason := by
  constructor
  · intro h
    unfold readReason? at h
    split at h <;> cases h
    · exact .null
    · exact .text _
  · rintro (_ | _) <;> rfl

/-- A reason that is missing reads as one that is null. -/
theorem writes_of_fields {fields : Dict Value} {type status : String} {reason : Option String}
    (htype : Dict.find? "type" fields = some (.str type))
    (hstatus : Dict.find? "status" fields = some (.str status))
    (writes : WritesReason ((Dict.find? "reason" fields).getD .null) reason) :
    Writes (.obj fields) ⟨type, status, reason⟩ := by
  cases given : Dict.find? "reason" fields with
  | none =>
      rw [given] at writes
      cases writes
      exact .object htype hstatus given
  | some value => exact .reasoned htype hstatus given (by simpa [given] using writes)

theorem writes_of_read? (h : read? value = some entry) : Writes value entry := by
  unfold read? at h
  split at h
  · rcases Option.bind_eq_some_iff.1 h with ⟨type, htype, h⟩
    rcases Option.bind_eq_some_iff.1 h with ⟨status, hstatus, h⟩
    rcases Option.bind_eq_some_iff.1 h with ⟨reason, read, same⟩
    cases same
    exact writes_of_fields (Value.bind_asString?_eq_some_iff.1 htype)
      (Value.bind_asString?_eq_some_iff.1 hstatus) (readReason?_eq_some_iff.1 read)
  · cases h
    exact .pair _ _
  · rcases Option.bind_eq_some_iff.1 h with ⟨reason, read, same⟩
    cases same
    exact .triple _ _ (readReason?_eq_some_iff.1 read)
  · cases h

theorem Writes.read? (h : Writes value entry) : read? value = some entry := by
  cases h with
  | object htype hstatus absent => simp [StatusEntry.read?, readReason?, Value.asString?, *]
  | reasoned htype hstatus present writes =>
      simp [StatusEntry.read?, Value.asString?, readReason?_eq_some_iff.2 writes, *]
  | pair type status => rfl
  | triple type status writes =>
      simp [StatusEntry.read?, readReason?_eq_some_iff.2 writes]

/-- Reading decides the shapes. -/
theorem read?_eq_some_iff : read? value = some entry ↔ Writes value entry :=
  ⟨writes_of_read?, Writes.read?⟩

theorem readable_iff : Readable value ↔ (read? value).isSome = true := by
  simp only [Readable, Option.isSome_iff_exists, read?_eq_some_iff]

instance : DecidablePred Readable := fun _ => decidable_of_iff _ readable_iff.symm

theorem read?_eq_none_iff : read? value = none ↔ ¬ Readable value := by
  rw [readable_iff, Bool.not_eq_true, Option.isSome_eq_false_iff, Option.isNone_iff_eq_none]

/-- Reading a list takes its readable values, each for the entry that it is. -/
theorem forall₂_writes (items : List Value) :
    List.Forall₂ Writes (items.filter (Readable ·)) (items.filterMap read?) := by
  induction items with
  | nil => exact .nil
  | cons item rest ih =>
      cases read : read? item with
      | none =>
          have other : ¬ Readable item := read?_eq_none_iff.1 read
          simpa [read, other] using ih
      | some entry =>
          have writes : Writes item entry := read?_eq_some_iff.1 read
          have good : Readable item := ⟨entry, writes⟩
          simpa [read, good] using ⟨writes, ih⟩

end StatusEntry

namespace Snapshot

open StatusEntry (Writes Readable)

variable {snapshot other : Snapshot} {items items' : List Value} {type : String}

/-! ## The list of a status -/

/-- The values listed under `conditions`. -/
inductive Lists : Value → List Value → Prop
  | array {status : Value} {items : List Value}
      (present : status.get? "conditions" = some (.arr items)) : Lists status items
  | missing {status : Value} (absent : status.get? "conditions" = none) : Lists status []
  | noArray {status found : Value} (present : status.get? "conditions" = some found)
      (differs : ∀ items, found ≠ .arr items) : Lists status []

theorem exists_lists (status : Value) : ∃ items, Lists status items := by
  cases present : status.get? "conditions" with
  | none => exact ⟨[], .missing present⟩
  | some found =>
      by_cases array : ∃ items, found = .arr items
      · rcases array with ⟨items, rfl⟩
        exact ⟨items, .array present⟩
      · exact ⟨[], .noArray present (not_exists.1 array)⟩

theorem entries_eq_of_lists (h : Lists snapshot.status items) :
    snapshot.entries = items.filterMap StatusEntry.read? := by
  unfold entries
  cases h with
  | array present => simp [present, Value.asArray?]
  | missing absent => simp [absent]
  | @noArray found present differs =>
      rw [present]
      cases found with
      | arr items => exact absurd rfl (differs items)
      | _ => rfl

/-! ## Other values -/

/-- The lists become one another by inserting and removing values that are no entries. -/
inductive DifferInOthers : List Value → List Value → Prop
  | nil : DifferInOthers [] []
  | keep {items items' : List Value} (item : Value) (rest : DifferInOthers items items') :
      DifferInOthers (item :: items) (item :: items')
  | inserted {items items' : List Value} {item : Value} (unreadable : ¬ Readable item)
      (rest : DifferInOthers items items') : DifferInOthers items (item :: items')
  | removed {items items' : List Value} {item : Value} (unreadable : ¬ Readable item)
      (rest : DifferInOthers items items') : DifferInOthers (item :: items) items'

theorem DifferInOthers.read_eq (h : DifferInOthers items items') :
    items.filterMap StatusEntry.read? = items'.filterMap StatusEntry.read? := by
  induction h with
  | nil => rfl
  | keep item _ ih => simp only [List.filterMap_cons, ih]
  | inserted unreadable _ ih => simp [StatusEntry.read?_eq_none_iff.2 unreadable, ih]
  | removed unreadable _ ih => simp [StatusEntry.read?_eq_none_iff.2 unreadable, ih]

theorem summary_eq_of_entries_eq (same : other.target = snapshot.target)
    (entries : other.entries = snapshot.entries) : other.summary = snapshot.summary := by
  unfold summary
  rw [entries, same]

/-! ## What is asked of a status -/

theorem holds_eq_true_iff {entry : StatusEntry} :
    entry.holds type = true ↔ entry.type = type ∧ entry.status = "True" := by
  simp [StatusEntry.holds]

theorem hasCondition_eq_true_iff (h : Lists snapshot.status items) :
    snapshot.hasCondition type = true ↔
      ∃ item ∈ items, ∃ reason, Writes item ⟨type, "True", reason⟩ := by
  simp only [hasCondition, entries_eq_of_lists h, List.any_eq_true, List.mem_filterMap,
    StatusEntry.read?_eq_some_iff, holds_eq_true_iff]
  constructor
  · rintro ⟨⟨_, _, reason⟩, ⟨item, mem, writes⟩, rfl, rfl⟩
    exact ⟨item, mem, reason, writes⟩
  · rintro ⟨item, mem, reason, writes⟩
    exact ⟨_, ⟨item, mem, writes⟩, rfl, rfl⟩

/-- The conditions of a status are the entries among the values that it lists, each read for itself
and in order. Values that are no entries may be inserted and removed anywhere without a change of the
conditions, of any question for one and of the summary. A condition holds exactly when one of the
values says `True` of its type, and a wait for it asks the same. -/
theorem conditions_are_read_one_by_one (snapshot : Snapshot) :
    ∃ items, Lists snapshot.status items ∧
      List.Forall₂ Writes (items.filter (Readable ·)) snapshot.entries ∧
      (∀ (other : Snapshot) items', Lists other.status items' → DifferInOthers items items' →
        other.entries = snapshot.entries ∧
        (∀ type, other.hasCondition type = snapshot.hasCondition type) ∧
        (other.target = snapshot.target → other.summary = snapshot.summary)) ∧
      ∀ type, (snapshot.hasCondition type = true ↔
          ∃ item ∈ items, ∃ reason, Writes item ⟨type, "True", reason⟩) ∧
        (Condition.statusTrue type).holds snapshot = snapshot.hasCondition type := by
  rcases exists_lists snapshot.status with ⟨items, lists⟩
  have read : snapshot.entries = items.filterMap StatusEntry.read? := entries_eq_of_lists lists
  refine ⟨items, lists, ?_, ?_, fun type => ⟨hasCondition_eq_true_iff lists, rfl⟩⟩
  · rw [read]
    exact StatusEntry.forall₂_writes items
  · intro other items' lists' differ
    have same : other.entries = snapshot.entries := by
      rw [entries_eq_of_lists lists', read, differ.read_eq]
    refine ⟨same, fun type => ?_, fun target => summary_eq_of_entries_eq target same⟩
    simp only [hasCondition, same]

/-- An entry that says `False`, an entry that says `True`, and values that are neither. -/
example :
    let status := Value.obj [("conditions", .arr
      [.num (.int 7), .arr [.str "Ready", .str "False", .null], .obj [("type", .str "Ready")],
        .obj [("status", .str "True"), ("type", .str "Ready")]])]
    let snapshot : Snapshot := ⟨.pod, none, "web", [], status⟩
    snapshot.entries = [⟨"Ready", "False", none⟩, ⟨"Ready", "True", none⟩] ∧
      snapshot.hasCondition "Ready" = true := by
  decide

end Snapshot

end Readiness
