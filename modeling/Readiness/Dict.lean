/-!
# Dictionaries — entries in ascending key order

A dictionary is a list of entries with text keys in strictly ascending order, which is the order of
the keys' UTF-8 bytes.

* `Dict.find?` looks a key up, `Dict.insert` replaces or adds one entry, `Dict.ofList` inserts
  entries one after the other, so that the last one of a key wins;
* `find?_insert_self` and `find?_insert_of_ne` say what a lookup sees after an insertion;
* `ascending_insert` says that insertion keeps the order.
-/

namespace Readiness

/-- Entries with text keys. -/
abbrev Dict (α : Type u) := List (String × α)

namespace Dict

variable {α : Type u}

def find? (key : String) : Dict α → Option α
  | [] => none
  | (k, v) :: rest => if k = key then some v else find? key rest

/-- Replaces the entry of a key, or adds it in front of the first greater key. -/
def insert (key : String) (value : α) : Dict α → Dict α
  | [] => [(key, value)]
  | (k, v) :: rest =>
      if k = key then (key, value) :: rest
      else if key < k then (key, value) :: (k, v) :: rest
      else (k, v) :: insert key value rest

/-- Insertion of entries one after the other; the last one of a key wins. -/
def ofList (entries : List (String × α)) : Dict α :=
  entries.foldl (fun dict entry => insert entry.1 entry.2 dict) []

def keys (dict : Dict α) : List String := dict.map (·.1)

def values (dict : Dict α) : List α := dict.map (·.2)

/-- Keys stand in strictly ascending order, so each occurs once. -/
def Ascending (dict : Dict α) : Prop := (keys dict).Pairwise (· < ·)

@[simp] theorem find?_nil (key : String) : find? key ([] : Dict α) = none := rfl

theorem find?_insert_self (key : String) (value : α) (dict : Dict α) :
    find? key (insert key value dict) = some value := by
  induction dict with
  | nil => simp [insert, find?]
  | cons entry rest ih =>
      obtain ⟨k, v⟩ := entry
      simp only [insert]
      split
      · simp [find?]
      · split
        · simp [find?]
        · next hne _ => simp [find?, hne, ih]

theorem find?_insert_of_ne {key other : String} (hne : other ≠ key) (value : α) (dict : Dict α) :
    find? other (insert key value dict) = find? other dict := by
  induction dict with
  | nil => simp [insert, find?, Ne.symm hne]
  | cons entry rest ih =>
      obtain ⟨k, v⟩ := entry
      simp only [insert]
      split
      · next heq => subst heq; simp [find?, Ne.symm hne]
      · split
        · simp [find?, Ne.symm hne]
        · simp only [find?, ih]

theorem mem_keys_insert {key other : String} {value : α} {dict : Dict α}
    (h : other ∈ keys (insert key value dict)) : other = key ∨ other ∈ keys dict := by
  induction dict with
  | nil => simpa [insert, keys] using h
  | cons entry rest ih =>
      obtain ⟨k, v⟩ := entry
      simp only [insert] at h
      split at h
      · next heq =>
          subst heq
          exact Or.inr h
      · split at h
        · simpa [keys] using h
        · have h : other = k ∨ other ∈ keys (insert key value rest) := by simpa [keys] using h
          cases h with
          | inl same => exact Or.inr (by simp [keys, same])
          | inr later =>
              cases ih later with
              | inl same => exact Or.inl same
              | inr old => exact Or.inr (List.mem_cons_of_mem k old)

theorem lt_of_ne_of_not_lt {a b : String} (hne : a ≠ b) (h : ¬ b < a) : a < b :=
  Std.lt_of_le_of_ne (Std.not_lt.1 h) hne

theorem ascending_insert (key : String) (value : α) {dict : Dict α} (h : Ascending dict) :
    Ascending (insert key value dict) := by
  induction dict with
  | nil => simp [insert, Ascending, keys]
  | cons entry rest ih =>
      obtain ⟨k, v⟩ := entry
      have ⟨smallest, later⟩ : (∀ other ∈ keys rest, k < other) ∧ Ascending rest := by
        simpa [Ascending, keys] using h
      simp only [insert]
      split
      · next heq =>
          subst heq
          exact h
      · next hne =>
          split
          · next hlt =>
              have before : ∀ other ∈ keys ((k, v) :: rest), key < other := by
                intro other member
                cases List.mem_cons.1 member with
                | inl same => exact same ▸ hlt
                | inr old => exact Std.lt_trans hlt (smallest other old)
              exact List.pairwise_cons.2 ⟨before, h⟩
          · next hge =>
              refine List.pairwise_cons.2 ⟨?_, ih later⟩
              intro other member
              cases mem_keys_insert member with
              | inl same => exact same ▸ lt_of_ne_of_not_lt hne hge
              | inr old => exact smallest other old

end Dict

end Readiness
