import Mathlib.Data.List.Basic
import Mathlib.Data.String.Basic
import Readiness.Text.Split

/-!
# Cutting — texts taken apart where they were joined

* `splitAt_joined`: joined parts are the parts of the text again, when the separator is in none of them;
* `toList_joined_splitAt`: joining the parts of a text gives it back, whatever it is;
* `CutInto` and `HasSegments` say what the parts and the segments of a text are without cutting it, and
  `hasSegments_iff` that `segments` finds them;
* `cut?` cuts a text at the first occurrence of a mark. `cut?_append` says what it finds, and
  `eq_of_cut?` that nothing is lost.
-/

namespace Readiness.Text

variable {sep : Char} {cs front back mark : List Char} {text : String} {parts segs : List String}

/-! ## Parts between separators -/

theorem splitAt_of_notMem (h : sep ∉ cs) : splitAt sep cs = [cs] := by
  induction cs with
  | nil => rfl
  | cons c rest ih =>
      have ⟨hne, hrest⟩ : sep ≠ c ∧ sep ∉ rest := by simpa using h
      simp [splitAt, hne.symm, ih hrest]

/-- Parts in which the separator does not occur stay apart when they are joined. -/
theorem splitAt_joined (nonempty : parts ≠ []) (h : ∀ part ∈ parts, sep ∉ part.toList) :
    splitAt sep (joined (String.singleton sep) parts).toList = parts.map String.toList := by
  induction parts with
  | nil => exact absurd rfl nonempty
  | cons part rest ih =>
      have ⟨hpart, hrest⟩ := List.forall_mem_cons.1 h
      cases rest with
      | nil => simpa [joined] using splitAt_of_notMem hpart
      | cons next more =>
          calc
            splitAt sep (joined (String.singleton sep) (part :: next :: more)).toList
                = splitAt sep
                    (part.toList ++ sep :: (joined (String.singleton sep) (next :: more)).toList) := by
                  simp [joined]
            _ = splitAt sep part.toList ++
                  splitAt sep (joined (String.singleton sep) (next :: more)).toList :=
                  splitAt_append sep _ _
            _ = (part :: next :: more).map String.toList := by
                  simp [splitAt_of_notMem hpart, ih (List.cons_ne_nil _ _) hrest]

theorem joined_append_cons (separator s t : String) (rest : List String) :
    joined separator ((s ++ t) :: rest) = s ++ joined separator (t :: rest) := by
  cases rest with
  | nil => rfl
  | cons next more => simp [joined, String.append_assoc]

theorem mem_toList_joined {c : Char} {separator : String}
    (h : c ∈ (joined separator parts).toList) :
    c ∈ separator.toList ∨ ∃ part ∈ parts, c ∈ part.toList := by
  induction parts with
  | nil => cases h
  | cons part rest ih =>
      cases rest with
      | nil => exact .inr ⟨part, List.mem_singleton_self part, h⟩
      | cons next more =>
          have somewhere : c ∈ part.toList ∨ c ∈ separator.toList ∨
              c ∈ (joined separator (next :: more)).toList := by
            simpa [joined, or_assoc] using h
          rcases somewhere with first | between | later
          · exact .inr ⟨part, List.mem_cons_self, first⟩
          · exact .inl between
          · rcases ih later with between | ⟨other, mem, hc⟩
            · exact .inl between
            · exact .inr ⟨other, List.mem_cons_of_mem part mem, hc⟩

/-- The parts of a text make it up again. -/
theorem toList_joined_splitAt (sep : Char) (cs : List Char) :
    (joined (String.singleton sep) ((splitAt sep cs).map String.ofList)).toList = cs := by
  induction cs with
  | nil => rfl
  | cons c rest ih =>
      cases hparts : splitAt sep rest with
      | nil => exact absurd hparts (splitAt_ne_nil sep rest)
      | cons part parts =>
          rw [hparts] at ih
          by_cases same : c = sep
          · simpa [splitAt, same, hparts, joined] using ih
          · have front : String.ofList (c :: part) = String.singleton c ++ String.ofList part := by
              simp
            simpa [splitAt, same, hparts, front, joined_append_cons] using ih

/-! ## Segments of a text -/

theorem notMem_of_mem_splitAt {part : List Char} (h : part ∈ splitAt sep cs) : sep ∉ part := by
  induction cs generalizing part with
  | nil =>
      have empty : part = [] := by simpa [splitAt] using h
      simp [empty]
  | cons c rest ih =>
      by_cases same : c = sep
      · have either : part = [] ∨ part ∈ splitAt sep rest := by simpa [splitAt, same] using h
        rcases either with rfl | later
        · exact List.not_mem_nil
        · exact ih later
      · cases hparts : splitAt sep rest with
        | nil => exact absurd hparts (splitAt_ne_nil sep rest)
        | cons first more =>
            have either : part = c :: first ∨ part ∈ more := by
              simpa [splitAt, same, hparts] using h
            rcases either with rfl | later
            · have apart : sep ∉ first := ih (hparts ▸ List.mem_cons_self)
              simpa [Ne.symm same] using apart
            · exact ih (hparts ▸ List.mem_cons_of_mem first later)

/-- The parts of a text between the occurrences of a character: the character is in none of them, and
with it between them they make up the text. -/
structure CutInto (sep : Char) (text : String) (parts : List String) : Prop where
  nonempty : parts ≠ []
  apart : ∀ part ∈ parts, sep ∉ part.toList
  whole : joined (String.singleton sep) parts = text

/-- The segments of a text: its parts that are not empty, in order. -/
def HasSegments (sep : Char) (text : String) (segs : List String) : Prop :=
  ∃ parts, CutInto sep text parts ∧ parts.filter (· ≠ "") = segs

theorem cutInto_splitAt (sep : Char) (text : String) :
    CutInto sep text ((splitAt sep text.toList).map String.ofList) where
  nonempty := by simpa using splitAt_ne_nil sep text.toList
  apart := by
    intro part mem
    rcases List.mem_map.1 mem with ⟨chars, found, rfl⟩
    simpa using notMem_of_mem_splitAt found
  whole := String.toList_inj.1 (toList_joined_splitAt sep text.toList)

theorem CutInto.splitAt_eq (h : CutInto sep text parts) :
    splitAt sep text.toList = parts.map String.toList := by
  rw [← h.whole]
  exact splitAt_joined h.nonempty h.apart

theorem CutInto.segments_eq (h : CutInto sep text parts) :
    segments sep text = parts.filter (· ≠ "") := by
  have filled (part : String) : (!part.toList.isEmpty) = decide (part ≠ "") := by
    by_cases empty : part = "" <;> simp [empty]
  rw [segments, h.splitAt_eq]
  simp [List.filter_map, Function.comp_def, filled]

/-- Every text has one sequence of segments. -/
theorem hasSegments_iff : HasSegments sep text segs ↔ segments sep text = segs := by
  constructor
  · rintro ⟨parts, cut, rfl⟩
    exact cut.segments_eq
  · rintro rfl
    exact ⟨_, cutInto_splitAt sep text, (cutInto_splitAt sep text).segments_eq.symm⟩

/-! ## The first occurrence of a mark -/

/-- What stands in front of the first occurrence of a mark, and what follows it. -/
def cut? (mark : List Char) : List Char → Option (List Char × List Char)
  | [] => none
  | c :: rest =>
      if mark.isPrefixOf (c :: rest) then some ([], (c :: rest).drop mark.length)
      else (cut? mark rest).map fun (front, back) => (c :: front, back)

/-- A mark is found behind a text in which its first character does not occur. -/
theorem cut?_append {first : Char} (h : first ∉ front) :
    cut? (first :: mark) (front ++ first :: mark ++ back) = some (front, back) := by
  induction front with
  | nil => simp [cut?]
  | cons c front ih =>
      have ⟨hne, hfront⟩ : first ≠ c ∧ first ∉ front := by simpa using h
      have differs : (first == c) = false := beq_false_of_ne hne
      -- A mark that began here would begin with `c`.
      have later : cut? (first :: mark) (front ++ first :: (mark ++ back)) = some (front, back) := by
        simpa using ih hfront
      simp [cut?, List.isPrefixOf, differs, later]

/-- A text is what stands in front of the mark, the mark and what follows it. -/
theorem eq_of_cut? (h : cut? mark cs = some (front, back)) : cs = front ++ mark ++ back := by
  induction cs generalizing front with
  | nil => cases h
  | cons c rest ih =>
      by_cases found : mark.isPrefixOf (c :: rest) = true
      · have ⟨hfront, hback⟩ : [] = front ∧ (c :: rest).drop mark.length = back := by
          simpa [cut?, found] using h
        have split : mark ++ (c :: rest).drop mark.length = c :: rest :=
          List.prefix_iff_eq_append.1 (List.isPrefixOf_iff_prefix.1 found)
        simp [← hfront, ← hback, split]
      · have ⟨later, hrest, hfront⟩ : ∃ later, cut? mark rest = some (later, back) ∧
            c :: later = front := by
          simpa [cut?, found] using h
        simp [← hfront, ih hrest]

end Readiness.Text
