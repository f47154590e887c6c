import Readiness.Proofs.Yaml.Keys
import Readiness.Proofs.Yaml.Literals
import Readiness.Proofs.Yaml.Loaded

/-!
# Reals — what becomes of the real numbers of a text

* `Node.RealContent`: a literal becomes the nearest double or null, a word null, and an infinity or no
  number that is written with a point is refused;
* `Node.realContent_iff`: this is the content of every text that counts as real, and of no other;
* `Node.reals_convert_unless_pointed`: so it is for the reals of a document, and the failure of an
  invalid float tells of one that is written with a point;
* `Node.pointedInfinity_is_refused`: there are such documents.
-/

namespace Readiness.Yaml

open Json (Value)

namespace Node

variable {root : Node} {raw : String} {result : Except ContentError Value}

/-- The content of a real by its text. -/
inductive RealContent : String → Except ContentError Value → Prop
  | literal (literal : Literal) {x : Binary64} (rounds : Binary64.Rounds literal.value x)
      (sign : x.isNegative = literal.sign.isNegative) :
      RealContent literal.text (.ok (if x.isFinite then .num (.float x) else .null))
  | word (word : Word) : RealContent word.text (.ok .null)
  | pointed {text : String} (mem : text ∈ pointForms) :
      RealContent text (.error (.invalidFloat text))

/-! ## Contents -/

theorem isReal_iff : isReal raw = true ↔ raw ∈ pointForms ∨ (readFloat? raw).isSome = true := by
  rw [isReal, Bool.or_eq_true, List.contains_iff_mem]

theorem realValue_literal (literal : Literal) {x : Binary64}
    (rounds : Binary64.Rounds literal.value x) (sign : x.isNegative = literal.sign.isNegative) :
    realValue literal.text = .ok (if x.isFinite then .num (.float x) else .null) := by
  have same : x = literal.double :=
    rounds.unique literal.rounds_double (sign.trans literal.isNegative_double.symm)
  rw [realValue, readFloat?_literal, ← same]

theorem realValue_word (word : Word) : realValue word.text = .ok .null := by
  rcases readFloat?_word word with ⟨x, read, infinite⟩
  simp [realValue, read, infinite]

theorem readFloat?_of_pointed (mem : raw ∈ pointForms) : readFloat? raw = none := by
  revert raw
  decide

theorem realValue_pointed (mem : raw ∈ pointForms) : realValue raw = .error (.invalidFloat raw) := by
  rw [realValue, readFloat?_of_pointed mem]

/-- The contents of the texts that count as real. -/
theorem realContent_iff : RealContent raw result ↔ isReal raw = true ∧ realValue raw = result := by
  rw [isReal_iff]
  constructor
  · intro content
    cases content with
    | literal literal rounds sign =>
        exact ⟨.inr (isSome_readFloat?_iff.2 (.inr ⟨literal, rfl⟩)),
          realValue_literal literal rounds sign⟩
    | word word =>
        exact ⟨.inr (isSome_readFloat?_iff.2 (.inl ⟨word, rfl⟩)), realValue_word word⟩
    | pointed mem => exact ⟨.inl mem, realValue_pointed mem⟩
  · rintro ⟨mem | read, rfl⟩
    · rw [realValue_pointed mem]
      exact .pointed mem
    · rcases isSome_readFloat?_iff.1 read with ⟨word, rfl⟩ | ⟨literal, rfl⟩
      · rw [realValue_word]
        exact .word word
      · rw [realValue_literal literal literal.rounds_double literal.isNegative_double]
        exact .literal literal literal.rounds_double literal.isNegative_double

/-! ## Documents -/

/-- A document fails with an invalid float only when it has a real that is not read. -/
theorem hasPart_of_invalidFloat (fails : root.toValue = .error (.invalidFloat raw)) :
    root.HasPart (.value (real raw)) ∧ readFloat? raw = none := by
  rcases toValue_eq_error_iff.1 fails with ⟨front, part, back, split, flaw, -⟩
  have here : root.HasPart part := (mem_parts_iff root).1 (by simp [split])
  cases part with
  | key key => cases key <;> cases flaw
  | value node =>
      cases node with
      | real text =>
          simp only [Part.flaw?] at flaw
          split at flaw
          · cases flaw
          · next unread =>
              cases flaw
              exact ⟨here, Option.not_isSome_iff_eq_none.1 unread⟩
      | _ => cases flaw

/-- The reals of a document are the texts of decimal numbers, the names of infinities and of no
number, and the same with a point. The first become the nearest double, or null from the limit of the
doubles on, and the second null. The last ones are refused, and no other text makes a document fail
with an invalid float. -/
theorem reals_convert_unless_pointed {text : String} {nodes : List Node} {root : Node}
    (read : readNodes? text = some nodes) (mem : root ∈ nodes) :
    (∀ raw, isReal raw = true ↔ ∃ result, RealContent raw result) ∧
      (∀ raw result, root.HasPart (.value (real raw)) →
        ((real raw).toValue = result ↔ RealContent raw result)) ∧
      ∀ raw, root.toValue = .error (.invalidFloat raw) →
        raw ∈ pointForms ∧ root.HasPart (.value (real raw)) := by
  have recognised (raw : String) (here : root.HasPart (.value (real raw))) : isReal raw = true := by
    cases (loaded_of_readNodes? read mem).of_hasPart here with
    | real recognised => exact recognised
  refine ⟨?_, ?_, ?_⟩
  · intro raw
    simp only [realContent_iff]
    exact ⟨fun isReal => ⟨_, isReal, rfl⟩, fun ⟨result, isReal, _⟩ => isReal⟩
  · intro raw result here
    rw [realContent_iff, toValue]
    exact (and_iff_right (recognised raw here)).symm
  · intro raw fails
    rcases hasPart_of_invalidFloat fails with ⟨here, unread⟩
    have pointed : raw ∈ pointForms :=
      (isReal_iff.1 (recognised raw here)).resolve_right (by simp [unread])
    exact ⟨pointed, here⟩

theorem readNodes?_greatText :
    readNodes? "v: 1e999\n" = some [map [(str "v", real "1e999")]] := by
  cbv

/-- A number beyond the limit of the doubles is null. -/
theorem greatText_is_null : (real "1e999").toValue = .ok .null := by
  let exponent : Exponent :=
    { letter := 'e'
      sign := .none
      digits := ['9', '9', '9']
      isLetter := .inl rfl
      allDigits := by simp [AllDigits]
      notEmpty := by simp }
  let great : Literal :=
    { sign := .none
      decimal :=
        { whole := ['1']
          fraction := none
          exponent := some exponent
          allWhole := by simp [AllDigits]
          allFraction := by simp [AllDigits]
          notEmpty := by simp } }
  have here : (map [(str "v", real "1e999")]).HasPart (.value (real "1e999")) :=
    .value (List.mem_singleton.2 rfl) (.root _)
  rcases reals_convert_unless_pointed readNodes?_greatText (List.mem_singleton.2 rfl) with
    ⟨-, contents, -⟩
  have infinite : great.double.isFinite = false := by decide
  have content : RealContent "1e999" (.ok (if great.double.isFinite then _ else .null)) :=
    .literal great great.rounds_double great.isNegative_double
  rw [infinite] at content
  exact (contents "1e999" _ here).2 content

/-- An infinity that is written with a point counts as real, and the document with it is refused. -/
theorem pointedInfinity_is_refused :
    isReal ".inf" = true ∧ readNodes? "v: .inf\n" = some [map [(str "v", real ".inf")]] ∧
      readDocuments "v: .inf\n" = .error (.invalidFloat ".inf") := by
  have read : readNodes? "v: .inf\n" = some [map [(str "v", real ".inf")]] := by
    cbv
  refine ⟨by decide, read, ?_⟩
  rw [readDocuments_of_nodes (by decide) read]
  rfl

end Node

end Readiness.Yaml
