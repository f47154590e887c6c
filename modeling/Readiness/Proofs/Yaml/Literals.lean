import Mathlib
import Readiness.Proofs.Binary64.Rounding
import Readiness.Yaml.Node

/-!
# Literals — how real numbers are written

* `Literal`: a decimal number with an optional sign, digits with an optional point among them and an
  optional exponent; `Literal.value` is the number that it denotes;
* `Word`: a name of an infinity or of no number, in any letter case, with an optional sign;
* `Node.readFloat?_literal` and `Node.readFloat?_word`: both are read, a literal as the nearest double
  and a word as no finite one;
* `Node.isSome_readFloat?_iff`: and nothing else is read.
-/

namespace Readiness.Yaml

/-! ## Grammar -/

def AllDigits (digits : List Char) : Prop := ∀ c ∈ digits, c.isDigit = true

inductive Sign where
  | none
  | plus
  | minus
deriving DecidableEq, Repr

namespace Sign

def text : Sign → List Char
  | none => []
  | plus => ['+']
  | minus => ['-']

def isNegative : Sign → Bool
  | minus => true
  | _ => false

end Sign

/-- The decimal exponent of a literal, behind its letter. -/
structure Exponent where
  letter : Char
  sign : Sign
  digits : List Char
  isLetter : letter = 'e' ∨ letter = 'E'
  allDigits : AllDigits digits
  notEmpty : digits ≠ []

namespace Exponent

def text (exponent : Exponent) : List Char :=
  exponent.letter :: (exponent.sign.text ++ exponent.digits)

def value (exponent : Exponent) : Int :=
  let size : Int := Nat.ofDigitChars 10 exponent.digits 0
  if exponent.sign.isNegative then -size else size

end Exponent

/-- A decimal number without a sign. At least one digit stands in front of the point or behind it. -/
structure Decimal where
  whole : List Char
  -- The digits behind the point, when there is one.
  fraction : Option (List Char)
  exponent : Option Exponent
  allWhole : AllDigits whole
  allFraction : AllDigits (fraction.getD [])
  notEmpty : whole ++ fraction.getD [] ≠ []

namespace Decimal

def fractionText (decimal : Decimal) : List Char := (decimal.fraction.map ('.' :: ·)).getD []

def exponentText (decimal : Decimal) : List Char := (decimal.exponent.map Exponent.text).getD []

def text (decimal : Decimal) : List Char :=
  decimal.whole ++ (decimal.fractionText ++ decimal.exponentText)

/-- The number of all digits without the point. -/
def mantissa (decimal : Decimal) : Nat :=
  Nat.ofDigitChars 10 (decimal.whole ++ decimal.fraction.getD []) 0

/-- The power of ten by which the number without the point is multiplied. -/
def scale (decimal : Decimal) : Int :=
  (decimal.exponent.map Exponent.value).getD 0 - (decimal.fraction.getD []).length

end Decimal

/-- A decimal number with an optional sign. -/
structure Literal where
  sign : Sign
  decimal : Decimal

namespace Literal

def text (literal : Literal) : String :=
  String.ofList (literal.sign.text ++ literal.decimal.text)

/-- The number that a literal denotes. -/
def value (literal : Literal) : ℚ :=
  Binary64.signed literal.sign.isNegative (literal.decimal.mantissa * 10 ^ literal.decimal.scale)

/-- The double that a literal is read as. -/
def double (literal : Literal) : Binary64 :=
  Binary64.ofDecimal literal.sign.isNegative literal.decimal.mantissa literal.decimal.scale

theorem rounds_double (literal : Literal) : Binary64.Rounds literal.value literal.double :=
  Binary64.rounds_ofDecimal _ _ _

theorem isNegative_double (literal : Literal) :
    literal.double.isNegative = literal.sign.isNegative :=
  Binary64.isNegative_ofDecimal _ _ _

end Literal

/-- The letters are those of a name of an infinity or of no number, in any case. -/
def IsName (letters : List Char) : Prop :=
  String.ofList (letters.map Char.toLower) ∈ ["inf", "infinity", "nan"]

instance (letters : List Char) : Decidable (IsName letters) := inferInstanceAs (Decidable (_ ∈ _))

/-- A name of an infinity or of no number, with an optional sign. -/
structure Word where
  sign : Sign
  letters : List Char
  isName : IsName letters

def Word.text (word : Word) : String := String.ofList (word.sign.text ++ word.letters)

namespace Node

variable {text digits : List Char} {negative : Bool} {m n : Nat} {e : Int} {x : Binary64}

/-! ## Digits -/

theorem digit?_of_isDigit {c : Char} (h : c.isDigit = true) :
    digit? 10 c = some (c.toNat - '0'.toNat) := by
  have range := Char.isDigit_iff_toNat.1 h
  have inside : ('0' ≤ c && c ≤ '9') = true := h
  have zero : '0'.toNat = 48 := rfl
  have nine : '9'.toNat = 57 := rfl
  simp only [digit?, Json.hexValue?, inside, if_true]
  rw [if_pos (by omega)]

theorem isDigit_of_digit? {c : Char} (h : digit? 10 c = some n) : c.isDigit = true := by
  unfold digit? Json.hexValue? at h
  by_cases inside : ('0' ≤ c && c ≤ '9') = true
  · exact inside
  · -- A letter has a value of ten or more.
    rw [if_neg inside] at h
    split_ifs at h <;> simp at h

/-- Reads one more digit behind those that are read. -/
def readDigit (read : Option Nat) (c : Char) : Option Nat := do
  let n ← read
  let d ← digit? 10 c
  some (n * 10 + d)

theorem foldl_readDigit_none (digits : List Char) : digits.foldl readDigit none = none := by
  induction digits with
  | nil => rfl
  | cons c rest ih => exact ih

theorem foldl_readDigit_eq_some_iff : digits.foldl readDigit (some m) = some n ↔
    AllDigits digits ∧ Nat.ofDigitChars 10 digits m = n := by
  induction digits generalizing m with
  | nil => simp [AllDigits, Nat.ofDigitChars]
  | cons c rest ih =>
      rw [List.foldl_cons, AllDigits, List.forall_mem_cons]
      cases digit : c.isDigit with
      | true =>
          have next : readDigit (some m) c = some (10 * m + (c.toNat - '0'.toNat)) := by
            simp [readDigit, digit?_of_isDigit digit, Nat.mul_comm]
          rw [next, ih]
          simp [AllDigits, Nat.ofDigitChars]
      | false =>
          have stuck : readDigit (some m) c = none := by
            cases found : digit? 10 c with
            | none => simp [readDigit, found]
            | some d => cases digit.symm.trans (isDigit_of_digit? found)
          rw [stuck, foldl_readDigit_none]
          simp

theorem natOf?_eq_some_iff : natOf? 10 digits = some n ↔
    AllDigits digits ∧ digits ≠ [] ∧ Nat.ofDigitChars 10 digits 0 = n := by
  have fold : natOf? 10 digits =
      if digits.isEmpty then none else digits.foldl readDigit (some 0) := rfl
  rw [fold]
  split
  · next empty => simp [List.isEmpty_iff.1 empty]
  · next notEmpty =>
      rw [foldl_readDigit_eq_some_iff]
      simp [List.isEmpty_iff.not.1 notEmpty]

/-! ## Exponents -/

/-- The exponent that stands behind its letter. -/
def signedOf? (text : List Char) : Option Int :=
  match text with
  | '-' :: digits => (natOf? 10 digits).map fun n => -(n : Int)
  | '+' :: digits => (natOf? 10 digits).map fun n => (n : Int)
  | digits => (natOf? 10 digits).map fun n => (n : Int)

theorem exponentOf?_cons (c : Char) (rest : List Char) :
    exponentOf? (c :: rest) = if c = 'e' || c = 'E' then signedOf? rest else none := rfl

theorem notSign_of_allDigits {digits : List Char} (all : AllDigits digits) (rest : List Char) :
    digits ≠ '-' :: rest ∧ digits ≠ '+' :: rest := by
  constructor
  · rintro rfl
    exact absurd (all '-' List.mem_cons_self) (by decide)
  · rintro rfl
    exact absurd (all '+' List.mem_cons_self) (by decide)

theorem signedOf?_text (sign : Sign) (all : AllDigits digits) : signedOf? (sign.text ++ digits) =
    (natOf? 10 digits).map fun n : Nat => if sign.isNegative then -(n : Int) else n := by
  cases sign with
  | none =>
      unfold signedOf?
      split
      · next rest same => exact absurd same (notSign_of_allDigits all rest).1
      · next rest same => exact absurd same (notSign_of_allDigits all rest).2
      · cases read : natOf? 10 digits <;> simp [Sign.text, read, Sign.isNegative]
  | plus => cases read : natOf? 10 digits <;> simp [signedOf?, Sign.text, read, Sign.isNegative]
  | minus => cases read : natOf? 10 digits <;> simp [signedOf?, Sign.text, read, Sign.isNegative]

theorem digits_of_map_natOf? {f : Int → Int} (h : Option.map f (natOf? 10 digits) = some e) :
    AllDigits digits ∧ digits ≠ [] := by
  rcases Option.map_eq_some_iff.1 h with ⟨i, cast, -⟩
  rcases Option.bind_eq_some_iff.1 cast with ⟨n, read, -⟩
  rcases natOf?_eq_some_iff.1 read with ⟨all, notEmpty, -⟩
  exact ⟨all, notEmpty⟩

theorem exists_sign_of_signedOf? (h : signedOf? text = some e) :
    ∃ (sign : Sign) (digits : List Char),
      sign.text ++ digits = text ∧ AllDigits digits ∧ digits ≠ [] := by
  unfold signedOf? at h
  split at h
  · next digits => exact ⟨.minus, digits, rfl, digits_of_map_natOf? h⟩
  · next digits => exact ⟨.plus, digits, rfl, digits_of_map_natOf? h⟩
  · exact ⟨.none, text, rfl, digits_of_map_natOf? h⟩

theorem exponentOf?_text (exponent : Exponent) :
    exponentOf? exponent.text = some exponent.value := by
  have letter : (exponent.letter = 'e' || exponent.letter = 'E') = true := by
    simpa using exponent.isLetter
  have read : natOf? 10 exponent.digits = some (Nat.ofDigitChars 10 exponent.digits 0) :=
    natOf?_eq_some_iff.2 ⟨exponent.allDigits, exponent.notEmpty, rfl⟩
  rw [Exponent.text, exponentOf?_cons, if_pos letter, signedOf?_text _ exponent.allDigits, read]
  rfl

theorem exponentOf?_eq_some_iff : exponentOf? text = some e ↔
    ∃ exponent : Option Exponent, (exponent.map Exponent.text).getD [] = text ∧
      (exponent.map Exponent.value).getD 0 = e := by
  constructor
  · intro h
    cases text with
    | nil => exact ⟨none, rfl, Option.some.inj h⟩
    | cons c rest =>
        rw [exponentOf?_cons] at h
        rcases Option.ite_none_right_eq_some.1 h with ⟨letter, read⟩
        rcases exists_sign_of_signedOf? read with ⟨sign, digits, rfl, all, notEmpty⟩
        let exponent : Exponent := ⟨c, sign, digits, by simpa using letter, all, notEmpty⟩
        refine ⟨some exponent, rfl, Option.some.inj ?_⟩
        rw [← h, ← exponentOf?_cons]
        exact (exponentOf?_text exponent).symm
  · rintro ⟨exponent, rfl, rfl⟩
    cases exponent with
    | none => rfl
    | some exponent => exact exponentOf?_text exponent

/-! ## Decimals -/

theorem takeWhile_digits (all : AllDigits digits) (rest : List Char)
    (stop : ∀ c ∈ rest.head?, c.isDigit = false) :
    (digits ++ rest).takeWhile Char.isDigit = digits ∧
      (digits ++ rest).dropWhile Char.isDigit = rest := by
  rw [List.takeWhile_append_of_pos all, List.dropWhile_append_of_pos all]
  cases rest with
  | nil => simp
  | cons c rest => simp [stop c rfl]

/-- The digits behind a point, and what follows them. -/
def splitPoint (behind : List Char) : List Char × List Char :=
  match behind with
  | '.' :: rest => (rest.takeWhile Char.isDigit, rest.dropWhile Char.isDigit)
  | rest => ([], rest)

theorem decimalOf?_eq (negative : Bool) (text : List Char) : decimalOf? negative text =
    (natOf? 10 (text.takeWhile Char.isDigit ++ (splitPoint (text.dropWhile Char.isDigit)).1) >>=
      fun digits => exponentOf? (splitPoint (text.dropWhile Char.isDigit)).2 >>= fun exponent =>
        some (Binary64.ofDecimal negative digits
          (exponent - (splitPoint (text.dropWhile Char.isDigit)).1.length))) := rfl

theorem notDigit_exponentText (decimal : Decimal) :
    ∀ c ∈ decimal.exponentText.head?, c.isDigit = false ∧ c ≠ '.' := by
  intro c first
  cases written : decimal.exponent with
  | none => simp [Decimal.exponentText, written] at first
  | some exponent =>
      have same : exponent.letter = c := by
        simpa [Decimal.exponentText, Exponent.text, written] using first
      rcases same ▸ exponent.isLetter with rfl | rfl <;> decide

theorem splitPoint_text (decimal : Decimal) :
    splitPoint (decimal.fractionText ++ decimal.exponentText) =
      (decimal.fraction.getD [], decimal.exponentText) := by
  have stop := notDigit_exponentText decimal
  have all := decimal.allFraction
  cases point : decimal.fraction with
  | none =>
      rw [Decimal.fractionText, point]
      cases behind : decimal.exponentText with
      | nil => rfl
      | cons c rest =>
          have notPoint : c ≠ '.' := (stop c (by rw [behind]; rfl)).2
          simp [splitPoint, notPoint]
  | some digits =>
      rw [point] at all
      have ⟨front, back⟩ := takeWhile_digits all decimal.exponentText fun c first => (stop c first).1
      simp only [Decimal.fractionText, point, splitPoint]
      exact Prod.ext front back

/-- The text of a decimal is read as its digits and its exponent. -/
theorem decimalOf?_text (negative : Bool) (decimal : Decimal) : decimalOf? negative decimal.text =
    some (Binary64.ofDecimal negative decimal.mantissa decimal.scale) := by
  have stop : ∀ c ∈ (decimal.fractionText ++ decimal.exponentText).head?, c.isDigit = false := by
    intro c first
    cases point : decimal.fraction with
    | none =>
        rw [Decimal.fractionText, point] at first
        exact (notDigit_exponentText decimal c first).1
    | some digits =>
        rw [Decimal.fractionText, point] at first
        cases first
        rfl
  have ⟨front, back⟩ := takeWhile_digits decimal.allWhole _ stop
  have digits : natOf? 10 (decimal.whole ++ decimal.fraction.getD []) = some decimal.mantissa :=
    natOf?_eq_some_iff.2
      ⟨List.forall_mem_append.2 ⟨decimal.allWhole, decimal.allFraction⟩, decimal.notEmpty, rfl⟩
  have exponent : exponentOf? decimal.exponentText =
      some ((decimal.exponent.map Exponent.value).getD 0) :=
    exponentOf?_eq_some_iff.2 ⟨decimal.exponent, rfl, rfl⟩
  rw [decimalOf?_eq, Decimal.text, front, back, splitPoint_text]
  simp [digits, exponent, Decimal.scale]

theorem exists_point_of_splitPoint (behind : List Char) :
    ∃ fraction : Option (List Char), AllDigits (fraction.getD []) ∧
      (splitPoint behind).1 = fraction.getD [] ∧
      behind = (fraction.map ('.' :: ·)).getD [] ++ (splitPoint behind).2 := by
  unfold splitPoint
  split
  · next rest =>
      refine ⟨some (rest.takeWhile Char.isDigit), fun c => List.mem_takeWhile_imp, rfl, ?_⟩
      simp
  · exact ⟨none, by simp [AllDigits], rfl, rfl⟩

theorem decimalOf?_eq_some_iff : decimalOf? negative text = some x ↔
    ∃ decimal : Decimal, decimal.text = text ∧
      Binary64.ofDecimal negative decimal.mantissa decimal.scale = x := by
  constructor
  · intro h
    rw [decimalOf?_eq] at h
    rcases Option.bind_eq_some_iff.1 h with ⟨n, digits, h⟩
    rcases Option.bind_eq_some_iff.1 h with ⟨e, behind, same⟩
    rcases exists_point_of_splitPoint (text.dropWhile Char.isDigit) with
      ⟨fraction, allFraction, fractionDigits, point⟩
    rcases natOf?_eq_some_iff.1 digits with ⟨-, notEmpty, rfl⟩
    rcases exponentOf?_eq_some_iff.1 behind with ⟨exponent, exponentText, rfl⟩
    rw [fractionDigits] at notEmpty same
    have allWhole : AllDigits (text.takeWhile Char.isDigit) := fun c => List.mem_takeWhile_imp
    refine ⟨⟨text.takeWhile Char.isDigit, fraction, exponent, allWhole, allFraction, notEmpty⟩,
      ?_, Option.some.inj same⟩
    calc text.takeWhile Char.isDigit ++ ((fraction.map ('.' :: ·)).getD [] ++
          (exponent.map Exponent.text).getD [])
        = text.takeWhile Char.isDigit ++ text.dropWhile Char.isDigit := by
          rw [exponentText, ← point]
      _ = text := List.takeWhile_append_dropWhile
  · rintro ⟨decimal, rfl, rfl⟩
    exact decimalOf?_text negative decimal

/-! ## Words and signs -/

theorem unsignedOf?_of_isName (negative : Bool) (h : IsName text) :
    ∃ x, unsignedOf? negative text = some x ∧ x.isFinite = false := by
  have infinite : (Binary64.infinity negative).isFinite = false := by
    cases negative <;> decide
  simp only [IsName, List.mem_cons, List.not_mem_nil, or_false] at h
  unfold unsignedOf?
  rcases h with name | name | name
  · exact ⟨.infinity negative, by simp [name], infinite⟩
  · exact ⟨.infinity negative, by simp [name], infinite⟩
  · exact ⟨.nan, by simp [name], by decide⟩

theorem unsignedOf?_of_not_isName (negative : Bool) (h : ¬ IsName text) :
    unsignedOf? negative text = decimalOf? negative text := by
  simp only [IsName, List.mem_cons, List.not_mem_nil, or_false, not_or] at h
  simp [unsignedOf?, h]

theorem head?_decimal (decimal : Decimal) :
    ∃ c, decimal.text.head? = some c ∧ (c.isDigit = true ∨ c = '.') := by
  cases written : decimal.whole with
  | cons c rest =>
      have digit : c.isDigit = true := decimal.allWhole c (by simp [written])
      exact ⟨c, by simp [Decimal.text, written], .inl digit⟩
  | nil =>
      cases point : decimal.fraction with
      | none => exact absurd (by simp [written, point]) decimal.notEmpty
      | some digits =>
          exact ⟨'.', by simp [Decimal.text, Decimal.fractionText, written, point], .inr rfl⟩

/-- A name starts with a letter. -/
theorem head?_isName (h : IsName text) :
    ∃ c, text.head? = some c ∧ (c.toLower = 'i' ∨ c.toLower = 'n') := by
  cases text with
  | nil => exact absurd h (by decide)
  | cons c rest =>
      refine ⟨c, rfl, ?_⟩
      simp only [IsName, List.mem_cons, List.not_mem_nil, or_false, ← String.toList_inj,
        String.toList_ofList, List.map_cons] at h
      rcases h with name | name | name
      · exact .inl (List.head_eq_of_cons_eq name)
      · exact .inl (List.head_eq_of_cons_eq name)
      · exact .inr (List.head_eq_of_cons_eq name)

theorem toLower_of_isDigit {c : Char} (h : c.isDigit = true) : c.toLower = c := by
  have range := Char.isDigit_iff_toNat.1 h
  have small : ¬ (c.val ≥ 'A'.val ∧ c.val ≤ 'Z'.val) := by
    intro upper
    have above : 'A'.toNat ≤ c.toNat := UInt32.le_iff_toNat_le.1 upper.1
    exact absurd (above.trans range.2) (by decide)
  exact dif_neg small

theorem not_isName_of_decimal (decimal : Decimal) : ¬ IsName decimal.text := by
  intro name
  rcases head?_decimal decimal with ⟨c, first, digit⟩
  rcases head?_isName name with ⟨c', first', letter⟩
  cases first.symm.trans first'
  rcases digit with digit | rfl
  · rw [toLower_of_isDigit digit] at letter
    rcases letter with rfl | rfl <;> cases digit
  · revert letter
    decide

/-- A sign in front of a text without one is read apart. -/
theorem readFloat?_signed (sign : Sign) (plain : ∀ c ∈ text.head?, c ≠ '-' ∧ c ≠ '+') :
    readFloat? (String.ofList (sign.text ++ text)) = unsignedOf? sign.isNegative text := by
  cases sign with
  | minus => simp [readFloat?, Sign.text, Sign.isNegative]
  | plus => simp [readFloat?, Sign.text, Sign.isNegative]
  | none =>
      cases text with
      | nil => rfl
      | cons c rest =>
          have unsigned := plain c rfl
          simp [readFloat?, Sign.text, Sign.isNegative, unsigned]

/-- Whatever is read has a sign or none. -/
theorem exists_sign_of_readFloat? (text : String) : ∃ (sign : Sign) (rest : List Char),
    String.ofList (sign.text ++ rest) = text ∧ readFloat? text = unsignedOf? sign.isNegative rest := by
  have whole : String.ofList text.toList = text := String.ofList_toList
  unfold readFloat?
  split
  · next rest written => exact ⟨.minus, rest, by rw [← whole, written]; rfl, rfl⟩
  · next rest written => exact ⟨.plus, rest, by rw [← whole, written]; rfl, rfl⟩
  · exact ⟨.none, text.toList, whole, rfl⟩

/-- A text has no sign when its first character is known to be something else. -/
theorem plain_of_head? {P : Char → Prop} (first : ∃ c, text.head? = some c ∧ P c)
    (minus : ¬ P '-') (plus : ¬ P '+') : ∀ c ∈ text.head?, c ≠ '-' ∧ c ≠ '+' := by
  rcases first with ⟨c, found, property⟩
  intro c' found'
  cases found.symm.trans found'
  constructor
  · rintro rfl
    exact minus property
  · rintro rfl
    exact plus property

theorem readFloat?_literal (literal : Literal) :
    readFloat? literal.text = some literal.double := by
  have plain := plain_of_head? (head?_decimal literal.decimal) (by decide) (by decide)
  rw [Literal.text, readFloat?_signed _ plain,
    unsignedOf?_of_not_isName _ (not_isName_of_decimal literal.decimal), decimalOf?_text]
  rfl

theorem readFloat?_word (word : Word) :
    ∃ x, readFloat? word.text = some x ∧ x.isFinite = false := by
  have plain := plain_of_head? (head?_isName word.isName) (by decide) (by decide)
  rw [Word.text, readFloat?_signed _ plain]
  exact unsignedOf?_of_isName _ word.isName

/-- What is read is a word or a literal. -/
theorem isSome_readFloat?_iff {text : String} : (readFloat? text).isSome = true ↔
    (∃ word : Word, word.text = text) ∨ ∃ literal : Literal, literal.text = text := by
  constructor
  · intro h
    rcases exists_sign_of_readFloat? text with ⟨sign, rest, written, read⟩
    by_cases name : IsName rest
    · exact .inl ⟨⟨sign, rest, name⟩, written⟩
    · rw [read, unsignedOf?_of_not_isName _ name] at h
      rcases Option.isSome_iff_exists.1 h with ⟨x, found⟩
      rcases decimalOf?_eq_some_iff.1 found with ⟨decimal, rfl, -⟩
      exact .inr ⟨⟨sign, decimal⟩, written⟩
  · rintro (⟨word, rfl⟩ | ⟨literal, rfl⟩)
    · rcases readFloat?_word word with ⟨x, read, -⟩
      simp [read]
    · simp [readFloat?_literal]

end Node

end Readiness.Yaml
