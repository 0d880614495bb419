import CypherText.Number.Layout
import CypherText.Number.Numeral

/-!
# Numeric tokens

A numeric token is an optional minus sign, digits, an optional point with digits behind it, and
an optional exponent. This file gives the grammar and shows that both layouts of decimal digits
obey it. What the grammar says about single characters is what separates a numeric token from
the text around it.
-/

namespace CypherText.Numeric

/-- A run of at least one decimal digit. -/
def IsDigits (chars : List Char) : Prop :=
  chars ≠ [] ∧ ∀ c ∈ chars, c.isDigit = true

/-- The fraction of a number: nothing, or a point with digits behind it. -/
inductive IsFraction : List Char → Prop
  | absent : IsFraction []
  | point {digits : List Char} (isDigits : IsDigits digits) : IsFraction ('.' :: digits)

/-- The exponent of a number: nothing, or a mark, an optional sign, and digits. -/
inductive IsExponent : List Char → Prop
  | absent : IsExponent []
  | unsigned {mark : Char} {digits : List Char} (isMark : mark ∈ ['e', 'E'])
      (isDigits : IsDigits digits) : IsExponent (mark :: digits)
  | signed {mark sign : Char} {digits : List Char} (isMark : mark ∈ ['e', 'E'])
      (isSign : sign ∈ ['+', '-']) (isDigits : IsDigits digits) :
      IsExponent (mark :: sign :: digits)

/-- A number without a sign. -/
inductive IsMagnitude : List Char → Prop
  | intro {whole fraction exponent : List Char} (isWhole : IsDigits whole)
      (isFraction : IsFraction fraction) (isExponent : IsExponent exponent) :
      IsMagnitude (whole ++ fraction ++ exponent)

/-- A numeric token. -/
inductive IsNumber : List Char → Prop
  | plain {magnitude : List Char} (isMagnitude : IsMagnitude magnitude) : IsNumber magnitude
  | negated {magnitude : List Char} (isMagnitude : IsMagnitude magnitude) :
      IsNumber ('-' :: magnitude)

/-! ## Digits -/

theorem isDigits_zero : IsDigits ['0'] := by
  constructor
  · exact List.cons_ne_nil _ _
  · intro c isZero
    rw [List.mem_singleton.mp isZero]
    decide

theorem IsDigits.append {first second : List Char} (isFirst : IsDigits first)
    (allSecond : ∀ c ∈ second, c.isDigit = true) : IsDigits (first ++ second) := by
  constructor
  · simp [isFirst.1]
  · intro c member
    rcases List.mem_append.mp member with inFirst | inSecond
    · exact isFirst.2 c inFirst
    · exact allSecond c inSecond

theorem IsDigits.prepend {first second : List Char} (isSecond : IsDigits second)
    (allFirst : ∀ c ∈ first, c.isDigit = true) : IsDigits (first ++ second) := by
  constructor
  · simp [isSecond.1]
  · intro c member
    rcases List.mem_append.mp member with inFirst | inSecond
    · exact allFirst c inFirst
    · exact isSecond.2 c inSecond

theorem IsDigits.take {digits : List Char} (isDigits : IsDigits digits) {count : Nat}
    (positive : 0 < count) : IsDigits (digits.take count) := by
  constructor
  · intro isEmpty
    rcases List.take_eq_nil_iff.mp isEmpty with atStart | noDigits
    · omega
    · exact isDigits.1 noDigits
  · intro c member
    exact isDigits.2 c (List.mem_of_mem_take member)

theorem IsDigits.drop {digits : List Char} (isDigits : IsDigits digits) {count : Nat}
    (before : count < digits.length) : IsDigits (digits.drop count) := by
  constructor
  · intro isEmpty
    have := List.drop_eq_nil_iff.mp isEmpty
    omega
  · intro c member
    exact isDigits.2 c (List.mem_of_mem_drop member)

theorem isDigit_of_mem_zeros {count : Nat} : ∀ c ∈ List.replicate count '0', c.isDigit = true := by
  intro c member
  rw [List.eq_of_mem_replicate member]
  rfl

theorem isDigits_toDigits (n : Nat) : IsDigits (Nat.toDigits 10 n) :=
  ⟨Nat.toDigits_ne_nil, fun _ member =>
    Nat.isDigit_of_mem_toDigits (by decide) (by decide) member⟩

theorem IsDigits.isMagnitude {digits : List Char} (isDigits : IsDigits digits) :
    IsMagnitude digits := by
  have whole := IsMagnitude.intro isDigits .absent .absent
  rwa [List.append_nil, List.append_nil] at whole

/-! ## Layouts -/

/-- Where the point does not stand among the digits, only digits are laid out. -/
theorem isDigits_positional {digits : List Char} {point : Int} (isDigits : IsDigits digits)
    (pointBehind : digits.length ≤ point.toNat) : IsDigits (Layout.positional digits point) := by
  have someDigit : 0 < digits.length := List.length_pos_iff.mpr isDigits.1
  have positive : ¬ point ≤ 0 := by omega
  rw [Layout.positional, if_neg positive, if_pos pointBehind]
  exact isDigits.append isDigit_of_mem_zeros

/-- Where the point stands in front of a digit, there are digits on both sides of it. -/
theorem positional_eq_append_point {digits : List Char} {point : Int} (isDigits : IsDigits digits)
    (pointBefore : point.toNat < digits.length) :
    ∃ whole fraction, IsDigits whole ∧ IsDigits fraction ∧
      Layout.positional digits point = whole ++ '.' :: fraction := by
  by_cases small : point ≤ 0
  · refine ⟨['0'], List.replicate (-point).toNat '0' ++ digits, isDigits_zero,
      isDigits.prepend isDigit_of_mem_zeros, ?_⟩
    rw [Layout.positional, if_pos small]
    rfl
  · refine ⟨digits.take point.toNat, digits.drop point.toNat, isDigits.take (by omega),
      isDigits.drop pointBefore, ?_⟩
    rw [Layout.positional, if_neg small, if_neg (by omega)]

/-- The positional layout of digits is a number to which an exponent may be joined. -/
theorem isMagnitude_positional_append {digits exponent : List Char} (isDigits : IsDigits digits)
    (isExponent : IsExponent exponent) (point : Int) :
    IsMagnitude (Layout.positional digits point ++ exponent) := by
  by_cases pointBehind : digits.length ≤ point.toNat
  · have whole := IsMagnitude.intro (isDigits_positional isDigits pointBehind) .absent isExponent
    rwa [List.append_nil] at whole
  · obtain ⟨whole, fraction, isWhole, isFraction, equal⟩ :=
      positional_eq_append_point isDigits (Nat.lt_of_not_le pointBehind)
    rw [equal]
    exact .intro isWhole (.point isFraction) isExponent

theorem isMagnitude_positional {digits : List Char} (isDigits : IsDigits digits) (point : Int) :
    IsMagnitude (Layout.positional digits point) := by
  have whole := isMagnitude_positional_append isDigits .absent point
  rwa [List.append_nil] at whole

theorem isExponent_exponent {style : Layout.ExponentStyle} (isMark : style.mark ∈ ['e', 'E'])
    (value : Int) : IsExponent (Layout.exponent style value) := by
  refine .signed isMark ?_ ((isDigits_toDigits _).prepend isDigit_of_mem_zeros)
  split <;> simp

theorem isMagnitude_scientific {style : Layout.ExponentStyle} (isMark : style.mark ∈ ['e', 'E'])
    {digits : List Char} (isDigits : IsDigits digits) (value : Int) :
    IsMagnitude (Layout.scientific style digits value) :=
  isMagnitude_positional_append isDigits (isExponent_exponent isMark value) 1

/-! ## Characters of numeric tokens -/

/-- The characters that a numeric token may hold. -/
def isNumberChar (c : Char) : Bool :=
  c.isAlphanum || c == '.' || c == '+' || c == '-'

theorem isNumberChar_of_isDigit {c : Char} (isDigit : c.isDigit = true) :
    isNumberChar c = true := by
  simp [isNumberChar, Char.isAlphanum, isDigit]

theorem IsDigits.all_isNumberChar {chars : List Char} (isDigits : IsDigits chars) :
    chars.all isNumberChar = true :=
  List.all_eq_true.mpr fun c member => isNumberChar_of_isDigit (isDigits.2 c member)

theorem IsFraction.all_isNumberChar {chars : List Char} (isFraction : IsFraction chars) :
    chars.all isNumberChar = true := by
  cases isFraction with
  | absent => rfl
  | point isDigits => simpa using ⟨by decide, List.all_eq_true.mp isDigits.all_isNumberChar⟩

theorem IsExponent.all_isNumberChar {chars : List Char} (isExponent : IsExponent chars) :
    chars.all isNumberChar = true := by
  have ofMark : ∀ mark ∈ ['e', 'E'], isNumberChar mark = true :=
    List.all_eq_true.mp (by decide)
  have ofSign : ∀ sign ∈ ['+', '-'], isNumberChar sign = true :=
    List.all_eq_true.mp (by decide)
  cases isExponent with
  | absent => rfl
  | unsigned isMark isDigits =>
      rw [List.all_cons, ofMark _ isMark, isDigits.all_isNumberChar]
      rfl
  | signed isMark isSign isDigits =>
      rw [List.all_cons, List.all_cons, ofMark _ isMark, ofSign _ isSign,
        isDigits.all_isNumberChar]
      rfl

theorem IsMagnitude.all_isNumberChar {chars : List Char} (isMagnitude : IsMagnitude chars) :
    chars.all isNumberChar = true := by
  cases isMagnitude with
  | intro isWhole isFraction isExponent =>
      rw [List.all_append, List.all_append, isWhole.all_isNumberChar,
        isFraction.all_isNumberChar, isExponent.all_isNumberChar]
      rfl

/-- Numeric tokens hold nothing but letters, digits, points and signs. -/
theorem IsNumber.all_isNumberChar {chars : List Char} (isNumber : IsNumber chars) :
    chars.all isNumberChar = true := by
  cases isNumber with
  | plain isMagnitude => exact isMagnitude.all_isNumberChar
  | negated isMagnitude =>
      rw [List.all_cons, isMagnitude.all_isNumberChar]
      rfl

theorem IsMagnitude.exists_digit {chars : List Char} (isMagnitude : IsMagnitude chars) :
    ∃ first rest, chars = first :: rest ∧ first.isDigit = true := by
  cases isMagnitude with
  | @intro whole fraction exponent isWhole _ _ =>
      cases whole with
      | nil => exact absurd rfl isWhole.1
      | cons first rest =>
          exact ⟨first, rest ++ fraction ++ exponent, by simp, isWhole.2 first List.mem_cons_self⟩

/-- A numeric token starts with a minus sign or a digit. -/
theorem IsNumber.exists_first {chars : List Char} (isNumber : IsNumber chars) :
    ∃ first rest, chars = first :: rest ∧ (first = '-' ∨ first.isDigit = true) := by
  cases isNumber with
  | plain isMagnitude =>
      obtain ⟨first, rest, equal, isDigit⟩ := isMagnitude.exists_digit
      exact ⟨first, rest, equal, .inr isDigit⟩
  | @negated magnitude _ => exact ⟨'-', magnitude, rfl, .inl rfl⟩

end CypherText.Numeric
