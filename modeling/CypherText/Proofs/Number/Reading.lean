import CypherText.Proofs.Number.Display
import CypherText.Proofs.Token.QuotedText
import CypherText.Proofs.Value.Causes
import CypherText.Value.Member
import Mathlib.Algebra.Ring.Int.Defs

/-!
# Numbers are read back

The numeral of an integer is read back as that integer. The text of a finite decimal is decimal
notation, from which the sign, the digits and the exponent are read back as they are: whether the
layout is positional or scientific, the digits behind the point and the exponent that is written
make up the exponent of the decimal. So literals tell integers and decimals of different values
apart, and decimals of the same value that are written with different exponents, too.
-/

namespace CypherText

open Numeric

/-! ## Digits -/

namespace Numeral

theorem value_eq_ofDigitChars (digits : List Char) :
    value digits = Nat.ofDigitChars 10 digits 0 := by
  simp [value, Nat.ofDigitChars, Nat.mul_comm]

@[simp]
theorem value_digits (n : Nat) : value (digits n) = n := by
  rw [value_eq_ofDigitChars, digits, Nat.ofDigitChars_ten_toDigits]

@[simp]
theorem value_zero_cons (digits : List Char) : value ('0' :: digits) = value digits := by
  simp [value]

/-- Zeros on the left do not change what digits denote. -/
@[simp]
theorem value_replicate_append (count : Nat) (digits : List Char) :
    value (List.replicate count '0' ++ digits) = value digits := by
  simp [value_eq_ofDigitChars, Nat.ofDigitChars_append, Nat.ofDigitChars_replicate_zero]

theorem isDigits_digits (n : Nat) : IsDigits (digits n) :=
  isDigits_toDigits n

end Numeral

namespace Numeric

/-- Whether a text does not go on with a digit. -/
def StopsDigits (rest : List Char) : Prop :=
  ∀ c ∈ rest.head?, c.isDigit = false

theorem stopsDigits_nil : StopsDigits [] := by
  rintro _ ⟨⟩

theorem stopsDigits_cons {c : Char} (notDigit : c.isDigit = false) (rest : List Char) :
    StopsDigits (c :: rest) := by
  rintro _ ⟨⟩
  exact notDigit

/-- Digits end where the text does not go on with a digit. -/
theorem IsDigits.takeWhile_append {digits rest : List Char} (isDigits : IsDigits digits)
    (stops : StopsDigits rest) : (digits ++ rest).takeWhile Char.isDigit = digits := by
  rw [List.takeWhile_append_of_pos isDigits.2]
  cases rest with
  | nil => simp
  | cons c rest => simp [stops c rfl]

theorem IsDigits.dropWhile_append {digits rest : List Char} (isDigits : IsDigits digits)
    (stops : StopsDigits rest) : (digits ++ rest).dropWhile Char.isDigit = rest := by
  rw [List.dropWhile_append_of_pos isDigits.2]
  cases rest with
  | nil => rfl
  | cons c rest => simp [stops c rfl]

/-- In front of digits there is no sign. -/
theorem IsDigits.splitSign_append {digits : List Char} (isDigits : IsDigits digits)
    (rest : List Char) : Double.splitSign (digits ++ rest) = (false, digits ++ rest) := by
  cases digits with
  | nil => exact absurd rfl isDigits.1
  | cons c digits =>
      have isDigit : c.isDigit = true := isDigits.2 c List.mem_cons_self
      have notMinus : c ≠ '-' := by
        rintro rfl
        contradiction
      have notPlus : c ≠ '+' := by
        rintro rfl
        contradiction
      simp [Double.splitSign, notMinus, notPlus]

end Numeric

/-- A character of a number is a visible ASCII character. -/
theorem toNat_of_isNumberChar {c : Char} (isChar : isNumberChar c = true) :
    33 ≤ c.toNat ∧ c.toNat < 127 := by
  simp only [isNumberChar, Bool.or_eq_true, beq_iff_eq] at isChar
  rcases isChar with ((isAlphanum | rfl) | rfl) | rfl
  · rcases Bool.or_eq_true_iff.mp isAlphanum with isAlpha | isDigit
    · rcases Bool.or_eq_true_iff.mp isAlpha with isUpper | isLower
      · have bounds : 65 ≤ c.toNat ∧ c.toNat ≤ 90 := of_decide_eq_true isUpper
        omega
      · obtain ⟨atLeast, atMost⟩ := Bool.and_eq_true_iff.mp isLower
        have bounds : 97 ≤ c.toNat ∧ c.toNat ≤ 122 :=
          ⟨of_decide_eq_true atLeast, of_decide_eq_true atMost⟩
        omega
    · have bounds : 48 ≤ c.toNat ∧ c.toNat ≤ 57 := Char.isDigit_iff_toNat.mp isDigit
      omega
  · decide
  · decide
  · decide

/-! ## Integers -/

namespace Notation

/-- The digits of a numeral are digits of base ten. -/
theorem valueIn?_of_isDigit {c : Char} (isDigit : c.isDigit = true) :
    Digit.valueIn? 10 c = some (c.toNat - 48) := by
  have atMost : c.toNat ≤ 57 := (Char.isDigit_iff_toNat.mp isDigit).2
  simp [Digit.valueIn?, Digit.valueInBase36?, isDigit]
  omega

theorem digitValues_of_isDigits {digits : List Char} (isDigits : IsDigits digits) :
    digitValues 10 digits = some (digits.map fun c => c.toNat - 48) := by
  obtain ⟨notEmpty, all⟩ := isDigits
  induction digits with
  | nil => exact absurd rfl notEmpty
  | cons c digits ih =>
      obtain ⟨isDigit, allMore⟩ := List.forall_mem_cons.mp all
      cases digits with
      | nil => simp [digitValues, valueIn?_of_isDigit isDigit]
      | cons d digits =>
          have notBar : d ≠ '_' := by
            rintro rfl
            exact absurd (allMore _ List.mem_cons_self) (by decide)
          rw [digitValues.eq_4 10 c (d :: digits) (by simp) (by simp [notBar]),
            valueIn?_of_isDigit isDigit, ih (List.cons_ne_nil d digits) allMore]
          rfl

/-- A digit announces no base. -/
theorem announced?_of_isDigit {mark : Char} (isDigit : mark.isDigit = true) :
    announced? mark = none := by
  have differs (letter : Char) (notDigit : letter.isDigit = false) : mark ≠ letter := by
    rintro rfl
    rw [notDigit] at isDigit
    contradiction
  simp [announced?, differs 'x' rfl, differs 'X' rfl, differs 'o' rfl, differs 'O' rfl,
    differs 'b' rfl, differs 'B' rfl]

theorem splitBase_of_isDigits {digits : List Char} (isDigits : IsDigits digits) :
    splitBase 10 digits = (10, digits) := by
  unfold splitBase
  dsimp only
  split
  · rename_i mark rest
    rw [announced?_of_isDigit (isDigits.2 mark (by simp))]
    rfl
  · rfl

/-- Characters of which none is a blank have no blanks around them. -/
theorem withoutGaps_of_forall {chars : List Char} (noGap : ∀ c ∈ chars, isGap c = false) :
    withoutGaps chars = chars := by
  have noneAtEnd : ∀ c ∈ chars.reverse, isGap c = false := by simpa using noGap
  have drops (kept : List Char) (none : ∀ c ∈ kept, isGap c = false) :
      kept.dropWhile isGap = kept := by
    cases kept with
    | nil => rfl
    | cons c kept => simp [none c List.mem_cons_self]
  rw [withoutGaps, drops chars noGap, drops _ noneAtEnd, List.reverse_reverse]

/-- No character of a number is a blank. -/
theorem isGap_of_isNumberChar {c : Char} (isChar : isNumberChar c = true) : isGap c = false := by
  have visible := toNat_of_isNumberChar isChar
  have notSpace : c ≠ ' ' := by
    rintro rfl
    contradiction
  simp [isGap, notSpace]
  omega

/-- The characters of a number are in the form in which numbers are read. -/
theorem plain?_of_all_isNumberChar {text : String}
    (all : text.toList.all isNumberChar = true) : plain? text = some text.toList := by
  rw [plain?]
  generalize text.toList = chars at all
  induction chars with
  | nil => rfl
  | cons c chars ih =>
      obtain ⟨isChar, allMore⟩ := Bool.and_eq_true_iff.mp all
      have isPlain : Digit.plain? c = some c := by
        simp [Digit.plain?, (toNat_of_isNumberChar isChar).2]
      rw [List.mapM_cons, isPlain, ih allMore]
      rfl

/-- The numeral of an integer that is short enough is read back as that integer. -/
theorem integer?_chars {n : Int} (short : (Numeral.digits n.natAbs).length ≤ Numeral.digitLimit) :
    integer? 10 (Numeral.chars n) = some n := by
  have isDigits := Numeral.isDigits_digits n.natAbs
  have allChars := List.all_eq_true.mp (Numeral.isNumber_chars n).all_isNumberChar
  have noGap : ∀ c ∈ Numeral.chars n, isGap c = false :=
    fun c among => isGap_of_isNumberChar (allChars c among)
  have split : Double.splitSign (Numeral.chars n) = (decide (n < 0), Numeral.digits n.natAbs) := by
    by_cases negative : n < 0
    · simp [Numeral.chars, negative, Double.splitSign]
    · have plain := isDigits.splitSign_append []
      rw [List.append_nil] at plain
      simp [Numeral.chars, negative, plain]
  have size : (Numeral.digits n.natAbs).foldl (fun n c => n * 10 + (c.toNat - 48)) 0 = n.natAbs :=
    Numeral.value_digits n.natAbs
  have readable : isReadable 10 (Numeral.digits n.natAbs).length = true := by
    simp [isReadable, short]
  have signed : (if decide (n < 0) = true then -(n.natAbs : Int) else n.natAbs) = n := by
    by_cases negative : n < 0
    · rw [if_pos (decide_eq_true negative)]
      omega
    · rw [decide_eq_false negative, if_neg Bool.false_ne_true]
      omega
  rw [integer?, withoutGaps_of_forall noGap, split]
  simp only [splitBase_of_isDigits isDigits, digitValues_of_isDigits isDigits, List.foldl_map,
    List.length_map, readable, size, Option.bind_eq_bind, Option.bind_some]
  rw [signed]
  simp

end Notation

/-! ## Decimals -/

namespace Decimal

/-- Reads a number without a sign: the integer that its digits make up, and the exponent that the
digits behind the point and the written exponent give it. At least one digit has to stand before or
after the point. -/
def readMagnitude (chars : List Char) : Option (Nat × Int) := do
  let whole := chars.takeWhile Char.isDigit
  let (fraction, tail) := Double.splitFraction (chars.dropWhile Char.isDigit)
  let exponent ← Double.readTail tail
  if whole.isEmpty && fraction.isEmpty then none
  else some (Numeral.value (whole ++ fraction), exponent - fraction.length)

/-- The decimal that decimal notation denotes, with the sign, the digits and the exponent that it
has. -/
def ofNotation? (text : String) : Option Decimal := do
  let (negative, chars) := Double.splitSign text.toList
  let (coefficient, exponent) ← readMagnitude chars
  return ⟨negative, .finite coefficient exponent⟩

/-- What may stand behind the digits of a number: nothing, or an exponent. -/
inductive Tail : List Char → Int → Prop
  | absent : Tail [] 0
  | exponent (value : Int) : Tail (Layout.exponent exponentStyle value) value

theorem Tail.stopsDigits {tail : List Char} {value : Int} (isTail : Tail tail value) :
    StopsDigits tail := by
  cases isTail with
  | absent => exact stopsDigits_nil
  | exponent value => exact stopsDigits_cons (by decide) _

/-- Digits behind a sign are read as an exponent. -/
theorem readExponent_signed (sign : Char) {digits : List Char} {negative : Bool}
    (isSign : Double.splitSign (sign :: digits) = (negative, digits)) (isDigits : IsDigits digits) :
    Double.readExponent (sign :: digits) =
      some (if negative then -(Numeral.value digits : Int) else Numeral.value digits) := by
  have all : digits.all Char.isDigit = true := List.all_eq_true.mpr isDigits.2
  rw [Double.readExponent, isSign]
  cases negative with
  | true => simp [isDigits.1, all]
  | false => simp [isDigits.1, all]

/-- A written exponent is read back. -/
theorem readTail_exponent (value : Int) :
    Double.readTail (Layout.exponent exponentStyle value) = some value := by
  have isDigits : IsDigits (List.replicate
      (exponentStyle.width - (Numeral.digits value.natAbs).length) '0' ++
        Numeral.digits value.natAbs) :=
    (Numeral.isDigits_digits value.natAbs).prepend isDigit_of_mem_zeros
  by_cases negative : value < 0
  · have read := readExponent_signed '-' rfl isDigits
    have isSize : -(value.natAbs : Int) = value := by omega
    rw [Numeral.value_replicate_append, Numeral.value_digits, if_pos rfl, isSize] at read
    rw [Layout.exponent, if_pos negative]
    exact read
  · have read := readExponent_signed '+' rfl isDigits
    have isSize : (value.natAbs : Int) = value := by omega
    rw [Numeral.value_replicate_append, Numeral.value_digits, if_neg Bool.false_ne_true,
      isSize] at read
    rw [Layout.exponent, if_neg negative]
    exact read

theorem Tail.readTail {tail : List Char} {value : Int} (isTail : Tail tail value) :
    Double.readTail tail = some value := by
  cases isTail with
  | absent => rfl
  | exponent value => exact readTail_exponent value

/-- A tail has no point. -/
theorem Tail.splitFraction {tail : List Char} {value : Int} (isTail : Tail tail value) :
    Double.splitFraction tail = ([], tail) := by
  cases isTail with
  | absent => rfl
  | exponent value => rfl

theorem readMagnitude_whole {whole tail : List Char} {value : Int} (isWhole : IsDigits whole)
    (isTail : Tail tail value) :
    readMagnitude (whole ++ tail) = some (Numeral.value whole, value) := by
  rw [readMagnitude, isWhole.takeWhile_append isTail.stopsDigits,
    isWhole.dropWhile_append isTail.stopsDigits, isTail.splitFraction]
  simp [isTail.readTail, isWhole.1]

theorem readMagnitude_fraction {whole fraction tail : List Char} {value : Int}
    (isWhole : IsDigits whole) (isFraction : IsDigits fraction) (isTail : Tail tail value) :
    readMagnitude (whole ++ '.' :: (fraction ++ tail)) =
      some (Numeral.value (whole ++ fraction), value - fraction.length) := by
  have stops : StopsDigits ('.' :: (fraction ++ tail)) := stopsDigits_cons (by decide) _
  have split : Double.splitFraction ('.' :: (fraction ++ tail)) = (fraction, tail) := by
    rw [Double.splitFraction, isFraction.takeWhile_append isTail.stopsDigits,
      isFraction.dropWhile_append isTail.stopsDigits]
  rw [readMagnitude, isWhole.takeWhile_append stops, isWhole.dropWhile_append stops, split]
  simp [isTail.readTail, isWhole.1]

/-- A positional layout is read back with the exponent that its point gives the digits, as long as
the point does not stand behind the last digit. -/
theorem readMagnitude_positional {digits tail : List Char} {point value : Int}
    (isDigits : IsDigits digits) (pointInside : point ≤ digits.length) (isTail : Tail tail value) :
    readMagnitude (Layout.positional digits point ++ tail) =
      some (Numeral.value digits, value - (digits.length - point)) := by
  by_cases small : point ≤ 0
  · have isFraction : IsDigits (List.replicate (-point).toNat '0' ++ digits) :=
      isDigits.prepend isDigit_of_mem_zeros
    have read := readMagnitude_fraction isDigits_zero isFraction isTail
    have places : ((List.replicate (-point).toNat '0' ++ digits).length : Int) =
        digits.length - point := by
      rw [List.length_append, List.length_replicate]
      omega
    rw [List.singleton_append, List.singleton_append, Numeral.value_zero_cons,
      Numeral.value_replicate_append, places] at read
    rw [Layout.positional, if_pos small]
    exact read
  · by_cases behind : digits.length ≤ point.toNat
    · -- The point stands right behind the last digit, so no zeros are filled in.
      have isEnd : point = digits.length := by omega
      rw [Layout.positional, if_neg small, if_pos behind, isEnd, Int.toNat_natCast, Nat.sub_self,
        List.replicate_zero, List.append_nil, readMagnitude_whole isDigits isTail, Int.sub_self,
        Int.sub_zero]
    · have isWhole : IsDigits (digits.take point.toNat) := isDigits.take (by omega)
      have isFraction : IsDigits (digits.drop point.toNat) := isDigits.drop (by omega)
      have read := readMagnitude_fraction isWhole isFraction isTail
      have places : ((digits.drop point.toNat).length : Int) = digits.length - point := by
        rw [List.length_drop]
        omega
      rw [List.take_append_drop, places] at read
      rw [Layout.positional, if_neg small, if_neg behind, List.append_assoc, List.cons_append]
      exact read

theorem readMagnitude_finiteChars (coefficient : Nat) (exponent : Int) :
    readMagnitude (finiteChars coefficient exponent) = some (coefficient, exponent) := by
  have isDigits := Numeral.isDigits_digits coefficient
  have someDigit := List.length_pos_iff.mpr isDigits.1
  unfold finiteChars
  dsimp only
  split
  · have inside : exponent + (Numeral.digits coefficient).length ≤
        (Numeral.digits coefficient).length := by omega
    have read := readMagnitude_positional isDigits inside .absent
    rw [List.append_nil, Numeral.value_digits] at read
    rw [read]
    congr 2
    omega
  · have inside : (1 : Int) ≤ (Numeral.digits coefficient).length := by omega
    have read := readMagnitude_positional isDigits inside
      (.exponent (exponent + (Numeral.digits coefficient).length - 1))
    rw [Numeral.value_digits] at read
    rw [Layout.scientific, read]
    congr 2
    omega

/-- A number is read with its sign. -/
theorem ofNotation?_signed {magnitude : List Char} {coefficient : Nat} {exponent : Int}
    (isMagnitude : IsMagnitude magnitude)
    (read : readMagnitude magnitude = some (coefficient, exponent)) (negative : Bool) :
    ofNotation? (String.ofList (if negative then '-' :: magnitude else magnitude)) =
      some ⟨negative, .finite coefficient exponent⟩ := by
  have split : Double.splitSign (if negative then '-' :: magnitude else magnitude) =
      (negative, magnitude) := by
    cases negative with
    | true => rfl
    | false =>
        cases isMagnitude with
        | intro isWhole _ _ =>
            rw [List.append_assoc]
            exact isWhole.splitSign_append _
  rw [ofNotation?, String.toList_ofList, split]
  simp [read]

/-- A finite decimal is read back from its text, with its sign, its digits and its exponent. -/
theorem ofNotation?_display {d : Decimal} (isFinite : d.isFinite = true) :
    ofNotation? d.display = some d := by
  obtain ⟨negative, magnitude⟩ := d
  cases magnitude with
  | finite coefficient exponent =>
      exact ofNotation?_signed (isMagnitude_finiteChars coefficient exponent)
        (readMagnitude_finiteChars coefficient exponent) negative
  | infinite => contradiction
  | quietNaN payload => contradiction
  | signalingNaN payload => contradiction

/-- A positional layout holds nothing but digits and a point. -/
theorem not_mem_positional {digits : List Char} (isDigits : IsDigits digits) (point : Int)
    {c : Char} (notDigit : c.isDigit = false) (notPoint : c ≠ '.') :
    c ∉ Layout.positional digits point := by
  have notAmong {chars : List Char} (isDigits : IsDigits chars) : c ∉ chars := by
    intro among
    rw [isDigits.2 c among] at notDigit
    contradiction
  by_cases pointBehind : digits.length ≤ point.toNat
  · exact notAmong (isDigits_positional isDigits pointBehind)
  · obtain ⟨whole, fraction, isWhole, isFraction, equal⟩ :=
      positional_eq_append_point isDigits (Nat.lt_of_not_le pointBehind)
    rw [equal, List.mem_append, List.mem_cons]
    rintro (inWhole | isPoint | inFraction)
    · exact notAmong isWhole inWhole
    · exact notPoint isPoint
    · exact notAmong isFraction inFraction

/-- The text of a finite decimal has an exponent exactly if the exponent of the decimal is positive
or its first digit stands more than six places behind the point. -/
theorem mem_display_iff (negative : Bool) (coefficient : Nat) (exponent : Int) :
    'E' ∈ (display ⟨negative, .finite coefficient exponent⟩).toList ↔
      ¬ (exponent ≤ 0 ∧ -6 ≤ exponent + ((Numeral.digits coefficient).length - 1)) := by
  have isDigits := Numeral.isDigits_digits coefficient
  have inMagnitude : 'E' ∈ (display ⟨negative, .finite coefficient exponent⟩).toList ↔
      'E' ∈ finiteChars coefficient exponent := by
    rw [display, String.toList_ofList, chars]
    cases negative with
    | true => exact List.mem_cons.trans (or_iff_right (by decide))
    | false => exact Iff.rfl
  have sameBorder : -6 < exponent + (Numeral.digits coefficient).length ↔
      -6 ≤ exponent + ((Numeral.digits coefficient).length - 1 : Int) := by omega
  rw [inMagnitude, finiteChars, ← sameBorder]
  split
  · rename_i isPositional
    exact iff_of_false (not_mem_positional isDigits _ (by decide) (by decide))
      (not_not_intro isPositional)
  · rename_i isScientific
    exact iff_of_true (List.mem_append_right _ List.mem_cons_self) isScientific

end Decimal

/-! ## Literals -/

namespace Value

/-- The integers that have a literal without quotes. -/
theorem isNativeInteger_iff (n : Int) :
    isNativeInteger n = true ↔ -2 ^ 63 ≤ n ∧ n ≤ 2 ^ 63 - 1 := by
  have least : minInteger = -2 ^ 63 := by decide
  have greatest : maxInteger = 2 ^ 63 - 1 := by decide
  rw [isNativeInteger, Bool.and_eq_true, decide_eq_true_eq, decide_eq_true_eq, least, greatest]

/-- The characters of a number can stand between quotes as they are. -/
theorem not_mem_specialChars_of_isNumberChar {c : Char} (isChar : isNumberChar c = true) :
    c ∉ Quoted.specialChars := by
  intro special
  have none : Quoted.specialChars.all (fun c => !isNumberChar c) = true := by decide
  simpa [isChar] using List.all_eq_true.mp none c special

/-- The literal of an integer that is short enough. -/
theorem literal_int_eq {n : Int} (short : (Numeral.digits n.natAbs).length ≤ Numeral.digitLimit)
    (platform : Platform) :
    (int n).literal platform = .ok (
      if -2 ^ 63 ≤ n ∧ n ≤ 2 ^ 63 - 1 then String.ofList (Numeral.chars n)
      else "\"" ++ String.ofList (Numeral.chars n) ++ "\"") := by
  have writable : Numeral.isWritable n = true := by
    have notTooLong := (Numeral.isTooLong_iff n).not.mp (Nat.not_lt_of_le short)
    rwa [Bool.not_eq_false] at notTooLong
  have shown (room : Nat) : (int n).display room = .ok (String.ofList (Numeral.chars n)) := by
    rw [display_int, Numeral.ofInt, if_pos writable]
  have quoted : Quoted.quote (String.ofList (Numeral.chars n)) =
      "\"" ++ String.ofList (Numeral.chars n) ++ "\"" := by
    apply Quoted.quote_of_forall_not_special
    intro c among
    rw [String.toList_ofList] at among
    have all := (Numeral.isNumber_chars n).all_isNumberChar
    exact not_mem_specialChars_of_isNumberChar (List.all_eq_true.mp all c among)
  have literalOf : (int n).literal platform =
      if isNativeInteger n then (int n).display platform.room
      else Quoted.quote <$> (int n).display platform.room := rfl
  rw [literalOf, shown, ← quoted]
  by_cases native : isNativeInteger n = true
  · rw [if_pos native, if_pos ((isNativeInteger_iff n).mp native)]
  · rw [if_neg native, if_neg fun inRange => native ((isNativeInteger_iff n).mpr inRange)]
    rfl

/-- The literal of a finite decimal is its text. -/
theorem literal_decimal_eq {d : Decimal} (isFinite : d.isFinite = true) (platform : Platform) :
    (decimal d).literal platform = .ok d.display := by
  have literalOf : (decimal d).literal platform =
      if d.isFinite then .ok d.display else Quoted.quote <$> .ok d.display := rfl
  rw [literalOf, if_pos isFinite]

/-- A number does not start with a quote. -/
theorem head?_ne_quote {chars : List Char} (isNumber : IsNumber chars) :
    chars.head? ≠ some '"' := by
  obtain ⟨first, rest, rfl, isMinus | isDigit⟩ := isNumber.exists_first
  · rw [isMinus]
    simp
  · rintro ⟨⟩
    contradiction

/-- An integer that is short enough is read back from its literal, which has quotes around it
exactly if the integer does not fit into 64 bits. -/
theorem literal_int_reads_back {n : Int}
    (short : (Numeral.digits n.natAbs).length ≤ Numeral.digitLimit) (platform : Platform) :
    ∃ numeral text : String,
      (int n).literal platform = .ok text ∧ integerOfText 10 numeral = .ok n ∧
      text = (if -2 ^ 63 ≤ n ∧ n ≤ 2 ^ 63 - 1 then numeral else "\"" ++ numeral ++ "\"") ∧
      (text.toList.head? = some '"' ↔ ¬ (-2 ^ 63 ≤ n ∧ n ≤ 2 ^ 63 - 1)) := by
  have isNumber := Numeral.isNumber_chars n
  refine ⟨String.ofList (Numeral.chars n), _, literal_int_eq short platform, ?_, rfl, ?_⟩
  · have allChars : (String.ofList (Numeral.chars n)).toList.all isNumberChar = true := by
      rw [String.toList_ofList]
      exact isNumber.all_isNumberChar
    rw [integerOfText, Notation.plain?_of_all_isNumberChar allChars, String.toList_ofList,
      Option.bind_some, Notation.integer?_chars short]
    rfl
  · split
    · rename_i native
      rw [String.toList_ofList]
      exact iff_of_false (head?_ne_quote isNumber) (not_not_intro native)
    · rename_i tooLarge
      have starts : ("\"" ++ String.ofList (Numeral.chars n) ++ "\"").toList.head? = some '"' := by
        simp
      exact iff_of_true starts tooLarge

/-- A finite decimal is read back from its literal, which has no quotes around it. -/
theorem literal_decimal_reads_back {d : Decimal} (isFinite : d.isFinite = true)
    (platform : Platform) :
    ∃ text : String, (decimal d).literal platform = .ok text ∧
      text.toList.head? ≠ some '"' ∧ Decimal.ofNotation? text = some d :=
  ⟨d.display, literal_decimal_eq isFinite platform,
    head?_ne_quote (Decimal.isNumber_display isFinite), Decimal.ofNotation?_display isFinite⟩

/-- Numbers keep their exact value. The literal of an integer of at most 4300 digits is written
without quotes exactly if the integer fits into 64 bits, and what is written, without the quotes, is
read as that integer. The literal of a finite decimal is written without quotes, and it is read with
the sign, the digits and the exponent of the decimal; it has an exponent exactly if the one of the
decimal is positive or the first digit stands more than six places behind the point. So neither two
integers nor two finite decimals share a literal. -/
theorem literal_numbers_read_back (platform : Platform) :
    (∀ n : Int, (Numeral.digits n.natAbs).length ≤ 4300 → ∃ numeral text : String,
      (int n).literal platform = .ok text ∧ integerOfText 10 numeral = .ok n ∧
      text = (if -2 ^ 63 ≤ n ∧ n ≤ 2 ^ 63 - 1 then numeral else "\"" ++ numeral ++ "\"") ∧
      (text.toList.head? = some '"' ↔ ¬ (-2 ^ 63 ≤ n ∧ n ≤ 2 ^ 63 - 1))) ∧
    (∀ (negative : Bool) (coefficient : Nat) (exponent : Int), ∃ text : String,
      (decimal ⟨negative, .finite coefficient exponent⟩).literal platform = .ok text ∧
      text.toList.head? ≠ some '"' ∧
      Decimal.ofNotation? text = some ⟨negative, .finite coefficient exponent⟩ ∧
      ('E' ∈ text.toList ↔
        ¬ (exponent ≤ 0 ∧ -6 ≤ exponent + ((Numeral.digits coefficient).length - 1)))) ∧
    (∀ m n : Int, (Numeral.digits m.natAbs).length ≤ 4300 →
      (Numeral.digits n.natAbs).length ≤ 4300 →
      (int m).literal platform = (int n).literal platform → m = n) ∧
    ∀ d e : Decimal, d.isFinite = true → e.isFinite = true →
      (decimal d).literal platform = (decimal e).literal platform → d = e := by
  refine ⟨fun n short => literal_int_reads_back short platform, ?_, ?_, ?_⟩
  · intro negative coefficient exponent
    exact ⟨_, literal_decimal_eq rfl platform, head?_ne_quote (Decimal.isNumber_display rfl),
      Decimal.ofNotation?_display rfl, Decimal.mem_display_iff negative coefficient exponent⟩
  · intro m n mShort nShort same
    obtain ⟨mNumeral, mText, mWritten, mRead, mForm, mQuoted⟩ :=
      literal_int_reads_back mShort platform
    obtain ⟨nNumeral, nText, nWritten, nRead, nForm, nQuoted⟩ :=
      literal_int_reads_back nShort platform
    obtain rfl : mText = nText := Except.ok.inj (mWritten.symm.trans (same.trans nWritten))
    -- The quotes are on both or on neither, so the numerals within them are equal.
    have sameRange : (-2 ^ 63 ≤ m ∧ m ≤ 2 ^ 63 - 1) ↔ (-2 ^ 63 ≤ n ∧ n ≤ 2 ^ 63 - 1) :=
      not_iff_not.mp (mQuoted.symm.trans nQuoted)
    have sameNumeral : mNumeral = nNumeral := by
      rw [mForm] at nForm
      by_cases native : -2 ^ 63 ≤ m ∧ m ≤ 2 ^ 63 - 1
      · rwa [if_pos native, if_pos (sameRange.mp native)] at nForm
      · rw [if_neg native, if_neg (native ∘ sameRange.mpr)] at nForm
        simpa using nForm
    rw [sameNumeral, nRead] at mRead
    exact (Except.ok.inj mRead).symm
  · intro d e dFinite eFinite same
    obtain ⟨text, dWritten, _, dRead⟩ := literal_decimal_reads_back dFinite platform
    obtain ⟨_, eWritten, _, eRead⟩ := literal_decimal_reads_back eFinite platform
    obtain rfl := Except.ok.inj (dWritten.symm.trans (same.trans eWritten))
    exact Option.some.inj (dRead.symm.trans eRead)

/-- The least integer that does not fit into 64 bits is read back from between its quotes, a
negative zero with an exponent keeps both, and equal decimals of different exponents have different
literals. -/
theorem literal_numbers_read_back_at_borders :
    (∃ numeral text : String, (int (2 ^ 63)).literal ⟨0, 900⟩ = .ok text ∧
      integerOfText 10 numeral = .ok (2 ^ 63) ∧ text = "\"" ++ numeral ++ "\"") ∧
    (∃ text : String, (decimal ⟨true, .finite 0 (-7)⟩).literal ⟨0, 900⟩ = .ok text ∧
      'E' ∈ text.toList ∧ Decimal.ofNotation? text = some ⟨true, .finite 0 (-7)⟩) ∧
    (int (2 ^ 63)).literal ⟨0, 900⟩ ≠ (int (2 ^ 63 - 1)).literal ⟨0, 900⟩ ∧
    (decimal ⟨false, .finite 1 0⟩).literal ⟨0, 900⟩ ≠
      (decimal ⟨false, .finite 10 (-1)⟩).literal ⟨0, 900⟩ := by
  obtain ⟨integers, decimals, integersDiffer, decimalsDiffer⟩ := literal_numbers_read_back ⟨0, 900⟩
  refine ⟨?_, ?_, ?_, ?_⟩
  · obtain ⟨numeral, text, written, read, form, _⟩ := integers (2 ^ 63) (by decide)
    exact ⟨numeral, text, written, read, form.trans (if_neg (by decide))⟩
  · obtain ⟨text, written, _, read, hasExponent⟩ := decimals true 0 (-7)
    exact ⟨text, written, hasExponent.mpr (by decide), read⟩
  · intro same
    exact absurd (integersDiffer _ _ (by decide) (by decide) same) (by decide)
  · intro same
    exact absurd (decimalsDiffer _ _ rfl rfl same) (by decide)

end Value

end CypherText
