import CypherText.Number.Decimal
import CypherText.Number.Double
import CypherText.Proofs.Token.Number
import Mathlib.Data.List.TakeWhile

/-!
# Texts of numbers are numeric tokens

Integers, finite doubles and finite decimals are written as numeric tokens. For integers and
decimals this follows from the layouts. For doubles the digits that are laid out have to be there
at all: the shortest digits of a positive number are found among positive candidates, so that
stripping their trailing zeros leaves some of them.
-/

namespace CypherText

open Numeric

/-! ## Integers -/

namespace Numeral

theorem isNumber_chars (n : Int) : IsNumber (chars n) := by
  have magnitude := (isDigits_toDigits n.natAbs).isMagnitude
  by_cases negative : n < 0
  · rw [chars, if_pos negative]
    exact .negated magnitude
  · rw [chars, if_neg negative]
    exact .plain magnitude

theorem isNumber_of_ofInt {n : Int} {text : String} (written : ofInt n = .ok text) :
    IsNumber text.toList := by
  cases writable : isWritable n with
  | true =>
      rw [ofInt, if_pos writable, Except.ok.injEq] at written
      rw [← written, String.toList_ofList]
      exact isNumber_chars n
  | false => simp [ofInt, writable] at written

end Numeral

/-! ## Decimals -/

namespace Decimal

theorem isMagnitude_finiteChars (coefficient : Nat) (exponent : Int) :
    IsMagnitude (finiteChars coefficient exponent) := by
  have isDigits : IsDigits (Numeral.digits coefficient) := isDigits_toDigits coefficient
  unfold finiteChars
  dsimp only
  split
  · exact isMagnitude_positional isDigits _
  · exact isMagnitude_scientific (by decide) isDigits _

theorem isNumber_display {d : Decimal} (isFinite : d.isFinite = true) :
    IsNumber d.display.toList := by
  obtain ⟨negative, magnitude⟩ := d
  cases magnitude with
  | finite coefficient exponent =>
      have isMagnitude := isMagnitude_finiteChars coefficient exponent
      rw [display, String.toList_ofList]
      cases negative with
      | false => exact .plain isMagnitude
      | true => exact .negated isMagnitude
  | infinite => contradiction
  | quietNaN payload => contradiction
  | signalingNaN payload => contradiction

end Decimal

/-! ## Shortest digits -/

namespace Shortest

/-- Zero does not round to a positive number. -/
theorem accepts_zero {b : Binary} (positive : 0 < b.mantissa) (place : Int) :
    b.accepts place 0 = false := by
  have widthPositive : 0 < 2 ^ b.exponent.toNat := Nat.two_pow_pos _
  have lowPositive : 0 < b.low := by
    refine Nat.mul_pos ?_ widthPositive
    split <;> omega
  have shiftPositive : 0 < 10 ^ (-place).toNat := Nat.pow_pos (by decide)
  have product : 0 < b.low * 10 ^ (-place).toNat := Nat.mul_pos lowPositive shiftPositive
  by_cases even : b.mantissa % 2 = 0
  · simp [Binary.accepts, even]
    omega
  · simp [Binary.accepts, even]

/-- The candidates for a positive number are positive. -/
theorem pos_of_atPlace? {b : Binary} (positive : 0 < b.mantissa) {place : Int} {candidate : Nat}
    (found : b.atPlace? place = some candidate) : 0 < candidate := by
  have belowPositive : ∀ below, b.accepts place below = true → 0 < below := by
    intro below accepted
    rcases Nat.eq_zero_or_pos below with rfl | positive
    · rw [accepts_zero ‹_›] at accepted
      contradiction
    · exact positive
  unfold Binary.atPlace? at found
  dsimp only at found
  split at found
  · contradiction
  · rename_i accepted _
    cases found
    exact belowPositive _ accepted
  · cases found
    exact Nat.succ_pos _
  · rename_i accepted _
    split at found
    · cases found
      exact belowPositive _ accepted
    · split at found
      · cases found
        exact Nat.succ_pos _
      · split at found
        · cases found
          exact belowPositive _ accepted
        · cases found
          exact Nat.succ_pos _

theorem ofDigitChars_eq_zero {digits : List Char} (allZero : ∀ c ∈ digits, c = '0') :
    Nat.ofDigitChars 10 digits 0 = 0 := by
  induction digits with
  | nil => rfl
  | cons c digits ih =>
      obtain ⟨rfl, restZero⟩ := List.forall_mem_cons.mp allZero
      rw [Nat.ofDigitChars_cons]
      exact ih restZero

/-- The digits of a positive number are not all stripped. -/
theorem isDigits_stripZeros {n : Nat} (positive : 0 < n) :
    IsDigits (stripZeros (Numeral.digits n)) := by
  constructor
  · intro isEmpty
    have allZero : ∀ c ∈ Numeral.digits n, c = '0' := by
      simpa [stripZeros, List.dropWhile_eq_nil_iff] using isEmpty
    have value : Nat.ofDigitChars 10 (Numeral.digits n) 0 = n := Nat.ofDigitChars_ten_toDigits
    rw [ofDigitChars_eq_zero allZero] at value
    omega
  · intro c member
    have inReverse : c ∈ (Numeral.digits n).reverse :=
      (List.dropWhile_sublist _).mem (List.mem_reverse.mp member)
    exact (isDigits_toDigits n).2 c (List.mem_reverse.mp inReverse)

theorem isDigits_digits {b : Binary} (positive : 0 < b.mantissa) : IsDigits (digits b).1 := by
  unfold digits
  dsimp only
  split
  · rename_i found
    obtain ⟨count, _, atPlace⟩ := List.exists_of_findSome?_eq_some found
    obtain ⟨candidate, isCandidate, equal⟩ := Option.map_eq_some_iff.mp atPlace
    cases equal
    exact isDigits_stripZeros (pos_of_atPlace? positive isCandidate)
  · exact isDigits_zero

end Shortest

/-! ## Doubles -/

namespace Double

theorem isMagnitude_layout {digits : List Char} (isDigits : IsDigits digits) (point : Int) :
    IsMagnitude (layout digits point) := by
  unfold layout
  split
  · dsimp only
    split
    · rename_i pointBehind
      have isFraction : IsFraction ['.', '0'] := .point isDigits_zero
      have whole := IsMagnitude.intro (isDigits_positional isDigits pointBehind) isFraction .absent
      rwa [List.append_nil] at whole
    · exact isMagnitude_positional isDigits point
  · exact isMagnitude_scientific (by decide) isDigits _

theorem isMagnitude_magnitudeChars (mantissa : Nat) (exponent : Int) :
    IsMagnitude (magnitudeChars mantissa exponent) := by
  unfold magnitudeChars
  split
  · exact .intro isDigits_zero (.point isDigits_zero) .absent
  · rename_i notZero
    exact isMagnitude_layout (Shortest.isDigits_digits (Nat.pos_of_ne_zero notZero)) _

theorem isNumber_display {d : Double} (isFinite : d.isFinite = true) :
    IsNumber d.display.toList := by
  have notSpecial : d.exponentField ≠ 2047 := by simpa [Double.isFinite] using isFinite
  obtain ⟨mantissa, exponent, classified⟩ :
      ∃ mantissa exponent, d.classify = .finite d.negative mantissa exponent := by
    rw [classify, if_neg notSpecial]
    split
    · exact ⟨_, _, rfl⟩
    · exact ⟨_, _, rfl⟩
  have isMagnitude := isMagnitude_magnitudeChars mantissa exponent
  rw [display, String.toList_ofList, chars, classified]
  cases d.negative with
  | false => exact .plain isMagnitude
  | true => exact .negated isMagnitude

end Double

end CypherText
