import CypherText.Proofs.Token.QuotedText
import CypherText.Value.Literal

/-!
# Reading base64

A reader of base64 takes the digits in groups of four. Each digit stands for six bits, and a group
for three bytes; only the last group may end in one or two fill characters, and then the bits that
belong to no byte have to be zero. What the reader accepts is exactly what is written for some
bytes, and it gives these bytes. So the literals of byte strings, whose digits need no escape, can
be read back, whatever kind of byte string it is, as long as its bytes lie in one piece.
-/

namespace CypherText

namespace Bytes

/-- The digits of base64, each at the place of the number that it stands for. -/
def base64Alphabet : String :=
  "ABCDEFGHIJKLMNOPQRSTUVWXYZabcdefghijklmnopqrstuvwxyz0123456789+/"

/-- The number that a digit stands for. -/
def base64Value? (c : Char) : Option Nat :=
  base64Alphabet.toList.idxOf? c

/-- Reads base64. The digits of a group are one number, whose bits are cut into bytes. -/
def ofBase64? : List Char → Option (List UInt8)
  | [] => some []
  | [c, d, '=', '='] => do
    let n := (← base64Value? c) * 64 + (← base64Value? d)
    if n % 16 = 0 then some [.ofNat (n / 16)] else none
  | [c, d, e, '='] => do
    let n := ((← base64Value? c) * 64 + (← base64Value? d)) * 64 + (← base64Value? e)
    if n % 4 = 0 then some [.ofNat (n / 1024), .ofNat (n / 4)] else none
  | c :: d :: e :: f :: rest => do
    let n := (((← base64Value? c) * 64 + (← base64Value? d)) * 64 + (← base64Value? e)) * 64 +
      (← base64Value? f)
    return .ofNat (n / 65536) :: .ofNat (n / 256) :: .ofNat n :: (← ofBase64? rest)
  | _ => none

/-! ## Digits -/

theorem base64Value?_base64Digit {n : Nat} (small : n < 64) :
    base64Value? (base64Digit n) = some n := by
  have all : ∀ n < 64, base64Value? (base64Digit n) = some n := by
    decide +kernel
  exact all n small

theorem base64Value?_eq_some_iff {c : Char} {n : Nat} :
    base64Value? c = some n ↔ n < 64 ∧ c = base64Digit n := by
  constructor
  · intro found
    rcases List.idxOf?_eq_some_iff.mp found with ⟨small, there, _⟩
    rcases List.idxOf?_eq_some_iff.mp (base64Value?_base64Digit small) with ⟨_, isDigit, _⟩
    exact ⟨small, there.symm.trans isDigit⟩
  · rintro ⟨small, rfl⟩
    exact base64Value?_base64Digit small

/-- The fill character is no digit. -/
theorem base64Value?_fill : base64Value? '=' = none := by
  decide +kernel

theorem base64Digit_ne_fill {n : Nat} (small : n < 64) : base64Digit n ≠ '=' := by
  intro isFill
  have found := base64Value?_base64Digit small
  rw [isFill, base64Value?_fill] at found
  contradiction

/-- Every digit has a value, also where it is written for a larger number. -/
theorem exists_base64Value?_base64Digit (n : Nat) : ∃ m, base64Value? (base64Digit n) = some m := by
  by_cases small : n < 64
  · exact ⟨n, base64Value?_base64Digit small⟩
  · have last : base64Digit n = base64Digit 63 := by
      rw [base64Digit, if_neg (by omega), if_neg (by omega), if_neg (by omega), if_neg (by omega)]
      rfl
    exact ⟨63, last ▸ base64Value?_base64Digit (by omega)⟩

/-! ## Reading what is written -/

theorem ofNat_eq_of_mod_eq {n : Nat} {a : UInt8} (same : n % 256 = a.toNat) :
    UInt8.ofNat n = a := by
  rw [← UInt8.toNat_inj, UInt8.toNat_ofNat', same]

/-- What is written for some bytes is read as these bytes. -/
theorem ofBase64?_base64 (data : List UInt8) : ofBase64? (base64 data) = some data := by
  induction data using base64.induct with
  | case1 => rfl
  | case2 a =>
      have small := a.toNat_lt
      have first := base64Value?_base64Digit (n := a.toNat / 4) (by omega)
      have second := base64Value?_base64Digit (n := a.toNat % 4 * 16) (by omega)
      simp only [base64, ofBase64?, first, second, Option.bind_eq_bind, Option.bind_some]
      rw [if_pos (by omega), ofNat_eq_of_mod_eq (a := a) (by omega)]
  | case3 a b =>
      have small := a.toNat_lt
      have alsoSmall := b.toNat_lt
      have first := base64Value?_base64Digit (n := a.toNat / 4) (by omega)
      have second := base64Value?_base64Digit (n := a.toNat % 4 * 16 + b.toNat / 16) (by omega)
      have third := base64Value?_base64Digit (n := b.toNat % 16 * 4) (by omega)
      rw [base64, ofBase64?]
      · simp only [first, second, third, Option.bind_eq_bind, Option.bind_some]
        rw [if_pos (by omega), ofNat_eq_of_mod_eq (a := a) (by omega),
          ofNat_eq_of_mod_eq (a := b) (by omega)]
      · exact base64Digit_ne_fill (by omega)
  | case4 a b c rest ih =>
      have small := a.toNat_lt
      have alsoSmall := b.toNat_lt
      have lastSmall := c.toNat_lt
      have first := base64Value?_base64Digit (n := a.toNat / 4) (by omega)
      have second := base64Value?_base64Digit (n := a.toNat % 4 * 16 + b.toNat / 16) (by omega)
      have third := base64Value?_base64Digit (n := b.toNat % 16 * 4 + c.toNat / 64) (by omega)
      have fourth := base64Value?_base64Digit (n := c.toNat % 64) (by omega)
      have notFill := base64Digit_ne_fill (n := c.toNat % 64) (by omega)
      rw [base64, ofBase64?]
      · simp only [first, second, third, fourth, Option.bind_eq_bind, Option.bind_some, ih]
        rw [ofNat_eq_of_mod_eq (a := a) (by omega), ofNat_eq_of_mod_eq (a := b) (by omega),
          ofNat_eq_of_mod_eq (a := c) (by omega)]
        rfl
      · exact fun _ isFill _ => notFill isFill
      · exact fun isFill _ => notFill isFill

/-- Whatever is read is what is written for the bytes that are found. -/
theorem eq_base64_of_ofBase64? {chars : List Char} {data : List UInt8}
    (found : ofBase64? chars = some data) : chars = base64 data := by
  induction chars using ofBase64?.induct generalizing data with
  | case1 =>
      cases found
      rfl
  | case2 c d =>
      simp only [ofBase64?, Option.bind_eq_bind, Option.bind_eq_some_iff, base64Value?_eq_some_iff,
        Option.ite_none_right_eq_some, Option.some.injEq] at found
      rcases found with ⟨x, ⟨_, rfl⟩, y, ⟨_, rfl⟩, noRest, rfl⟩
      rw [base64, UInt8.toNat_ofNat']
      congr 3 <;> omega
  | case3 c d e notFill =>
      simp only [ofBase64?, Option.bind_eq_bind, Option.bind_eq_some_iff, base64Value?_eq_some_iff,
        Option.ite_none_right_eq_some, Option.some.injEq] at found
      rcases found with ⟨x, ⟨_, rfl⟩, y, ⟨_, rfl⟩, z, ⟨_, rfl⟩, noRest, rfl⟩
      rw [base64, UInt8.toNat_ofNat', UInt8.toNat_ofNat']
      congr 4 <;> omega
  | case4 c d e f rest notPair notTriple ih =>
      simp only [ofBase64?, Option.bind_eq_bind, Option.bind_eq_some_iff, base64Value?_eq_some_iff,
        Option.pure_def, Option.some.injEq] at found
      rcases found with
        ⟨x, ⟨_, rfl⟩, y, ⟨_, rfl⟩, z, ⟨_, rfl⟩, u, ⟨_, rfl⟩, others, read, rfl⟩
      rw [base64, UInt8.toNat_ofNat', UInt8.toNat_ofNat', UInt8.toNat_ofNat', ← ih read]
      congr 5 <;> omega
  | case5 => simp [ofBase64?] at found

theorem ofBase64?_eq_some_iff {chars : List Char} {data : List UInt8} :
    ofBase64? chars = some data ↔ chars = base64 data := by
  constructor
  · exact eq_base64_of_ofBase64?
  · rintro rfl
    exact ofBase64?_base64 data

/-- The bits behind the last byte have to be zero. -/
example : ofBase64? "AA==".toList = some [0] ∧ ofBase64? "AB==".toList = none := by
  decide

theorem base64_injective : Function.Injective base64 := by
  intro data other same
  have read := ofBase64?_base64 data
  rw [same, ofBase64?_base64] at read
  exact (Option.some.inj read).symm

/-- Three bytes take four digits, and what is left over takes four as well. -/
theorem length_base64 (data : List UInt8) :
    (base64 data).length = 4 * ((data.length + 2) / 3) := by
  induction data using base64.induct with
  | case1 => rfl
  | case2 a => simp [base64]
  | case3 a b => simp [base64]
  | case4 a b c rest ih =>
      simp only [base64, List.length_cons, ih]
      omega

/-- Nothing has to be escaped. -/
theorem not_mem_specialChars_of_mem_base64 {data : List UInt8} :
    ∀ c ∈ base64 data, c ∉ Quoted.specialChars := by
  have noDigit : Quoted.specialChars.all (fun c => (base64Value? c).isNone) = true := by
    decide +kernel
  have fill : '=' ∉ Quoted.specialChars := by decide
  have digit (n : Nat) : base64Digit n ∉ Quoted.specialChars := by
    intro isSpecial
    rcases exists_base64Value?_base64Digit n with ⟨m, found⟩
    have absent := List.all_eq_true.mp noDigit _ isSpecial
    rw [found] at absent
    cases absent
  induction data using base64.induct with
  | case1 => exact List.forall_mem_nil _
  | case2 a => simp [base64, fill, digit]
  | case3 a b => simp [base64, fill, digit]
  | case4 a b c rest ih => simpa [base64, digit] using ih

end Bytes

/-- The byte strings whose bytes lie in one piece are the immutable ones, the mutable ones and the
contiguous views. -/
theorem BytesKind.failure?_eq_none_iff {kind : BytesKind} :
    kind.failure? = none ↔ kind ∈ [BytesKind.immutable, .mutable, .view .contiguous] := by
  cases kind with
  | immutable => simp [BytesKind.failure?]
  | mutable => simp [BytesKind.failure?]
  | view layout => cases layout <;> simp [BytesKind.failure?]

namespace Value

/-- The literal of a byte string is its base64 between quotes, if its bytes lie in one piece. -/
theorem literal_eq_of_content_eq_bytes {v : Value} {kind : BytesKind} {data : List UInt8}
    (isBytes : v.content = .bytes kind data) (isWhole : kind.failure? = none)
    (platform : Platform) :
    v.literal platform = .ok ("\"" ++ String.ofList (Bytes.base64 data) ++ "\"") := by
  have noSpecial : ∀ c ∈ (String.ofList (Bytes.base64 data)).toList, c ∉ Quoted.specialChars := by
    simpa using Bytes.not_mem_specialChars_of_mem_base64
  have encoded : base64Text kind data = .ok (String.ofList (Bytes.base64 data)) := by
    rw [base64Text, wholeBytes, isWhole]
    rfl
  rw [literal, isBytes, ← Quoted.quote_of_forall_not_special noSpecial]
  exact congrArg (Quoted.quote <$> ·) encoded

/-- Bytes that do not lie in one piece are not written. -/
theorem literal_eq_error_of_content_eq_bytes {v : Value} {kind : BytesKind} {data : List UInt8}
    {failure : Failure} (isBytes : v.content = .bytes kind data)
    (broken : kind.failure? = some failure) (platform : Platform) :
    v.literal platform = .error failure := by
  have refused : base64Text kind data = .error failure := by
    rw [base64Text, wholeBytes, broken]
    rfl
  rw [literal, isBytes]
  exact congrArg (Quoted.quote <$> ·) refused

end Value

end CypherText
