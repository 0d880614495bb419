import CypherText.Proofs.Number.Display
import CypherText.Proofs.Token.Literal
import CypherText.Value.Literal

/-!
# Literals of values are literal tokens

Only the two booleans and the numbers that a query can hold are written without quotes. Which of
these a value is depends on its content, but a number is written by the text that the value
itself shows, and an instance of a derived type or a member of an enumeration may show any text.
So a literal is a token exactly where no number shows a text of its own that is not a token.
-/

namespace CypherText.Value

/-- Whether a content is a number that is written without quotes. -/
def isBareNumber : Value → Bool
  | int n => isNativeInteger n
  | double d => d.isFinite
  | decimal d => d.isFinite
  | _ => false

/-! ## Shown texts -/

theorem display_of_ownText? {v : Value} {own : String} (isOwn : v.ownText? = some own)
    (room : Nat) : v.display room = .ok own := by
  match v with
  | derived _ _ shown _ =>
      cases isOwn
      rfl
  | member .transparent _ _ inner => exact display_of_ownText? (v := inner) isOwn room
  | member .named _ _ _ =>
      cases isOwn
      rfl
  | member .bare _ _ _ =>
      cases isOwn
      rfl
  | null | bool _ | int _ | double _ | decimal _ | text _ | timestamp _ | date _ | clock _
  | duration _ | bytes _ _ | uuid _ | list _ | tuple _ | map _ | foreign _ _ => contradiction

/-- A value without a text of its own shows that of its content. -/
theorem display_eq_display_content {v : Value} (noOwn : v.ownText? = none) (room : Nat) :
    v.display room = v.content.display room := by
  match v with
  | derived _ _ _ _ => contradiction
  | member .transparent _ _ inner => exact display_eq_display_content (v := inner) noOwn room
  | member .named _ _ _ => contradiction
  | member .bare _ _ _ => contradiction
  | null | bool _ | int _ | double _ | decimal _ | text _ | timestamp _ | date _ | clock _
  | duration _ | bytes _ _ | uuid _ | list _ | tuple _ | map _ | foreign _ _ => rfl

/-! ## Values that count as text -/

theorem content_of_text? {v : Value} {chars : String} (isText : v.text? = some chars) :
    v.content = text chars := by
  unfold text? at isText
  split at isText
  · rename_i content
    rw [content, Option.some.inj isText]
  · contradiction

/-- A value that counts as text shows its own text, or else its characters. -/
theorem display_of_text? {v : Value} {chars : String} (isText : v.text? = some chars) (room : Nat) :
    v.display room = .ok (v.ownText?.getD chars) := by
  cases own : v.ownText? with
  | some text => exact display_of_ownText? own room
  | none =>
      rw [display_eq_display_content own, content_of_text? isText]
      rfl

/-! ## Numbers -/

theorem display_int (room : Nat) (n : Int) : (int n).display room = Numeral.ofInt n := by
  simp [display, inspect]

theorem isNumber_of_display {room : Nat} {v : Value} {text : String}
    (isBare : v.isBareNumber = true) (shown : v.display room = .ok text) :
    Numeric.IsNumber text.toList := by
  cases v with
  | int n =>
      rw [display_int] at shown
      exact Numeral.isNumber_of_ofInt shown
  | double d =>
      cases shown
      exact Double.isNumber_display isBare
  | decimal d =>
      cases shown
      exact Decimal.isNumber_display isBare
  | _ => contradiction

/-! ## Literals -/

theorem exists_quote_of_map {shown : Except Failure String} {text : String}
    (written : Quoted.quote <$> shown = .ok text) : ∃ s, text = Quoted.quote s := by
  cases shown with
  | error failure => contradiction
  | ok s => exact ⟨s, (Except.ok.inj written).symm⟩

/-- How a literal comes about: a number is written by its shown text, and everything else by a
boolean word or as a quoted text. -/
theorem literal_cases {platform : Platform} {v : Value} {text : String}
    (written : v.literal platform = .ok text) :
    v.content.isBareNumber = true ∧ v.display platform.room = .ok text ∨
      v.content.isBareNumber = false ∧
        ((∃ b : Bool, text = if b then "true" else "false") ∨ ∃ s, text = Quoted.quote s) := by
  cases content : v.content with
  | bool b =>
      simp only [literal, content] at written
      exact .inr ⟨rfl, .inl ⟨b, (Except.ok.inj written).symm⟩⟩
  | int n =>
      simp only [literal, content] at written
      cases native : isNativeInteger n with
      | true => exact .inl ⟨native, by simpa [native] using written⟩
      | false => exact .inr ⟨native, .inr (exists_quote_of_map (by simpa [native] using written))⟩
  | double d =>
      simp only [literal, content] at written
      cases finite : d.isFinite with
      | true => exact .inl ⟨finite, by simpa [finite] using written⟩
      | false => exact .inr ⟨finite, .inr (exists_quote_of_map (by simpa [finite] using written))⟩
  | decimal d =>
      simp only [literal, content] at written
      cases finite : d.isFinite with
      | true => exact .inl ⟨finite, by simpa [finite] using written⟩
      | false => exact .inr ⟨finite, .inr (exists_quote_of_map (by simpa [finite] using written))⟩
  | text _ =>
      simp only [literal, content] at written
      exact .inr ⟨rfl, .inr ⟨_, (Except.ok.inj written).symm⟩⟩
  | null | timestamp _ | date _ | clock _ | duration _ | bytes _ _ | uuid _ | list _ | tuple _
  | map _ | foreign _ _ | derived _ _ _ _ | member _ _ _ _ =>
      simp only [literal, content] at written
      exact .inr ⟨rfl, .inr (exists_quote_of_map written)⟩

/-- Whatever is not written as a bare number is written as a token. -/
theorem isToken_of_not_isBareNumber {platform : Platform} {v : Value} {text : String}
    (written : v.literal platform = .ok text) (notBare : v.content.isBareNumber = false) :
    Literal.IsToken text.toList := by
  rcases literal_cases written with ⟨isBare, _⟩ | ⟨_, ⟨b, rfl⟩ | ⟨s, rfl⟩⟩
  · rw [notBare] at isBare
    contradiction
  · cases b with
    | true => exact .yes
    | false => exact .no
  · exact Literal.isToken_quote s

/-- Whether a value, if its content is a number that is written without quotes, shows the text of
that number. -/
def ShowsNumber (v : Value) : Prop :=
  v.content.isBareNumber = true → ∀ room, v.display room = v.content.display room

/-- A value that shows its number is written as a token. -/
theorem isToken_of_showsNumber {platform : Platform} {v : Value} {text : String}
    (written : v.literal platform = .ok text) (shows : v.ShowsNumber) :
    Literal.IsToken text.toList := by
  rcases literal_cases written with ⟨isBare, shown⟩ | ⟨notBare, _⟩
  · rw [shows isBare] at shown
    exact .number (isNumber_of_display isBare shown)
  · exact isToken_of_not_isBareNumber written notBare

/-- A number that shows a text of its own is written by that text. -/
theorem eq_ownText_of_isBareNumber {platform : Platform} {v : Value} {text own : String}
    (written : v.literal platform = .ok text) (isBare : v.content.isBareNumber = true)
    (isOwn : v.ownText? = some own) : text = own := by
  rcases literal_cases written with ⟨_, shown⟩ | ⟨notBare, _⟩
  · rw [display_of_ownText? isOwn] at shown
    exact (Except.ok.inj shown).symm
  · rw [isBare] at notBare
    contradiction

/-- The literal of a value is one valid token exactly if the value is not a number that shows a
text of its own which is no token. -/
theorem isToken_literal_iff {platform : Platform} {v : Value} {text : String}
    (written : v.literal platform = .ok text) :
    Literal.IsToken text.toList ↔
      (v.content.isBareNumber = true →
        ∀ own : String, v.ownText? = some own → Literal.IsToken own.toList) := by
  constructor
  · intro isToken isBare own isOwn
    rwa [← eq_ownText_of_isBareNumber written isBare isOwn]
  · intro ownTokens
    cases isBare : v.content.isBareNumber with
    | false => exact isToken_of_not_isBareNumber written isBare
    | true =>
        cases isOwn : v.ownText? with
        | none =>
            exact isToken_of_showsNumber written fun _ => display_eq_display_content isOwn
        | some own =>
            rw [eq_ownText_of_isBareNumber written isBare isOwn]
            exact ownTokens isBare own isOwn

/-- A decimal with a trailing zero is a token as it is. -/
theorem isToken_literal_decimal :
    (decimal ⟨true, .finite 110 (-2)⟩).literal ⟨0, 900⟩ = .ok "-1.10" ∧
      Literal.IsToken "-1.10".toList := by
  have written : (decimal ⟨true, .finite 110 (-2)⟩).literal ⟨0, 900⟩ = .ok "-1.10" := by rfl
  refine ⟨written, (isToken_literal_iff written).mpr ?_⟩
  intro _ own isOwn
  contradiction

/-- An instance of a type derived from integers puts the text that it shows into the query, which
need not be a token. -/
theorem exists_literal_not_isToken :
    ∃ v text, literal ⟨0, 900⟩ v = .ok text ∧ ¬ Literal.IsToken text.toList := by
  refine ⟨derived ⟨"Sub", "app.models.Sub"⟩ (int 5) "$5" .made, "$5", rfl, ?_⟩
  have chars : "$5".toList = ['$', '5'] := by decide
  rw [chars]
  exact Literal.not_isToken_cons (by decide)

end CypherText.Value
