import Mathlib.Data.List.Infix

/-!
# Fixed words and separated items

A reader takes something off the front of a text and gives it with the rest. A fixed word is read
by comparing the characters. Items with a separator between them are read one after the other, for
as long as there is text and the separator stands in it. If a reader undoes the text of each item
in front of whatever may follow there, this undoes the texts of all of them in a row, also where
the separator is empty.
-/

namespace CypherText

namespace Word

/-- Reads a fixed word, and gives the text behind it. -/
def read (word : String) (chars : List Char) : Option (List Char) :=
  chars.dropPrefix? word.toList

@[simp]
theorem read_append (word : String) (rest : List Char) :
    read word (word.toList ++ rest) = some rest :=
  List.dropPrefix?_append_of_beq _ BEq.rfl

/-- Reads one of several words, and gives what it stands for. -/
def readOne {α : Type} (word : α → String) (choices : List α) (chars : List Char) :
    Option (α × List Char) :=
  choices.findSome? fun choice => (read (word choice) chars).map fun rest => (choice, rest)

end Word

namespace Separated

variable {α : Type}

/-- Reads items with a separator between them, at most as many as there is fuel. -/
def readUpTo (item : List Char → Option (α × List Char)) (separator : String) :
    Nat → List Char → Option (List α × List Char)
  | 0, _ => none
  | fuel + 1, chars => do
    let (first, rest) ← item chars
    match if rest.isEmpty then none else Word.read separator rest with
    | none => return ([first], rest)
    | some rest =>
      let (more, rest) ← readUpTo item separator fuel rest
      return (first :: more, rest)

/-- Reads items with a separator between them. There are no more of them than characters. -/
def read (item : List Char → Option (α × List Char)) (separator : String) (chars : List Char) :
    Option (List α × List Char) :=
  readUpTo item separator chars.length chars

/-- An item that is the last one. -/
theorem readUpTo_succ_last {item : List Char → Option (α × List Char)} {separator : String}
    {chars rest : List Char} {x : α} (fuel : Nat) (found : item chars = some (x, rest))
    (stops : rest = [] ∨ Word.read separator rest = none) :
    readUpTo item separator (fuel + 1) chars = some ([x], rest) := by
  rcases stops with rfl | stops
  · simp [readUpTo, found]
  · simp [readUpTo, found, stops]

/-- An item with others behind it. -/
theorem readUpTo_succ_more {item : List Char → Option (α × List Char)} {separator : String}
    {chars rest left : List Char} {x : α} {xs : List α} {fuel : Nat}
    (found : item chars = some (x, separator.toList ++ rest)) (notEmpty : rest ≠ [])
    (more : readUpTo item separator fuel rest = some (xs, left)) :
    readUpTo item separator (fuel + 1) chars = some (x :: xs, left) := by
  simp [readUpTo, found, notEmpty, more]

/-- There are no more items than characters. -/
theorem length_le_length_text {written : α → String} (notEmpty : ∀ x, written x ≠ "")
    (separator : String) (items : List α) :
    items.length ≤ (separator.intercalate (items.map written)).toList.length := by
  have positive (x : α) : 0 < (written x).toList.length :=
    List.length_pos_iff.mpr fun isNil => notEmpty x (String.toList_eq_nil_iff.mp isNil)
  induction items with
  | nil => exact Nat.zero_le _
  | cons x items ih =>
      have first := positive x
      cases items with
      | nil =>
          rw [List.map_singleton, String.intercalate_singleton]
          exact first
      | cons second items =>
          simp only [List.map_cons, String.intercalate_cons_cons, String.toList_append,
            List.length_append, List.length_cons] at ih ⊢
          omega

/-- Fuel for every item is enough to read the texts of one or more items in a row. -/
theorem readUpTo_append {item : List Char → Option (α × List Char)} {written : α → String}
    {separator : String} {boundary : List Char → Prop} (notEmpty : ∀ x, written x ≠ "")
    (parts : ∀ tail, boundary (separator.toList ++ tail)) {x : α} {xs : List α}
    (reads : ∀ y ∈ x :: xs, ∀ following, boundary following →
      item ((written y).toList ++ following) = some (y, following))
    {rest : List Char} (ends : boundary rest)
    (stops : rest = [] ∨ Word.read separator rest = none) {fuel : Nat}
    (enough : xs.length < fuel) :
    readUpTo item separator fuel
      ((separator.intercalate ((x :: xs).map written)).toList ++ rest) = some (x :: xs, rest) := by
  induction xs generalizing x fuel with
  | nil =>
      cases fuel with
      | zero => contradiction
      | succ fuel =>
          rw [List.map_singleton, String.intercalate_singleton]
          exact readUpTo_succ_last fuel (reads x List.mem_cons_self rest ends) stops
  | cons second xs ih =>
      cases fuel with
      | zero => contradiction
      | succ fuel =>
          have more := ih (fun y among => reads y (List.mem_cons_of_mem x among))
            (Nat.lt_of_succ_lt_succ enough)
          have found := reads x List.mem_cons_self _ (parts
            ((separator.intercalate ((second :: xs).map written)).toList ++ rest))
          have left : (separator.intercalate ((second :: xs).map written)).toList ++ rest ≠ [] := by
            have := length_le_length_text notEmpty separator (second :: xs)
            intro isNil
            rw [(List.append_eq_nil_iff.mp isNil).1] at this
            contradiction
          rw [← readUpTo_succ_more found left more]
          simp

/-- The texts of one or more items in a row are read back, in front of a text that neither
prolongs the last item nor starts with the separator. -/
theorem read_append {item : List Char → Option (α × List Char)} {written : α → String}
    {separator : String} {boundary : List Char → Prop} (notEmpty : ∀ x, written x ≠ "")
    (parts : ∀ tail, boundary (separator.toList ++ tail)) {x : α} {xs : List α}
    (reads : ∀ y ∈ x :: xs, ∀ following, boundary following →
      item ((written y).toList ++ following) = some (y, following))
    {rest : List Char} (ends : boundary rest)
    (stops : rest = [] ∨ Word.read separator rest = none) :
    read item separator ((separator.intercalate ((x :: xs).map written)).toList ++ rest) =
      some (x :: xs, rest) := by
  apply readUpTo_append notEmpty parts reads ends stops
  have enough := length_le_length_text notEmpty separator (x :: xs)
  rw [List.length_cons] at enough
  rw [List.length_append]
  omega

/-- Items that are read back in front of every text are read back from the whole text of them. -/
theorem read_whole {item : List Char → Option (α × List Char)} {written : α → String}
    (notEmpty : ∀ x, written x ≠ "") (separator : String) {x : α} {xs : List α}
    (reads : ∀ y ∈ x :: xs, ∀ following,
      item ((written y).toList ++ following) = some (y, following)) :
    read item separator (separator.intercalate ((x :: xs).map written)).toList =
      some (x :: xs, []) := by
  let boundary : List Char → Prop := fun _ => True
  have parts : ∀ tail, boundary (separator.toList ++ tail) := fun _ => trivial
  have ends : boundary [] := trivial
  have found := read_append notEmpty parts (fun y among following _ => reads y among following)
    ends (.inl rfl)
  rwa [List.append_nil] at found

end Separated

end CypherText
