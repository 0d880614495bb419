import Mathlib.Data.List.Infix
import CypherText.Proofs.Rendering

/-!
# Splitting a text into its clauses

A text that was put together with a separator can be split again at the occurrences of the
separator, which are looked for from the left to the right. The pieces are the parts that were put
together if the separator occurs in none of them and cannot overlap itself: else an occurrence could
start inside a part and end inside the separator behind it. So the text of a query tells which
clauses have been executed.
-/

namespace CypherText

namespace Splitting

variable {separator part rest : List Char} {parts : List (List Char)}

/-- The pieces between the occurrences of a separator, from left to right. A separator without
characters splits nothing. -/
def pieces (separator chars : List Char) : List (List Char) :=
  match chars.dropInfix? separator with
  | none => [chars]
  | some (piece, rest) =>
    if rest.length < chars.length then piece :: pieces separator rest else [chars]
termination_by chars.length

/-- Splits a text at the occurrences of a separator, from left to right. -/
def split (separator text : String) : List String :=
  (pieces separator.toList text.toList).map String.ofList

/-- Whether a separator cannot overlap itself: only nothing and all of it is both a beginning and an
end of it. -/
def IsUnbordered (separator : List Char) : Prop :=
  ∀ part, part <+: separator → part <:+ separator → part = [] ∨ part = separator

theorem isUnbordered_iff :
    IsUnbordered separator ↔
      ∀ part ∈ separator.inits, part <:+ separator → part = [] ∨ part = separator := by
  simp only [IsUnbordered, List.mem_inits]

instance (separator : List Char) : Decidable (IsUnbordered separator) :=
  decidable_of_iff _ isUnbordered_iff.symm

example : IsUnbordered "\n".toList ∧ IsUnbordered "\r\n".toList ∧
    ¬ IsUnbordered "\n \n".toList := by
  decide

/-- The first occurrence behind a part without the separator is not earlier than the end of the
part. -/
theorem length_le_of_occurrence (unbordered : IsUnbordered separator)
    (absent : ¬ separator <:+: part) {before after : List Char}
    (occurs : part ++ (separator ++ rest) = before ++ (separator ++ after)) :
    part.length ≤ before.length := by
  rcases List.append_eq_append_iff.mp occurs with ⟨more, rfl, _⟩ | ⟨more, rfl, behind⟩
  · simp
  · -- Here the occurrence starts `more` characters before the end of the part.
    rcases List.append_eq_append_iff.mp behind with ⟨tail, rfl, _⟩ | ⟨tail, equal, ends⟩
    · exact absurd ⟨before, tail, by simp⟩ absent
    · -- It ends with `tail`, which is where the separator behind the part begins.
      have isSuffix : tail <:+ separator := ⟨more, equal.symm⟩
      have starts : tail <+: separator ++ rest := ⟨after, ends.symm⟩
      have isPrefix : tail <+: separator :=
        List.prefix_of_prefix_length_le starts (List.prefix_append separator rest)
          isSuffix.length_le
      rcases unbordered tail isPrefix isSuffix with rfl | rfl
      · rw [List.append_nil] at equal
        exact absurd ⟨before, [], by simp [equal]⟩ absent
      · have none : more = [] := by simpa using equal
        simp [none]

/-- The separator behind a part without the separator is found. -/
theorem dropInfix?_append (unbordered : IsUnbordered separator)
    (absent : ¬ separator <:+: part) :
    (part ++ (separator ++ rest)).dropInfix? separator = some (part, rest) := by
  rw [List.dropInfix?_eq_some_iff]
  constructor
  · exact ⟨separator, (List.append_assoc ..).symm, beq_self_eq_true separator⟩
  · intro before found after occurs same
    rw [beq_iff_eq.mp same, List.append_assoc] at occurs
    exact length_le_of_occurrence unbordered absent occurs

theorem dropInfix?_eq_none (absent : ¬ separator <:+: part) :
    part.dropInfix? separator = none := by
  cases found : part.dropInfix? separator with
  | none => rfl
  | some piece =>
      rcases List.dropInfix?_eq_some_iff.mp found with ⟨⟨found, equal, same⟩, _⟩
      rw [beq_iff_eq.mp same] at equal
      exact absurd ⟨_, _, equal.symm⟩ absent

theorem ne_nil_of_absent (absent : ¬ separator <:+: part) : separator ≠ [] := by
  rintro rfl
  exact absent (List.nil_infix)

/-- Parts without the separator are the pieces of what is put together from them. -/
theorem pieces_intercalate (unbordered : IsUnbordered separator) (notEmpty : parts ≠ [])
    (absent : ∀ part ∈ parts, ¬ separator <:+: part) :
    pieces separator (separator.intercalate parts) = parts := by
  induction parts with
  | nil => contradiction
  | cons part parts ih =>
      rw [List.forall_mem_cons] at absent
      rcases absent with ⟨first, others⟩
      cases parts with
      | nil =>
          rw [List.intercalate_singleton, pieces, dropInfix?_eq_none first]
      | cons next parts =>
          have shorter : (separator.intercalate (next :: parts)).length <
              (part ++ (separator ++ separator.intercalate (next :: parts))).length := by
            have filled := List.length_pos_iff.mpr (ne_nil_of_absent first)
            rw [List.length_append, List.length_append]
            omega
          rw [List.intercalate_cons_cons, List.append_assoc, pieces,
            dropInfix?_append unbordered first]
          simp only [if_pos shorter, ih (List.cons_ne_nil next parts) others]

/-- A text that was put together with a separator is split into the texts that it was put together
from. -/
theorem split_intercalate {separator : String} {texts : List String}
    (unbordered : IsUnbordered separator.toList) (notEmpty : texts ≠ [])
    (absent : ∀ text ∈ texts, ¬ separator.toList <:+: text.toList) :
    split separator (separator.intercalate texts) = texts := by
  have found : pieces separator.toList (separator.intercalate texts).toList =
      texts.map String.toList := by
    rw [String.toList_intercalate]
    apply pieces_intercalate unbordered
    · simpa using notEmpty
    · simpa using absent
  rw [split, found, List.map_map]
  simp [Function.comp_def]

end Splitting

namespace Host

variable {π β σ : Type} {host : Host π β σ} {e : Expr π β} {w left : World σ} {first : Clause}
  {clauses others : List Clause} {separator : String}

/-- The buffer of a rendered text holds the kinds of the clauses that have been executed. -/
theorem run_of_render {fuel : Nat} {text : String} {after : World σ}
    (done : host.Completes e.steps w clauses left)
    (rendered : host.render fuel separator e w = (.ok text, after)) :
    text = Clause.joined separator clauses ∧
      (host.run fuel e.steps (.empty separator) w).buffer =
        ⟨separator, text, (clauses.map Clause.kind).toArray⟩ := by
  cases ended : (host.run fuel e.steps (.empty separator) w).outcome with
  | error halt => simp [render, ended] at rendered
  | ok =>
      rcases exists_completes_of_run ended with ⟨found, also, wrote⟩
      rcases also.unique done with ⟨rfl, _⟩
      simp only [render, ended, wrote, Buffer.writeAll_empty, Prod.mk.injEq,
        Except.ok.injEq] at rendered
      rcases rendered with ⟨rfl, _⟩
      exact ⟨rfl, wrote.trans (Buffer.writeAll_empty separator found)⟩

/-- An expression whose loops all come to an end, and whose first clause has a text, is rendered as
a text that can be split into its clauses again, if the separator occurs in none of them and cannot
overlap itself. The pieces are the texts of the clauses in the order of their execution, and there
are as many of them as kinds in the buffer. -/
theorem split_render_of_completes (done : host.Completes e.steps w (first :: others) left)
    (starts : first.text ≠ "") (unbordered : Splitting.IsUnbordered separator.toList)
    (absent : ∀ clause ∈ first :: others, ¬ separator.toList <:+: clause.text.toList) :
    (∃ cost, ∀ fuel, ∃ text after,
      host.render (cost + fuel) separator e w = (.ok text, after)) ∧
    ∀ fuel text after, host.render fuel separator e w = (.ok text, after) →
      Splitting.split separator text = (first :: others).map Clause.text ∧
      (Splitting.split separator text).length =
        (host.run fuel e.steps (.empty separator) w).buffer.kinds.size := by
  constructor
  · obtain ⟨cost, finishes⟩ := done.exists_run (.empty separator)
    exact ⟨cost, fun fuel => ⟨_, _, render_of_run (finishes fuel)⟩⟩
  · intro fuel text after rendered
    rcases run_of_render done rendered with ⟨rfl, filled⟩
    have isFilled : first.text.isEmpty = false := by
      simpa using starts
    have noneDropped : Clause.joined separator (first :: others) =
        separator.intercalate ((first :: others).map Clause.text) := by
      simp [Clause.joined, isFilled]
    have pieces : Splitting.split separator (Clause.joined separator (first :: others)) =
        (first :: others).map Clause.text := by
      rw [noneDropped]
      apply Splitting.split_intercalate unbordered
      · simp
      · intro text among
        rcases List.mem_map.mp among with ⟨clause, amongClauses, rfl⟩
        exact absent clause amongClauses
    constructor
    · exact pieces
    · simp [pieces, filled]

/-- A loop writes a clause without a text and one that starts with half a separator, behind a clause
that ends with the other half. -/
theorem split_render_of_countdown :
    let e : Expr Unit String := .clause .raw "A\n" ++ .forEach ["", "\rB"]
    ∃ text, (∃ fuel, (countdown.render fuel "\r\n" e ⟨[], 0⟩).1 = .ok text) ∧
      Splitting.split "\r\n" text = ["A\n", "", "\rB"] := by
  intro e
  have done : countdown.Completes e.steps ⟨[], 0⟩
      (⟨.raw, "A\n"⟩ :: ([⟨.raw, ""⟩] ++ ([⟨.raw, "\rB"⟩] ++ []))) ⟨[], 0⟩ :=
    .clause (.forEachCons rfl (.clause .nil) (.forEachCons rfl (.clause .nil) (.forEachNil .nil)))
  have absent : ∀ clause ∈ (⟨.raw, "A\n"⟩ : Clause) :: ([⟨.raw, ""⟩] ++ ([⟨.raw, "\rB"⟩] ++ [])),
      ¬ "\r\n".toList <:+: clause.text.toList := by
    decide
  rcases split_render_of_completes done (by decide) (by decide) absent with
    ⟨⟨cost, renders⟩, splits⟩
  rcases renders 0 with ⟨text, after, rendered⟩
  exact ⟨text, ⟨cost + 0, congrArg Prod.fst rendered⟩, (splits _ _ _ rendered).1⟩

end Host

end CypherText
