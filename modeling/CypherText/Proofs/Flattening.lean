import CypherText.Event
import CypherText.Proofs.Rendering

/-!
# Queries on one line

The console shows the query of a record on one line, with a bar between spaces for every line feed.
For a query whose clauses stand on lines of their own this is the query that the same clauses make
with bars between them, when their own line feeds are replaced as well. Besides the query only the
type of an error is changed in a record, and a record that is shown once more stays as it is.
-/

namespace CypherText

namespace Fields

variable {chars : List Char} {text : String}

/-! ## Texts on one line -/

@[simp]
theorem flattenChars_append (chars more : List Char) :
    flattenChars (chars ++ more) = flattenChars chars ++ flattenChars more :=
  List.flatMap_append

theorem not_mem_flattenChars (chars : List Char) : '\n' ∉ flattenChars chars := by
  intro among
  rcases List.mem_flatMap.mp among with ⟨c, _, amongOne⟩
  by_cases isFeed : c = '\n'
  · simp [isFeed] at amongOne
  · rw [if_neg isFeed, List.mem_singleton] at amongOne
    exact isFeed amongOne.symm

theorem flattenChars_of_not_mem (absent : '\n' ∉ chars) : flattenChars chars = chars := by
  induction chars with
  | nil => rfl
  | cons c chars ih =>
      rw [List.mem_cons, not_or] at absent
      rw [flattenChars, List.flatMap_cons, if_neg (Ne.symm absent.1), ← flattenChars, ih absent.2]
      rfl

theorem flattenChars_intercalate (separator : List Char) (parts : List (List Char)) :
    flattenChars (separator.intercalate parts) =
      (flattenChars separator).intercalate (parts.map flattenChars) := by
  induction parts with
  | nil => rfl
  | cons part parts ih =>
      cases parts with
      | nil => simp
      | cons next parts =>
          rw [List.intercalate_cons_cons, flattenChars_append, flattenChars_append, ih]
          simp only [List.map_cons, List.intercalate_cons_cons]

@[simp]
theorem toList_flattenText (text : String) :
    (flattenText text).toList = flattenChars text.toList :=
  String.toList_ofList

theorem not_mem_flattenText (text : String) : '\n' ∉ (flattenText text).toList := by
  rw [toList_flattenText]
  exact not_mem_flattenChars _

theorem flattenText_of_not_mem (absent : '\n' ∉ text.toList) : flattenText text = text := by
  rw [flattenText, flattenChars_of_not_mem absent, String.ofList_toList]

@[simp]
theorem flattenText_flattenText (text : String) :
    flattenText (flattenText text) = flattenText text :=
  flattenText_of_not_mem (not_mem_flattenText text)

@[simp]
theorem flattenText_empty : flattenText "" = "" :=
  rfl

theorem flattenText_eq_empty_iff : flattenText text = "" ↔ text = "" := by
  rw [← String.toList_inj, ← String.toList_inj, toList_flattenText]
  cases text.toList with
  | nil => rfl
  | cons c chars => by_cases isFeed : c = '\n' <;> simp [flattenChars, isFeed]

/-- A text that was put together is flattened part by part, and so is its separator. -/
theorem flattenText_intercalate (separator : String) (texts : List String) :
    flattenText (separator.intercalate texts) =
      (flattenText separator).intercalate (texts.map flattenText) := by
  rw [← String.toList_inj, toList_flattenText, String.toList_intercalate,
    flattenChars_intercalate, String.toList_intercalate, toList_flattenText]
  simp [Function.comp_def]

end Fields

namespace Clause

/-- A clause with its text on one line. -/
def onOneLine (clause : Clause) : Clause :=
  ⟨clause.kind, Fields.flattenText clause.text⟩

@[simp]
theorem text_onOneLine (clause : Clause) :
    clause.onOneLine.text = Fields.flattenText clause.text :=
  rfl

/-- Which clauses leave no trace does not depend on the lines that their texts have. -/
theorem dropWhile_map_onOneLine (clauses : List Clause) :
    ((clauses.map onOneLine).map text).dropWhile String.isEmpty =
      ((clauses.map text).dropWhile String.isEmpty).map Fields.flattenText := by
  induction clauses with
  | nil => rfl
  | cons clause clauses ih =>
      by_cases isEmpty : clause.text = ""
      · simpa [isEmpty] using ih
      · have leaves : Fields.flattenText clause.text ≠ "" :=
          fun equal => isEmpty (Fields.flattenText_eq_empty_iff.mp equal)
        simp [isEmpty, leaves]

/-- The text of some clauses on one line is the text of the clauses that are each on one line, with
the separator between them on one line. -/
theorem flattenText_joined (separator : String) (clauses : List Clause) :
    Fields.flattenText (joined separator clauses) =
      joined (Fields.flattenText separator) (clauses.map onOneLine) := by
  rw [joined, joined, dropWhile_map_onOneLine, Fields.flattenText_intercalate]

end Clause

/-! ## Records with the query on one line -/

namespace Datum

/-- A piece of data on one line, if it is a text. Other data stay as they are. -/
def onOneLine : Datum → Datum
  | text value => text (Fields.flattenText value)
  | datum => datum

theorem onOneLine_onOneLine (datum : Datum) : datum.onOneLine.onOneLine = datum.onOneLine := by
  cases datum with
  | text value => rw [onOneLine, onOneLine, Fields.flattenText_flattenText]
  | _ => rfl

theorem not_mem_of_onOneLine {datum : Datum} {line : String}
    (isText : datum.onOneLine = text line) : '\n' ∉ line.toList := by
  cases datum with
  | text value =>
      cases isText
      exact Fields.not_mem_flattenText value
  | _ => cases isText

end Datum

namespace Fields

variable (fields : Fields)

/-- The query is put on one line in its place. -/
theorem flattenQuery_eq :
    fields.flattenQuery =
      match fields.get? "query" with
      | some query => fields.put "query" query.onOneLine
      | none => fields := by
  cases found : fields.get? "query" with
  | none => simp [flattenQuery, found]
  | some query =>
      have same : fields.put "query" query = fields := Entries.put_of_get?_eq_some found
      cases query <;> simp [flattenQuery, found, Datum.onOneLine, same]

theorem get?_flattenQuery (name : String) :
    fields.flattenQuery.get? name =
      if name = "query" then (fields.get? "query").map Datum.onOneLine else fields.get? name := by
  rw [flattenQuery_eq]
  cases found : fields.get? "query" with
  | none =>
      by_cases isQuery : name = "query"
      · simp [isQuery, found]
      · simp [isQuery]
  | some query => simp only [Entries.get?_put, Option.map_some]

theorem get?_nameError (name : String) :
    fields.nameError.get? name =
      if name = "error_type" then
        ((fields.get? "error").map fun error => .text error.typeName).or (fields.get? "error_type")
      else fields.get? name := by
  cases found : fields.get? "error" with
  | none =>
      by_cases isType : name = "error_type"
      · simp [nameError, found, isType]
      · simp [nameError, found, isType]
  | some error => simp [nameError, found, Entries.get?_put]

theorem erase_flattenQuery : fields.flattenQuery.erase "query" = fields.erase "query" := by
  rw [flattenQuery_eq]
  cases fields.get? "query" with
  | none => rfl
  | some query => exact Entries.erase_put_self fields "query" _

theorem erase_nameError : fields.nameError.erase "error_type" = fields.erase "error_type" := by
  rw [nameError]
  cases fields.get? "error" with
  | none => rfl
  | some error => exact Entries.erase_put_self fields "error_type" _

variable {fields}

theorem flattenQuery_eq_self
    (flat : (fields.get? "query").map Datum.onOneLine = fields.get? "query") :
    fields.flattenQuery = fields := by
  rw [flattenQuery_eq]
  cases found : fields.get? "query" with
  | none => rfl
  | some query =>
      rw [found, Option.map_some] at flat
      exact Entries.put_of_get?_eq_some (found.trans flat.symm)

theorem nameError_eq_self (named : ∀ error, fields.get? "error" = some error →
    fields.get? "error_type" = some (.text error.typeName)) : fields.nameError = fields := by
  rw [nameError]
  cases found : fields.get? "error" with
  | none => rfl
  | some error => exact Entries.put_of_get?_eq_some (named error found)

variable (fields)

/-- What a name has in the data that the console shows. -/
theorem get?_addQueryContext (name : String) :
    fields.addQueryContext.get? name =
      if name = "query" then (fields.get? "query").map Datum.onOneLine
      else if name = "error_type" then
        ((fields.get? "error").map fun error => .text error.typeName).or (fields.get? "error_type")
      else fields.get? name := by
  rw [addQueryContext, get?_flattenQuery]
  by_cases isQuery : name = "query"
  · rw [if_pos isQuery, if_pos isQuery, get?_nameError, if_neg (by decide)]
  · rw [if_neg isQuery, if_neg isQuery, get?_nameError]

/-- Data that the console shows once more are shown as they are. -/
theorem addQueryContext_addQueryContext :
    fields.addQueryContext.addQueryContext = fields.addQueryContext := by
  have named : fields.addQueryContext.nameError = fields.addQueryContext := by
    apply nameError_eq_self
    intro error found
    rw [get?_addQueryContext, if_neg (by decide), if_neg (by decide)] at found
    rw [get?_addQueryContext, if_neg (by decide), if_pos rfl, found, Option.map_some,
      Option.some_or]
  have flat : fields.addQueryContext.flattenQuery = fields.addQueryContext := by
    apply flattenQuery_eq_self
    rw [get?_addQueryContext, if_pos rfl, Option.map_map]
    exact congrArg (Option.map · _) (funext Datum.onOneLine_onOneLine)
  rw [addQueryContext, named, flat]

/-- All entries but the query and the type of the error stay as they are, in their order. -/
theorem erase_addQueryContext :
    (fields.addQueryContext.erase "query").erase "error_type" =
      (fields.erase "query").erase "error_type" := by
  rw [addQueryContext, erase_flattenQuery, Entries.erase_erase_comm, erase_nameError,
    Entries.erase_erase_comm]

/-- The console shows the query of an expression, with line feeds between its clauses, as the query
that the expression makes with bars, with its own line feeds replaced as well. Every expression
that executes the same clauses, each of them on one line, makes just this query with bars. Whatever
the data of a record are, the query has no line feed then if it is a text, nothing but the query and
the type of the error is touched, and data that are shown once more stay as they are. -/
theorem addQueryContext_agrees_with_rendering :
    (∀ {π β σ : Type} {host : Host π β σ} {e : Expr π β} {w left : World σ} {clauses : List Clause},
      host.Completes e.steps w clauses left →
      ∃ query line : String,
        (∃ cost, ∀ fuel, (host.render (cost + fuel) "\n" e w).1 = .ok query) ∧
        (∃ cost, ∀ fuel, (host.render (cost + fuel) " | " e w).1 = .ok line) ∧
        (∀ event : Fields, event.get? "query" = some (.text query) →
          event.addQueryContext.get? "query" = some (.text (flattenText line))) ∧
        ∀ {π' β' σ' : Type} {other : Host π' β' σ'} {flat : Expr π' β'} {v after : World σ'},
          other.Completes flat.steps v (clauses.map Clause.onOneLine) after →
          ∃ cost, ∀ fuel, (other.render (cost + fuel) " | " flat v).1 = .ok (flattenText line)) ∧
    ∀ event : Fields,
      (∀ query, event.addQueryContext.get? "query" = some (.text query) → '\n' ∉ query.toList) ∧
      event.addQueryContext.addQueryContext = event.addQueryContext ∧
      (event.addQueryContext.erase "query").erase "error_type" =
        (event.erase "query").erase "error_type" := by
  constructor
  · intro π β σ host e w left clauses done
    have onFeeds : flattenText (Clause.joined "\n" clauses) =
        Clause.joined " | " (clauses.map Clause.onOneLine) :=
      Clause.flattenText_joined "\n" clauses
    have onBars : flattenText (Clause.joined " | " clauses) =
        Clause.joined " | " (clauses.map Clause.onOneLine) :=
      Clause.flattenText_joined " | " clauses
    refine ⟨Clause.joined "\n" clauses, Clause.joined " | " clauses, ?_, ?_, ?_, ?_⟩
    · exact done.exists_text "\n"
    · exact done.exists_text " | "
    · intro event isQuery
      rw [get?_addQueryContext, if_pos rfl, isQuery, Option.map_some, Datum.onOneLine, onFeeds,
        onBars]
    · intro π' β' σ' other flat v after flatDone
      rw [onBars]
      exact flatDone.exists_text " | "
  · intro event
    refine ⟨?_, event.addQueryContext_addQueryContext, event.erase_addQueryContext⟩
    intro query isQuery
    rw [get?_addQueryContext, if_pos rfl, Option.map_eq_some_iff] at isQuery
    rcases isQuery with ⟨datum, _, isText⟩
    exact Datum.not_mem_of_onOneLine isText

/-- The first clause leaves no trace, and a loop writes one with a line feed of its own and one
without a text. The record has an error as well. -/
theorem addQueryContext_agrees_with_rendering_of_countdown :
    let e : Expr Unit String := .clause .raw "" ++ .forEach ["A\nB", ""] ++ .clause .raw "C | D"
    let event : Fields := [("error", .error "KeyError"), ("query", .text "A\nB\n\nC | D")]
    (∃ fuel, (Host.countdown.render fuel " | " e ⟨[], 0⟩).1 = .ok "A\nB |  | C | D") ∧
    (∃ fuel, (Host.countdown.render fuel "\n" e ⟨[], 0⟩).1 = .ok "A\nB\n\nC | D") ∧
    event.addQueryContext.get? "query" = some (.text "A | B |  | C | D") := by
  intro e event
  have done : Host.countdown.Completes e.steps ⟨[], 0⟩
      (⟨.raw, ""⟩ :: ([⟨.raw, "A\nB"⟩] ++ ([⟨.raw, ""⟩] ++ [⟨.raw, "C | D"⟩]))) ⟨[], 0⟩ :=
    .clause (.forEachCons rfl (.clause .nil)
      (.forEachCons rfl (.clause .nil) (.forEachNil (.clause .nil))))
  rcases addQueryContext_agrees_with_rendering.1 done with
    ⟨query, line, ⟨cost, feeds⟩, ⟨costOfBars, bars⟩, shown, _⟩
  have query_eq : query = "A\nB\n\nC | D" := (done.eq_joined (feeds 0)).trans (by decide)
  have line_eq : line = "A\nB |  | C | D" := (done.eq_joined (bars 0)).trans (by decide)
  refine ⟨⟨_, line_eq ▸ bars 0⟩, ⟨_, query_eq ▸ feeds 0⟩, ?_⟩
  rw [shown event (by rw [query_eq]; rfl), line_eq]
  rfl

end Fields

end CypherText
