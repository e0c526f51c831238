import SqlText.Proofs.Balance
import SqlText.Proofs.Listing
import SqlText.Proofs.Splitting
import SqlText.Proofs.Taken

/-!
# Rows in the explicit notation

A row in the explicit notation is written behind its word as a column list, in parentheses unless
the text holds an opening one anywhere. So a row contains what was given for it, and it starts with
the word and an opening parenthesis and ends with a closing one if the text holds no parenthesis or
has them around it (`Text.row_enclosed_iff`). A row of calls in parentheses of their own is not
enclosed.

Under a dialect that has such rows, they can always be given, and each of them is among the items of
the list that is written for the clause, with whatever else was given
(`Statement.HasTaken.writes_rows`).
-/

set_option autoImplicit false

namespace SqlText

/-! ## A single row -/

namespace Text

/-- A row in the explicit notation. -/
def row (text : Text) : Text := "ROW".toList ++ text.parenthesized

theorem isInfix_row (text : Text) : text <:+: text.row := by
  rw [row, parenthesized]
  split
  · exact ⟨"ROW".toList, [], by rw [List.append_nil]⟩
  · exact ⟨"ROW(".toList, [')'], by simp⟩

/-- A row starts with its word and an opening parenthesis and ends with a closing one exactly if the
text holds no opening parenthesis or is between such characters itself. -/
theorem row_enclosed_iff (text : Text) :
    ("ROW(".toList <+: text.row ∧ text.row.getLast? = some ')') ↔
      '(' ∉ text ∨ (text.head? = some '(' ∧ text.getLast? = some ')') := by
  have word : "ROW(".toList = "ROW".toList ++ ['('] := by decide
  rw [row, word, List.prefix_append_right_inj, parenthesized]
  by_cases held : '(' ∈ text
  · have nonempty : text ≠ [] := List.ne_nil_of_mem held
    rw [if_pos held, List.getLast?_append_of_ne_nil _ nonempty]
    obtain ⟨first, rest, rfl⟩ := List.exists_cons_of_ne_nil nonempty
    rw [List.cons_prefix_cons, List.head?_cons, Option.some_inj]
    constructor
    · rintro ⟨⟨same, -⟩, last⟩
      exact .inr ⟨same.symm, last⟩
    · rintro (none | ⟨same, last⟩)
      · exact absurd held none
      · exact ⟨⟨same.symm, List.nil_prefix⟩, last⟩
  · rw [if_neg held]
    refine ⟨fun _ => .inl held, fun _ => ⟨⟨text ++ [')'], rfl⟩, ?_⟩⟩
    rw [← List.append_assoc, List.getLast?_concat]

end Text

/-! ## The rows of a statement -/

namespace Statement

open Text

variable {statement : Statement} {acts : List Act}

/-- A statement that has rows in the explicit notation takes all that a call gives it. -/
theorem takes_rows (hasRows : statement.kind = .insert ∨ statement.kind = .values)
    (supported : statement.dialect.supports .row = true) {arguments : List Argument}
    (writable : ∀ argument ∈ arguments, argument.isWritable = true) :
    (∃ changed, statement.call "row".toList arguments = .ok changed) ∧
      statement.taken? ⟨"row".toList, arguments⟩ = some ⟨.row, arguments⟩ := by
  have named : Method.ofName? "row".toList = some .row := by decide
  have gated : statement.kind.access .row = .gated .row := by
    rcases hasRows with kind | kind <;> rw [kind] <;> rfl
  have found : statement.method "row".toList = .ok .row := by
    rw [method, named]
    simp only [gated, supported, if_true]
  have each : statement.takesEach .row = true := by
    rcases hasRows with kind | kind <;> rw [takesEach, kind] <;> rfl
  have performs := perform_of_takesEach each (by simp) writable
  constructor
  · refine ⟨statement.taking .row (fragments arguments), ?_⟩
    rw [call, found]
    exact performs
  · rw [taken?, found]
    simp only [performs]

namespace HasTaken

/-- The rows that a statement holds are those that it was given. -/
theorem mem_rows (taken : statement.HasTaken acts)
    (hasRows : statement.kind = .insert ∨ statement.kind = .values) :
    ∃ items, statement.content (.clause .values) = .texts items ∧
      (∀ item ∈ items, item ≠ []) ∧
      ∀ text ∈ textsGiven [.row] acts, text.row ∈ items := by
  obtain ⟨items, held⟩ : ∃ items, statement.content (.clause .values) = .texts items := by
    cases statement <;> first | exact ⟨_, rfl⟩ | exact (hasRows.elim nofun nofun)
  have gathers := taken.gathers (.clause .values)
  rw [held] at gathers
  refine ⟨items, held, ne_nil_of_gathers gathers, fun text member => ?_⟩
  obtain ⟨act, among, isRow, given⟩ := mem_textsGiven.mp member
  rw [List.mem_singleton] at isRow
  have writes : statement.kind.slot? act.method act.arguments = some (.clause .values) := by
    rw [isRow]
    rcases hasRows with kind | kind <;> rw [kind] <;> rfl
  rw [show items = _ from gathers, List.mem_eraseDups, List.mem_flatMap]
  refine ⟨act, List.mem_filter.mpr ⟨among, decide_eq_true writes⟩, ?_⟩
  rw [Act.listed, isRow]
  exact List.mem_map_of_mem given

/-- A statement that has rows takes whatever is given as one, if the dialect has the notation. Its
list is written with all of them, each of which contains what was given for it. Whether a row is
enclosed in parentheses is a matter of where its text has parentheses. -/
theorem writes_rows (taken : statement.HasTaken acts)
    (hasRows : statement.kind = .insert ∨ statement.kind = .values) (layout : Layout) :
    (statement.dialect.supports .row = true →
      ∀ arguments : List Argument, (∀ argument ∈ arguments, argument.isWritable = true) →
        (∃ changed, statement.call "row".toList arguments = .ok changed) ∧
          statement.taken? ⟨"row".toList, arguments⟩ = some ⟨.row, arguments⟩) ∧
      statement.frame.enables statement.kind .values = true ∧
      ∃ items, statement.content (.clause .values) = .texts items ∧
        statement.WritesClause layout .values (layout.listText "VALUES".toList items) ∧
        ∀ text ∈ textsGiven [.row] acts,
          text.row ∈ items ∧ text <:+: text.row ∧
            (("ROW(".toList <+: text.row ∧ text.row.getLast? = some ')') ↔
              '(' ∉ text ∨ (text.head? = some '(' ∧ text.getLast? = some ')')) := by
  have enabled : statement.frame.enables statement.kind .values = true := by
    rcases hasRows with kind | kind <;> rw [kind] <;> rfl
  obtain ⟨items, held, visible, rows⟩ := taken.mem_rows hasRows
  have written : statement.WritesClause layout .values (layout.listText "VALUES".toList items) :=
    writes_list layout statement rfl held visible
  exact ⟨fun supported _ writable => takes_rows hasRows supported writable, enabled, items, held,
    written, fun text member => ⟨rows text member, isInfix_row text, row_enclosed_iff text⟩⟩

end HasTaken

/-- Rows that were given without parentheses, and with some inside. -/
def givenRows : List Act :=
  [⟨.row, [.value (.text " a, b".toList), .value (.text "f(1), 2".toList)]⟩]

/-- What such a call leaves. -/
def twoRows : Statement :=
  values { dialect := .mysql } { rows := ["ROW(a, b)".toList, "ROWf(1), 2".toList] }

theorem hasTaken_givenRows : twoRows.HasTaken givenRows := by
  have made : Request.create ⟨.values, [], .dialect .mysql, []⟩ .builtIn =
      .ok (values { dialect := .mysql } {}) := rfl
  exact (HasTaken.created made).called
    ⟨"row".toList, [.value (.text " a, b".toList), .value (.text "f(1), 2".toList)]⟩
    (by simp) (by simp)

theorem writes_twoRows :
    twoRows.HasTaken givenRows ∧
      twoRows.WritesClause .compact .values "VALUES ROW(a, b), ROWf(1), 2 ".toList ∧
      "a, b".toList <:+: "ROW(a, b)".toList := by
  obtain ⟨-, -, items, held, written, rows⟩ := hasTaken_givenRows.writes_rows (.inr rfl) .compact
  cases held
  exact ⟨hasTaken_givenRows, written, (rows "a, b".toList (by decide)).2.1⟩

/-- A row of balanced texts need not be enclosed in parentheses. -/
theorem not_enclosed_givenRows :
    ∃ statement acts text, HasTaken statement acts ∧ statement.kind = .values ∧
      statement.dialect.supports .row = true ∧ text ∈ textsGiven [.row] acts ∧ Balanced text ∧
      statement.render .compact = "VALUES ROW(a, b), ".toList ++ text.row ∧
      ¬("ROW(".toList <+: text.row ∧ text.row.getLast? = some ')') :=
  ⟨twoRows, givenRows, "f(1), 2".toList, hasTaken_givenRows, rfl, rfl, by decide, by decide,
    by decide, by decide⟩

end Statement
end SqlText
