import SqlText.Proofs.History

/-!
# How lists are written

The text of a statement is made of the segments of its outline, one after another, which a SELECT
combines with the operands of its set operations (`Statement.written_eq_combined`). A clause that
holds a list of texts or of conditions has one segment there, and the text of its part can be told
in closed form (`Statement.LaidOut`): a keyword and the items with the separator between them, the
joins on lines of their own, or the conditions on lines of their own behind their operators, the
first of which is not written.

Together with what lists gather, this tells the text of such a clause from what the statement has
been given since it was new (`Statement.lists_of_create`).
-/

set_option autoImplicit false

namespace SqlText

open Text

/-! ## The texts of lists -/

namespace Layout

/-- A keyword and the items behind it. -/
def listText (layout : Layout) (keyword : Text) (items : List Text) : Text :=
  if items = [] then []
  else
    keyword ++ layout.space ++ join layout.itemSeparator items ++ layout.space ++
      layout.lineBreak

/-- Items on lines of their own. -/
def linesText (layout : Layout) (items : List Text) : Text :=
  if items = [] then []
  else
    join (layout.space ++ layout.lineBreak) items ++ layout.space ++ layout.lineBreak

/-- A keyword and the conditions behind it, each on a line of its own. -/
def conditionsText (layout : Layout) (keyword : Text) : List Condition → Text
  | [] => []
  | (_, first) :: rest =>
      let next : Condition → Text := fun (operator, condition) =>
        layout.space ++ layout.lineBreak ++ layout.indent ++ operator.word ++ layout.space ++
          condition
      keyword ++ layout.space ++ layout.lineBreak ++ layout.indent ++ first ++
        rest.flatMap next ++ layout.space ++ layout.lineBreak

end Layout

namespace Part

variable (layout : Layout)

theorem render_list (keyword : Text) {items : List Text} (visible : ∀ item ∈ items, item ≠ []) :
    (Part.list keyword items).render layout = layout.listText keyword items := by
  simp only [render, filter_ne_nil visible]
  cases items with
  | nil => rfl
  | cons first rest =>
      rw [Layout.listText, if_neg (List.cons_ne_nil _ _), Layout.terminator]
      simp only [List.append_assoc]

theorem render_lines (items : List Text) :
    (Part.lines items).render layout = layout.linesText items := by
  cases items with
  | nil => rfl
  | cons first rest =>
      simp only [render, Layout.linesText, Layout.terminator, if_neg (List.cons_ne_nil _ _),
        List.append_assoc]

theorem render_conditions (keyword : Text) (conditions : List Condition) :
    (Part.conditions keyword conditions).render layout =
      layout.conditionsText keyword conditions := by
  cases conditions with
  | nil => rfl
  | cons first rest =>
      simp only [render, Layout.conditionsText, Layout.conditionLines, Layout.terminator,
        List.append_assoc]

end Part

/-! ## The segments of a statement -/

/-- Whether a segment is at the clause. -/
def Segment.isAt (place : Clause) : Segment → Bool
  | .clause other _ => other = place
  | .free _ => false

namespace Statement

/-- The clause has one segment, and the part in it is written as the text. -/
def WritesClause (layout : Layout) (statement : Statement) (clause : Clause) (text : Text) :
    Prop :=
  ∃ part, (statement.outline layout).filter (·.isAt clause) = [.clause clause part] ∧
    part.render layout = text

end Statement

/-- The keyword of a clause that is a list of texts. -/
def Clause.listKeyword? : Clause → Option Text
  | select => some "SELECT".toList
  | fromClause => some "FROM".toList
  | groupBy => some "GROUP BY".toList
  | window => some "WINDOW".toList
  | orderBy => some "ORDER BY".toList
  | set => some "SET".toList
  | values => some "VALUES".toList
  | returning => some "RETURNING".toList
  | _ => none

/-- The keyword of a clause that is a list of conditions. -/
def Clause.conditionKeyword? : Clause → Option Text
  | whereClause => some "WHERE".toList
  | having => some "HAVING".toList
  | _ => none

namespace Statement

/-- The clauses of a statement that are lists are written in closed form, in their places. -/
structure LaidOut (layout : Layout) (statement : Statement) : Prop where
  whole : statement.written layout = statement.combined layout
    (statement.frame.render layout statement.kind (statement.outline layout))
  lists : ∀ clause keyword items, clause.listKeyword? = some keyword →
    statement.content (.clause clause) = .texts items →
    statement.WritesClause layout clause (layout.listText keyword items)
  joins : ∀ items, statement.content (.clause .join) = .texts items →
    statement.WritesClause layout .join (layout.linesText items)
  conditions : ∀ clause keyword conditions, clause.conditionKeyword? = some keyword →
    statement.content (.clause clause) = .conditions conditions →
    statement.WritesClause layout clause (layout.conditionsText keyword conditions)

variable (layout : Layout) (statement : Statement)

theorem writes_list {clause : Clause} {keyword : Text} {items : List Text}
    (named : clause.listKeyword? = some keyword)
    (held : statement.content (.clause clause) = .texts items)
    (visible : ∀ item ∈ items, item ≠ []) :
    statement.WritesClause layout clause (layout.listText keyword items) := by
  refine ⟨.list keyword items, ?_, Part.render_list layout keyword visible⟩
  cases clause <;> cases named <;> cases statement <;> cases held <;> rfl

theorem writes_joins {items : List Text}
    (held : statement.content (.clause .join) = .texts items) :
    statement.WritesClause layout .join (layout.linesText items) := by
  refine ⟨.lines items, ?_, Part.render_lines layout items⟩
  cases statement <;> cases held <;> rfl

theorem writes_conditions {clause : Clause} {keyword : Text} {conditions : List Condition}
    (named : clause.conditionKeyword? = some keyword)
    (held : statement.content (.clause clause) = .conditions conditions) :
    statement.WritesClause layout clause (layout.conditionsText keyword conditions) := by
  refine ⟨.conditions keyword conditions, ?_, Part.render_conditions layout keyword conditions⟩
  cases clause <;> cases named <;> cases statement <;> cases held <;> rfl

/-- What lists of texts gather are fragments. -/
theorem ne_nil_of_gathers {acts : List Act} {items : List Text}
    (gathers : (Content.texts items).Gathers acts) : ∀ item ∈ items, item ≠ [] := by
  intro item member
  rw [show items = (acts.flatMap Act.listed).eraseDups from gathers] at member
  obtain ⟨act, -, listed⟩ := List.mem_flatMap.mp (List.mem_eraseDups.mp member)
  exact (act.method.isFragment_of_mem_listed item listed).ne_nil

/-- In a statement that was new before some calls, successful or not, each list holds the first
occurrences of what the statement has been given for it, and is written in closed form. -/
theorem lists_of_create {request : Request} {registry : Registry} {start : Statement}
    (made : request.create registry = .ok start) (calls : List Call) (layout : Layout) :
    (∀ slot, ((start.leftByAll calls).content slot).Gathers
        (request.kind.actsAt slot (request.acts ++ start.history calls))) ∧
      (start.leftByAll calls).LaidOut layout := by
  have gathers := gathers_of_create made calls
  refine ⟨gathers, ?_⟩
  exact
    { whole := written_eq_combined layout _
      lists := fun clause keyword items named held => by
        have given := gathers (.clause clause)
        rw [held] at given
        exact writes_list layout _ named held (ne_nil_of_gathers given)
      joins := fun items held => writes_joins layout _ held
      conditions := fun clause keyword conditions named held =>
        writes_conditions layout _ named held }

/-- Calls that give the same more than once. -/
def repeated : List Call :=
  [⟨"left_join".toList, [.value (.text " t".toList)]⟩,
   ⟨"where".toList, [.value (.text "x".toList), .value (.text " x ".toList)]⟩,
   ⟨"nowhere".toList, [.value (.text "y".toList)]⟩,
   ⟨"where_or".toList, [.value (.text "x".toList), .value (.text " ".toList)]⟩,
   ⟨"left_join".toList, [.value (.text "t ".toList)]⟩]

/-- A column, given twice. -/
def oneColumn : Request :=
  ⟨.select, [.value (.text "a".toList), .value (.text " a".toList)], .dialect .generic, []⟩

theorem lists_of_repeated :
    ∃ start, oneColumn.create .builtIn = .ok start ∧
      start.history repeated =
        [⟨.leftJoin, [.value (.text " t".toList)]⟩,
         ⟨.whereAnd, [.value (.text "x".toList), .value (.text " x ".toList)]⟩,
         ⟨.whereOr, [.value (.text "x".toList), .value (.text " ".toList)]⟩,
         ⟨.leftJoin, [.value (.text "t ".toList)]⟩] ∧
      ((start.leftByAll repeated).content (.clause .whereClause)).Gathers
        [⟨.whereAnd, [.value (.text "x".toList), .value (.text " x ".toList)]⟩,
         ⟨.whereOr, [.value (.text "x".toList), .value (.text " ".toList)]⟩] ∧
      (start.leftByAll repeated).WritesClause .compact .select "SELECT a ".toList ∧
      (start.leftByAll repeated).WritesClause .compact .join "LEFT JOIN t ".toList ∧
      (start.leftByAll repeated).WritesClause .compact .whereClause "WHERE x OR x ".toList := by
  have made : oneColumn.create .builtIn =
      .ok (select { dialect := .generic } { columns := ["a".toList] } [] []) := rfl
  obtain ⟨gathers, laidOut⟩ := lists_of_create made repeated .compact
  refine ⟨_, made, rfl, gathers (.clause .whereClause), ?_, ?_, ?_⟩
  · exact laidOut.lists .select _ ["a".toList] rfl rfl
  · exact laidOut.joins ["LEFT JOIN t".toList] rfl
  · exact laidOut.conditions .whereClause _ [(.and, "x".toList), (.or, "x".toList)] rfl rfl

end Statement
end SqlText
