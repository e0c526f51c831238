import SqlText.Proofs.CallOrder
import SqlText.Proofs.Correspondence.Statement

/-!
# The parameter list of a CREATE TABLE

The parameters of a table are written group by group: columns, the primary key, constraints and
foreign keys. Each group is separated and surrounded by its raw text on its own, the groups with
something in them are separated once more, and that is the text of one list: its entries are those
of the groups one after another (`CreateTableBody.parameters`), where the raw text around a group
belongs to the first and to the last entry of the group, or is an entry of its own if the group has
no other (`Layout.surrounded`).

That the two ways of writing agree is a fact about groups that can be seen
(`ParameterGroup.IsVisible.render_eq_join`). No entry is empty (`Layout.surrounded_ne_nil`), so
there is something between any two separators, before the first and after the last one.
-/

set_option autoImplicit false

namespace SqlText

open Text

/-! ## Raw text around the entries of a group -/

/-- The entries with the raw text before them at the first and the raw text after them at the last
one. Raw text without entries is an entry. -/
def Layout.surrounded (layout : Layout) (before entries after : List Text) : List Text :=
  if entries = [] then
    if before ++ after = [] then [] else [join layout.space (before ++ after)]
  else
    (entries.modifyHead fun first => join layout.space (before ++ [first])).modifyLast
      fun last => join layout.space (last :: after)

namespace Layout

variable {before entries after : List Text}

/-- Entries between texts that can be seen can be seen, and raw text that can be seen can be seen
alone. -/
theorem surrounded_ne_nil (layout : Layout) (seen : ∀ text ∈ before, text ≠ [])
    (visible : ∀ entry ∈ entries, entry ≠ []) (seen' : ∀ text ∈ after, text ≠ []) :
    ∀ entry ∈ layout.surrounded before entries after, entry ≠ [] := by
  rw [surrounded]
  cases entries with
  | nil =>
      rw [if_pos rfl]
      split
      · exact nofun
      · rename_i nonempty
        intro entry member
        rw [List.mem_singleton.mp member, ne_eq, join_eq_nil_iff]
        · exact nonempty
        · exact List.forall_mem_append.mpr ⟨seen, seen'⟩
  | cons first rest =>
      rw [if_neg (List.cons_ne_nil _ _), List.modifyHead_cons]
      have head : join layout.space (before ++ [first]) ≠ [] := by
        rw [join_concat]
        exact List.append_ne_nil_of_right_ne_nil _ (visible first List.mem_cons_self)
      have opened : ∀ entry ∈ join layout.space (before ++ [first]) :: rest, entry ≠ [] :=
        List.forall_mem_cons.mpr
          ⟨head, fun entry member => visible entry (List.mem_cons_of_mem _ member)⟩
      obtain ⟨front, last, split⟩ := List.eq_nil_or_concat _ |>.resolve_left
        (List.cons_ne_nil (join layout.space (before ++ [first])) rest)
      rw [split, List.concat_eq_append] at opened ⊢
      rw [List.modifyLast_concat]
      obtain ⟨others, ending⟩ := List.forall_mem_append.mp opened
      refine List.forall_mem_append.mpr ⟨others, ?_⟩
      intro entry member
      rw [List.mem_singleton.mp member]
      exact join_cons_ne_nil (ending last (List.mem_singleton.mpr rfl)) _ _

/-- Separated entries with raw text around them are the separated entries between the raw texts. -/
theorem join_surrounded (layout : Layout) (separator : Text) (nonempty : entries ≠ []) :
    join separator (layout.surrounded before entries after) =
      followed layout.space before ++ join separator entries ++
        preceded layout.space after := by
  have front : (fun first => join layout.space (before ++ [first])) =
      (followed layout.space before ++ ·) := funext (join_concat layout.space before)
  have back : (fun last => join layout.space (last :: after)) =
      (· ++ preceded layout.space after) := funext fun last => join_cons layout.space last after
  have left : entries.modifyHead (followed layout.space before ++ ·) ≠ [] := by
    simpa using nonempty
  rw [surrounded, if_neg nonempty, front, back, join_modifyLast separator _ left,
    join_modifyHead separator _ nonempty]

end Layout

/-! ## Groups and the whole list -/

namespace ParameterGroup

/-- The entries of a group with the raw text around it. -/
def surrounded (layout : Layout) (group : ParameterGroup) : List Text :=
  layout.surrounded group.before (group.entries.map (join layout.space)) group.after

variable {group : ParameterGroup} (visible : group.IsVisible)
include visible

theorem IsVisible.surrounded_ne_nil (layout : Layout) :
    ∀ entry ∈ group.surrounded layout, entry ≠ [] :=
  layout.surrounded_ne_nil visible.before (visible.entries_ne_nil layout) visible.after

/-- A group is written as its entries with the raw text around it, separated. -/
theorem IsVisible.render_eq_join (layout : Layout) :
    group.render layout = join layout.nested.itemSeparator (group.surrounded layout) := by
  have entries := visible.entries_ne_nil layout
  rw [ParameterGroup.render, surrounded]
  generalize group.entries.map (join layout.space) = texts at entries ⊢
  by_cases isEmpty : texts = []
  · -- Without entries the two raw texts are all there is to separate.
    have both : ∀ list ∈ [group.before, group.after], ∀ text ∈ list, text ≠ [] := by
      simp only [List.forall_mem_cons]
      exact ⟨visible.before, visible.after, List.forall_mem_nil _⟩
    have whole := join_filter_map_join layout.space both
    have shape : [join layout.space group.before, join layout.nested.itemSeparator texts,
          join layout.space group.after].filter (· ≠ []) =
        ([group.before, group.after].map (join layout.space)).filter (· ≠ []) := by
      rw [isEmpty]
      simp only [List.map_cons, List.map_nil, List.filter_cons]
      rfl
    rw [shape, whole, Layout.surrounded, if_pos isEmpty]
    simp only [List.flatten_cons, List.flatten_nil, List.append_nil]
    split
    · rename_i empty
      rw [empty]
      rfl
    · rw [join, join, List.intercalate_singleton]
  · have middle : join layout.nested.itemSeparator texts ≠ [] :=
      fun empty => isEmpty ((join_eq_nil_iff entries).mp empty)
    have all : ∀ list ∈ [group.before, [join layout.nested.itemSeparator texts], group.after],
        ∀ text ∈ list, text ≠ [] := by
      simp only [List.forall_mem_cons]
      exact ⟨visible.before, ⟨middle, List.forall_mem_nil _⟩, visible.after,
        List.forall_mem_nil _⟩
    have whole := join_filter_map_join layout.space all
    rw [layout.join_surrounded _ isEmpty, ← join_append_cons]
    simpa [join] using whole

end ParameterGroup

/-- Entries in one pair of parentheses, with the separator of the nested layout between them, and
nothing without entries. -/
def Layout.enclosed (layout : Layout) (entries : List Text) : Text :=
  if entries = [] then []
  else
    '(' :: layout.lineBreak ++ layout.indent ++ join layout.nested.itemSeparator entries ++
      layout.lineBreak ++ ')' :: layout.terminator

/-- Groups that can be seen are written as one list of entries. -/
theorem Part.render_parameters (layout : Layout) {groups : List ParameterGroup}
    (visible : ∀ group ∈ groups, group.IsVisible) :
    (Part.parameters groups).render layout =
      layout.enclosed (groups.flatMap (ParameterGroup.surrounded layout)) := by
  have lists : ∀ list ∈ groups.map (ParameterGroup.surrounded layout), ∀ text ∈ list,
      text ≠ [] := by
    intro list member
    obtain ⟨group, among, rfl⟩ := List.mem_map.mp member
    exact (visible group among).surrounded_ne_nil layout
  have entries : ∀ entry ∈ groups.flatMap (ParameterGroup.surrounded layout), entry ≠ [] := by
    intro entry member
    obtain ⟨group, among, inside⟩ := List.mem_flatMap.mp member
    exact (visible group among).surrounded_ne_nil layout entry inside
  have written : groups.map (ParameterGroup.render layout) =
      (groups.map (ParameterGroup.surrounded layout)).map
        (join layout.nested.itemSeparator) := by
    rw [List.map_map]
    exact List.map_congr_left fun group member => (visible group member).render_eq_join layout
  have joined := join_filter_map_join layout.nested.itemSeparator lists
  rw [← written, ← List.flatMap_def] at joined
  have shown : ∀ text ∈ (groups.map (ParameterGroup.render layout)).filter (· ≠ []),
      text ≠ [] := fun text member => by simpa using (List.mem_filter.mp member).2
  have together : (groups.map (ParameterGroup.render layout)).filter (· ≠ []) = [] ↔
      groups.flatMap (ParameterGroup.surrounded layout) = [] := by
    rw [← join_eq_nil_iff shown, joined, join_eq_nil_iff entries]
  simp only [Part.render]
  rw [Layout.enclosed, ← joined]
  split
  · rename_i empty
    rw [if_pos (together.mp empty)]
  · rename_i nonempty
    rw [if_neg fun empty => nonempty (together.mpr empty)]

/-! ## Tables -/

namespace CreateTableBody

/-- The entries of the parameter list: columns, the primary key, constraints and foreign keys, each
group with the raw text around it. -/
def parameters (layout : Layout) (frame : Frame) (body : CreateTableBody) : List Text :=
  let around (clause : Clause) (entries : List Text) : List Text :=
    layout.surrounded (frame.before.get clause) entries (frame.after.get clause)
  let primaryKey :=
    if body.primaryKey = [] then [] else ["PRIMARY KEY".toList ++ body.primaryKey.parenthesized]
  around .column body.columns ++
    around .primaryKey primaryKey ++
    around .constraint
      (body.constraints.map fun text => "CONSTRAINT".toList ++ layout.space ++ text) ++
    around .foreignKey (body.foreignKeys.map fun text => "FOREIGN KEY".toList ++ text.parenthesized)

/-- The clause that names the table, with the raw text around it. -/
def tableClause (layout : Layout) (frame : Frame) (body : CreateTableBody) : Text :=
  let keyword :=
    if body.ifNotExists then "CREATE TABLE IF NOT EXISTS".toList else "CREATE TABLE".toList
  layout.wrapped (frame.before.get .createTable)
    (if body.table = [] then [] else keyword ++ layout.space ++ body.table ++ layout.terminator)
    (frame.after.get .createTable)

variable (layout : Layout) (frame : Frame) (body : CreateTableBody)

/-- The entries are those of the groups one after another. -/
theorem parameters_eq_flatMap :
    body.parameters layout frame =
      (body.groups frame).flatMap (ParameterGroup.surrounded layout) := by
  have columns : (body.columns.map fun column => [column]).map (join layout.space) =
      body.columns := by
    simp [join, Function.comp_def]
  have primaryKey : (if body.primaryKey = [] then []
        else [["PRIMARY KEY".toList ++ body.primaryKey.parenthesized]]).map (join layout.space) =
      if body.primaryKey = [] then []
      else ["PRIMARY KEY".toList ++ body.primaryKey.parenthesized] := by
    split
    · rfl
    · simp only [List.map_singleton, join, List.intercalate_singleton]
  have constraints : (body.constraints.map fun text => ["CONSTRAINT".toList, text]).map
        (join layout.space) =
      body.constraints.map fun text => "CONSTRAINT".toList ++ layout.space ++ text := by
    rw [List.map_map]
    refine List.map_congr_left fun text _ => ?_
    rw [Function.comp_apply, join_cons, preceded, List.flatMap_singleton, List.append_assoc]
  have foreignKeys : (body.foreignKeys.map fun text =>
        ["FOREIGN KEY".toList ++ text.parenthesized]).map (join layout.space) =
      body.foreignKeys.map fun text => "FOREIGN KEY".toList ++ text.parenthesized := by
    simp [join, Function.comp_def]
  simp only [groups, parameters, List.flatMap_cons, List.flatMap_nil, List.append_nil,
    ParameterGroup.surrounded, columns, primaryKey, constraints, foreignKeys, List.append_assoc]

/-- The clause is what the first segment of the outline is written as. -/
theorem render_tableClause :
    (Segment.clause .createTable
        (.single
          (if body.ifNotExists then "CREATE TABLE IF NOT EXISTS".toList
            else "CREATE TABLE".toList)
          body.table)).render layout .createTable frame =
      body.tableClause layout frame := by
  have always : frame.enables .createTable .createTable = true := rfl
  rw [Segment.render, if_pos always, tableClause, Part.single]
  by_cases unnamed : body.table = []
  · rw [if_pos unnamed, if_pos unnamed]
    rfl
  · rw [if_neg unnamed, if_neg unnamed, Part.render, join_cons, preceded,
      List.flatMap_singleton]
    · simp only [List.append_assoc]
    · exact List.cons_ne_nil _ _

end CreateTableBody

namespace Statement

/-- Behind the clause that names the table, a CREATE TABLE that comes about is written as one list
of entries, none of which is empty, and nothing if there is no entry. -/
theorem Reachable.written_createTable {frame : Frame} {body : CreateTableBody}
    (reachable : (createTable frame body).Reachable) (layout : Layout) :
    let text := layout.rawText frame.raw ++ body.tableClause layout frame ++
      layout.enclosed (body.parameters layout frame)
    (createTable frame body).written layout = text ∧
      (createTable frame body).render layout = text.trimEnd ∧
      ∀ entry ∈ body.parameters layout frame, entry ≠ [] := by
  intro text
  have valid := reachable.isValid.here
  have visible : ∀ group ∈ body.groups frame, group.IsVisible :=
    CreateTableBody.isVisible_groups valid.frame valid.body
  have whole : (createTable frame body).written layout = text := by
    rw [written, Frame.render, CreateTableBody.outline, List.flatMap_cons,
      List.flatMap_singleton, CreateTableBody.render_tableClause, Segment.render,
      Part.render_parameters layout visible, ← CreateTableBody.parameters_eq_flatMap,
      ← List.append_assoc]
  refine ⟨whole, by rw [render, whole], ?_⟩
  intro entry member
  rw [CreateTableBody.parameters_eq_flatMap] at member
  obtain ⟨group, among, inside⟩ := List.mem_flatMap.mp member
  exact (visible group among).surrounded_ne_nil layout entry inside

/-- Calls on a new table that give raw text to groups with and without entries. -/
def tableCalls : List Call :=
  [⟨"raw_before".toList, [.value (.text "column".toList), .value (.text "like s".toList)]⟩,
   ⟨"raw_after".toList, [.value (.text "column".toList), .value (.text "including all".toList)]⟩,
   ⟨"primary_key".toList, [.value (.text "a".toList)]⟩,
   ⟨"raw_after".toList, [.value (.text "primary_key".toList), .value (.text "deferrable".toList)]⟩,
   ⟨"constraint".toList, [.value (.text "c check (b)".toList)]⟩]

/-- The frame of the table that the calls lead to. -/
def tableFrame : Frame :=
  { dialect := .generic
    before := [(.column, ["like s".toList])]
    after := [(.column, ["including all".toList]), (.primaryKey, ["deferrable".toList])] }

/-- The content of the table that the calls lead to. -/
def tableBody : CreateTableBody :=
  { table := "t".toList, primaryKey := "a".toList, constraints := ["c check (b)".toList] }

theorem reachable_table : (createTable tableFrame tableBody).Reachable := by
  have made : Request.create ⟨.createTable, [.value (.text "t".toList)], .dialect .generic, []⟩
      .builtIn = .ok (createTable { dialect := .generic } { table := "t".toList }) := rfl
  have leads : (createTable { dialect := .generic } { table := "t".toList }).callAll tableCalls =
      .ok (createTable tableFrame tableBody) := rfl
  refine (Reachable.created made).callAll ?_ ?_ leads
  · simp [tableCalls]
  · simp [tableCalls]

theorem written_table :
    tableBody.parameters .compact tableFrame =
        ["like s including all".toList, "PRIMARY KEY(a) deferrable".toList,
          "CONSTRAINT c check (b)".toList] ∧
      (createTable tableFrame tableBody).render .compact =
        ("CREATE TABLE t (like s including all, PRIMARY KEY(a) deferrable, " ++
          "CONSTRAINT c check (b))").toList := by
  refine ⟨by decide, ?_⟩
  rw [(Reachable.written_createTable reachable_table .compact).2.1]
  decide

end Statement
end SqlText
