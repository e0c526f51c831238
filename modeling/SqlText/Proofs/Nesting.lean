import SqlText.Proofs.Correspondence.Statement

/-!
# Nesting is indenting

A text is indented by putting the indents of some levels behind each of its line breaks. The
pretty layout some levels deeper writes the indented text of a statement, whatever lists,
conditions, parameters, changes, set operations and further queries there are in it
(`Statement.Reachable.render_deeper`). So a query is laid out as it is alone, only farther to the
right. It is needed that no text that is stored in the statement has a line break of its own, since
such a line break would stay where it is.

Indenting is one of the correspondences that renderings respect: it replaces one blank character
by a blank text and leaves all others as they are, so it commutes with trimming.
-/

set_option autoImplicit false

namespace SqlText

/-! ## Indented texts -/

namespace Text

/-- The indents at the start of a line that is some levels deep. -/
def margin (levels : Nat) : Text := (List.replicate levels Layout.pretty.indent).flatten

/-- What a character is replaced by in a text that is indented. -/
def indentedChar (levels : Nat) (c : Char) : Text := if c = '\n' then c :: margin levels else [c]

/-- The text with every line but the first one moved to the right. -/
def indented (levels : Nat) (text : Text) : Text := text.flatMap (indentedChar levels)

theorem margin_succ (levels : Nat) :
    margin (levels + 1) = margin levels ++ Layout.pretty.indent := by
  rw [margin, List.replicate_succ', List.flatten_append, List.flatten_singleton, margin]

theorem margin_add (first second : Nat) :
    margin (first + second) = margin second ++ margin first := by
  rw [Nat.add_comm, margin, List.replicate_add, List.flatten_append, margin, margin]

theorem eq_space_of_mem_margin {levels : Nat} {c : Char} (member : c ∈ margin levels) :
    c = ' ' := by
  obtain ⟨indent, copy, inside⟩ := List.mem_flatten.mp member
  rw [List.eq_of_mem_replicate copy] at inside
  have spaces : Layout.pretty.indent = List.replicate 2 ' ' := by decide
  rw [spaces] at inside
  exact List.eq_of_mem_replicate inside

theorem allBlank_margin (levels : Nat) : AllBlank (margin levels) := by
  intro c member
  rw [eq_space_of_mem_margin member]
  decide

theorem allBlank_indentedChar (levels : Nat) (c : Char) (blank : isBlank c = true) :
    AllBlank (indentedChar levels c) := by
  intro d member
  rw [indentedChar] at member
  split at member
  · rcases List.mem_cons.mp member with rfl | inside
    · exact blank
    · exact allBlank_margin levels d inside
  · rw [List.mem_singleton.mp member]
    exact blank

theorem indentedChar_of_not_blank (levels : Nat) (c : Char) (visible : isBlank c = false) :
    indentedChar levels c = [c] := by
  refine if_neg ?_
  rintro rfl
  revert visible
  decide

theorem indented_append (levels : Nat) (first second : Text) :
    (first ++ second).indented levels = first.indented levels ++ second.indented levels :=
  List.flatMap_append

theorem indented_trim (levels : Nat) (text : Text) :
    Text.trim (text.indented levels) = text.trim.indented levels :=
  trim_flatMap (allBlank_indentedChar levels) (indentedChar_of_not_blank levels) text

theorem indented_trimEnd (levels : Nat) (text : Text) :
    Text.trimEnd (text.indented levels) = text.trimEnd.indented levels :=
  trimEnd_flatMap (allBlank_indentedChar levels) (indentedChar_of_not_blank levels) text

/-- A character is not lost when the text is indented. -/
theorem indented_eq_nil_iff {levels : Nat} {text : Text} :
    text.indented levels = [] ↔ text = [] := by
  cases text with
  | nil => exact ⟨fun _ => rfl, fun _ => rfl⟩
  | cons c rest =>
      constructor
      · intro empty
        rw [indented, List.flatMap_cons, List.append_eq_nil_iff, indentedChar] at empty
        have head := empty.1
        split at head <;> cases head
      · intro impossible
        cases impossible

/-- A text on one line is not moved. -/
theorem indented_of_notMem {levels : Nat} {text : Text} (oneLine : '\n' ∉ text) :
    text.indented levels = text := by
  induction text with
  | nil => rfl
  | cons c rest ih =>
      have first : c ≠ '\n' := fun same => oneLine (same ▸ List.mem_cons_self)
      have others : '\n' ∉ rest := fun member => oneLine (List.mem_cons_of_mem c member)
      rw [indented, List.flatMap_cons, indentedChar, if_neg first, ← indented, ih others,
        List.singleton_append]

theorem notMem_margin (levels : Nat) : '\n' ∉ margin levels := by
  intro member
  exact absurd (eq_space_of_mem_margin member) (by decide)

/-- A line break, with the margin of a level behind it, comes to have that of a deeper level. -/
theorem indented_lineBreak (j k : Nat) :
    Text.indented k ('\n' :: margin j) = '\n' :: margin (j + k) := by
  rw [indented, List.flatMap_cons, indentedChar, if_pos rfl, ← indented,
    indented_of_notMem (notMem_margin j), List.cons_append, margin_add]

theorem IsKeyword.notMem {text : Text} (keyword : text.IsKeyword) : '\n' ∉ text := by
  intro member
  exact absurd (keyword _ member) (by decide)

end Text

open Text

/-! ## The pretty layout some levels deeper -/

namespace Layout

/-- The pretty layout at a level differs from the one at the start by the margin of the level. -/
theorem deeper_pretty (levels : Nat) :
    pretty.deeper levels =
      ⟨",\n".toList ++ margin levels, '\n' :: margin levels, pretty.indent, pretty.space⟩ := by
  induction levels with
  | zero => rfl
  | succ levels ih =>
      rw [deeper, ih, margin_succ, ← List.append_assoc, ← List.cons_append]
      rfl

theorem lineBreak_deeper (levels : Nat) :
    (pretty.deeper levels).lineBreak = '\n' :: margin levels := by
  rw [deeper_pretty]

theorem itemSeparator_deeper (levels : Nat) :
    (pretty.deeper levels).itemSeparator = ",\n".toList ++ margin levels := by
  rw [deeper_pretty]

theorem indent_deeper (levels : Nat) : (pretty.deeper levels).indent = "  ".toList := by
  rw [deeper_pretty]
  rfl

theorem space_deeper (levels : Nat) : (pretty.deeper levels).space = " ".toList := by
  rw [deeper_pretty]
  rfl

end Layout

/-! ## Indenting as a correspondence -/

/-- A text and the indented text, and the pretty layout and the one some levels deeper. -/
def indenting (levels : Nat) : Correspondence where
  texts a b := a.indented levels = b
  layouts f g := ∃ j, f = Layout.pretty.deeper j ∧ g = Layout.pretty.deeper (j + levels)
  keyword word := indented_of_notMem word.notMem
  append := by
    rintro a b c d rfl rfl
    exact indented_append levels a c
  parentheses := by
    rintro a b rfl
    exact indented_append levels ('(' :: a) [')']
  trim := by
    rintro a b rfl
    exact (indented_trim levels a).symm
  trimEnd := by
    rintro a b rfl
    exact (indented_trimEnd levels a).symm
  trim_eq_nil := by
    rintro a b rfl
    rw [indented_trim, indented_eq_nil_iff]
  itemSeparator := by
    rintro f g ⟨j, rfl, rfl⟩
    have comma : ",\n".toList = ",".toList ++ "\n".toList := by decide
    rw [Layout.itemSeparator_deeper, Layout.itemSeparator_deeper, comma, List.append_assoc,
      indented_append, indented_of_notMem (by decide), List.append_assoc]
    exact congrArg (',' :: ·) (indented_lineBreak j levels)
  lineBreak := by
    rintro f g ⟨j, rfl, rfl⟩
    rw [Layout.lineBreak_deeper, Layout.lineBreak_deeper, indented_lineBreak]
  indent := by
    rintro f g ⟨j, rfl, rfl⟩
    rw [Layout.indent_deeper, Layout.indent_deeper, indented_of_notMem (by decide)]
  space := by
    rintro f g ⟨j, rfl, rfl⟩
    rw [Layout.space_deeper, Layout.space_deeper, indented_of_notMem (by decide)]
  nested := by
    rintro f g ⟨j, rfl, rfl⟩
    refine ⟨j + 1, rfl, ?_⟩
    rw [Nat.add_right_comm]
    rfl

/-- Some levels deeper a statement is written as it is at the level before, indented, if nothing
that is stored in it breaks lines. -/
theorem Statement.Reachable.render_deeper {statement : Statement}
    (reachable : statement.Reachable) (oneLine : statement.EveryText fun text => '\n' ∉ text)
    (j k : Nat) :
    statement.render (Layout.pretty.deeper (j + k)) =
      (statement.render (Layout.pretty.deeper j)).indented k := by
  have fixed : statement.EveryText (indenting k).Fixes := by
    refine oneLine.mono ?_
    intro other fits text member
    exact indented_of_notMem (fits text member)
  have related := (indenting k).statement reachable fixed ⟨j, rfl, rfl⟩
  exact related.symm

theorem Statement.render_deeper_united :
    united.Reachable ∧ (united.EveryText fun text => '\n' ∉ text) ∧
      united.render (Layout.pretty.deeper (1 + 2)) =
        (united.render (Layout.pretty.deeper 1)).indented 2 := by
  have inside : twoColumns.EveryText fun text => '\n' ∉ text :=
    .intro (by decide) nofun
  have oneLine : united.EveryText fun text => '\n' ∉ text := by
    refine .intro (by decide) ?_
    intro inner member
    cases List.mem_singleton.mp member
    exact inside
  exact ⟨reachable_united, oneLine, Reachable.render_deeper reachable_united oneLine 1 2⟩

end SqlText
