import SqlText.Proofs.Correspondence.Statement

/-!
# Where the characters of a rendering come from

Of its own accord a rendering writes capital letters, spaces, semicolons and parentheses: keywords,
the ends of commands, and what is put around lists and statements. Any other character of it is one
of the layout, or there is a stored text that has it, in the statement or in one inside it to any
depth (`Statement.Reachable.exists_stores_of_mem_render`).

That a text lacks a character is one of the correspondences that renderings respect, taken with
itself: it is kept when texts are put one after another, in parentheses, and trimmed.
-/

set_option autoImplicit false

namespace SqlText

open Text

/-! ## Stored texts -/

/-- The text is stored in the statement or in one inside it, to any depth. -/
inductive Statement.Stores (text : Text) : Statement → Prop where
  | here {statement : Statement} (member : text ∈ statement.texts) : Stores text statement
  | inside {statement inner : Statement} (operand : Operand.statement inner ∈ statement.operands)
      (stores : Stores text inner) : Stores text statement

/-- What fits each stored text fits every text, to any depth. -/
theorem Statement.Everywhere.everyText {statement : Statement} {holds : Statement → Prop}
    (everywhere : statement.Everywhere holds) {fits : Text → Prop}
    (all : ∀ text, statement.Stores text → fits text) : statement.EveryText fits := by
  induction everywhere with
  | intro here inside ih =>
      refine .intro (fun text member => all text (.here member)) fun inner member => ?_
      exact ih inner member fun text stores => all text (.inside member stores)

/-! ## Characters that are lacking -/

theorem Text.mem_of_mem_trimEnd {text : Text} {c : Char} (member : c ∈ text.trimEnd) :
    c ∈ text := by
  obtain ⟨back, -, whole⟩ := exists_eq_trimEnd text
  rw [whole]
  exact List.mem_append_left _ member

theorem Text.mem_of_mem_trim {text : Text} {c : Char} (member : c ∈ text.trim) : c ∈ text := by
  obtain ⟨front, -, whole⟩ := exists_eq_trimStart text
  rw [whole]
  exact List.mem_append_right _ (mem_of_mem_trimEnd member)

/-- The characters that a rendering writes of its own accord. -/
def Text.IsStructural (c : Char) : Prop :=
  c.isUpper = true ∨ c = ' ' ∨ c = ';' ∨ c = '(' ∨ c = ')'

theorem Text.IsKeyword.isStructural {text : Text} (keyword : text.IsKeyword) :
    ∀ c ∈ text, IsStructural c := by
  intro c member
  rcases keyword c member with upper | space | semicolon
  · exact .inl upper
  · exact .inr (.inl space)
  · exact .inr (.inr (.inl semicolon))

/-- No text of the layout has the character. -/
structure Layout.Lacks (c : Char) (layout : Layout) : Prop where
  itemSeparator : c ∉ layout.itemSeparator
  lineBreak : c ∉ layout.lineBreak
  indent : c ∉ layout.indent
  space : c ∉ layout.space

theorem Layout.Lacks.nested {c : Char} {layout : Layout} (lacks : layout.Lacks c) :
    layout.nested.Lacks c := by
  rw [Layout.nested]
  split
  · exact { lacks with
      itemSeparator := List.not_mem_append lacks.itemSeparator lacks.indent
      lineBreak := List.not_mem_append lacks.lineBreak lacks.indent }
  · exact lacks

/-- Texts and layouts that lack a character, each with itself. -/
def lacking (c : Char) (other : ¬IsStructural c) : Correspondence where
  texts a b := a = b ∧ c ∉ a
  layouts f g := f = g ∧ f.Lacks c
  keyword word := ⟨rfl, fun member => other (word.isStructural c member)⟩
  append := by
    rintro a b x y ⟨rfl, first⟩ ⟨rfl, second⟩
    exact ⟨rfl, List.not_mem_append first second⟩
  parentheses := by
    rintro a b ⟨rfl, inside⟩
    refine ⟨rfl, fun member => ?_⟩
    simp only [List.cons_append, List.mem_cons, List.mem_append, List.not_mem_nil, or_false]
      at member
    rcases member with opening | text | closing
    · exact other (.inr (.inr (.inr (.inl opening))))
    · exact inside text
    · exact other (.inr (.inr (.inr (.inr closing))))
  trim := by
    rintro a b ⟨rfl, lacks⟩
    exact ⟨rfl, fun member => lacks (mem_of_mem_trim member)⟩
  trimEnd := by
    rintro a b ⟨rfl, lacks⟩
    exact ⟨rfl, fun member => lacks (mem_of_mem_trimEnd member)⟩
  trim_eq_nil := by
    rintro a b ⟨rfl, -⟩
    exact Iff.rfl
  itemSeparator := by
    rintro f g ⟨rfl, lacks⟩
    exact ⟨rfl, lacks.itemSeparator⟩
  lineBreak := by
    rintro f g ⟨rfl, lacks⟩
    exact ⟨rfl, lacks.lineBreak⟩
  indent := by
    rintro f g ⟨rfl, lacks⟩
    exact ⟨rfl, lacks.indent⟩
  space := by
    rintro f g ⟨rfl, lacks⟩
    exact ⟨rfl, lacks.space⟩
  nested := by
    rintro f g ⟨rfl, lacks⟩
    exact ⟨rfl, lacks.nested⟩

/-- A character that is rendered, neither structural nor one of the layout, is one of a stored
text. -/
theorem Statement.Reachable.exists_stores_of_mem_render {statement : Statement}
    (reachable : statement.Reachable) {c : Char} (other : ¬IsStructural c) {layout : Layout}
    (lacks : layout.Lacks c) (member : c ∈ statement.render layout) :
    ∃ text, statement.Stores text ∧ c ∈ text := by
  by_contra none
  have fixed : statement.EveryText (lacking c other).Fixes :=
    reachable.isValid.everyText fun text stores => ⟨rfl, fun inside => none ⟨text, stores, inside⟩⟩
  exact ((lacking c other).statement reachable fixed ⟨rfl, lacks⟩).2 member

end SqlText
