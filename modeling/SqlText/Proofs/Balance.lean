import Mathlib.Data.List.Infix
import SqlText.Proofs.Correspondence.Statement

/-!
# Parentheses stay balanced

A text is balanced when it closes as many parentheses as it opens, and none before it is opened
(`Text.Balanced`). If every text that is stored in a statement is balanced, and the four texts of
the layout are, then the statement is written as a balanced text
(`Statement.Reachable.balanced_render`): every parenthesis that a rendering adds itself comes in a
pair around something balanced.

Trimming removes no parenthesis, so balanced texts are one of the correspondences that renderings
respect, each of them with itself only. The rows of a VALUES list are put in parentheses before they
are stored; they are balanced then if they are balanced as they are given (`balanced_pushRows`).
-/

set_option autoImplicit false

namespace SqlText

namespace Text

/-! ## Balanced texts -/

/-- A text that closes as many parentheses as it opens, and no prefix of which closes more than it
opens. -/
structure Balanced (text : Text) : Prop where
  prefixes : ∀ front, front <+: text → front.count ')' ≤ front.count '('
  total : text.count ')' = text.count '('

instance (text : Text) : Decidable (Balanced text) :=
  decidable_of_iff
    ((∀ front ∈ text.inits, front.count ')' ≤ front.count '(') ∧ text.count ')' = text.count '(')
    ⟨fun both => ⟨fun front part => both.1 front ((List.mem_inits ..).mpr part), both.2⟩,
      fun balanced =>
        ⟨fun front part => balanced.prefixes front ((List.mem_inits ..).mp part), balanced.total⟩⟩

/-- A text without parentheses. -/
def IsPlain (text : Text) : Prop := '(' ∉ text ∧ ')' ∉ text

theorem AllBlank.isPlain {text : Text} (blank : AllBlank text) : IsPlain text := by
  refine ⟨fun opening => ?_, fun closing => ?_⟩
  · exact absurd (blank _ opening) (by decide)
  · exact absurd (blank _ closing) (by decide)

theorem IsKeyword.isPlain {text : Text} (keyword : text.IsKeyword) : IsPlain text := by
  refine ⟨fun opening => ?_, fun closing => ?_⟩
  · exact absurd (keyword _ opening) (by decide)
  · exact absurd (keyword _ closing) (by decide)

theorem IsPlain.count_closing {text : Text} (plain : IsPlain text) : text.count ')' = 0 :=
  List.count_eq_zero_of_not_mem plain.2

theorem IsPlain.count_opening {text : Text} (plain : IsPlain text) : text.count '(' = 0 :=
  List.count_eq_zero_of_not_mem plain.1

theorem IsPlain.balanced {text : Text} (plain : IsPlain text) : Balanced text where
  prefixes := by
    intro front part
    have fewer : front.count ')' ≤ text.count ')' := part.sublist.count_le _
    rw [plain.count_closing] at fewer
    omega
  total := by rw [plain.count_closing, plain.count_opening]

/-- A prefix of two texts is a prefix of the first or goes on into the second. -/
theorem prefix_of_prefix_append {front first second : Text} (part : front <+: first ++ second) :
    front <+: first ∨ ∃ rest, rest <+: second ∧ front = first ++ rest := by
  rcases List.prefix_or_prefix_of_prefix part (List.prefix_append first second) with short | long
  · exact .inl short
  · obtain ⟨rest, rfl⟩ := long
    exact .inr ⟨rest, (List.prefix_append_right_inj first).mp part, rfl⟩

namespace Balanced

variable {first second text : Text}

theorem append (balanced : Balanced first) (balanced' : Balanced second) :
    Balanced (first ++ second) where
  prefixes := by
    intro front part
    rcases prefix_of_prefix_append part with short | ⟨rest, inside, rfl⟩
    · exact balanced.prefixes front short
    · have before := balanced.total
      have behind := balanced'.prefixes rest inside
      simp only [List.count_append]
      omega
  total := by
    rw [List.count_append, List.count_append, balanced.total, balanced'.total]

/-- A balanced text in parentheses is balanced. -/
theorem enclosed (balanced : Balanced text) : Balanced ('(' :: text ++ [')']) where
  prefixes := by
    intro front part
    rw [List.cons_append, List.prefix_cons_iff] at part
    rcases part with rfl | ⟨rest, rfl, inside⟩
    · exact Nat.le_refl _
    rcases prefix_of_prefix_append inside with short | ⟨last, one, rfl⟩
    · have within := balanced.prefixes rest short
      have closing : ('(' :: rest).count ')' = rest.count ')' :=
        List.count_cons_of_ne (by decide)
      rw [closing, List.count_cons_self]
      omega
    · -- The last parenthesis closes no more than the first one has opened.
      have within := balanced.total
      have atMost : last.count ')' ≤ [')'].count ')' := one.sublist.count_le _
      have closing : ('(' :: (text ++ last)).count ')' = (text ++ last).count ')' :=
        List.count_cons_of_ne (by decide)
      rw [List.count_singleton_self] at atMost
      rw [closing, List.count_cons_self, List.count_append, List.count_append]
      omega
  total := by
    have closing : ('(' :: text).count ')' = text.count ')' := List.count_cons_of_ne (by decide)
    have opening : [')'].count '(' = 0 := by decide
    rw [List.count_append, closing, List.count_singleton_self, List.count_append,
      List.count_cons_self, opening, balanced.total]

/-- What has no parenthesis can be taken away before a balanced text. -/
theorem of_append_left (plain : IsPlain first) (balanced : Balanced (first ++ second)) :
    Balanced second where
  prefixes := by
    intro front part
    have longer :=
      balanced.prefixes (first ++ front) ((List.prefix_append_right_inj first).mpr part)
    rwa [List.count_append, List.count_append, plain.count_closing, plain.count_opening,
      Nat.zero_add, Nat.zero_add] at longer
  total := by
    have whole := balanced.total
    rwa [List.count_append, List.count_append, plain.count_closing, plain.count_opening,
      Nat.zero_add, Nat.zero_add] at whole

/-- What has no parenthesis can be taken away behind a balanced text. -/
theorem of_append_right (plain : IsPlain second) (balanced : Balanced (first ++ second)) :
    Balanced first where
  prefixes front part := balanced.prefixes front (part.trans (List.prefix_append first second))
  total := by
    have whole := balanced.total
    rwa [List.count_append, List.count_append, plain.count_closing, plain.count_opening,
      Nat.add_zero, Nat.add_zero] at whole

theorem trimStart (balanced : Balanced text) : Balanced text.trimStart := by
  obtain ⟨front, blank, whole⟩ := exists_eq_trimStart text
  rw [whole] at balanced
  exact balanced.of_append_left blank.isPlain

theorem trimEnd (balanced : Balanced text) : Balanced text.trimEnd := by
  obtain ⟨back, blank, whole⟩ := exists_eq_trimEnd text
  rw [whole] at balanced
  exact balanced.of_append_right blank.isPlain

theorem trim (balanced : Balanced text) : Balanced text.trim := balanced.trimStart.trimEnd

/-- A column list is balanced with its parentheses if it is so as it is given. -/
theorem parenthesized (balanced : Balanced text) : Balanced text.parenthesized := by
  rw [Text.parenthesized]
  split
  · exact balanced
  · exact balanced.enclosed

end Balanced
end Text

open Text

/-! ## Rows -/

theorem mem_pushAll {items fragments : List Text} {text : Text}
    (member : text ∈ pushAll items fragments) :
    text ∈ items ∨ ∃ fragment ∈ fragments, text = fragment.trim := by
  rw [pushAll] at member
  induction fragments generalizing items with
  | nil => exact .inl member
  | cons first rest ih =>
      rcases ih member with old | ⟨fragment, among, same⟩
      · rw [pushUnique] at old
        split at old
        · exact .inl old
        · rcases List.mem_append.mp old with before | new
          · exact .inl before
          · exact .inr ⟨first, List.mem_cons_self, List.mem_singleton.mp new⟩
      · exact .inr ⟨fragment, List.mem_cons_of_mem _ among, same⟩

/-- Rows in the explicit notation are balanced if they are so as they are given. -/
theorem balanced_pushRows {rows texts : List Text} (old : ∀ row ∈ rows, Balanced row)
    (given : ∀ text ∈ texts, Balanced text) : ∀ row ∈ pushRows rows texts, Balanced row := by
  intro row member
  rcases mem_pushAll member with before | ⟨fragment, among, rfl⟩
  · exact old row before
  · obtain ⟨text, kept, rfl⟩ := List.mem_map.mp among
    obtain ⟨source, inside, rfl⟩ := List.mem_map.mp (List.mem_of_mem_filter kept)
    have word : IsKeyword "ROW".toList := by decide
    exact (word.isPlain.balanced.append (given source inside).trim.parenthesized).trim

/-! ## Layouts -/

/-- A layout whose four texts are balanced. -/
structure Layout.IsBalanced (layout : Layout) : Prop where
  itemSeparator : Balanced layout.itemSeparator
  lineBreak : Balanced layout.lineBreak
  indent : Balanced layout.indent
  space : Balanced layout.space

theorem Layout.IsBalanced.nested {layout : Layout} (balanced : layout.IsBalanced) :
    layout.nested.IsBalanced := by
  rw [Layout.nested]
  split
  · exact { balanced with
      itemSeparator := balanced.itemSeparator.append balanced.indent
      lineBreak := balanced.lineBreak.append balanced.indent }
  · exact balanced

/-! ## Statements -/

/-- Balanced texts and balanced layouts, each with itself. -/
def balance : Correspondence where
  texts a b := a = b ∧ Balanced a
  layouts f g := f = g ∧ f.IsBalanced
  keyword word := ⟨rfl, word.isPlain.balanced⟩
  append := by
    rintro a b c d ⟨rfl, first⟩ ⟨rfl, second⟩
    exact ⟨rfl, first.append second⟩
  parentheses := by
    rintro a b ⟨rfl, inside⟩
    exact ⟨rfl, inside.enclosed⟩
  trim := by
    rintro a b ⟨rfl, balanced⟩
    exact ⟨rfl, balanced.trim⟩
  trimEnd := by
    rintro a b ⟨rfl, balanced⟩
    exact ⟨rfl, balanced.trimEnd⟩
  trim_eq_nil := by
    rintro a b ⟨rfl, -⟩
    exact Iff.rfl
  itemSeparator := by
    rintro f g ⟨rfl, balanced⟩
    exact ⟨rfl, balanced.itemSeparator⟩
  lineBreak := by
    rintro f g ⟨rfl, balanced⟩
    exact ⟨rfl, balanced.lineBreak⟩
  indent := by
    rintro f g ⟨rfl, balanced⟩
    exact ⟨rfl, balanced.indent⟩
  space := by
    rintro f g ⟨rfl, balanced⟩
    exact ⟨rfl, balanced.space⟩
  nested := by
    rintro f g ⟨rfl, balanced⟩
    exact ⟨rfl, balanced.nested⟩

/-- A statement that is valid to any depth is written as a balanced text if all its texts are. -/
theorem Statement.balanced_render_of_isValid {statement : Statement}
    (valid : statement.Everywhere IsValid) (stored : statement.EveryText Balanced)
    {layout : Layout} (balanced : layout.IsBalanced) : Balanced (statement.render layout) := by
  have fixed : statement.EveryText balance.Fixes := by
    refine stored.mono ?_
    intro other fits text member
    exact ⟨rfl, fits text member⟩
  exact (Correspondence.written (valid.and fixed) ⟨rfl, balanced⟩ : balance.texts _ _).2.trimEnd

theorem InsertBody.mem_stored_edit_row {body : InsertBody} {texts : List Text} {clause : Clause}
    {text : Text} (member : text ∈ (body.edit .row texts).stored clause) :
    text ∈ body.stored clause ∨ text ∈ pushRows (body.stored .values) texts := by
  by_cases same : clause = .values
  · subst same
    exact .inr member
  · left
    unfold InsertBody.stored at member ⊢
    split at member <;> first | exact member | exact absurd rfl same

theorem ValuesBody.mem_stored_edit_row {body : ValuesBody} {texts : List Text} {clause : Clause}
    {text : Text} (member : text ∈ (body.edit .row texts).stored clause) :
    text ∈ body.stored clause ∨ text ∈ pushRows (body.stored .values) texts := by
  unfold ValuesBody.stored at member ⊢
  split at member
  · exact .inr member
  · cases member

/-- Every text of a statement fits if those of each sort do. -/
theorem Statement.fits_texts {fits : Text → Prop} {statement : Statement}
    (frame : ∀ text ∈ statement.frame.texts, fits text)
    (stored : ∀ clause ∈ statement.kind.clauses, ∀ text ∈ statement.stored clause, fits text)
    (names : ∀ query ∈ statement.queries, fits query.1)
    (commandArguments : ∀ text ∈ statement.commandArguments, fits text)
    (operands : ∀ operand ∈ statement.operands, ∀ text ∈ operand.texts, fits text) :
    ∀ text ∈ statement.texts, fits text := by
  intro text member
  simp only [texts, List.mem_append, List.mem_flatMap] at member
  rcases member with (((raw | ⟨clause, known, kept⟩) | name) | argument) | ⟨operand, among, inside⟩
  · exact frame text raw
  · exact stored clause known text kept
  · obtain ⟨query, among, rfl⟩ := List.mem_map.mp name
    exact names query among
  · exact commandArguments text argument
  · exact operands operand among text inside

/-- The texts of a statement stay balanced when it is given rows that are balanced. -/
theorem Statement.balanced_texts_edit_row {statement : Statement} {rows : List Text}
    (all : ∀ text ∈ statement.texts, Balanced text) (given : ∀ row ∈ rows, Balanced row) :
    ∀ text ∈ (statement.edit .row rows).texts, Balanced text := by
  have frame := fits_frame all
  have stored := fits_stored all
  have names := fits_name all
  have commandArguments := fits_commandArguments all
  have operands := fits_operand all
  cases statement with
  | insert frame body queries source =>
      refine fits_texts frame ?_ names commandArguments operands
      intro clause known text member
      rcases InsertBody.mem_stored_edit_row member with old | new
      · exact stored clause known text old
      · exact balanced_pushRows (stored .values (by decide : _ ∈ Kind.insert.clauses)) given text
          new
  | values frame body =>
      refine fits_texts frame ?_ names commandArguments operands
      intro clause known text member
      rcases ValuesBody.mem_stored_edit_row member with old | new
      · exact stored clause known text old
      · exact balanced_pushRows (stored .values (by decide : _ ∈ Kind.values.clauses)) given text
          new
  | select | update | delete | createTable | dropTable | dropIndex | createIndex | alterTable
  | transaction => exact all

/-- What comes about is written as a balanced text in a balanced layout, if every text is balanced
that is stored in it or in a statement inside it. Rows that are given as balanced texts and stored
in parentheses do no harm to that. -/
theorem Statement.Reachable.balanced_render {statement : Statement}
    (reachable : statement.Reachable) (stored : statement.EveryText Balanced) {layout : Layout}
    (balanced : layout.IsBalanced) :
    Balanced (statement.render layout) ∧
      ∀ rows : List Text, (∀ row ∈ rows, Balanced row) →
        Balanced ((statement.edit .row rows).render layout) := by
  refine ⟨balanced_render_of_isValid reachable.isValid stored balanced, ?_⟩
  intro rows given
  have valid : (statement.edit .row rows).Everywhere IsValid :=
    .intro (reachable.isValid.here.edit .row rows) fun inner member =>
      reachable.isValid.inside inner (mem_operands_edit member)
  have texts := balanced_texts_edit_row stored.here given
  exact balanced_render_of_isValid valid
    (.intro texts fun inner member => stored.inside inner (mem_operands_edit member)) balanced

theorem Statement.balanced_render_united :
    united.Reachable ∧ united.EveryText Balanced ∧ (Layout.pretty.deeper 1).IsBalanced ∧
      Balanced (united.render (Layout.pretty.deeper 1)) := by
  have inside : twoColumns.EveryText Balanced := .intro (by decide) nofun
  have stored : united.EveryText Balanced := by
    refine .intro (by decide) ?_
    intro inner member
    cases List.mem_singleton.mp member
    exact inside
  have layout : (Layout.pretty.deeper 1).IsBalanced := by constructor <;> decide
  exact ⟨reachable_united, stored, layout,
    (Reachable.balanced_render reachable_united stored layout).1⟩

end SqlText
