import Mathlib.Data.List.Infix
import SqlText.Proofs.Listing
import SqlText.Proofs.Taken

/-!
# Raw text at the start

The raw text of a statement is written before its clauses, each fragment once, in the order of the
calls. Everything that is written afterwards is put behind it, with one exception: a set operation
puts all that was written so far in parentheses, the raw text at the start included. So there are
as many opening parentheses before the raw text as there are set operations with operands that are
not blank (`Statement.HasTaken.prefix_render`), and the statement starts with the raw text only if
there are none, or if the raw text is made of opening parentheses itself.

This is so in every layout: what was written so far can be trimmed by a set operation, but it opens
and closes with visible characters of the raw text (`Text.IsFragment.prefix_trim`).
-/

set_option autoImplicit false

namespace SqlText

/-! ## Prefixes -/

/-- A list that starts with copies of an item and goes on with another list starts with that other
list only if it is made of copies of the item. -/
theorem prefix_replicate_append_iff {α : Type} (item : α) (count : Nat) (items rest : List α) :
    items <+: List.replicate (count + 1) item ++ items ++ rest ↔ ∀ other ∈ items, other = item := by
  induction items with
  | nil => exact ⟨fun _ => nofun, fun _ => List.nil_prefix⟩
  | cons first others ih =>
      have shift : List.replicate (count + 1) item ++ first :: others ++ rest =
          item :: (List.replicate count item ++ [first] ++ others ++ rest) := by
        rw [List.replicate_succ]
        simp only [List.append_assoc, List.cons_append, List.nil_append]
      rw [shift, List.cons_prefix_cons, List.forall_mem_cons]
      refine and_congr_right fun same => ?_
      rw [same, ← List.replicate_succ', ih]

namespace Text

theorem Closes.prefix_trimEnd {front text : Text} (closes : Closes front)
    (starts : front <+: text) : front <+: text.trimEnd := by
  obtain ⟨back, rfl⟩ := starts
  by_cases blank : AllBlank back
  · rw [closes.trimEnd_append blank]
  · rw [trimEnd_append_of_not_blank blank]
    exact List.prefix_append front _

/-- A fragment at the start of a text is not trimmed. -/
theorem IsFragment.prefix_trim {front text : Text} (fragment : IsFragment front)
    (starts : front <+: text) : front <+: text.trim := by
  have opens : Opens text := by
    obtain ⟨back, rfl⟩ := starts
    exact fragment.opens.append back
  rw [trim, opens.trimStart_eq]
  exact fragment.closes.prefix_trimEnd starts

end Text

open Text

/-! ## Set operations behind a text -/

namespace Combination

variable {κ : Type} [DecidableEq κ] (combination : Combination κ) (layout : Layout)

theorem prefix_leftSide {front text : Text} (fragment : IsFragment front) (starts : front <+: text)
    (seen : List κ) (key : κ) : front <+: combination.leftSide layout seen text key := by
  have trimmed := fragment.prefix_trim starts
  rw [leftSide]
  split
  · exact trimmed
  · rw [List.append_assoc]
    exact fragment.prefix_trim (trimmed.trans (List.prefix_append _ _))

/-- An operation puts a parenthesis before a text that it finds at the start, unless its operand is
blank. -/
theorem prefix_step {front text : Text} (fragment : IsFragment front) (starts : front <+: text)
    (seen later : List κ) (key : κ) (operand : Text) :
    (if operand.trim = [] then front else '(' :: front) <+:
      combination.step layout seen later text key operand := by
  have left := combination.prefix_leftSide layout fragment starts seen key
  have nonempty : combination.leftSide layout seen text key ≠ [] :=
    fun isEmpty => fragment.ne_nil (List.prefix_nil.mp (isEmpty ▸ left))
  have combined : (if operand.trim = [] then front else '(' :: front) <+:
      layout.combined (combination.keyword key) (combination.leftSide layout seen text key)
        operand.trim := by
    rw [Layout.combined, if_neg nonempty]
    split
    · rw [Layout.terminated, if_neg nonempty]
      exact left.trans (List.prefix_append _ _)
    · simp only [List.cons_append, List.append_assoc]
      exact List.cons_prefix_cons.mpr ⟨rfl, left.trans (List.prefix_append _ _)⟩
  rw [step]
  by_cases again : key ∈ later
  · rw [if_pos again]
    exact combined
  · rw [if_neg again]
    exact combined.trans (List.prefix_append _ _)

/-- Operations put as many parentheses before a text at the start as there are operands that are not
blank. -/
theorem prefix_apply {front text : Text} (fragment : IsFragment front) (starts : front <+: text)
    (seen : List κ) (operations : List (κ × Text)) :
    List.replicate (operations.countP (·.2.trim ≠ [])) '(' ++ front <+:
      combination.apply layout seen text operations := by
  induction operations generalizing front text seen with
  | nil => exact starts
  | cons first rest ih =>
      obtain ⟨key, operand⟩ := first
      have stepped := combination.prefix_step layout fragment starts seen (rest.map Prod.fst) key
        operand
      rw [apply]
      by_cases blank : operand.trim = []
      · rw [if_pos blank] at stepped
        rw [List.countP_cons_of_neg (by simpa using blank)]
        exact ih fragment stepped (key :: seen)
      · rw [if_neg blank] at stepped
        have enclosed : IsFragment ('(' :: front) :=
          ⟨⟨'(', front, rfl, by decide⟩, fragment.closes.append ['(']⟩
        have later := ih enclosed stepped (key :: seen)
        rwa [List.countP_cons_of_pos (by simpa using blank), List.replicate_succ',
          List.append_assoc]

end Combination

/-! ## Statements -/

namespace Statement

/-- The number of set operations that put what was written before them in parentheses: those with an
operand that is not blank, if the dialect has set operations. -/
def enclosures (layout : Layout) : Statement → Nat
  | select frame _ _ operations =>
      if frame.dialect.supports .setOperations then
        (operationTexts layout operations).countP (·.2.trim ≠ [])
      else 0
  | _ => 0

theorem prefix_written {layout : Layout} (statement : Statement) {front : Text}
    (fragment : IsFragment front) (starts : front <+: layout.rawText statement.frame.raw) :
    List.replicate (statement.enclosures layout) '(' ++ front <+: statement.written layout := by
  have clauses : front <+:
      statement.frame.render layout statement.kind (statement.outline layout) :=
    starts.trans (List.prefix_append _ _)
  rw [written_eq_combined]
  cases statement with
  | select frame body queries operations =>
      rw [enclosures, combined]
      split
      · rw [Combination.render]
        exact (Combination.prefix_apply _ layout fragment clauses _ _).trans
          (List.prefix_append _ _)
      · exact clauses
  | _ => exact clauses

variable {statement : Statement} {acts : List Act}

/-- A statement that was given raw text starts with it, behind one opening parenthesis for each set
operation with an operand that is not blank. -/
theorem HasTaken.prefix_render (taken : statement.HasTaken acts)
    (nonempty : textsGiven [.raw] acts ≠ []) (layout : Layout) :
    let front := join (layout.space ++ layout.lineBreak) (textsGiven [.raw] acts).eraseDups
    List.replicate (statement.enclosures layout) '(' ++ front <+: statement.render layout ∧
      (front <+: statement.render layout ↔
        statement.enclosures layout = 0 ∨ ∀ c ∈ front, c = '(') := by
  intro front
  have fragments : ∀ text ∈ (textsGiven [.raw] acts).eraseDups, text.IsFragment :=
    fun text member => isFragment_of_mem_textsGiven text (List.mem_eraseDups.mp member)
  obtain ⟨text, member⟩ := List.exists_mem_of_ne_nil _ nonempty
  have left : (textsGiven [.raw] acts).eraseDups ≠ [] :=
    List.ne_nil_of_mem (List.mem_eraseDups.mpr member)
  have fragment : IsFragment front := isFragment_join left fragments
  have starts : front <+: layout.rawText statement.frame.raw := by
    rw [taken.raw_eq, layout.rawText_eq_followed fun text among => (fragments text among).ne_nil,
      followed_eq _ left]
    exact List.prefix_append _ _
  have whole : List.replicate (statement.enclosures layout) '(' ++ front <+:
      statement.render layout :=
    (fragment.closes.append _).prefix_trimEnd (statement.prefix_written fragment starts)
  refine ⟨whole, ?_⟩
  obtain ⟨rest, shape⟩ := whole
  rw [← shape]
  cases statement.enclosures layout with
  | zero =>
      rw [List.replicate_zero, List.nil_append]
      exact ⟨fun _ => .inl rfl, fun _ => List.prefix_append _ _⟩
  | succ count =>
      rw [prefix_replicate_append_iff]
      exact ⟨.inr, fun either => either.resolve_left (Nat.succ_ne_zero count)⟩

/-- Raw text at the start of two columns, and a union with them. -/
def remarks : List Act :=
  [⟨.select, [.value (.text "a".toList), .value (.text "b".toList)]⟩,
   ⟨.raw, [.value (.text " /* x */".toList), .value (.text "/* x */".toList)]⟩,
   ⟨.union, [.statement twoColumns]⟩]

/-- What such calls leave. -/
def remarked : Statement :=
  select { dialect := .generic, raw := ["/* x */".toList] }
    { columns := ["a".toList, "b".toList] } [] [(.union, .statement twoColumns)]

theorem hasTaken_remarks : remarked.HasTaken remarks := by
  have made : Request.create ⟨.select, [.value (.text "a".toList), .value (.text "b".toList)],
      .dialect .generic, []⟩ .builtIn = .ok twoColumns := rfl
  have first := (HasTaken.created made).called
    ⟨"raw".toList, [.value (.text " /* x */".toList), .value (.text "/* x */".toList)]⟩
    (by simp) (by simp)
  exact first.called ⟨"union".toList, [.statement twoColumns]⟩ (by simp)
    (by simp [reachable_twoColumns])

theorem prefix_render_remarked :
    remarked.HasTaken remarks ∧ "(/* x */".toList <+: remarked.render .compact ∧
      ¬"/* x */".toList <+: remarked.render .compact := by
  have given : textsGiven [.raw] remarks = ["/* x */".toList, "/* x */".toList] := by decide
  obtain ⟨starts, only⟩ :=
    hasTaken_remarks.prefix_render (given ▸ List.cons_ne_nil _ _) .compact
  rw [given] at starts only
  refine ⟨hasTaken_remarks, starts, fun impossible => ?_⟩
  rcases only.mp impossible with bare | parentheses
  · exact absurd bare (by decide)
  · exact absurd (parentheses '/' (by decide)) (by decide)

/-- A statement with raw text at its start need not start with it. -/
theorem not_prefix_render :
    ∃ statement acts, HasTaken statement acts ∧
      (textsGiven [.raw] acts).eraseDups = ["/* x */".toList] ∧
      statement.render .compact = "(/* x */ SELECT a, b) UNION (SELECT a, b)".toList ∧
      ¬"/* x */".toList <+: statement.render .compact :=
  ⟨remarked, remarks, hasTaken_remarks, by decide, by decide, by decide⟩

end Statement
end SqlText
