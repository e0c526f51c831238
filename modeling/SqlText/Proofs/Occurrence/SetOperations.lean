import SqlText.Proofs.Combining
import SqlText.Proofs.Occurrence.Basic

/-!
# What set operations carry

Set operations lose nothing, whatever the layout. What the text before them carries is carried by
the text behind them (`Combination.carries_render`), and for each kind the raw text before it, its
operands and the raw text after it stand there in this order (`Combination.carries_kind`).

The raw text before a kind goes into the left side of its first operation, and the raw text after
it comes behind its last one. So the induction is on the operations, with what is carried already
in front.
-/

set_option autoImplicit false

namespace SqlText

open Text

variable {κ : Type} [DecidableEq κ]

theorem Layout.carries_combined (layout : Layout) (keyword : Text) {left right : Text}
    {fragments others : List Text} (first : Carries left fragments)
    (second : Carries right others) :
    Carries (layout.combined keyword left right) (fragments ++ others) := by
  rw [combined]
  split
  · rename_i empty
    rw [empty] at first
    exact layout.carries_terminated (first.append second)
  · split
    · rename_i empty
      rw [empty] at second
      have whole := first.append second
      rw [List.append_nil] at whole
      exact layout.carries_terminated whole
    · have before := ((first.enclosed layout.terminator).append_right keyword).append_right
        layout.space
      rw [List.append_assoc]
      exact before.append (second.enclosed layout.terminator)

namespace Combination

variable {combination : Combination κ} (layout : Layout)

/-- The operands of one kind, trimmed, in their order. -/
def operandsOf (key : κ) (operations : List (κ × Text)) : List Text :=
  (operations.filter (·.1 = key)).map (·.2.trim)

theorem operandsOf_cons_self (key : κ) (operand : Text) (rest : List (κ × Text)) :
    operandsOf key ((key, operand) :: rest) = operand.trim :: operandsOf key rest := by
  rw [operandsOf, List.filter_cons_of_pos (by simp), List.map_cons, ← operandsOf]

theorem operandsOf_cons_of_ne {key other : κ} (different : other ≠ key) (operand : Text)
    (rest : List (κ × Text)) :
    operandsOf key ((other, operand) :: rest) = operandsOf key rest := by
  rw [operandsOf, List.filter_cons_of_neg (by simpa using different), ← operandsOf]

theorem operandsOf_eq_nil {key : κ} {operations : List (κ × Text)}
    (unused : key ∉ operations.map Prod.fst) : operandsOf key operations = [] := by
  rw [operandsOf, List.map_eq_nil_iff, List.filter_eq_nil_iff]
  intro operation member same
  have key' : operation.1 = key := by simpa using same
  exact unused (key' ▸ List.mem_map_of_mem member)

theorem opening_of_mem {earlier : List κ} {key : κ} (again : key ∈ earlier) :
    combination.opening earlier key = [] := if_pos again

theorem opening_cons_of_ne {key other : κ} (different : other ≠ key) (earlier : List κ) :
    combination.opening (other :: earlier) key = combination.opening earlier key := by
  have same : key ∈ other :: earlier ↔ key ∈ earlier := by
    rw [List.mem_cons, or_iff_right (Ne.symm different)]
  rw [opening, opening, if_congr same rfl rfl]

section Steps

variable (kept : combination.IsKept) {text : Text} {fragments : List Text}
  (values : ∀ fragment ∈ fragments, IsValue fragment) (carries : Carries text fragments)
include kept values carries

theorem carries_leftSide (earlier : List κ) (key : κ) :
    Carries (combination.leftSide layout earlier text key)
      (fragments ++ combination.opening earlier key) := by
  have trimmed := carries.trim values
  rw [leftSide]
  by_cases again : key ∈ earlier
  · rwa [if_pos again, opening_of_mem again, List.append_nil]
  · rw [if_neg again]
    have raw : Carries (join layout.space (combination.before key))
        (combination.opening earlier key) := by
      rw [opening, if_neg again]
      exact Carries.join_self layout.space (combination.before key)
    have whole := trimmed.append (raw.append_left layout.space)
    have opened : ∀ text ∈ combination.opening earlier key, IsValue text :=
      fun text member => .inr (kept.opening earlier key text member)
    rw [← List.append_assoc] at whole
    exact whole.trim (List.forall_mem_append.mpr ⟨values, opened⟩)

/-- One operation adds its operand, and the raw text of its kind where it is the first or the last
of its kind. -/
theorem carries_step (earlier later : List κ) (key : κ) (operand : Text) :
    Carries (combination.step layout earlier later text key operand)
      (fragments ++ combination.opening earlier key ++ [operand.trim] ++
        combination.ending later key) := by
  have left := carries_leftSide layout kept values carries earlier key
  have both := layout.carries_combined (combination.keyword key) left (.self operand.trim)
  rw [step, ending]
  split
  · rwa [List.append_nil]
  · exact both.append (layout.carries_rawText _)

/-- Operations keep what there was before. -/
theorem carries_apply (earlier : List κ) (operations : List (κ × Text)) :
    Carries (combination.apply layout earlier text operations) fragments := by
  induction operations generalizing text earlier with
  | nil => exact carries
  | cons first rest ih =>
      have stepped := carries_step layout kept values carries earlier (rest.map Prod.fst) first.1
        first.2
      rw [List.append_assoc, List.append_assoc] at stepped
      exact ih (stepped.sublist (List.sublist_append_left _ _)) (first.1 :: earlier)

/-- Operations add, for a kind among them, its raw text and its operands. -/
theorem carries_apply_kind (earlier : List κ) {operations : List (κ × Text)} {key : κ}
    (used : key ∈ operations.map Prod.fst) :
    Carries (combination.apply layout earlier text operations)
      (fragments ++ combination.opening earlier key ++ operandsOf key operations ++
        combination.after key) := by
  induction operations generalizing text fragments earlier with
  | nil => cases used
  | cons first rest ih =>
      obtain ⟨other, operand⟩ := first
      have stepped := carries_step layout kept values carries earlier (rest.map Prod.fst) other
        operand
      rw [apply]
      by_cases same : other = key
      · subst same
        rw [operandsOf_cons_self]
        have opened : ∀ text ∈ combination.opening earlier other, IsValue text :=
          fun text member => .inr (kept.opening earlier other text member)
        have values' : ∀ fragment ∈ fragments ++ combination.opening earlier other ++
            [operand.trim], IsValue fragment := by
          refine List.forall_mem_append.mpr ⟨List.forall_mem_append.mpr ⟨values, opened⟩, ?_⟩
          exact List.forall_mem_singleton.mpr (isValue_trim operand)
        -- The raw text after the kind is still to come unless this is its last operation.
        by_cases again : other ∈ rest.map Prod.fst
        · rw [ending, if_pos again, List.append_nil] at stepped
          have behind := ih values' stepped (other :: earlier) again
          rw [opening_of_mem List.mem_cons_self] at behind
          simpa only [List.append_assoc, List.append_nil, List.singleton_append] using behind
        · rw [ending, if_neg again] at stepped
          rw [operandsOf_eq_nil again]
          have values'' := List.forall_mem_append.mpr
            ⟨values', fun text member => .inr (kept.after other text member)⟩
          exact carries_apply layout kept values'' stepped (other :: earlier) rest
      · rw [operandsOf_cons_of_ne same]
        rw [List.append_assoc, List.append_assoc] at stepped
        have before := stepped.sublist (List.sublist_append_left _ _)
        have used' : key ∈ rest.map Prod.fst :=
          (List.mem_cons.mp used).resolve_left fun equal => same equal.symm
        have behind := ih values before (other :: earlier) used'
        rwa [opening_cons_of_ne same] at behind

/-- What the text before the operations carries is not lost. -/
theorem carries_render (keys : List κ) (operations : List (κ × Text)) :
    Carries (combination.render layout keys text operations) fragments :=
  (carries_apply layout kept values carries [] operations).append_right _

end Steps

/-- For each kind the raw text before it, its operands and the raw text after it stand in the
combination in this order. -/
theorem carries_kind (kept : combination.IsKept) {keys : List κ} {key : κ} (known : key ∈ keys)
    (text : Text) (operations : List (κ × Text)) :
    Carries (combination.render layout keys text operations)
      (combination.before key ++ operandsOf key operations ++ combination.after key) := by
  rw [render]
  by_cases used : key ∈ operations.map Prod.fst
  · have noText : ∀ fragment ∈ ([] : List Text), IsValue fragment :=
      fun _ member => absurd member List.not_mem_nil
    have whole := carries_apply_kind layout kept noText (.nil text) [] used
    exact whole.append_right _
  · obtain ⟨front, back, rfl⟩ := List.append_of_mem known
    rw [List.flatMap_append, List.flatMap_cons, operandsOf_eq_nil used]
    have raw := layout.carries_wrapped (combination.before key) (combination.after key)
      (.nil [])
    rw [unused, if_neg used]
    exact ((raw.append_right _).append_left _).append_left _

end Combination
end SqlText
