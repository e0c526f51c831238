import Mathlib.Data.List.DropRight
import SqlText.Text.Blank

/-!
# Trimming

A text is a blank text and what is left when it is trimmed at the start, and so at its end. So blank
characters around a text do not change its trimmed text, and nothing is left of a text exactly when
it is blank.

What is left of a text that is not blank is a *fragment*: it opens and closes with characters that
are not blank. Trimming leaves fragments alone.

A replacement of single characters commutes with trimming if it keeps the characters that are not
blank and makes blank texts of those that are (`trim_flatMap`).
-/

set_option autoImplicit false

namespace SqlText.Text

/-! ## Blank texts -/

@[simp]
theorem allBlank_nil : AllBlank [] := fun _ member => absurd member List.not_mem_nil

theorem allBlank_append_iff {first second : Text} :
    AllBlank (first ++ second) ↔ AllBlank first ∧ AllBlank second := by
  simp only [AllBlank, List.forall_mem_append]

theorem AllBlank.append {first second : Text} (blank : AllBlank first)
    (blank' : AllBlank second) : AllBlank (first ++ second) :=
  allBlank_append_iff.mpr ⟨blank, blank'⟩

/-! ## Blank characters around a text -/

theorem trimStart_append_left {front : Text} (blank : AllBlank front) (text : Text) :
    trimStart (front ++ text) = trimStart text := by
  exact List.dropWhile_append_of_pos blank

theorem trimEnd_append_right {back : Text} (blank : AllBlank back) (text : Text) :
    trimEnd (text ++ back) = trimEnd text := by
  have reversed : ∀ c ∈ back.reverse, isBlank c = true :=
    fun c member => blank c (List.mem_reverse.mp member)
  rw [trimEnd, List.reverse_append, List.dropWhile_append_of_pos reversed]
  rfl

/-- A text is its start, trimmed at the end, and a blank text. -/
theorem exists_eq_trimEnd (text : Text) :
    ∃ back, AllBlank back ∧ text = text.trimEnd ++ back := by
  refine ⟨(text.reverse.takeWhile isBlank).reverse, ?_, ?_⟩
  · intro c member
    exact List.mem_takeWhile_imp (List.mem_reverse.mp member)
  · rw [trimEnd, ← List.reverse_append, List.takeWhile_append_dropWhile, List.reverse_reverse]

theorem exists_eq_trimStart (text : Text) :
    ∃ front, AllBlank front ∧ text = front ++ text.trimStart := by
  refine ⟨text.takeWhile isBlank, ?_, ?_⟩
  · intro c member
    exact List.mem_takeWhile_imp member
  · exact (List.takeWhile_append_dropWhile ..).symm

theorem trim_append_left {front : Text} (blank : AllBlank front) (text : Text) :
    trim (front ++ text) = trim text := by
  rw [trim, trimStart_append_left blank, trim]

theorem trimStart_eq_nil_iff {text : Text} : text.trimStart = [] ↔ AllBlank text := by
  simp only [trimStart, List.dropWhile_eq_nil_iff, AllBlank]

theorem trimEnd_eq_nil_iff {text : Text} : text.trimEnd = [] ↔ AllBlank text :=
  List.rdropWhile_eq_nil_iff

theorem trimStart_append_of_not_blank {text : Text} (visible : ¬ AllBlank text) (back : Text) :
    trimStart (text ++ back) = trimStart text ++ back := by
  have left : text.trimStart ≠ [] := fun empty => visible (trimStart_eq_nil_iff.mp empty)
  rw [trimStart, List.dropWhile_append, if_neg]
  · rfl
  · simpa [trimStart] using left

theorem trimEnd_append_of_not_blank {text : Text} (visible : ¬ AllBlank text) (front : Text) :
    trimEnd (front ++ text) = front ++ trimEnd text := by
  have left : text.trimEnd ≠ [] := fun empty => visible (trimEnd_eq_nil_iff.mp empty)
  rw [trimEnd, List.reverse_append, List.dropWhile_append, if_neg, List.reverse_append,
    List.reverse_reverse]
  · rfl
  · simpa [trimEnd] using left

theorem trim_append_right {back : Text} (blank : AllBlank back) (text : Text) :
    trim (text ++ back) = trim text := by
  by_cases visible : AllBlank text
  · have whole : AllBlank (text ++ back) := visible.append blank
    rw [trim, trim, trimStart_eq_nil_iff.mpr visible, trimStart_eq_nil_iff.mpr whole]
  · rw [trim, trimStart_append_of_not_blank visible, trimEnd_append_right blank, trim]

/-- Nothing is left of a text exactly when it is blank. -/
theorem trim_eq_nil_iff {text : Text} : text.trim = [] ↔ AllBlank text := by
  rw [trim, trimEnd_eq_nil_iff]
  constructor
  · intro blank
    obtain ⟨front, frontBlank, opened⟩ := exists_eq_trimStart text
    rw [opened]
    exact frontBlank.append blank
  · intro blank
    rw [trimStart_eq_nil_iff.mpr blank]
    exact allBlank_nil

/-! ## Fragments -/

/-- A text whose first character is not blank. -/
def Opens (text : Text) : Prop := ∃ c rest, text = c :: rest ∧ isBlank c = false

/-- A text whose last character is not blank. -/
def Closes (text : Text) : Prop := ∃ rest c, text = rest ++ [c] ∧ isBlank c = false

theorem Opens.append {text : Text} (opens : Opens text) (back : Text) : Opens (text ++ back) := by
  obtain ⟨c, rest, rfl, visible⟩ := opens
  exact ⟨c, rest ++ back, rfl, visible⟩

theorem Closes.append {text : Text} (closes : Closes text) (front : Text) :
    Closes (front ++ text) := by
  obtain ⟨rest, c, rfl, visible⟩ := closes
  exact ⟨front ++ rest, c, (List.append_assoc ..).symm, visible⟩

theorem Opens.trimStart_eq {text : Text} (opens : Opens text) : text.trimStart = text := by
  obtain ⟨c, rest, rfl, visible⟩ := opens
  rw [trimStart, List.dropWhile_cons_of_neg (by simp [visible])]

theorem Closes.trimEnd_eq {text : Text} (closes : Closes text) : text.trimEnd = text := by
  obtain ⟨rest, c, rfl, visible⟩ := closes
  exact List.rdropWhile_concat_neg _ _ _ (by simp [visible])

/-- Only what is blank is removed behind a text that closes with a visible character. -/
theorem Closes.trimEnd_append {text back : Text} (closes : Closes text) (blank : AllBlank back) :
    (text ++ back).trimEnd = text := by
  rw [trimEnd_append_right blank, closes.trimEnd_eq]

/-- A text that opens and closes with characters that are not blank. -/
structure IsFragment (text : Text) : Prop where
  opens : Opens text
  closes : Closes text

theorem IsFragment.trim_eq {text : Text} (fragment : IsFragment text) : text.trim = text := by
  rw [trim, fragment.opens.trimStart_eq, fragment.closes.trimEnd_eq]

theorem IsFragment.ne_nil {text : Text} (fragment : IsFragment text) : text ≠ [] := by
  obtain ⟨c, rest, rfl, -⟩ := fragment.opens
  exact List.cons_ne_nil c rest

/-- Nothing is trimmed off a text in which no character is blank. -/
theorem trim_of_visible {text : Text} (visible : ∀ c ∈ text, isBlank c = false) :
    text.trim = text := by
  cases text with
  | nil => rfl
  | cons first rest =>
      have opens : Opens (first :: rest) := ⟨first, rest, rfl, visible first List.mem_cons_self⟩
      have closes : Closes (first :: rest) :=
        ⟨_, _, (List.dropLast_append_getLast (List.cons_ne_nil first rest)).symm,
          visible _ (List.getLast_mem _)⟩
      exact IsFragment.trim_eq ⟨opens, closes⟩

/-- The trimmed text around which blank characters stand. -/
theorem IsFragment.trim_append {text back : Text} (fragment : IsFragment text)
    (blank : AllBlank back) : (text ++ back).trim = text := by
  rw [trim_append_right blank, fragment.trim_eq]

theorem opens_trimStart {text : Text} (visible : text.trimStart ≠ []) : Opens text.trimStart := by
  induction text with
  | nil => exact absurd rfl visible
  | cons c rest ih =>
      by_cases blank : isBlank c = true
      · have same : trimStart (c :: rest) = trimStart rest := List.dropWhile_cons_of_pos blank
        rw [same] at visible ⊢
        exact ih visible
      · have same : trimStart (c :: rest) = c :: rest := List.dropWhile_cons_of_neg blank
        exact ⟨c, rest, same, Bool.eq_false_iff.mpr blank⟩

theorem closes_trimEnd {text : Text} (visible : text.trimEnd ≠ []) : Closes text.trimEnd := by
  induction text using List.reverseRecOn with
  | nil => exact absurd rfl visible
  | append_singleton rest c ih =>
      by_cases blank : isBlank c = true
      · have same : trimEnd (rest ++ [c]) = trimEnd rest :=
          List.rdropWhile_concat_pos _ _ _ blank
        rw [same] at visible ⊢
        exact ih visible
      · have same : trimEnd (rest ++ [c]) = rest ++ [c] :=
          List.rdropWhile_concat_neg _ _ _ blank
        exact ⟨rest, c, same, Bool.eq_false_iff.mpr blank⟩

/-- What is left of a text that is not blank is a fragment. -/
theorem isFragment_trim {text : Text} (visible : text.trim ≠ []) : IsFragment text.trim := by
  refine ⟨?_, closes_trimEnd visible⟩
  have left : text.trimStart ≠ [] := by
    intro empty
    rw [trim, empty] at visible
    exact visible rfl
  obtain ⟨c, rest, opened, first⟩ := opens_trimStart left
  obtain ⟨back, -, closed⟩ := exists_eq_trimEnd text.trimStart
  obtain ⟨d, others, shape⟩ := List.exists_cons_of_ne_nil visible
  rw [trim] at shape
  rw [shape, opened] at closed
  have same : c = d := (List.cons.inj closed).1
  exact ⟨d, others, shape, same ▸ first⟩

theorem trim_trim (text : Text) : text.trim.trim = text.trim := by
  by_cases empty : text.trim = []
  · rw [empty]
    rfl
  · exact (isFragment_trim empty).trim_eq

/-! ## Replacing characters -/

section Replacing

variable {replace : Char → Text}

theorem AllBlank.flatMap (blanks : ∀ c, isBlank c = true → AllBlank (replace c)) {text : Text}
    (blank : AllBlank text) : AllBlank (text.flatMap replace) := by
  intro d member
  obtain ⟨c, among, inside⟩ := List.mem_flatMap.mp member
  exact blanks c (blank c among) d inside

theorem Opens.flatMap (others : ∀ c, isBlank c = false → replace c = [c]) {text : Text}
    (opens : Opens text) : Opens (text.flatMap replace) := by
  obtain ⟨c, rest, rfl, visible⟩ := opens
  rw [List.flatMap_cons, others c visible]
  exact ⟨c, rest.flatMap replace, rfl, visible⟩

theorem Closes.flatMap (others : ∀ c, isBlank c = false → replace c = [c]) {text : Text}
    (closes : Closes text) : Closes (text.flatMap replace) := by
  obtain ⟨rest, c, rfl, visible⟩ := closes
  rw [List.flatMap_append, List.flatMap_singleton, others c visible]
  exact ⟨rest.flatMap replace, c, rfl, visible⟩

variable (blanks : ∀ c, isBlank c = true → AllBlank (replace c))
  (others : ∀ c, isBlank c = false → replace c = [c])
include blanks others

/-- Replacing blank characters by blank texts commutes with trimming at the end. -/
theorem trimEnd_flatMap (text : Text) :
    Text.trimEnd (text.flatMap replace) = text.trimEnd.flatMap replace := by
  obtain ⟨back, blank, whole⟩ := exists_eq_trimEnd text
  have split : text.flatMap replace = text.trimEnd.flatMap replace ++ back.flatMap replace := by
    conv_lhs => rw [whole]
    exact List.flatMap_append
  rw [split, trimEnd_append_right (blank.flatMap blanks)]
  by_cases visible : text.trimEnd = []
  · rw [visible]
    rfl
  · exact ((closes_trimEnd visible).flatMap others).trimEnd_eq

theorem trimStart_flatMap (text : Text) :
    Text.trimStart (text.flatMap replace) = text.trimStart.flatMap replace := by
  obtain ⟨front, blank, whole⟩ := exists_eq_trimStart text
  have split : text.flatMap replace = front.flatMap replace ++ text.trimStart.flatMap replace := by
    conv_lhs => rw [whole]
    exact List.flatMap_append
  rw [split, trimStart_append_left (blank.flatMap blanks)]
  by_cases visible : text.trimStart = []
  · rw [visible]
    rfl
  · exact ((opens_trimStart visible).flatMap others).trimStart_eq

/-- Replacing blank characters by blank texts commutes with trimming. -/
theorem trim_flatMap (text : Text) :
    Text.trim (text.flatMap replace) = text.trim.flatMap replace := by
  rw [trim, trimStart_flatMap blanks others, trimEnd_flatMap blanks others, trim]

end Replacing

end SqlText.Text
