import Mathlib.Data.List.Basic
import Mathlib.Data.List.ModifyLast
import SqlText.Proofs.Trimming
import SqlText.Text.Pieces

/-!
# Texts one after another

Texts that are not empty are joined to a text that is not empty, whatever stands between them. A
separated list with one more separator before it is the list of its texts with the separator before
each (`preceded`), so that texts can be added at its end. Fragments behind a fragment end with a
fragment.
-/

set_option autoImplicit false

namespace SqlText.Text

/-! ## Texts with a separator before each -/

/-- The texts one after another, each with the separator before it. -/
def preceded (separator : Text) (texts : List Text) : Text :=
  texts.flatMap (separator ++ ·)

@[simp]
theorem preceded_nil (separator : Text) : preceded separator [] = [] := rfl

theorem preceded_append (separator : Text) (first second : List Text) :
    preceded separator (first ++ second) = preceded separator first ++ preceded separator second :=
  List.flatMap_append

/-! ## Separated texts -/

/-- Separated texts are the first of them, and the others with the separator before each. -/
theorem join_cons (separator first : Text) (rest : List Text) :
    join separator (first :: rest) = first ++ preceded separator rest := by
  induction rest generalizing first with
  | nil => rw [join, List.intercalate_singleton, preceded_nil, List.append_nil]
  | cons second others ih =>
      rw [join, List.intercalate_cons_cons, ← join, ih second, preceded, preceded,
        List.flatMap_cons]
      simp only [List.append_assoc]

theorem join_cons_ne_nil {first : Text} (visible : first ≠ []) (separator : Text)
    (rest : List Text) : join separator (first :: rest) ≠ [] := by
  rw [join_cons]
  exact List.append_ne_nil_of_left_ne_nil visible _

/-- A separated list of texts that are not empty is empty only if there are none. -/
theorem join_eq_nil_iff {separator : Text} {texts : List Text}
    (visible : ∀ text ∈ texts, text ≠ []) : join separator texts = [] ↔ texts = [] := by
  cases texts with
  | nil => exact ⟨fun _ => rfl, fun _ => rfl⟩
  | cons first rest =>
      have head := visible first List.mem_cons_self
      constructor
      · intro empty
        exact absurd empty (join_cons_ne_nil head separator rest)
      · intro impossible
        cases impossible

/-- Texts that are not empty are all left when the empty ones are dropped. -/
theorem filter_ne_nil {texts : List Text} (visible : ∀ text ∈ texts, text ≠ []) :
    texts.filter (· ≠ []) = texts :=
  List.filter_eq_self.mpr fun text member => by simpa using visible text member

/-- Separated texts with one more separator at their start. -/
theorem append_join (separator : Text) {texts : List Text} (nonempty : texts ≠ []) :
    separator ++ join separator texts = preceded separator texts := by
  obtain ⟨first, rest, rfl⟩ := List.exists_cons_of_ne_nil nonempty
  rw [join_cons, preceded, preceded, List.flatMap_cons, List.append_assoc]

/-- Separated texts with one more separator at their end, and one at their start. -/
theorem append_join_append (separator : Text) {texts : List Text} (nonempty : texts ≠ []) :
    separator ++ (join separator texts ++ separator) =
      preceded separator texts ++ separator := by
  rw [← List.append_assoc, append_join separator nonempty]

/-! ## Separated texts in front of others -/

/-- The texts one after another, each with the separator behind it. -/
def followed (separator : Text) (texts : List Text) : Text :=
  texts.flatMap (· ++ separator)

/-- Separated texts on the two sides of one of them. -/
theorem join_append_cons (separator : Text) (front : List Text) (text : Text) (back : List Text) :
    join separator (front ++ text :: back) =
      followed separator front ++ text ++ preceded separator back := by
  induction front with
  | nil => exact join_cons separator text back
  | cons first rest ih =>
      rw [List.cons_append, join_cons, ← append_join separator (by simp), ih, followed, followed,
        List.flatMap_cons]
      simp only [List.append_assoc]

theorem join_concat (separator : Text) (front : List Text) (last : Text) :
    join separator (front ++ [last]) = followed separator front ++ last := by
  rw [join_append_cons, preceded_nil, List.append_nil]

/-- Texts with the separator behind each are separated texts with one more separator at their
end. -/
theorem followed_eq (separator : Text) {texts : List Text} (nonempty : texts ≠ []) :
    followed separator texts = join separator texts ++ separator := by
  obtain rfl | ⟨front, last, rfl⟩ := List.eq_nil_or_concat texts
  · exact absurd rfl nonempty
  · rw [List.concat_eq_append, join_concat, followed, List.flatMap_append, List.flatMap_singleton,
      ← followed, List.append_assoc]

theorem followed_append (separator : Text) (first second : List Text) :
    followed separator (first ++ second) = followed separator first ++ followed separator second :=
  List.flatMap_append

/-- Two separated lists that are not empty are one, with the separator between them. -/
theorem join_append (separator : Text) {first second : List Text} (nonempty : first ≠ [])
    (others : second ≠ []) :
    join separator (first ++ second) =
      join separator first ++ separator ++ join separator second := by
  obtain ⟨head, rest, rfl⟩ := List.exists_cons_of_ne_nil nonempty
  rw [List.cons_append, join_cons, join_cons, preceded_append, ← append_join separator others]
  simp only [List.append_assoc]

/-- A list of separated lists that are not empty is one separated list. -/
theorem join_map_join (separator : Text) {lists : List (List Text)}
    (nonempty : ∀ list ∈ lists, list ≠ []) :
    join separator (lists.map (join separator)) = join separator lists.flatten := by
  induction lists with
  | nil => rfl
  | cons first rest ih =>
      have shorter := ih fun list member => nonempty list (List.mem_cons_of_mem _ member)
      have head := nonempty first List.mem_cons_self
      cases rest with
      | nil => rw [List.map_singleton, List.flatten_singleton, join, List.intercalate_singleton]
      | cons second others =>
          have next := nonempty second (List.mem_cons_of_mem _ List.mem_cons_self)
          have left : (second :: others).flatten ≠ [] := by
            rw [List.flatten_cons]
            exact List.append_ne_nil_of_left_ne_nil next _
          rw [List.map_cons, List.flatten_cons, join_append separator head left, ← shorter,
            ← List.singleton_append, join_append separator (by simp) (by simp)]
          rw [join, List.intercalate_singleton]

/-- Separated lists, the empty ones left out, are one separated list. -/
theorem join_filter_map_join (separator : Text) {lists : List (List Text)}
    (visible : ∀ list ∈ lists, ∀ text ∈ list, text ≠ []) :
    join separator ((lists.map (join separator)).filter (· ≠ [])) =
      join separator lists.flatten := by
  have same : (lists.map (join separator)).filter (· ≠ []) =
      (lists.filter (· ≠ [])).map (join separator) := by
    rw [List.filter_map]
    congr 1
    refine List.filter_congr fun list member => ?_
    simp only [Function.comp_apply, ne_eq, join_eq_nil_iff (visible list member)]
  have nonempty : ∀ list ∈ lists.filter (· ≠ []), list ≠ [] := fun list member => by
    simpa using (List.mem_filter.mp member).2
  rw [same, join_map_join separator nonempty, List.flatten_filter_ne_nil]

/-- What is put before the first of separated texts is before them all. -/
theorem join_modifyHead (separator front : Text) {texts : List Text} (nonempty : texts ≠ []) :
    join separator (texts.modifyHead (front ++ ·)) = front ++ join separator texts := by
  obtain ⟨first, rest, rfl⟩ := List.exists_cons_of_ne_nil nonempty
  rw [List.modifyHead_cons, join_cons, join_cons, List.append_assoc]

/-- What is put behind the last of separated texts is behind them all. -/
theorem join_modifyLast (separator back : Text) {texts : List Text} (nonempty : texts ≠ []) :
    join separator (texts.modifyLast (· ++ back)) = join separator texts ++ back := by
  obtain rfl | ⟨front, last, rfl⟩ := List.eq_nil_or_concat texts
  · exact absurd rfl nonempty
  · rw [List.concat_eq_append, List.modifyLast_concat, join_concat, join_concat,
      List.append_assoc]

/-! ## Texts that close with a visible character -/

/-- Behind a text that closes with a visible character, texts that do so do so, too. -/
theorem Closes.append_flatMap {α : Type} {text : Text} (closes : Closes text) {items : List α}
    {write : α → Text} (others : ∀ item ∈ items, Closes (write item)) :
    Closes (text ++ items.flatMap write) := by
  induction items generalizing text with
  | nil => rwa [List.flatMap_nil, List.append_nil]
  | cons first rest ih =>
      have longer := (others first List.mem_cons_self).append text
      rw [List.flatMap_cons, ← List.append_assoc]
      exact ih longer fun item member => others item (List.mem_cons_of_mem _ member)

theorem Closes.append_preceded {text : Text} (closes : Closes text) (separator : Text)
    {texts : List Text} (fragments : ∀ other ∈ texts, IsFragment other) :
    Closes (text ++ preceded separator texts) :=
  closes.append_flatMap fun other member => (fragments other member).closes.append separator

theorem closes_join {separator : Text} {texts : List Text} (nonempty : texts ≠ [])
    (closes : ∀ text ∈ texts, Closes text) : Closes (join separator texts) := by
  obtain ⟨first, rest, rfl⟩ := List.exists_cons_of_ne_nil nonempty
  rw [join_cons]
  exact (closes first List.mem_cons_self).append_flatMap fun other member =>
    (closes other (List.mem_cons_of_mem _ member)).append separator

/-- Behind texts that close with visible characters, only the last separator is trimmed. -/
theorem trimEnd_followed {separator : Text} (blank : AllBlank separator) {texts : List Text}
    (closes : ∀ text ∈ texts, Closes text) :
    (followed separator texts).trimEnd = join separator texts := by
  by_cases isEmpty : texts = []
  · rw [isEmpty]
    rfl
  · rw [followed_eq separator isEmpty]
    exact (closes_join isEmpty closes).trimEnd_append blank

/-- Fragments behind a fragment end with a fragment. -/
theorem IsFragment.append_preceded {text : Text} (fragment : IsFragment text)
    (separator : Text) {texts : List Text} (fragments : ∀ other ∈ texts, IsFragment other) :
    IsFragment (text ++ preceded separator texts) :=
  ⟨fragment.opens.append _, fragment.closes.append_preceded separator fragments⟩

theorem isFragment_join {separator : Text} {texts : List Text} (nonempty : texts ≠ [])
    (fragments : ∀ text ∈ texts, IsFragment text) : IsFragment (join separator texts) := by
  obtain ⟨first, rest, rfl⟩ := List.exists_cons_of_ne_nil nonempty
  rw [join_cons]
  exact (fragments first List.mem_cons_self).append_preceded separator fun other member =>
    fragments other (List.mem_cons_of_mem _ member)

end SqlText.Text
