import SqlText.Proofs.Isolation.Putting

/-!
# Reading a store

A store is a forest when every builder refers to places behind its own, no place is referred to
twice, no builder keeps a statement inside it as a value, and each one has a cell of its own
(`Store.IsForest`). Then the value of a builder is that of its own clauses and of the builders that
it refers to (`Store.value_eq`), and depends on nothing but what can be reached from it
(`Store.value_congr`). From two builders that nobody refers to neither a builder nor a cell can be
reached in common (`Store.reached_apart`, `Store.cells_apart`): they share nothing that could be
changed.
-/

set_option autoImplicit false

namespace SqlText

namespace Builder

theorem mem_places {builder : Builder} {place : Nat} :
    place ∈ builder.places ↔ ∃ held ∈ builder.inside, held.statement? = some place :=
  List.mem_filterMap

/-- The value depends on the values of those that the builder refers to. -/
theorem value_congr {builder : Builder} {values other : Nat → Statement}
    (same : ∀ place ∈ builder.places, values place = other place) :
    builder.value values = builder.value other := by
  rw [value, value]
  congr 1
  refine List.map_congr_left fun held member => Held.map_congr fun place refers => ?_
  exact same place (mem_places.mpr ⟨held, member, refers⟩)

end Builder

namespace Store

variable {store : Store} {place : Nat}

/-! ## Builders by their places -/

theorem entry_of_lt (inside : place < store.length) :
    store.entries[place]? = some (store.entry place) := by
  rw [entry, List.getD_eq_getElem?_getD, List.getElem?_eq_getElem inside]
  rfl

theorem builder_of_lt (inside : place < store.length) :
    (store.entries.map store.read)[place]? = some (store.builder place) := by
  rw [List.getElem?_map, entry_of_lt inside]
  rfl

theorem builder_of_le (outside : store.length ≤ place) :
    store.builder place = { own := nothing } := by
  rw [builder, entry, List.getD_eq_getElem?_getD, List.getElem?_eq_none outside, read,
    List.getD_eq_getElem?_getD, List.getElem?_eq_none]
  · rfl
  · exact Nat.le_refl _

theorem places_of_le (outside : store.length ≤ place) : store.places place = [] := by
  rw [places, builder_of_le outside]
  rfl

/-- Only builders that are there refer to places. -/
theorem lt_of_mem_places {inner : Nat} (refers : inner ∈ store.places place) :
    place < store.length := by
  by_contra outside
  rw [places_of_le (Nat.le_of_not_lt outside)] at refers
  cases refers

/-- What is read off an object depends on its cell alone. -/
theorem read_congr {other : Store} {entry : Entry}
    (same : other.cells[entry.cell]? = store.cells[entry.cell]?) :
    other.read entry = store.read entry := by
  rw [read, read, List.getD_eq_getElem?_getD, List.getD_eq_getElem?_getD, same]

/-! ## Visits -/

section Visits

variable {α : Type} (visit : Nat → Builder → (Nat → α) → α) (missing : α)

theorem length_visits (first : Nat) (builders : List Builder) :
    (visits visit missing first builders).length = builders.length := by
  induction builders generalizing first with
  | nil => rfl
  | cons builder rest ih => simp only [visits, List.length_cons, ih]

theorem getElem?_visits {index : Nat} {builder : Builder} {builders : List Builder} (first : Nat)
    (here : builders[index]? = some builder) :
    (visits visit missing first builders)[index]? =
      some (visit (first + index) builder fun place =>
        if first + index < place then
          (visits visit missing first builders).getD (place - first) missing
        else missing) := by
  induction builders generalizing first index with
  | nil => cases here
  | cons head rest ih =>
      have behind {place : Nat} (later : first < place) :
          (visits visit missing first (head :: rest)).getD (place - first) missing =
            (visits visit missing (first + 1) rest).getD (place - (first + 1)) missing := by
        have shape : place - first = (place - (first + 1)) + 1 := by omega
        rw [shape, visits, List.getD_cons_succ]
      cases index with
      | zero =>
          cases here
          refine congrArg (fun found => some (visit first builder found)) (funext fun place => ?_)
          by_cases later : first < place
          · simp only [later, Nat.add_zero, if_true, behind]
          · simp only [later, Nat.add_zero, if_false]
      | succ index =>
          have shift : first + 1 + index = first + (index + 1) := by omega
          refine (ih (first + 1) here).trans ?_
          rw [shift]
          refine congrArg (fun found => some (visit (first + (index + 1)) builder found))
            (funext fun place => ?_)
          split
          · exact (behind (by omega)).symm
          · rfl

theorem visited_eq (inside : place < store.length) :
    store.visited visit missing place =
      visit place (store.builder place) fun other =>
        if place < other then store.visited visit missing other else missing := by
  have found := getElem?_visits visit missing 0 (builder_of_lt inside)
  rw [visited, List.getD_eq_getElem?_getD, found]
  simp only [Nat.zero_add, Nat.sub_zero, Option.getD_some]
  rfl

theorem visited_of_le (outside : store.length ≤ place) :
    store.visited visit missing place = missing := by
  rw [visited, List.getD_eq_getElem?_getD, List.getElem?_eq_none]
  · rfl
  · rwa [length_visits, List.length_map]

end Visits

/-! ## Forests -/

/-- Every builder refers to places behind its own, no place is referred to twice, and what is inside
a builder is referred to and not kept in it. No two builders have a cell in common. -/
structure IsForest (store : Store) : Prop where
  behind : ∀ place, ∀ inner ∈ store.places place, place < inner ∧ inner < store.length
  once : ∀ place, (store.places place).Nodup
  apart : ∀ first second inner, inner ∈ store.places first → inner ∈ store.places second →
    first = second
  bare : ∀ place inner, Operand.statement inner ∉ (store.builder place).own.operands
  celled : ∀ place < store.length, store.cell place < store.cells.length
  alone : ∀ first < store.length, ∀ second < store.length,
    store.cell first = store.cell second → first = second

/-- What holds of a place if it holds of those that are referred to from there holds of all. -/
theorem IsForest.induct (forest : store.IsForest) {holds : Nat → Prop}
    (step : ∀ place, (∀ inner ∈ store.places place, holds inner) → holds place) (place : Nat) :
    holds place := by
  induction left : store.length - place using Nat.strong_induction_on generalizing place with
  | _ left' ih =>
      subst left
      refine step place fun inner refers => ?_
      have behind := forest.behind place inner refers
      exact ih _ (by omega) inner rfl

section Local

variable {α : Type} {visit : Nat → Builder → (Nat → α) → α} {missing : α}
variable (looks : ∀ place (builder : Builder) (found other : Nat → α),
  (∀ inner ∈ builder.places, found inner = other inner) →
    visit place builder found = visit place builder other)
include looks

/-- What a visit finds that looks at nothing but what a builder refers to. -/
theorem visited_of_isForest (forest : store.IsForest) (inside : place < store.length) :
    store.visited visit missing place =
      visit place (store.builder place) (store.visited visit missing) := by
  rw [visited_eq visit missing inside]
  refine looks _ _ _ _ fun inner refers => ?_
  rw [if_pos (forest.behind place inner refers).1]

end Local

theorem value_eq (forest : store.IsForest) (place : Nat) :
    store.value place = (store.builder place).value store.value := by
  by_cases inside : place < store.length
  · exact visited_of_isForest (fun _ _ _ _ same => Builder.value_congr same) forest inside
  · have outside := Nat.le_of_not_lt inside
    rw [builder_of_le outside]
    exact visited_of_le _ _ outside

theorem reached_eq (forest : store.IsForest) (inside : place < store.length) :
    store.reached place = place :: (store.places place).flatMap store.reached :=
  visited_of_isForest
    (fun place _ _ _ same => congrArg (place :: ·) (List.flatMap_congr same)) forest inside

/-! ## What can be reached -/

theorem reached_of_le (outside : store.length ≤ place) : store.reached place = [] :=
  visited_of_le _ _ outside

theorem mem_reached_iff (forest : store.IsForest) (inside : place < store.length) {other : Nat} :
    other ∈ store.reached place ↔
      other = place ∨ ∃ inner ∈ store.places place, other ∈ store.reached inner := by
  rw [reached_eq forest inside, List.mem_cons, List.mem_flatMap]

theorem mem_reached_self (forest : store.IsForest) (inside : place < store.length) :
    place ∈ store.reached place :=
  (mem_reached_iff forest inside).mpr (.inl rfl)

theorem lt_of_mem_reached {other : Nat} (reached : other ∈ store.reached place) :
    place < store.length := by
  by_contra outside
  rw [reached_of_le (Nat.le_of_not_lt outside)] at reached
  cases reached

/-- What can be reached from a place is there, and stands behind it. -/
theorem le_of_mem_reached (forest : store.IsForest) {other : Nat}
    (reached : other ∈ store.reached place) : place ≤ other ∧ other < store.length := by
  induction place using forest.induct with
  | step place ih =>
      have inside := lt_of_mem_reached reached
      rcases (mem_reached_iff forest inside).mp reached with rfl | ⟨inner, refers, further⟩
      · exact ⟨Nat.le_refl _, inside⟩
      · have behind := forest.behind place inner refers
        have later := ih inner refers further
        omega

theorem mem_reached_trans (forest : store.IsForest) {between other : Nat}
    (first : between ∈ store.reached place) (second : other ∈ store.reached between) :
    other ∈ store.reached place := by
  induction place using forest.induct with
  | step place ih =>
      have inside := lt_of_mem_reached first
      rcases (mem_reached_iff forest inside).mp first with rfl | ⟨inner, refers, further⟩
      · exact second
      · exact (mem_reached_iff forest inside).mpr (.inr ⟨inner, refers, ih inner refers further⟩)

/-- What is referred to from a place can be reached from there. -/
theorem mem_reached_of_mem_places (forest : store.IsForest) {inner : Nat}
    (refers : inner ∈ store.places place) : inner ∈ store.reached place :=
  (mem_reached_iff forest (lt_of_mem_places refers)).mpr
    (.inr ⟨inner, refers, mem_reached_self forest (forest.behind place inner refers).2⟩)

/-- What can be reached, and is not where one starts, is referred to from something reached. -/
theorem exists_of_mem_reached (forest : store.IsForest) {other : Nat}
    (reached : other ∈ store.reached place) (further : other ≠ place) :
    ∃ holder ∈ store.reached place, other ∈ store.places holder := by
  induction place using forest.induct with
  | step place ih =>
      have inside := lt_of_mem_reached reached
      rcases (mem_reached_iff forest inside).mp reached with same | ⟨inner, refers, later⟩
      · exact absurd same further
      · by_cases direct : other = inner
        · exact ⟨place, mem_reached_self forest inside, direct ▸ refers⟩
        · obtain ⟨holder, found, holds⟩ := ih inner refers later direct
          exact ⟨holder, mem_reached_trans forest (mem_reached_of_mem_places forest refers) found,
            holds⟩

/-- Nobody refers to a place. -/
def IsRoot (store : Store) (place : Nat) : Prop := ∀ holder, place ∉ store.places holder

/-- From two builders that nobody refers to nothing can be reached in common. -/
theorem reached_apart (forest : store.IsForest) {first second other : Nat}
    (firstRoot : store.IsRoot first) (secondRoot : store.IsRoot second)
    (different : first ≠ second) (found : other ∈ store.reached first) :
    other ∉ store.reached second := by
  intro foundToo
  induction other using Nat.strong_induction_on with
  | _ other ih =>
      have further : other ≠ first := by
        rintro rfl
        obtain ⟨holder, -, holds⟩ := exists_of_mem_reached forest foundToo different
        exact firstRoot holder holds
      have furtherToo : other ≠ second := by
        rintro rfl
        obtain ⟨holder, -, holds⟩ := exists_of_mem_reached forest found further
        exact secondRoot holder holds
      obtain ⟨holder, foundHolder, holds⟩ := exists_of_mem_reached forest found further
      obtain ⟨other', foundOther, holdsToo⟩ := exists_of_mem_reached forest foundToo furtherToo
      obtain rfl := forest.apart holder other' other holds holdsToo
      exact ih holder (forest.behind holder other holds).1 foundHolder foundOther

/-- So none of their cells is the same either. -/
theorem cells_apart (forest : store.IsForest) {first second inner further : Nat}
    (firstRoot : store.IsRoot first) (secondRoot : store.IsRoot second)
    (different : first ≠ second) (found : inner ∈ store.reached first)
    (foundToo : further ∈ store.reached second) :
    inner ≠ further ∧ store.cell inner ≠ store.cell further := by
  have elsewhere : inner ≠ further := by
    rintro rfl
    exact reached_apart forest firstRoot secondRoot different found foundToo
  exact ⟨elsewhere, fun same => elsewhere (forest.alone inner (le_of_mem_reached forest found).2
    further (le_of_mem_reached forest foundToo).2 same)⟩

/-! ## The same in another store -/

section Congr

variable {other : Store} (forest : store.IsForest) (forestToo : other.IsForest)
include forest forestToo

/-- A value depends only on the builders that can be reached. -/
theorem value_congr (inside : place < store.length)
    (same : ∀ inner ∈ store.reached place, other.builder inner = store.builder inner) :
    other.value place = store.value place := by
  induction place using forest.induct with
  | step place ih =>
      rw [value_eq forestToo, value_eq forest, same place (mem_reached_self forest inside)]
      refine Builder.value_congr fun inner refers => ?_
      refine ih inner refers (forest.behind place inner refers).2 fun later found => ?_
      exact same later
        (mem_reached_trans forest (mem_reached_of_mem_places forest refers) found)

end Congr

end Store
end SqlText
