import Mathlib.Data.List.Nodup
import SqlText.Proofs.Isolation.Reading

/-!
# Copies

A copy stands behind everything that there was before, and so does everything that can be reached
from it (`Store.le_copyPlace`). It has the value of what it was copied from
(`Store.value_copyPlace`), and the store is still a forest, in which nobody refers to the copy
(`Store.IsForest.copied`, `Store.isRoot_copyPlace`).
-/

set_option autoImplicit false

namespace SqlText

namespace Builder

theorem places_renamed (rename : Nat → Nat) (builder : Builder) :
    (builder.renamed rename).places = builder.places.map rename := by
  rw [places, renamed, List.filterMap_map, places, List.map_filterMap]
  exact congrArg (fun find => List.filterMap find builder.inside)
    (funext fun held => Held.statement?_map rename held)

/-- A builder that refers to other places has the value that it had if the builders there have. -/
theorem value_renamed (rename : Nat → Nat) (builder : Builder) (values : Nat → Statement) :
    (builder.renamed rename).value values = builder.value (values ∘ rename) := by
  rw [value, renamed, List.map_map, value]
  congr 1
  exact List.map_congr_left fun held _ => Held.map_map rename values held

end Builder

namespace Store

variable {store : Store} {root place other : Nat}

/-! ## What a copy meets -/

section Met

variable (forest : store.IsForest)
include forest

theorem mem_met : place ∈ store.met root ↔ place ∈ store.reached root := by
  rw [met, List.mem_filter, List.mem_range, decide_eq_true_eq]
  exact ⟨And.right, fun reached => ⟨(le_of_mem_reached forest reached).2, reached⟩⟩

omit forest in
/-- A copy meets places in their order. -/
theorem pairwise_met (store : Store) (root : Nat) : (store.met root).Pairwise (· < ·) :=
  List.pairwise_lt_range.filter _

omit forest in
theorem length_copied (store : Store) (root : Nat) :
    (store.copied root).length = store.length + (store.met root).length := by
  rw [length, copied, List.length_append, List.length_map, length]

omit forest in
theorem le_copyPlace (store : Store) (root place : Nat) :
    store.length ≤ store.copyPlace root place :=
  Nat.le_add_right _ _

theorem copyPlace_lt (reached : place ∈ store.reached root) :
    store.copyPlace root place < (store.copied root).length := by
  rw [length_copied, copyPlace]
  exact Nat.add_lt_add_left (List.idxOf_lt_length_of_mem ((mem_met forest).mpr reached)) _

/-- The places of the copies are in the order of what is copied. -/
theorem copyPlace_lt_copyPlace (first : place ∈ store.reached root)
    (second : other ∈ store.reached root) (before : place < other) :
    store.copyPlace root place < store.copyPlace root other := by
  have met := (mem_met forest).mpr first
  have metToo := (mem_met forest).mpr second
  refine Nat.add_lt_add_left (Nat.lt_of_not_le fun after => ?_) _
  have index := List.idxOf_lt_length_of_mem met
  have indexToo := List.idxOf_lt_length_of_mem metToo
  rcases Nat.lt_or_eq_of_le after with less | equal
  · have ordered := List.pairwise_iff_getElem.mp (pairwise_met store root) _ _ indexToo index less
    rw [List.getElem_idxOf, List.getElem_idxOf] at ordered
    omega
  · have same := List.idxOf_inj metToo |>.mp equal
    omega

theorem copyPlace_inj (first : place ∈ store.reached root) (second : other ∈ store.reached root)
    (same : store.copyPlace root place = store.copyPlace root other) : place = other := by
  rcases Nat.lt_trichotomy place other with before | equal | after
  · have less := copyPlace_lt_copyPlace forest first second before
    omega
  · exact equal
  · have less := copyPlace_lt_copyPlace forest second first after
    omega

end Met

/-! ## The builders after a copy -/

section Extended

variable {entries : List Entry} {cells : List Statement}

/-- What is added behind leaves the objects before as they are. -/
theorem entry_extended (inside : place < store.length) :
    entry ⟨store.entries ++ entries, store.cells ++ cells⟩ place = store.entry place := by
  have here : (store.entries ++ entries)[place]? = some (store.entry place) :=
    (List.getElem?_append_left inside).trans (entry_of_lt inside)
  rw [entry, List.getD_eq_getElem?_getD, here]
  rfl

theorem cell_extended (inside : place < store.length) :
    cell ⟨store.entries ++ entries, store.cells ++ cells⟩ place = store.cell place :=
  congrArg Entry.cell (entry_extended inside)

theorem builder_extended (forest : store.IsForest) (inside : place < store.length) :
    builder ⟨store.entries ++ entries, store.cells ++ cells⟩ place = store.builder place := by
  rw [builder, entry_extended inside]
  exact read_congr (List.getElem?_append_left (forest.celled place inside))

end Extended

theorem builder_copied_of_lt (forest : store.IsForest) (root : Nat)
    (inside : place < store.length) :
    (store.copied root).builder place = store.builder place :=
  builder_extended forest inside

/-- What is added behind for something met stands where its place and its cell say. -/
theorem getElem?_append_map_met {α : Type} (forest : store.IsForest) (old : List α)
    (new : Nat → α) (reached : place ∈ store.reached root) :
    (old ++ (store.met root).map new)[old.length + (store.met root).idxOf place]? =
      some (new place) := by
  have met := (mem_met forest).mpr reached
  rw [List.getElem?_append_right (Nat.le_add_right _ _), Nat.add_sub_cancel_left,
    List.getElem?_map, List.getElem?_eq_getElem (List.idxOf_lt_length_of_mem met),
    List.getElem_idxOf]
  rfl

theorem entry_copyPlace (forest : store.IsForest) (reached : place ∈ store.reached root) :
    (store.copied root).entry (store.copyPlace root place) = store.copyEntry root place := by
  have here : (store.copied root).entries[store.copyPlace root place]? =
      some (store.copyEntry root place) :=
    getElem?_append_map_met forest store.entries (store.copyEntry root) reached
  rw [entry, List.getD_eq_getElem?_getD, here]
  rfl

theorem cell_copyPlace (forest : store.IsForest) (reached : place ∈ store.reached root) :
    (store.copied root).cell (store.copyPlace root place) =
      store.cells.length + (store.met root).idxOf place :=
  congrArg Entry.cell (entry_copyPlace forest reached)

theorem builder_copyPlace (forest : store.IsForest) (reached : place ∈ store.reached root) :
    (store.copied root).builder (store.copyPlace root place) =
      (store.builder place).renamed (store.copyPlace root) := by
  have there : (store.copied root).cells[(store.copyEntry root place).cell]? =
      some (store.builder place).own :=
    getElem?_append_map_met forest store.cells (fun other => (store.builder other).own) reached
  rw [builder, entry_copyPlace forest reached, read, List.getD_eq_getElem?_getD, there]
  rfl

/-- After a copy a builder is an old one, or a copy of something reached, or there is none. -/
theorem copied_cases (forest : store.IsForest) (root place : Nat) :
    place < store.length ∨
      (∃ origin ∈ store.reached root, place = store.copyPlace root origin) ∨
        (store.copied root).length ≤ place := by
  by_cases old : place < store.length
  · exact .inl old
  · by_cases inside : place < (store.copied root).length
    · refine .inr (.inl ?_)
      rw [length_copied] at inside
      have index : place - store.length < (store.met root).length := by omega
      refine ⟨(store.met root)[place - store.length], (mem_met forest).mp
        (List.getElem_mem index), ?_⟩
      have unique : (store.met root).Nodup :=
        (pairwise_met store root).imp fun before => Nat.ne_of_lt before
      rw [copyPlace, unique.idxOf_getElem]
      omega
    · exact .inr (.inr (Nat.le_of_not_lt inside))

/-! ## The store after a copy -/

section Copied

variable (forest : store.IsForest)
include forest

theorem places_copyPlace (reached : place ∈ store.reached root) :
    (store.copied root).places (store.copyPlace root place) =
      (store.places place).map (store.copyPlace root) := by
  rw [places, builder_copyPlace forest reached, Builder.places_renamed, places]

/-- A reference after a copy is an old one, or that of a copy to a copy. -/
theorem mem_places_copied {holder inner : Nat}
    (refers : inner ∈ (store.copied root).places holder) :
    (holder < store.length ∧ inner ∈ store.places holder ∧ inner < store.length) ∨
      ∃ origin ∈ store.reached root, ∃ held ∈ store.places origin,
        held ∈ store.reached root ∧ holder = store.copyPlace root origin ∧
          inner = store.copyPlace root held := by
  rcases copied_cases forest root holder with old | ⟨origin, reached, rfl⟩ | outside
  · rw [places, builder_copied_of_lt forest root old] at refers
    exact .inl ⟨old, refers, (forest.behind holder inner refers).2⟩
  · rw [places_copyPlace forest reached] at refers
    obtain ⟨held, member, rfl⟩ := List.mem_map.mp refers
    exact .inr ⟨origin, reached, held, member, mem_reached_trans forest reached
      (mem_reached_of_mem_places forest member), rfl, rfl⟩
  · rw [places_of_le outside] at refers
    cases refers

theorem IsForest.copied (root : Nat) : (store.copied root).IsForest where
  behind holder inner refers := by
    rcases mem_places_copied forest refers with
      ⟨old, held, inside⟩ | ⟨origin, reached, held, member, reachedToo, rfl, rfl⟩
    · have longer := length_copied store root
      have behind := forest.behind holder inner held
      omega
    · exact ⟨copyPlace_lt_copyPlace forest reached reachedToo (forest.behind _ _ member).1,
        copyPlace_lt forest reachedToo⟩
  once holder := by
    rcases copied_cases forest root holder with old | ⟨origin, reached, rfl⟩ | outside
    · rw [places, builder_copied_of_lt forest root old]
      exact forest.once holder
    · rw [places_copyPlace forest reached]
      refine List.Nodup.map_on (fun first refers second refersToo same => ?_) (forest.once origin)
      have inside {held : Nat} (member : held ∈ store.places origin) :
          held ∈ store.reached root :=
        mem_reached_trans forest reached (mem_reached_of_mem_places forest member)
      exact copyPlace_inj forest (inside refers) (inside refersToo) same
    · rw [places_of_le outside]
      exact List.nodup_nil
  apart first second inner refers refersToo := by
    have above := le_copyPlace store root
    rcases mem_places_copied forest refers with
        ⟨old, held, inside⟩ | ⟨origin, reached, held, member, heldReached, rfl, rfl⟩ <;>
      rcases mem_places_copied forest refersToo with
        ⟨oldToo, heldToo, insideToo⟩ |
          ⟨other, otherReached, heldToo, memberToo, reachedToo, rfl, same⟩
    · exact forest.apart first second inner held heldToo
    · have new := above heldToo
      omega
    · have new := above held
      omega
    · obtain rfl := copyPlace_inj forest heldReached reachedToo same
      rw [forest.apart origin other held member memberToo]
  bare holder inner := by
    rcases copied_cases forest root holder with old | ⟨origin, reached, rfl⟩ | outside
    · rw [builder_copied_of_lt forest root old]
      exact forest.bare holder inner
    · rw [builder_copyPlace forest reached]
      exact forest.bare origin inner
    · rw [builder_of_le outside]
      exact List.not_mem_nil
  celled place inside := by
    have count : (store.copied root).cells.length = store.cells.length + (store.met root).length :=
      (List.length_append ..).trans (congrArg _ (List.length_map _))
    rcases copied_cases forest root place with old | ⟨origin, reached, rfl⟩ | outside
    · have kept : (store.copied root).cell place = store.cell place := cell_extended old
      have there := forest.celled place old
      omega
    · have index := List.idxOf_lt_length_of_mem ((mem_met forest).mpr reached)
      rw [cell_copyPlace forest reached]
      omega
    · omega
  alone first inside second insideToo same := by
    have kept {place : Nat} (old : place < store.length) :
        (store.copied root).cell place = store.cell place := cell_extended old
    rcases copied_cases forest root first with old | ⟨origin, reached, rfl⟩ | outside <;>
      rcases copied_cases forest root second with oldToo | ⟨other, reachedToo, rfl⟩ | outsideToo
    · rw [kept old, kept oldToo] at same
      exact forest.alone first old second oldToo same
    · have there := forest.celled first old
      rw [kept old, cell_copyPlace forest reachedToo] at same
      omega
    · omega
    · have there := forest.celled second oldToo
      rw [kept oldToo, cell_copyPlace forest reached] at same
      omega
    · rw [cell_copyPlace forest reached, cell_copyPlace forest reachedToo] at same
      rw [copyPlace, copyPlace]
      omega
    · omega
    all_goals omega

/-- A copy has the value of what it was copied from. -/
theorem value_copyPlace (reached : place ∈ store.reached root) :
    (store.copied root).value (store.copyPlace root place) = store.value place := by
  induction place using forest.induct with
  | step place ih =>
      rw [value_eq (forest.copied root), builder_copyPlace forest reached, Builder.value_renamed,
        value_eq forest]
      refine Builder.value_congr fun inner refers => ?_
      exact ih inner refers
        (mem_reached_trans forest reached (mem_reached_of_mem_places forest refers))

/-- What was there before a copy keeps its value. -/
theorem value_copied_of_lt (root : Nat) (inside : place < store.length) :
    (store.copied root).value place = store.value place :=
  value_congr forest (forest.copied root) inside fun _ reached =>
    builder_copied_of_lt forest root (le_of_mem_reached forest reached).2

/-- Nobody refers to a copy. -/
theorem isRoot_copyPlace (inside : root < store.length) :
    (store.copied root).IsRoot (store.copyPlace root root) := by
  intro holder refers
  rcases mem_places_copied forest refers with
    ⟨-, -, inside⟩ | ⟨origin, reached, held, member, heldReached, rfl, same⟩
  · have above := le_copyPlace store root root
    omega
  · obtain rfl := copyPlace_inj forest (mem_reached_self forest inside) heldReached same
    have behind := forest.behind _ _ member
    have after := le_of_mem_reached forest reached
    omega

/-- Nobody refers to an old builder who has not done so before. -/
theorem IsRoot.copied (free : store.IsRoot place) (inside : place < store.length) :
    (store.copied root).IsRoot place := by
  intro holder refers
  rcases mem_places_copied forest refers with
    ⟨-, held, -⟩ | ⟨origin, reached, held, member, heldReached, rfl, same⟩
  · exact free holder held
  · have above := le_copyPlace store root held
    omega

end Copied

end Store
end SqlText
