import SqlText.Proofs.Isolation.Copying

/-!
# Changes in a store

A change of one builder touches no other (`Store.Touches`): it keeps the builders at all other
places and adds some behind them. In a forest this is all that matters. A builder that nobody refers
to cannot be reached from another one, so that every other builder keeps its value
(`Store.Touches.value_eq`), while that of the changed one is what a call makes of it
(`Store.value_call`).
-/

set_option autoImplicit false

namespace SqlText

namespace Statement

/-- A source takes the place of another one, whatever has been put inside in between. -/
theorem put_source_absorb (inside : List (Held Statement)) (statement inner : Statement) :
    ((inside.filter fun held => !held.isSource).foldl put statement).put (.source inner) =
      (inside.foldl put statement).put (.source inner) := by
  have replaces (other : Statement) (old : Statement) :
      (other.put (.source old)).put (.source inner) = other.put (.source inner) := by
    cases other <;> rfl
  have commutes (other : Statement) {held : Held Statement} (different : held.isSource = false) :
      (other.put held).put (.source inner) = (other.put (.source inner)).put held := by
    cases held with
    | source => cases different
    | query | operation | entry => cases other <;> rfl
  induction inside using List.reverseRecOn with
  | nil => rfl
  | append_singleton rest last ih =>
      rw [List.filter_append, List.foldl_append, List.foldl_append]
      cases isSource : last.isSource with
      | true =>
          cases last with
          | source old =>
              rw [List.foldl_cons, List.foldl_nil, replaces, ← ih]
              rfl
          | query | operation | entry => cases isSource
      | false =>
          simp only [List.filter_cons, isSource, Bool.not_false, if_true, List.filter_nil,
            List.foldl_cons, List.foldl_nil]
          rw [commutes _ isSource, commutes _ isSource, ih]

end Statement

namespace Builder

theorem isSource_map {σ τ : Type} (stands : σ → τ) (held : Held σ) :
    (held.map stands).isSource = held.isSource := by
  cases held <;> rfl

/-- The value of a builder with one more thing inside. -/
theorem value_holding (builder : Builder) (held : Held Nat) (values : Nat → Statement) :
    (builder.holding held).value values = (builder.value values).put (held.map values) := by
  rw [value, value, holding, List.map_append, List.foldl_append]
  cases held with
  | source inner =>
      have mapped : (builder.inside.filter fun other => !other.isSource).map (Held.map values) =
          (builder.inside.map (Held.map values)).filter fun other => !other.isSource := by
        rw [List.filter_map]
        congr 2
        exact funext fun other => by rw [Function.comp, isSource_map]
      have absorbed := Statement.put_source_absorb (builder.inside.map (Held.map values))
        builder.own (values inner)
      rw [← mapped] at absorbed
      exact absorbed
  | query | operation | entry =>
      simp only [Held.isSource, Bool.false_and, Bool.not_false, List.filter_true]
      rfl

/-- A builder with one more thing inside refers to it, and to nothing else that it did not refer to
before. -/
theorem exists_places_holding (builder : Builder) (held : Held Nat) :
    ∃ kept, kept.Sublist builder.places ∧
      (builder.holding held).places = kept ++ held.statement?.toList := by
  refine ⟨(builder.inside.filter fun other => !(held.isSource && other.isSource)).filterMap
    Held.statement?, List.filter_sublist.filterMap _, ?_⟩
  rw [places, holding, List.filterMap_append, List.filterMap_cons, List.filterMap_nil]
  cases held.statement? <;> rfl

theorem mem_places_holding {builder : Builder} {held : Held Nat} {inner : Nat}
    (refers : inner ∈ (builder.holding held).places) :
    inner ∈ builder.places ∨ held.statement? = some inner := by
  obtain ⟨kept, sublist, shape⟩ := builder.exists_places_holding held
  rw [shape, List.mem_append, Option.mem_toList] at refers
  exact refers.imp_left fun old => sublist.subset old

end Builder

namespace Store

variable {store : Store} {place other : Nat}

/-! ## One builder changed -/

section Modify

variable (store) (change : Builder → Builder)

theorem length_modify (place : Nat) : (store.modify place change).length = store.length :=
  List.length_set

variable {store}

theorem entry_modify_self (inside : place < store.length) :
    (store.modify place change).entry place =
      { cell := store.cell place, inside := (change (store.builder place)).inside } := by
  rw [entry, List.getD_eq_getElem?_getD, modify, List.getElem?_set_self inside]
  rfl

theorem entry_modify_of_ne (different : other ≠ place) :
    (store.modify place change).entry other = store.entry other := by
  rw [entry, entry, List.getD_eq_getElem?_getD, List.getD_eq_getElem?_getD, modify,
    List.getElem?_set_ne different.symm, List.length_set]

/-- Every builder keeps its cell. -/
theorem cell_modify (inside : place < store.length) (other : Nat) :
    (store.modify place change).cell other = store.cell other := by
  by_cases same : other = place
  · have written := congrArg Entry.cell (entry_modify_self change inside)
    subst same
    exact written
  · exact congrArg Entry.cell (entry_modify_of_ne change same)

section Cells

variable (forest : store.IsForest) (inside : place < store.length)
include forest inside

theorem builder_modify_self :
    (store.modify place change).builder place = change (store.builder place) := by
  have written : (store.modify place change).cells[store.cell place]? =
      some (change (store.builder place)).own :=
    List.getElem?_set_self (forest.celled place inside)
  rw [builder, entry_modify_self change inside, read, List.getD_eq_getElem?_getD, written]
  rfl

/-- Another builder has another cell. -/
theorem builder_modify_of_ne (different : other ≠ place) :
    (store.modify place change).builder other = store.builder other := by
  by_cases there : other < store.length
  · have elsewhere : store.cell place ≠ store.cell other :=
      fun same => different (forest.alone place inside other there same).symm
    rw [builder, entry_modify_of_ne change different]
    exact read_congr (List.getElem?_set_ne elsewhere)
  · have outside := Nat.le_of_not_lt there
    rw [builder_of_le outside, builder_of_le (by rwa [length_modify])]

end Cells

variable {change}

/-- A changed builder may refer to what it did and to new places. -/
theorem IsForest.modify (forest : store.IsForest) (inside : place < store.length)
    (behind : ∀ inner ∈ (change (store.builder place)).places,
      place < inner ∧ inner < store.length)
    (once : (change (store.builder place)).places.Nodup)
    (apart : ∀ inner ∈ (change (store.builder place)).places, ∀ holder,
      inner ∈ store.places holder → holder = place)
    (bare : ∀ inner, Operand.statement inner ∉ (change (store.builder place)).own.operands) :
    (store.modify place change).IsForest := by
  have own := builder_modify_self change forest inside
  have others {holder : Nat} (different : holder ≠ place) :
      (store.modify place change).builder holder = store.builder holder :=
    builder_modify_of_ne change forest inside different
  have cells (holder : Nat) := cell_modify change inside holder
  constructor
  case behind =>
    intro holder inner refers
    rw [length_modify]
    by_cases same : holder = place
    · subst same
      rw [places, own] at refers
      exact behind inner refers
    · rw [places, others same] at refers
      exact forest.behind holder inner refers
  case once =>
    intro holder
    by_cases same : holder = place
    · subst same
      rwa [places, own]
    · rw [places, others same]
      exact forest.once holder
  case apart =>
    intro first second inner refers refersToo
    by_cases same : first = place <;> by_cases sameToo : second = place
    · rw [same, sameToo]
    · subst same
      rw [places, own] at refers
      rw [places, others sameToo] at refersToo
      exact (apart inner refers second refersToo).symm
    · subst sameToo
      rw [places, own] at refersToo
      rw [places, others same] at refers
      exact apart inner refersToo first refers
    · rw [places, others same] at refers
      rw [places, others sameToo] at refersToo
      exact forest.apart first second inner refers refersToo
  case bare =>
    intro holder inner
    by_cases same : holder = place
    · subst same
      rw [own]
      exact bare inner
    · rw [others same]
      exact forest.bare holder inner
  case celled =>
    intro holder there
    rw [length_modify] at there
    have count : (store.modify place change).cells.length = store.cells.length := List.length_set
    rw [cells, count]
    exact forest.celled holder there
  case alone =>
    intro first there second thereToo same
    rw [length_modify] at there thereToo
    rw [cells, cells] at same
    exact forest.alone first there second thereToo same

end Modify

/-! ## What a change touches -/

/-- After a change at a place, if there is one, everything is as it was but the builder there and
what is new. Nobody refers to what was there before, unless it did so before. -/
structure Touches (before after : Store) (place : Option Nat) : Prop where
  forest : after.IsForest
  longer : before.length ≤ after.length
  others : ∀ other < before.length, place ≠ some other →
    after.builder other = before.builder other
  roots : ∀ root < before.length, before.IsRoot root → after.IsRoot root
  fresh : ∀ holder, ∀ inner ∈ after.places holder,
    inner ∈ before.places holder ∨ before.length ≤ inner

namespace Touches

variable {before between after : Store} {touched : Option Nat}

theorem refl (forest : store.IsForest) (touched : Option Nat) : Touches store store touched :=
  ⟨forest, Nat.le_refl _, fun _ _ _ => rfl, fun _ _ root => root, fun _ _ refers => .inl refers⟩

/-- What touches nothing touches nothing else. -/
theorem of_none (touches : Touches before after none) (touched : Option Nat) :
    Touches before after touched :=
  { touches with others := fun other inside _ => touches.others other inside nofun }

theorem trans (first : Touches before between touched) (second : Touches between after touched) :
    Touches before after touched where
  forest := second.forest
  longer := first.longer.trans second.longer
  others other inside different :=
    (second.others other (inside.trans_le first.longer) different).trans
      (first.others other inside different)
  roots root inside free :=
    second.roots root (inside.trans_le first.longer) (first.roots root inside free)
  fresh holder inner refers :=
    (second.fresh holder inner refers).elim (first.fresh holder inner)
      fun later => .inr (first.longer.trans later)

/-- A builder that nobody refers to can be changed without another one taking notice. -/
theorem value_eq (touches : Touches before after touched) (forest : before.IsForest)
    (root : ∀ place, touched = some place → before.IsRoot place) (inside : other < before.length)
    (different : touched ≠ some other) : after.value other = before.value other := by
  refine value_congr forest touches.forest inside fun inner reached => ?_
  refine touches.others inner (le_of_mem_reached forest reached).2 fun same => ?_
  have further : inner ≠ other := fun equal => different (equal ▸ same)
  obtain ⟨holder, -, refers⟩ := exists_of_mem_reached forest reached further
  exact root inner same holder refers

/-- A builder that is referred to, and one whose cell is also that of another, cannot. -/
example :
    let query := (Statement.empty .select .generic).edit .select ["a".toList]
    let change (builder : Builder) : Builder :=
      { builder with own := builder.own.addRaw ["x".toList] }
    let referring : Store :=
      ⟨[{ cell := 0, inside := [.operation .union (.statement 1)] }, { cell := 1 }], [query, query]⟩
    let common : Store := ⟨[{ cell := 0 }, { cell := 0 }], [query]⟩
    ((referring.modify 1 change).value 0).text = "(SELECT a) UNION (x SELECT a)".toList ∧
      ((common.modify 1 change).value 0).text = "x SELECT a".toList :=
  ⟨rfl, rfl⟩

theorem copied (forest : store.IsForest) (root : Nat) (touched : Option Nat) :
    Touches store (store.copied root) touched where
  forest := forest.copied root
  longer := by
    rw [length_copied]
    exact Nat.le_add_right _ _
  others other inside _ := builder_copied_of_lt forest root inside
  roots other inside free := IsRoot.copied forest free inside
  fresh holder inner refers := by
    rcases mem_places_copied forest refers with
      ⟨-, old, -⟩ | ⟨origin, -, held, -, -, -, rfl⟩
    · exact .inl old
    · exact .inr (le_copyPlace store root held)

end Touches

section InPlace

variable (forest : store.IsForest) (inside : place < store.length)
include forest inside

omit inside in
/-- What stands behind a changed builder keeps its value. -/
theorem value_modify_behind {change : Builder → Builder}
    (changed : (store.modify place change).IsForest) (behind : place < other)
    (there : other < store.length) :
    (store.modify place change).value other = store.value other := by
  refine value_congr forest changed there fun inner reached => ?_
  have later := (le_of_mem_reached forest reached).1
  exact builder_modify_of_ne change forest (behind.trans there) (by omega)

/-- So the value of a changed builder is read off the old values. -/
theorem value_modify_self {change : Builder → Builder}
    (changed : (store.modify place change).IsForest) :
    (store.modify place change).value place = (change (store.builder place)).value store.value := by
  rw [Store.value_eq changed, builder_modify_self change forest inside]
  refine Builder.value_congr fun inner refers => ?_
  have own : (store.modify place change).places place = (change (store.builder place)).places := by
    rw [places, builder_modify_self change forest inside]
  have behind := changed.behind place inner (own ▸ refers)
  rw [length_modify] at behind
  exact value_modify_behind forest changed behind.1 behind.2

/-! ## Changes of the own clauses -/

section Own

variable (edit : Statement → Statement)
variable (keeps : ∀ inner,
  Operand.statement inner ∈ (edit (store.builder place).own).operands →
    Operand.statement inner ∈ (store.builder place).own.operands)
include keeps

omit keeps in
/-- A builder whose own clauses are changed refers to what it did. -/
theorem places_own (holder : Nat) :
    (store.modify place fun builder => { builder with own := edit builder.own }).places holder =
      store.places holder := by
  by_cases same : holder = place
  · subst same
    rw [places, builder_modify_self _ forest inside]
    rfl
  · rw [places, builder_modify_of_ne _ forest inside same, places]

theorem touches_own :
    Touches store (store.modify place fun builder => { builder with own := edit builder.own })
      (some place) where
  forest := forest.modify inside (forest.behind place) (forest.once place)
    (fun inner refers holder refersToo => forest.apart holder place inner refersToo refers)
    fun inner member => forest.bare place inner (keeps inner member)
  longer := (length_modify store _ place).ge
  others other _ different :=
    builder_modify_of_ne _ forest inside fun same => different (congrArg some same.symm)
  roots root _ free holder := by
    rw [places_own forest inside]
    exact free holder
  fresh holder inner refers := by
    rw [places_own forest inside] at refers
    exact .inl refers

theorem value_own :
    (store.modify place fun builder => { builder with own := edit builder.own }).value place =
      ((store.builder place).inside.map (Held.map store.value)).foldl Statement.put
        (edit (store.builder place).own) :=
  value_modify_self forest inside (touches_own forest inside edit keeps).forest

end Own

/-! ## Something put inside -/

section Holding

variable {held : Held Nat}
variable (fresh : ∀ inner, held.statement? = some inner →
  place < inner ∧ inner < store.length ∧ store.IsRoot inner)
include fresh

theorem IsForest.holding : (store.modify place (Builder.holding held)).IsForest := by
  refine forest.modify inside (fun inner refers => ?_) ?_ (fun inner refers holder refersToo => ?_)
    (forest.bare place)
  · rcases Builder.mem_places_holding refers with old | new
    · exact forest.behind place inner old
    · exact ⟨(fresh inner new).1, (fresh inner new).2.1⟩
  · obtain ⟨kept, sublist, shape⟩ := Builder.exists_places_holding (store.builder place) held
    rw [shape]
    refine List.nodup_append.mpr ⟨(forest.once place).sublist sublist, ?_, ?_⟩
    · cases held.statement? <;> simp
    · rintro first old second new rfl
      rw [Option.mem_toList] at new
      exact (fresh first new).2.2 place (sublist.subset old)
  · rcases Builder.mem_places_holding refers with old | new
    · exact forest.apart holder place inner refersToo old
    · exact absurd refersToo ((fresh inner new).2.2 holder)

omit fresh in
/-- A reference after something has been put inside a builder is an old one, or to this. -/
theorem mem_places_modify_holding {holder inner : Nat}
    (refers : inner ∈ (store.modify place (Builder.holding held)).places holder) :
    inner ∈ store.places holder ∨ held.statement? = some inner := by
  by_cases same : holder = place
  · subst same
    rw [places, builder_modify_self _ forest inside] at refers
    exact Builder.mem_places_holding refers
  · rw [places, builder_modify_of_ne _ forest inside same] at refers
    exact .inl refers

omit fresh in
theorem isRoot_holding {root : Nat} (free : store.IsRoot root)
    (different : held.statement? ≠ some root) :
    (store.modify place (Builder.holding held)).IsRoot root := fun holder refers =>
  (mem_places_modify_holding forest inside refers).elim (free holder) different

theorem value_modify_holding :
    (store.modify place (Builder.holding held)).value place =
      (store.value place).put (held.map store.value) := by
  rw [value_modify_self forest inside (forest.holding inside fresh), Builder.value_holding,
    ← Store.value_eq forest]

end Holding

section Hold

variable {held : Held Nat} (there : ∀ inner, held.statement? = some inner → inner < store.length)
include there

omit forest inside there in
theorem hold_of_none (refers : held.statement? = none) :
    store.hold place held = store.modify place (Builder.holding held) := by
  rw [hold, refers]

omit forest inside there in
theorem hold_of_some {inner : Nat} (refers : held.statement? = some inner) :
    store.hold place held =
      (store.copied inner).modify place (Builder.holding (held.map (store.copyPlace inner))) := by
  rw [hold, refers]

omit there in
/-- The copy of what is put inside a builder is fresh. -/
theorem fresh_copyPlace {inner : Nat} (refers : held.statement? = some inner)
    (found : inner < store.length) :
    ∀ other, (held.map (store.copyPlace inner)).statement? = some other →
      place < other ∧ other < (store.copied inner).length ∧ (store.copied inner).IsRoot other := by
  intro other refersToo
  rw [Held.statement?_map, refers] at refersToo
  cases refersToo
  exact ⟨inside.trans_le (le_copyPlace store inner inner),
    copyPlace_lt forest (mem_reached_self forest found), isRoot_copyPlace forest found⟩

omit inside there forest in
theorem fresh_of_none (refers : held.statement? = none) :
    ∀ inner, held.statement? = some inner →
      place < inner ∧ inner < store.length ∧ store.IsRoot inner := by
  rw [refers]
  exact nofun

theorem touches_hold : Touches store (store.hold place held) (some place) := by
  cases refers : held.statement? with
  | none =>
      rw [hold_of_none refers]
      exact
        { forest := forest.holding inside (fresh_of_none refers)
          longer := (length_modify store _ place).ge
          others := fun other _ different =>
            builder_modify_of_ne _ forest inside fun same => different (congrArg some same.symm)
          roots := fun root _ free =>
            isRoot_holding forest inside free
              (by rw [refers]; exact Option.some_ne_none root |>.symm)
          fresh := fun holder inner found => .inl <|
            (mem_places_modify_holding forest inside found).resolve_right (by rw [refers]; nofun) }
  | some inner =>
      rw [hold_of_some refers]
      have found := there inner refers
      have copied := Touches.copied forest inner (some place)
      have insideToo := inside.trans_le copied.longer
      have above {root : Nat}
          (same : (held.map (store.copyPlace inner)).statement? = some root) :
          store.length ≤ root := by
        rw [Held.statement?_map, refers] at same
        cases same
        exact le_copyPlace store inner inner
      exact
        { forest := copied.forest.holding insideToo (fresh_copyPlace forest inside refers found)
          longer := copied.longer.trans (length_modify _ _ place).ge
          others := fun other old different =>
            (builder_modify_of_ne _ copied.forest insideToo
              fun same => different (congrArg some same.symm)).trans
              (copied.others other old different)
          roots := fun root old free =>
            isRoot_holding copied.forest insideToo (copied.roots root old free) fun same =>
              absurd old (Nat.not_lt.mpr (above same))
          fresh := fun holder root found =>
            (mem_places_modify_holding copied.forest insideToo found).elim
              (copied.fresh holder root) fun same => .inr (above same) }

/-- The value of a builder that something has been put inside of. -/
theorem value_hold :
    (store.hold place held).value place = (store.value place).put (held.map store.value) := by
  cases refers : held.statement? with
  | none =>
      rw [hold_of_none refers, value_modify_holding forest inside (fresh_of_none refers)]
  | some inner =>
      have found := there inner refers
      have copied := Touches.copied forest inner (some place)
      rw [hold_of_some refers, value_modify_holding copied.forest
        (inside.trans_le copied.longer) (fresh_copyPlace forest inside refers found),
        value_copied_of_lt forest inner inside, Held.map_map]
      congr 1
      refine Held.map_congr fun other refersToo => ?_
      rw [refers] at refersToo
      cases refersToo
      exact value_copyPlace forest (mem_reached_self forest found)

end Hold

/-! ## Calls -/

section Call

variable {method : Method} {arguments : List Argument} {operands : List (Option (Operand Nat))}
variable (given : (store.builder place).own.takesEach method = false →
  operands.map (Option.map (Operand.map store.value)) = arguments.map Argument.operand?)
variable (there : ∀ operand inner, some operand ∈ operands → operand.statement? = some inner →
  inner < store.length)
include given there

omit forest inside there in
/-- A call puts the same inside a builder and inside its value. -/
theorem held?_eq_map :
    Statement.held? (store.builder place).own.kind method arguments =
      (Held.ofCall? (store.builder place).own.kind method (fragments arguments) operands).map
        (Held.map store.value) := by
  cases each : (store.builder place).own.takesEach method with
  | true =>
      rw [Statement.outside_of_takesEach each, Statement.ofCall?_of_takesEach each]
      rfl
  | false => rw [Statement.held?, ← given each, Held.ofCall?_map]

theorem touches_call :
    Touches store (store.call place method arguments operands) (some place) := by
  have same := held?_eq_map given
  rw [call]
  cases puts : Held.ofCall? (store.builder place).own.kind method (fragments arguments)
      operands with
  | none =>
      rw [puts] at same
      exact touches_own forest inside (·.leftBy method arguments) fun inner =>
        Statement.mem_operands_leftBy same
  | some held =>
      simp only
      split
      · exact touches_hold forest inside fun inner refers =>
          have ⟨operand, among, stands⟩ := Held.exists_of_ofCall? puts refers
          there operand inner among stands
      · exact .refl forest _

/-- A call makes of the value of a builder what it would make of the value by itself. -/
theorem value_call :
    (store.call place method arguments operands).value place =
      (store.value place).leftBy method arguments := by
  have same := held?_eq_map given
  have whole : store.value place = ((store.builder place).inside.map
      (Held.map store.value)).foldl Statement.put (store.builder place).own :=
    Store.value_eq forest place
  have kinds : (store.value place).kind = (store.builder place).own.kind := by
    rw [whole, Statement.kind_foldl_put]
  rw [call]
  cases puts : Held.ofCall? (store.builder place).own.kind method (fragments arguments)
      operands with
  | none =>
      rw [puts] at same
      rw [whole, Statement.leftBy_foldl_put _ same]
      exact value_own forest inside (·.leftBy method arguments) fun inner =>
        Statement.mem_operands_leftBy same
  | some held =>
      rw [puts] at same
      have silent := Statement.writes_of_held? same
      have decided : ((store.value place).perform method arguments).isOk =
          ((store.builder place).own.perform method arguments).isOk := by
        rw [whole, Statement.isOk_perform_foldl_put _ silent]
      rw [Statement.leftBy_of_held? (by rw [kinds, same]; rfl), decided]
      simp only
      split
      · exact value_hold forest inside fun inner refers =>
          have ⟨operand, among, stands⟩ := Held.exists_of_ofCall? puts refers
          there operand inner among stands
      · rfl

end Call

/-! ## Another dialect -/

theorem touches_rededicate (dialect : Dialect) :
    Touches store (store.rededicate place dialect) (some place) :=
  touches_own forest inside (·.withDialect dialect) fun inner member => by
    rwa [Statement.withDialect, Statement.operands_withFrame] at member

theorem value_rededicate (dialect : Dialect) :
    (store.rededicate place dialect).value place = (store.value place).withDialect dialect := by
  have whole : store.value place = ((store.builder place).inside.map
      (Held.map store.value)).foldl Statement.put (store.builder place).own :=
    Store.value_eq forest place
  rw [whole, Statement.withDialect_foldl_put]
  exact value_own forest inside (·.withDialect dialect) fun inner member => by
    rwa [Statement.withDialect, Statement.operands_withFrame] at member

end InPlace

/-! ## A new builder -/

section New

variable {statement : Statement}

theorem length_made : (store.made statement).length = store.length + 1 :=
  List.length_append

theorem entry_made_length :
    (store.made statement).entry store.length = { cell := store.cells.length } := by
  have here : (store.made statement).entries[store.length]? = some { cell := store.cells.length } :=
    List.getElem?_concat_length
  rw [entry, List.getD_eq_getElem?_getD, here]
  rfl

theorem builder_made_length :
    (store.made statement).builder store.length = { own := statement } := by
  have there : (store.made statement).cells[store.cells.length]? = some statement :=
    List.getElem?_concat_length
  rw [builder, entry_made_length, read, List.getD_eq_getElem?_getD, there]
  rfl

variable (forest : store.IsForest)
include forest

theorem builder_made_of_lt (inside : place < store.length) :
    (store.made statement).builder place = store.builder place :=
  builder_extended forest inside

/-- A new builder refers to nothing. -/
theorem places_made (holder : Nat) :
    (store.made statement).places holder = store.places holder := by
  rcases Nat.lt_trichotomy holder store.length with inside | rfl | outside
  · rw [places, builder_made_of_lt forest inside, places]
  · rw [places_of_le (Nat.le_refl _), places, builder_made_length]
    rfl
  · rw [places_of_le outside.le, places_of_le (by rwa [length_made])]

theorem isRoot_made_length : (store.made statement).IsRoot store.length := fun holder refers => by
  rw [places_made forest] at refers
  exact absurd (forest.behind holder _ refers).2 (Nat.lt_irrefl _)

variable (bare : ∀ inner, Operand.statement inner ∉ statement.operands)
include bare

theorem IsForest.made : (store.made statement).IsForest where
  behind holder inner refers := by
    rw [places_made forest] at refers
    rw [length_made]
    have behind := forest.behind holder inner refers
    exact ⟨behind.1, Nat.lt_add_right _ behind.2⟩
  once holder := by
    rw [places_made forest]
    exact forest.once holder
  apart first second inner refers refersToo := by
    rw [places_made forest] at refers refersToo
    exact forest.apart first second inner refers refersToo
  bare holder inner := by
    rcases Nat.lt_trichotomy holder store.length with inside | rfl | outside
    · rw [builder_made_of_lt forest inside]
      exact forest.bare holder inner
    · rw [builder_made_length]
      exact bare inner
    · rw [builder_of_le (by rwa [length_made])]
      exact List.not_mem_nil
  celled place inside := by
    have count : (store.made statement).cells.length = store.cells.length + 1 := List.length_append
    rw [length_made] at inside
    rcases Nat.lt_succ_iff_lt_or_eq.mp inside with old | rfl
    · have kept : (store.made statement).cell place = store.cell place := cell_extended old
      have there := forest.celled place old
      omega
    · rw [cell, entry_made_length, count]
      exact Nat.lt_succ_self _
  alone first inside second insideToo same := by
    have kept {place : Nat} (old : place < store.length) :
        (store.made statement).cell place = store.cell place := cell_extended old
    have new : (store.made statement).cell store.length = store.cells.length :=
      congrArg Entry.cell entry_made_length
    rw [length_made] at inside insideToo
    rcases Nat.lt_succ_iff_lt_or_eq.mp inside with old | rfl <;>
      rcases Nat.lt_succ_iff_lt_or_eq.mp insideToo with oldToo | rfl
    · rw [kept old, kept oldToo] at same
      exact forest.alone first old second oldToo same
    · have there := forest.celled first old
      rw [kept old, new] at same
      omega
    · have there := forest.celled second oldToo
      rw [kept oldToo, new] at same
      omega
    · rfl

theorem touches_made (touched : Option Nat) :
    Touches store (store.made statement) touched where
  forest := forest.made bare
  longer := by
    rw [length_made]
    exact Nat.le_succ _
  others other inside _ := builder_made_of_lt forest inside
  roots root _ free holder := by
    rw [places_made forest]
    exact free holder
  fresh holder inner refers := by
    rw [places_made forest] at refers
    exact .inl refers

theorem value_made_length :
    (store.made statement).value store.length = statement := by
  rw [value_eq (forest.made bare), builder_made_length]
  rfl

end New

end Store
end SqlText
