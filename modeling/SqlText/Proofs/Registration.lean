import SqlText.Dialect.Registry

/-!
# Dialects that are registered

A registration changes what some keys lead to and nothing else. The keys of its aliases lead to its
name, and whatever leads to its name in lower case finds its dialect; all other keys find what they
found before (`Registry.find?_add`).

A registry that comes about by registrations is closed (`Registry.IsClosed`): every dialect stands
under its own name, and every alias leads to a dialect. So a key that does not find the dialect of
a registration finds another one or none, and never the same one in another way.

What is asked for is trimmed, but what is registered is not, and an alias goes before a name. So the
dialect of a registration is found under each of its aliases that is trimmed, and under its name
where that is trimmed and no other dialect has the name for an alias
(`Registry.resolve_registered`).

A source is looked up under few keys (`DialectSource.keys`): a name under its own and, where that
finds nothing, under the one of its engine. A registration that is about none of them
(`Registry.Concerns`) changes neither the dialect that is found nor the failure, whatever the
engines are called (`Registry.resolveBy_add`).
-/

set_option autoImplicit false

namespace SqlText

/-- A dialect to register, by its name and its features, and aliases of its name. -/
structure Registration where
  name : Text
  features : List Feature
  aliases : List Text

namespace Registration

/-- The dialect that is registered. -/
def dialect (given : Registration) : Dialect := ⟨.text given.name, given.features⟩

/-- The keys of the aliases. -/
def aliasKeys (given : Registration) : List Text := given.aliases.map Text.lower

end Registration

namespace Registry

/-- The registry after a registration. -/
def add (registry : Registry) (given : Registration) : Registry :=
  registry.register given.name given.features given.aliases

/-- The registry after registrations, one after another. -/
def after (registry : Registry) (history : List Registration) : Registry :=
  history.foldl add registry

/-- The name in lower case that a key leads to: that of a dialect for an alias, and else the key
itself. -/
def target (registry : Registry) (key : Text) : Text := (registry.aliases.lookup key).getD key

variable {registry : Registry} {given : Registration} {sought : Text}

/-! ## One registration -/

theorem lookup_aliases (aliases : List Text) (name sought : Text) (known : List (Text × Text)) :
    (aliases.foldl (fun known other => (other.lower, name) :: known) known).lookup sought =
      if sought ∈ aliases.map Text.lower then some name else known.lookup sought := by
  induction aliases generalizing known with
  | nil => rfl
  | cons first rest ih =>
      rw [List.foldl_cons, ih, List.map_cons]
      by_cases later : sought ∈ rest.map Text.lower
      · rw [if_pos later, if_pos (List.mem_cons_of_mem _ later)]
      · rw [if_neg later, List.lookup_cons]
        by_cases here : sought = first.lower
        · simp [here]
        · simp [beq_false_of_ne here, here, later]

theorem target_add :
    (registry.add given).target sought =
      if sought ∈ given.aliasKeys then given.name.lower else registry.target sought := by
  rw [target, add, register, lookup_aliases, ← Registration.aliasKeys]
  by_cases among : sought ∈ given.aliasKeys
  · rw [if_pos among, if_pos among, Option.getD_some]
  · rw [if_neg among, if_neg among, target]

/-- A registration is found by the keys of its aliases and by what leads to its name. What other
keys find it leaves as it was. -/
theorem find?_add :
    (registry.add given).find? sought =
      if sought ∈ given.aliasKeys ∨ registry.target sought = given.name.lower then
        some given.dialect
      else registry.find? sought := by
  have leads : (registry.add given).find? sought =
      (registry.add given).dialects.lookup ((registry.add given).target sought) := rfl
  rw [leads, target_add, add, register, List.lookup_cons]
  by_cases among : sought ∈ given.aliasKeys
  · simp [among, Registration.dialect]
  · by_cases name : registry.target sought = given.name.lower
    · simp [among, name, Registration.dialect]
    · simp only [among, name, if_false, or_self, beq_false_of_ne name]
      rfl

/-! ## Registries that come about -/

/-- A registry in which every dialect stands under its own name, and every alias leads to a
dialect. -/
structure IsClosed (registry : Registry) : Prop where
  named : ∀ entry ∈ registry.dialects,
    ∃ name : Text, entry.2.name = .text name ∧ entry.1 = name.lower
  led : ∀ entry ∈ registry.aliases, entry.2 ∈ registry.dialects.map Prod.fst

theorem isClosed_builtIn : IsClosed builtIn where
  named := by
    intro entry member
    simp only [builtIn, List.map_cons, List.map_nil, List.mem_cons, List.not_mem_nil,
      or_false] at member
    rcases member with rfl | rfl | rfl | rfl | rfl
    · exact ⟨"generic".toList, rfl, rfl⟩
    · exact ⟨"standard".toList, rfl, rfl⟩
    · exact ⟨"postgres".toList, rfl, rfl⟩
    · exact ⟨"sqlite".toList, rfl, rfl⟩
    · exact ⟨"mysql".toList, rfl, rfl⟩
  led := by decide

/-- An alias after a registration is one of the registration or one from before. -/
theorem mem_aliases_add {entry : Text × Text} (member : entry ∈ (registry.add given).aliases) :
    entry.2 = given.name.lower ∨ entry ∈ registry.aliases := by
  rw [add, register] at member
  revert member
  generalize registry.aliases = known
  induction given.aliases generalizing known with
  | nil => exact .inr
  | cons first rest ih =>
      intro member
      rcases ih _ member with new | old
      · exact .inl new
      · rcases List.mem_cons.mp old with rfl | older
        · exact .inl rfl
        · exact .inr older

theorem IsClosed.add (closed : registry.IsClosed) (given : Registration) :
    (registry.add given).IsClosed where
  named := by
    intro entry member
    rcases List.mem_cons.mp member with rfl | old
    · exact ⟨given.name, rfl, rfl⟩
    · exact closed.named entry old
  led := by
    intro entry member
    have names : (registry.add given).dialects.map Prod.fst =
        given.name.lower :: registry.dialects.map Prod.fst := rfl
    rw [names]
    rcases mem_aliases_add member with new | old
    · rw [new]
      exact List.mem_cons_self
    · exact List.mem_cons_of_mem _ (closed.led entry old)

/-- Registrations lead from the built-in dialects to a closed registry. -/
theorem isClosed_after (history : List Registration) : (builtIn.after history).IsClosed := by
  have step (registry : Registry) (closed : registry.IsClosed) :
      (registry.after history).IsClosed := by
    induction history generalizing registry with
    | nil => exact closed
    | cons first rest ih => exact ih (registry.add first) (closed.add first)
  exact step builtIn isClosed_builtIn

/-- In a closed registry what a key finds has the name that the key leads to. -/
theorem IsClosed.name_of_find? (closed : registry.IsClosed) {found : Dialect}
    (finds : registry.find? sought = some found) :
    ∃ name : Text, found.name = .text name ∧ registry.target sought = name.lower := by
  obtain ⟨front, back, shape, -⟩ := List.lookup_eq_some_iff.mp finds
  have member : (registry.target sought, found) ∈ registry.dialects := by
    rw [shape]
    exact List.mem_append_right _ List.mem_cons_self
  exact closed.named _ member

/-- In a closed registry a key that finds nothing is no alias. -/
theorem IsClosed.target_of_find? (closed : registry.IsClosed)
    (finds : registry.find? sought = none) : registry.target sought = sought := by
  cases looked : registry.aliases.lookup sought with
  | none => rw [target, looked, Option.getD_none]
  | some name =>
      obtain ⟨front, back, shape, -⟩ := List.lookup_eq_some_iff.mp looked
      have member : (sought, name) ∈ registry.aliases := by
        rw [shape]
        exact List.mem_append_right _ List.mem_cons_self
      obtain ⟨entry, among, same⟩ := List.mem_map.mp (closed.led _ member)
      have leads : registry.dialects.lookup name = none := by
        have found : registry.find? sought = registry.dialects.lookup name := by
          rw [find?, looked, Option.getD_some]
        rw [← found, finds]
      rw [List.lookup_eq_none_iff] at leads
      have differs := leads entry among
      rw [same] at differs
      simp at differs

end Registry

/-! ## Whatever the engines are -/

namespace DialectSource

/-- The dialect that an answer about engines leads to. -/
def throughAnswer (found : Engine.Lookup) (shown : Text) (registry : Registry) :
    Except Failure Resolution :=
  match found with
  | .unknown => .error (.unknownDialect shown)
  | .switch => .error (.noAttribute "bool" "upper".toList)
  | .engine proper =>
      match registry.named? proper with
      | none => .error (.unlistedDialect proper)
      | some found => .ok ⟨found, some shown⟩

/-- The dialect that a source asks for, where the engines are those that a function tells. -/
def resolveBy (engines : DialectSource → Engine.Lookup) (registry : Registry)
    (source : DialectSource) : Except Failure Resolution :=
  match source with
  | .default => .ok ⟨.generic, none⟩
  | .dialect found => .ok ⟨found, none⟩
  | .name text _ =>
      match registry.named? text with
      | some found => .ok ⟨found, none⟩
      | none => throughAnswer (engines source) source.shown registry
  | source => throughAnswer (engines source) source.shown registry

theorem resolve_eq_resolveBy (source : DialectSource) (registry : Registry) :
    source.resolve registry = source.resolveBy lookup registry := by
  cases source <;> rfl

/-- What comes of asking an engine is never found without a detour. -/
theorem throughAnswer_ne_ok (found : Engine.Lookup) (shown : Text) (registry : Registry)
    (dialect : Dialect) : throughAnswer found shown registry ≠ .ok ⟨dialect, none⟩ := by
  intro finds
  cases found with
  | unknown | switch => cases finds
  | engine proper =>
      rw [throughAnswer] at finds
      split at finds <;> cases finds

/-- Whatever the engines are, a dialect is found by a name without a detour where the key of the
name finds it. -/
theorem resolveBy_text_eq_ok_iff (engines : DialectSource → Engine.Lookup) {registry : Registry}
    {asked : Text} {found : Dialect} :
    (ofValue (.text asked)).resolveBy engines registry = .ok ⟨found, none⟩ ↔
      registry.find? (Registry.key asked) = some found := by
  rw [ofValue, resolveBy, Registry.named?]
  cases finds : registry.find? (Registry.key asked) with
  | some other => simp
  | none => simpa using throughAnswer_ne_ok _ _ registry found

end DialectSource

namespace Registry

variable {registry : Registry} {given : Registration} {sought : Text}

/-! ## What a name finds -/

/-- What comes of asking for a dialect by a name. -/
def answer (registry : Registry) (asked : Text) : Except Failure Resolution :=
  (DialectSource.ofValue (.text asked)).resolve registry

/-- A dialect is found without a detour where its key finds it. -/
theorem answer_eq_ok_iff {asked : Text} {found : Dialect} :
    registry.answer asked = .ok ⟨found, none⟩ ↔
      registry.find? (Registry.key asked) = some found := by
  rw [answer, DialectSource.resolve_eq_resolveBy]
  exact DialectSource.resolveBy_text_eq_ok_iff _

/-- After a registration in a closed registry its dialect is found by the keys of its aliases and
by what leads to its name, and by no other key. -/
theorem IsClosed.find?_add_eq_some_iff (closed : registry.IsClosed) :
    (registry.add given).find? sought = some given.dialect ↔
      sought ∈ given.aliasKeys ∨ registry.target sought = given.name.lower := by
  rw [find?_add]
  by_cases leads : sought ∈ given.aliasKeys ∨ registry.target sought = given.name.lower
  · exact iff_of_true (if_pos leads) leads
  · rw [if_neg leads]
    refine iff_of_false (fun finds => ?_) leads
    obtain ⟨name, named, target⟩ := closed.name_of_find? finds
    cases named
    exact leads (.inr target)

/-- A name that is an alias of another dialect finds that one. -/
theorem IsClosed.exists_other_of_add (closed : registry.IsClosed)
    (fresh : sought ∉ given.aliasKeys) (same : sought = given.name.lower)
    (leadsAway : registry.target sought ≠ given.name.lower) :
    ∃ other ≠ given.dialect, (registry.add given).find? sought = some other := by
  have nowhere : ¬(sought ∈ given.aliasKeys ∨ registry.target sought = given.name.lower) :=
    not_or.mpr ⟨fresh, leadsAway⟩
  have kept : (registry.add given).find? sought = registry.find? sought := by
    rw [find?_add, if_neg nowhere]
  cases finds : registry.find? sought with
  | none => exact absurd ((closed.target_of_find? finds).trans same) leadsAway
  | some other =>
      refine ⟨other, fun again => ?_, kept.trans finds⟩
      rw [again, ← kept] at finds
      exact nowhere (closed.find?_add_eq_some_iff.mp finds)

/-- After any registrations and one more, the dialect of the last one is found by a name exactly
where the name has the key of one of the aliases, or leads to the dialect's own name. So it is
found by each of its aliases that is trimmed. By its own name it is found, if that is trimmed,
unless another dialect has the name for an alias and the registration does not; then that other
dialect is found. Which engines there are plays no role in this. -/
theorem resolve_registered (history : List Registration) (given : Registration) :
    (∀ asked, ((builtIn.after history).add given).answer asked = .ok ⟨given.dialect, none⟩ ↔
      Registry.key asked ∈ given.aliasKeys ∨
        (builtIn.after history).target (Registry.key asked) = given.name.lower) ∧
    (∀ engines asked found,
      (DialectSource.ofValue (.text asked)).resolveBy engines ((builtIn.after history).add given) =
          .ok ⟨found, none⟩ ↔
        ((builtIn.after history).add given).answer asked = .ok ⟨found, none⟩) ∧
    (∀ nickname ∈ given.aliases, nickname.trim = nickname →
      ((builtIn.after history).add given).answer nickname = .ok ⟨given.dialect, none⟩) ∧
    (given.name.trim = given.name →
      given.name.lower ∈ given.aliasKeys ∨
        (builtIn.after history).target given.name.lower = given.name.lower →
      ((builtIn.after history).add given).answer given.name = .ok ⟨given.dialect, none⟩) ∧
    (given.name.trim = given.name →
      given.name.lower ∉ given.aliasKeys →
      (builtIn.after history).target given.name.lower ≠ given.name.lower →
      ∃ other ≠ given.dialect,
        ((builtIn.after history).add given).answer given.name = .ok ⟨other, none⟩) := by
  have closed := isClosed_after history
  refine ⟨fun asked => ?_, fun engines asked found => ?_, fun nickname member trimmed => ?_,
    fun trimmed leads => ?_, fun trimmed fresh leadsAway => ?_⟩
  · exact answer_eq_ok_iff.trans closed.find?_add_eq_some_iff
  · exact (DialectSource.resolveBy_text_eq_ok_iff engines).trans answer_eq_ok_iff.symm
  · refine answer_eq_ok_iff.mpr (closed.find?_add_eq_some_iff.mpr (.inl ?_))
    rw [Registry.key, trimmed]
    exact List.mem_map_of_mem member
  · refine answer_eq_ok_iff.mpr (closed.find?_add_eq_some_iff.mpr ?_)
    rwa [Registry.key, trimmed]
  · obtain ⟨other, differs, finds⟩ := closed.exists_other_of_add fresh rfl leadsAway
    refine ⟨other, differs, answer_eq_ok_iff.mpr ?_⟩
    rwa [Registry.key, trimmed]

/-- A dialect with an alias. -/
def acme : Registration := ⟨"acme".toList, [.limit], ["Old".toList]⟩

/-- Another one by the same name in other case, with a built-in alias. -/
def renewed : Registration := ⟨"ACME".toList, [.row], ["ANSI".toList]⟩

theorem resolve_renewed :
    ((builtIn.after [acme]).add renewed).answer "ANSI".toList = .ok ⟨renewed.dialect, none⟩ ∧
      ((builtIn.after [acme]).add renewed).answer "ACME".toList = .ok ⟨renewed.dialect, none⟩ ∧
      ((builtIn.after [acme]).add renewed).answer " old ".toList = .ok ⟨renewed.dialect, none⟩ ∧
      ∃ other ≠ acme.dialect,
        ((builtIn.after [⟨"b".toList, [], ["Acme".toList]⟩]).add acme).answer "acme".toList =
          .ok ⟨other, none⟩ := by
  have registered := resolve_registered [acme] renewed
  refine ⟨?_, ?_, ?_, ?_⟩
  · exact registered.2.2.1 _ List.mem_cons_self (by decide)
  · exact registered.2.2.2.1 (by decide) (.inr (by decide +kernel))
  · exact (registered.1 _).mpr (.inr (by decide +kernel))
  · exact (resolve_registered [⟨"b".toList, [], ["Acme".toList]⟩] acme).2.2.2.2 (by decide)
      (by decide +kernel) (by decide +kernel)

/-- A dialect that is registered under the name of a built-in alias is not found by its name, and
one that is registered under an alias with a blank before it is not found by that alias, whatever
the engines are. -/
theorem resolve_unheeded :
    let spaced := builtIn.add ⟨"acme".toList, [.limit], [" acme_sql".toList]⟩
    let asked := DialectSource.ofValue (.text " acme_sql".toList)
    (builtIn.add ⟨"ansi".toList, [.limit], []⟩).answer "ansi".toList = .ok ⟨.standard, none⟩ ∧
      Dialect.standard ≠ (⟨"ansi".toList, [.limit], []⟩ : Registration).dialect ∧
      (∀ engines found, asked.resolveBy engines spaced ≠ .ok ⟨found, none⟩) ∧
      (∀ engines, engines asked = .unknown →
        asked.resolveBy engines spaced =
          .error (.unknownDialect (Text.quoted " acme_sql".toList))) ∧
      spaced.answer " acme_sql".toList =
        .error (.unknownDialect (Text.quoted " acme_sql".toList)) := by
  intro spaced asked
  have nowhere : spaced.find? (Registry.key " acme_sql".toList) = none := by decide +kernel
  have unheard (engines : DialectSource → Engine.Lookup) (stranger : engines asked = .unknown) :
      asked.resolveBy engines spaced =
        .error (.unknownDialect (Text.quoted " acme_sql".toList)) := by
    have detour : asked.resolveBy engines spaced =
        DialectSource.throughAnswer (engines asked) asked.shown spaced := by
      simp only [asked, DialectSource.ofValue, DialectSource.resolveBy, named?, nowhere]
    rw [detour, stranger]
    rfl
  refine ⟨rfl, fun same => ?_, fun engines found finds => ?_, unheard, ?_⟩
  · have names := congrArg Dialect.name same
    simp [Dialect.standard, Registration.dialect] at names
  · rw [(DialectSource.resolveBy_text_eq_ok_iff engines).mp finds] at nowhere
    cases nowhere
  · rw [answer, DialectSource.resolve_eq_resolveBy]
    exact unheard DialectSource.lookup (by decide +kernel)

end Registry

/-! ## The names of engines -/

namespace Engine

theorem eq_of_withSettings {called proper : Text} {settings : List (Text × Setting)}
    (finds : withSettings called settings = .engine proper) : called = proper := by
  rw [withSettings] at finds
  have listed (known : Bool)
      (same : (if known then Lookup.engine called else .unknown) = .engine proper) :
      called = proper := by
    cases known with
    | true => cases same; rfl
    | false => cases same
  split at finds
  · split at finds
    · exact listed _ finds
    · exact listed _ finds
    · cases finds
    · split at finds
      · exact listed _ finds
      · cases finds
  · cases finds

theorem mem_of_called? {name proper : Text} (calls : called? name = some proper) :
    proper ∈ unspecific :: names := by
  rw [called?] at calls
  split at calls
  · cases calls
    exact List.mem_cons_self
  · exact List.mem_cons_of_mem _ (List.mem_of_find?_eq_some calls)

theorem trim_of_mem : ∀ proper ∈ unspecific :: names, proper.trim = proper := by
  decide +kernel

/-- An engine has a proper name without blanks around it. -/
theorem trim_of_find {text proper : Text} (finds : find text = .engine proper) :
    proper.trim = proper := by
  rw [find] at finds
  split at finds
  · cases finds
  next name settings _ =>
    cases calls : called? name with
    | none => simp only [calls, reduceCtorEq] at finds
    | some called =>
        simp only [calls] at finds
        rw [← eq_of_withSettings finds]
        exact trim_of_mem called (mem_of_called? calls)

/-- The keys that an answer is looked up under in its turn: the proper name of an engine, in lower
case. -/
def Lookup.keys : Lookup → List Text
  | .engine proper => [proper.lower]
  | .unknown | .switch => []

end Engine

/-! ## What a registration leaves alone -/

namespace DialectSource

theorem trim_of_lookup {source : DialectSource} {proper : Text}
    (finds : source.lookup = .engine proper) : proper.trim = proper := by
  have unspecific : Engine.unspecific.trim = Engine.unspecific :=
    Engine.trim_of_mem _ List.mem_cons_self
  rw [lookup.eq_def] at finds
  split at finds
  · cases finds
    exact unspecific
  · cases finds
    exact unspecific
  · cases finds
    exact unspecific
  · exact Engine.trim_of_find finds
  · exact Engine.trim_of_find finds
  · cases finds
  · cases finds

section

variable (engines : DialectSource → Engine.Lookup) (registry : Registry)

/-- The keys that a source is looked up under: a name under its own, and what the registry does
not have under that of its engine. -/
def keys (source : DialectSource) : List Text :=
  match source with
  | .default | .dialect _ => []
  | .name text _ =>
      Registry.key text ::
        match registry.named? text with
        | some _ => []
        | none => (engines source).keys
  | source => (engines source).keys

end

end DialectSource

namespace Registry

/-- Whether a registration is about a key: it is one of the aliases, or it leads to the name. -/
def Concerns (registry : Registry) (given : Registration) (sought : Text) : Prop :=
  sought ∈ given.aliasKeys ∨ registry.target sought = given.name.lower

instance (registry : Registry) (given : Registration) (sought : Text) :
    Decidable (registry.Concerns given sought) :=
  inferInstanceAs (Decidable (_ ∨ _))

variable {registry : Registry} {given : Registration}

theorem find?_add_of_not_concerns {sought : Text} (apart : ¬registry.Concerns given sought) :
    (registry.add given).find? sought = registry.find? sought := by
  rw [find?_add]
  exact if_neg apart

theorem throughAnswer_add {found : Engine.Lookup} (shown : Text)
    (trimmed : ∀ proper, found = .engine proper → proper.trim = proper)
    (apart : ∀ sought ∈ found.keys, ¬registry.Concerns given sought) :
    DialectSource.throughAnswer found shown (registry.add given) =
      DialectSource.throughAnswer found shown registry := by
  cases found with
  | unknown => rfl
  | switch => rfl
  | engine proper =>
      have same : (registry.add given).named? proper = registry.named? proper := by
        rw [named?, named?, key, trimmed proper rfl]
        exact find?_add_of_not_concerns (apart _ List.mem_cons_self)
      rw [DialectSource.throughAnswer, DialectSource.throughAnswer, same]

theorem resolveBy_add_of_not_concerns (engines : DialectSource → Engine.Lookup)
    (source : DialectSource)
    (trimmed : ∀ proper, engines source = .engine proper → proper.trim = proper)
    (apart : ∀ sought ∈ source.keys engines registry, ¬registry.Concerns given sought) :
    source.resolveBy engines (registry.add given) = source.resolveBy engines registry := by
  cases source with
  | default => rfl
  | dialect found => rfl
  | engine name shown => exact throughAnswer_add shown trimmed apart
  | other holds shown => exact throughAnswer_add shown trimmed apart
  | name text shown =>
      have same : (registry.add given).named? text = registry.named? text :=
        find?_add_of_not_concerns (apart _ List.mem_cons_self)
      rw [DialectSource.resolveBy, DialectSource.resolveBy, same]
      cases finds : registry.named? text with
      | some found => rfl
      | none =>
          refine throughAnswer_add shown trimmed fun sought member => apart sought ?_
          simp only [DialectSource.keys, finds]
          exact List.mem_cons_of_mem _ member

/-- A registration that is about none of the keys a source is looked up under leaves what comes of
asking as it was, be that a dialect or a failure. The default is the generic dialect, and a dialect
that is asked for by itself is found, whatever is registered. This holds for any engines whose
proper names have no blanks around them, and so for those that there are. -/
theorem resolveBy_add (engines : DialectSource → Engine.Lookup)
    (trimmed : ∀ source proper, engines source = .engine proper → proper.trim = proper)
    (history : List Registration) (given : Registration) :
    (∀ source : DialectSource,
      (∀ sought ∈ source.keys engines (builtIn.after history),
        ¬(builtIn.after history).Concerns given sought) →
      source.resolveBy engines ((builtIn.after history).add given) =
        source.resolveBy engines (builtIn.after history)) ∧
    (∀ source : DialectSource,
      (∀ sought ∈ source.keys DialectSource.lookup (builtIn.after history),
        ¬(builtIn.after history).Concerns given sought) →
      source.resolve ((builtIn.after history).add given) =
        source.resolve (builtIn.after history)) ∧
    (DialectSource.default.resolveBy engines (builtIn.after history) = .ok ⟨.generic, none⟩ ∧
      DialectSource.default.resolve (builtIn.after history) = .ok ⟨.generic, none⟩) ∧
    ∀ found : Dialect,
      (DialectSource.dialect found).resolveBy engines (builtIn.after history) =
          .ok ⟨found, none⟩ ∧
        (DialectSource.dialect found).resolve (builtIn.after history) = .ok ⟨found, none⟩ := by
  refine ⟨fun source apart => ?_, fun source apart => ?_, ⟨rfl, rfl⟩, fun found => ⟨rfl, rfl⟩⟩
  · exact resolveBy_add_of_not_concerns engines source (trimmed source) apart
  · rw [DialectSource.resolve_eq_resolveBy, DialectSource.resolve_eq_resolveBy]
    exact resolveBy_add_of_not_concerns _ source (fun _ => DialectSource.trim_of_lookup) apart

/-- After a dialect is registered under other names, an engine leads to the dialect it led to, and
one that has none is still unlisted. -/
theorem resolve_apart_from_renewed :
    (DialectSource.engine "mysql".toList "'mysql'".toList).resolve
        ((builtIn.after [acme]).add renewed) =
      .ok ⟨.mysql, some "'mysql'".toList⟩ ∧
    (DialectSource.name "tsql ".toList "'tsql '".toList).resolve
        ((builtIn.after [acme]).add renewed) =
      .error (.unlistedDialect "TSQL".toList) := by
  have frame := (resolveBy_add DialectSource.lookup (fun _ _ => DialectSource.trim_of_lookup)
    [acme] renewed).2.1
  constructor
  · refine (frame _ ?_).trans rfl
    decide +kernel
  · refine (frame _ ?_).trans rfl
    decide +kernel

end Registry
end SqlText
