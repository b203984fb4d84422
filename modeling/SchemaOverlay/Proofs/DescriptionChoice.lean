import SchemaOverlay.Proofs.Transparency

/-!
# The choice of a description column

What describes the rows of an entity in a dictionary.  A declaration on the
overlay is taken as it is, without a look at the schema layer.  Otherwise the
real columns are searched twice, by the preferred names in their order and then
for text, and both times without the key.  The answer is said here by an
inductive relation that knows no search.
-/

namespace SchemaOverlay

open SchemaOverlay.Action

/-! ## Columns that come first -/

/-- Whether a column has a name, up to the case of ASCII letters. -/
def Column.Matches (column : Column) (name : String) : Prop :=
  Text.sameIgnoringCase column.name name = true

/-- Whether a column is the first of a list that has a property. -/
structure Column.IsFirst (columns : List Column) (property : Column → Prop) (column : Column) :
    Prop where
  holds : property column
  first : ∃ front rest, columns = front ++ column :: rest ∧ ∀ earlier ∈ front, ¬ property earlier

/-- A search finds the first column that passes the test. -/
theorem Column.find?_eq_some_iff_isFirst {columns : List Column} {test : Column → Bool}
    {property : Column → Prop} (tests : ∀ column, test column = true ↔ property column)
    {column : Column} :
    columns.find? test = some column ↔ Column.IsFirst columns property column := by
  have fails (other : Column) : (!test other) = true ↔ ¬ property other := by
    rw [← tests, Bool.not_eq_true', Bool.not_eq_true]
  rw [List.find?_eq_some_iff_append]
  simp only [tests, fails]
  exact ⟨fun ⟨holds, first⟩ => ⟨holds, first⟩, fun isFirst => ⟨isFirst.holds, isFirst.first⟩⟩

namespace DescriptionConfig

variable {config : DescriptionConfig} {columns : List Column} {key : String} {column : Column}

/-- Whether a column has a property and is not the key. -/
def Besides (key : String) (property : Column → Prop) (column : Column) : Prop :=
  property column ∧ ¬ column.Matches key

/-- Whether a column is chosen: it is the first one that has the earliest name that any column has,
or where no column has any of the names the first one that holds text. -/
inductive Chooses (config : DescriptionConfig) (columns : List Column) (key : String) :
    Column → Prop where
  | preferred {sooner later : List String} {name : String} {column : Column}
    (names : config.preferredColumns = sooner ++ name :: later)
    (missed : ∀ earlier ∈ sooner, ∀ other ∈ columns,
      ¬ Besides key (·.Matches earlier) other)
    (isFirst : Column.IsFirst columns (Besides key (·.Matches name)) column) :
    Chooses config columns key column
  | text {column : Column}
    (missed : ∀ name ∈ config.preferredColumns, ∀ other ∈ columns,
      ¬ Besides key (·.Matches name) other)
    (isFirst : Column.IsFirst columns (Besides key (·.kind = .string)) column) :
    Chooses config columns key column

/-- The key is never chosen. -/
theorem Chooses.not_key (chooses : config.Chooses columns key column) : ¬ column.Matches key := by
  cases chooses with
  | preferred names missed isFirst => exact isFirst.holds.2
  | text missed isFirst => exact isFirst.holds.2

/-- What is left of the columns without the key. -/
def others (columns : List Column) (key : String) : List Column :=
  columns.filter fun column => !Text.sameIgnoringCase column.name key

section Search

variable {test : Column → Bool} {property : Column → Prop}
  (tests : ∀ column, test column = true ↔ property column)

include tests

theorem besides_iff (column : Column) :
    decide ((!Text.sameIgnoringCase column.name key) = true ∧ test column = true) = true ↔
      Besides key property column := by
  simp [Besides, Column.Matches, tests, and_comm]

/-- A search among the other columns finds the first one besides the key. -/
theorem find?_others_eq_some_iff : (others columns key).find? test = some column ↔
    Column.IsFirst columns (Besides key property) column := by
  rw [others, List.find?_filter]
  exact Column.find?_eq_some_iff_isFirst (besides_iff tests)

theorem find?_others_eq_none_iff : (others columns key).find? test = none ↔
    ∀ other ∈ columns, ¬ Besides key property other := by
  rw [others, List.find?_filter, List.find?_eq_none]
  simp only [besides_iff tests]

end Search

theorem preferred?_eq_none_iff : config.preferred? (others columns key) = none ↔
    ∀ name ∈ config.preferredColumns, ∀ other ∈ columns,
      ¬ Besides key (·.Matches name) other := by
  rw [preferred?, List.findSome?_eq_none_iff]
  exact forall₂_congr fun name _ => find?_others_eq_none_iff fun _ => Iff.rfl

/-- The preferred names find the first column of the earliest name that any column has. -/
theorem preferred?_eq_some_iff : config.preferred? (others columns key) = some column ↔
    ∃ sooner name later, config.preferredColumns = sooner ++ name :: later ∧
      Column.IsFirst columns (Besides key (·.Matches name)) column ∧
      ∀ earlier ∈ sooner, ∀ other ∈ columns, ¬ Besides key (·.Matches earlier) other := by
  rw [preferred?, List.findSome?_eq_some_iff]
  refine exists_congr fun sooner => exists_congr fun name => exists_congr fun later =>
    and_congr_right fun _ => and_congr (find?_others_eq_some_iff fun _ => Iff.rfl) ?_
  exact forall₂_congr fun earlier _ => find?_others_eq_none_iff fun _ => Iff.rfl

/-- The searches find the column that is chosen. -/
theorem choose?_eq_some_iff : config.choose? columns key = some column ↔
    config.Chooses columns key column := by
  rw [choose?, ← others, Option.or_eq_some_iff, preferred?_eq_none_iff, preferred?_eq_some_iff,
    find?_others_eq_some_iff fun _ => beq_iff_eq]
  constructor
  · rintro (⟨sooner, name, later, names, isFirst, missed⟩ | ⟨missed, isFirst⟩)
    · exact .preferred names missed isFirst
    · exact .text missed isFirst
  · rintro (⟨names, missed, isFirst⟩ | ⟨missed, isFirst⟩)
    · exact .inl ⟨_, _, _, names, isFirst, missed⟩
    · exact .inr ⟨missed, isFirst⟩

/-- Nothing is chosen exactly when both searches fail. -/
theorem choose?_eq_none_iff : config.choose? columns key = none ↔
    (∀ name ∈ config.preferredColumns, ∀ other ∈ columns,
      ¬ Besides key (·.Matches name) other) ∧
        ∀ other ∈ columns, ¬ Besides key (·.kind = .string) other := by
  rw [choose?, ← others, Option.or_eq_none_iff, preferred?_eq_none_iff,
    find?_others_eq_none_iff fun _ => beq_iff_eq]

end DescriptionConfig

/-! ## References and what is behind them -/

namespace EntityRef

variable {store : Store} {entity : EntityRef}

/-- What is known of the real entity behind a reference: the entity itself, nothing for containers
outside the schema and for overlays whose model is gone, and else what the catalog answers. -/
inductive LeadsTo (store : Store) :
    EntityRef → Except SourceError (Option SchemaEntity) → Prop where
  | real (entity : SchemaEntity) : LeadsTo store (.real entity) (.ok (some entity))
  | orphan {overlay : EntityOverlay} (detached : overlay.id? = none) :
    LeadsTo store (.overlay overlay) (.ok none)
  | gone {overlay : EntityOverlay} (gone : store.modelLives overlay.model = false) :
    LeadsTo store (.overlay overlay) (.ok none)
  | asked {overlay : EntityOverlay} {id : ObjectId} (own : overlay.id? = some id)
    (lives : store.modelLives overlay.model = true) :
    LeadsTo store (.overlay overlay) ((store.modelState overlay.model).catalog.find id)

theorem exists_leadsTo (store : Store) (entity : EntityRef) :
    ∃ answer, entity.LeadsTo store answer := by
  cases entity with
  | real entity => exact ⟨_, .real entity⟩
  | overlay overlay =>
      cases own : overlay.id? with
      | none => exact ⟨_, .orphan own⟩
      | some id =>
          cases lives : store.modelLives overlay.model with
          | false => exact ⟨_, .gone lives⟩
          | true => exact ⟨_, .asked own lives⟩

theorem LeadsTo.real?_eq {answer : Except SourceError (Option SchemaEntity)}
    (leads : entity.LeadsTo store answer) :
    entity.real? store = answer.mapError .metadataAccess := by
  cases leads with
  | real entity => rfl
  | orphan detached => simp [real?, EntityOverlay.realEntity?, detached, Except.mapError]
  | gone gone =>
      rw [real?, EntityOverlay.realEntity?_of_dead gone]
  | asked own lives => rw [real?, EntityOverlay.realEntity?_of_id? own lives]

/-- The overlay of a reference: the reference itself, or what the registered model files. -/
def overlay? (resolver : Resolver) (store : Store) : EntityRef → Option EntityOverlay
  | .real entity =>
    (resolver.model? entity.dataSource store).bind fun model => store.entity? model entity.id
  | .overlay virtual => some virtual

/-- The columns that are declared on the overlay of a reference to describe its rows. -/
def description? (resolver : Resolver) (store : Store) (entity : EntityRef) : Option String :=
  (entity.overlay? resolver store).bind fun overlay => (store.declared overlay).description

theorem value_resolveEntity_false (sound : store.Sound) (resolver : Resolver) (entity : EntityRef) :
    (resolver.resolveEntity entity false store).value = entity.overlay? resolver store := by
  cases entity with
  | overlay overlay => rfl
  | real entity =>
      rw [overlay?]
      cases registered : resolver.model? entity.dataSource store with
      | none => rw [Resolver.resolveEntity_of_none registered, Option.bind_none]
      | some model =>
          have own : entity.id.dataSource = model.dataSource :=
            (sound.dataSource_of_model? registered).symm
          rw [Resolver.resolveEntity_of_some registered, Model.value_entityById_false, if_pos own,
            Option.bind_some]

theorem description_declaredBy (sound : store.Sound) (resolver : Resolver) (entity : EntityRef) :
    (store.declaredBy (resolver.resolveEntity entity false store).value).description =
      entity.description? resolver store := by
  rw [value_resolveEntity_false sound, description?]
  cases entity.overlay? resolver store <;> rfl

end EntityRef

namespace Resolver

variable {resolver : Resolver} {store : Store} {entity : EntityRef} {key : Column}

/-- What is answered to whoever asks which columns describe the rows of an entity: what is declared
whatever the schema layer has to say, nothing where there is no real entity, the failure of the
schema layer, or the name of the column that is chosen. -/
inductive Describes (resolver : Resolver) (store : Store) (entity : EntityRef) (key : Column) :
    Except OverlayError (Option String) → Prop where
  | declared {text : String} (declares : entity.description? resolver store = some text) :
    Describes resolver store entity key (.ok (some text))
  | unreal (undeclared : entity.description? resolver store = none)
    (leads : entity.LeadsTo store (.ok none)) : Describes resolver store entity key (.ok none)
  | unanswered {error : SourceError} (undeclared : entity.description? resolver store = none)
    (leads : entity.LeadsTo store (.error error)) :
    Describes resolver store entity key (.error (.metadataAccess error))
  | unlisted {schemaEntity : SchemaEntity} {error : SourceError}
    (undeclared : entity.description? resolver store = none)
    (leads : entity.LeadsTo store (.ok (some schemaEntity)))
    (listing : schemaEntity.attributes = .error error) :
    Describes resolver store entity key (.error (.metadataAccess error))
  | chosen {schemaEntity : SchemaEntity} {columns : List Column} {column : Column}
    (undeclared : entity.description? resolver store = none)
    (leads : entity.LeadsTo store (.ok (some schemaEntity)))
    (listing : schemaEntity.attributes = .ok columns)
    (chooses : resolver.config.description.Chooses columns key.name column) :
    Describes resolver store entity key (.ok (some column.name))
  | unmatched {schemaEntity : SchemaEntity} {columns : List Column}
    (undeclared : entity.description? resolver store = none)
    (leads : entity.LeadsTo store (.ok (some schemaEntity)))
    (listing : schemaEntity.attributes = .ok columns)
    (missed : ∀ name ∈ resolver.config.description.preferredColumns, ∀ other ∈ columns,
      ¬ DescriptionConfig.Besides key.name (·.Matches name) other)
    (textless : ∀ other ∈ columns,
      ¬ DescriptionConfig.Besides key.name (·.kind = .string) other) :
    Describes resolver store entity key (.ok none)

theorem value_descriptionColumns_eq (sound : store.Sound) (resolver : Resolver)
    (entity : EntityRef) (key : Column) :
    (resolver.descriptionColumns entity key store).value =
      (entity.description? resolver store).elim (resolver.chosenDescription entity key store)
        fun text => .ok (some text) := by
  rw [value_descriptionColumns, entity.description_declaredBy sound]
  cases entity.description? resolver store <;> rfl

/-- The choice among the columns of the real entity that the catalog answers. -/
def chosenFrom (resolver : Resolver) (key : Column) :
    Except SourceError (Option SchemaEntity) → Except OverlayError (Option String)
  | .error error => .error (.metadataAccess error)
  | .ok none => .ok none
  | .ok (some schemaEntity) =>
    match schemaEntity.attributes with
    | .error error => .error (.metadataAccess error)
    | .ok columns => .ok ((resolver.config.description.choose? columns key.name).map (·.name))

/-- What is chosen depends on the answer of the catalog and then on that of the entity. -/
theorem chosenDescription_of_leadsTo {answer : Except SourceError (Option SchemaEntity)}
    (leads : entity.LeadsTo store answer) :
    resolver.chosenDescription entity key store = resolver.chosenFrom key answer := by
  rw [chosenDescription, leads.real?_eq]
  rcases answer with error | schemaEntity
  · rfl
  · cases schemaEntity <;> rfl

/-- The answer is one that the description of the choice allows. -/
theorem describes_value (sound : store.Sound) (resolver : Resolver) (entity : EntityRef)
    (key : Column) :
    resolver.Describes store entity key (resolver.descriptionColumns entity key store).value := by
  rw [value_descriptionColumns_eq sound]
  cases declares : entity.description? resolver store with
  | some text => exact .declared declares
  | none =>
      obtain ⟨answer, leads⟩ := EntityRef.exists_leadsTo store entity
      rw [Option.elim_none, chosenDescription_of_leadsTo leads]
      rcases answer with error | behind
      · exact .unanswered declares leads
      · cases behind with
        | none => exact .unreal declares leads
        | some schemaEntity =>
            rw [chosenFrom]
            cases listing : schemaEntity.attributes with
            | error error => exact .unlisted declares leads listing
            | ok columns =>
                dsimp only
                cases choice : resolver.config.description.choose? columns key.name with
                | none =>
                    obtain ⟨missed, textless⟩ := DescriptionConfig.choose?_eq_none_iff.mp choice
                    exact .unmatched declares leads listing missed textless
                | some column =>
                    exact .chosen declares leads listing
                      (DescriptionConfig.choose?_eq_some_iff.mp choice)

/-- The description of the choice allows one answer only. -/
theorem Describes.value_eq (sound : store.Sound) {answer : Except OverlayError (Option String)}
    (describes : resolver.Describes store entity key answer) :
    (resolver.descriptionColumns entity key store).value = answer := by
  rw [value_descriptionColumns_eq sound]
  cases describes with
  | declared declares => simp only [declares, Option.elim_some]
  | unreal undeclared leads | unanswered undeclared leads =>
      simp only [undeclared, Option.elim_none, chosenDescription_of_leadsTo leads, chosenFrom]
  | unlisted undeclared leads listing =>
      simp only [undeclared, Option.elim_none, chosenDescription_of_leadsTo leads, chosenFrom,
        listing]
  | chosen undeclared leads listing chooses =>
      have choice := DescriptionConfig.choose?_eq_some_iff.mpr chooses
      simp only [undeclared, Option.elim_none, chosenDescription_of_leadsTo leads, chosenFrom,
        listing, choice, Option.map_some]
  | unmatched undeclared leads listing missed textless =>
      have choice := DescriptionConfig.choose?_eq_none_iff.mpr ⟨missed, textless⟩
      simp only [undeclared, Option.elim_none, chosenDescription_of_leadsTo leads, chosenFrom,
        listing, choice, Option.map_none]

end Resolver

/-! ## Without the schema layer -/

/-- Whether two stores have everything in common but what the catalogs of their models answer. -/
structure Store.DiffersInCatalogs (store other : Store) : Prop where
  same : other = { store with models := other.models }
  scopes : ∀ model, (other.modelState model).scopes = (store.modelState model).scopes
  entities : ∀ model, (other.modelState model).entities = (store.modelState model).entities

/-- Whether two references name the same thing, whatever its schema layer answers. -/
inductive EntityRef.SameIdentity : EntityRef → EntityRef → Prop where
  | real {entity twin : SchemaEntity} (same : twin.id = entity.id) :
    SameIdentity (.real entity) (.real twin)
  | overlay (virtual : EntityOverlay) : SameIdentity (.overlay virtual) (.overlay virtual)

/-- The overlay of a reference is found without the schema layer. -/
theorem EntityRef.SameIdentity.value_resolveEntity {entity twin : EntityRef} {store other : Store}
    (identity : entity.SameIdentity twin) (differs : store.DiffersInCatalogs other)
    (resolver : Resolver) :
    (resolver.resolveEntity twin false other).value =
      (resolver.resolveEntity entity false store).value := by
  cases identity with
  | overlay virtual => rfl
  | @real entity twin same =>
      have registries : other.registries = store.registries := by rw [differs.same]
      have model : resolver.model? twin.dataSource other =
          resolver.model? entity.dataSource store := by
        simp only [Resolver.model?, Store.registry, SchemaEntity.dataSource, registries, same]
      cases registered : resolver.model? entity.dataSource store with
      | none =>
          rw [Resolver.resolveEntity_of_none registered,
            Resolver.resolveEntity_of_none (model.trans registered)]
      | some owner =>
          rw [Resolver.resolveEntity_of_some registered,
            Resolver.resolveEntity_of_some (model.trans registered),
            Model.value_entityById_false, Model.value_entityById_false, same]
          simp only [Store.entity?, differs.entities]

/-- What is declared is answered whatever the schema layer would answer, and even if it fails. -/
theorem Resolver.value_of_declared {resolver : Resolver} {store other : Store}
    (sound : store.Sound) {entity twin : EntityRef} {text : String}
    (declares : entity.description? resolver store = some text)
    (differs : store.DiffersInCatalogs other) (identity : entity.SameIdentity twin)
    (key : Column) : (resolver.descriptionColumns twin key other).value = .ok (some text) := by
  have declarations : other.declared = store.declared := by
    have kept : other.declarations = store.declarations := by rw [differs.same]
    funext overlay
    rw [Store.declared, kept, ← Store.declared]
  rw [← entity.description_declaredBy sound] at declares
  rw [value_descriptionColumns, identity.value_resolveEntity differs, Store.declaredBy,
    declarations, ← Store.declaredBy, declares]

/-- In every reachable store the answer is the one that the description of the choice allows.  It
never is the key where nothing is declared, and what is declared is answered without the schema
layer. -/
theorem Store.Reachable.description_chosen {store : Store} (reachable : store.Reachable)
    (resolver : Resolver) (entity : EntityRef) (key : Column) :
    (∀ answer, (resolver.descriptionColumns entity key store).value = answer ↔
      resolver.Describes store entity key answer) ∧
    (∀ name, entity.description? resolver store = none →
      (resolver.descriptionColumns entity key store).value = .ok (some name) →
        Text.sameIgnoringCase name key.name = false) ∧
    ∀ text, entity.description? resolver store = some text →
      ∀ other, store.DiffersInCatalogs other → ∀ twin, entity.SameIdentity twin →
        (resolver.descriptionColumns twin key other).value = .ok (some text) := by
  have sound := reachable.sound
  have describes := Resolver.describes_value sound resolver entity key
  refine ⟨fun answer => ⟨?_, fun allowed => allowed.value_eq sound⟩, ?_, ?_⟩
  · rintro rfl
    exact describes
  · intro name undeclared answered
    rw [answered] at describes
    cases describes with
    | declared declares => cases undeclared.symm.trans declares
    | chosen _ _ _ chooses => simpa [Column.Matches] using chooses.not_key
  · intro text declares other differs twin identity
    exact Resolver.value_of_declared sound declares differs identity key

/-! ## Books with many names -/

namespace Stacks

def resolver : Resolver := ⟨0, ⟨{}, ⟨["shelf", "title"]⟩⟩, []⟩

def model : Model := ⟨0, "stacks"⟩

def key : Column := .ofType "Title" "text"

def columns : List Column :=
  [.ofType "pages" "integer", .ofType "TITLE" "text", .ofType "author" "text",
    .ofType "SHELF" "integer", .ofType "shelf" "text"]

def books : SchemaEntity :=
  ⟨⟨"stacks", ["main", "books"]⟩, .ok columns, .ok [], .ok [], .ok []⟩

def setup : List Operation :=
  [.createModel model.dataSource (.unreachable "offline"), .register resolver model,
    .resolveEntity resolver (.real books) true]

def store : Store := setup.foldl (fun store operation => operation.perform store) .empty

theorem reachable : store.Reachable := ⟨setup, Run.of_permits (by decide)⟩

def overlay : EntityOverlay := .ofEntity 1 books.id model

def described : Store := (Operation.describe overlay (some "author, pages")).perform store

theorem reachable_described : described.Reachable :=
  reachable.run (.next (by decide) .done)

/-- The first shelf is chosen, since titles are left out as the key.  Behind the overlay the catalog
is asked and fails, but not once a description is declared. -/
theorem description_chosen_books :
    store.Reachable ∧ described.Reachable ∧
      resolver.Describes store (.real books) key (.ok (some "SHELF")) ∧
      resolver.Describes store (.overlay overlay) key
        (.error (.metadataAccess (.catalog "offline"))) ∧
      (resolver.descriptionColumns (.overlay overlay) key described).value =
        .ok (some "author, pages") := by
  obtain ⟨real, -, -⟩ := reachable.description_chosen resolver (.real books) key
  obtain ⟨virtual, -, -⟩ := reachable.description_chosen resolver (.overlay overlay) key
  obtain ⟨-, -, declared⟩ :=
    reachable_described.description_chosen resolver (.overlay overlay) key
  refine ⟨reachable, reachable_described, (real _).mp (by rfl), (virtual _).mp (by rfl), ?_⟩
  exact declared "author, pages" (by decide) described ⟨rfl, fun _ => rfl, fun _ => rfl⟩ _
    (.overlay overlay)

end Stacks

end SchemaOverlay
