import SchemaOverlay.Proofs.Frame
import SchemaOverlay.Proofs.Life

/-!
# Sound stores

What holds in every reachable store: each number names one object for good,
models are registered under their own data source, each part of the store files
objects that belong there, and no overlay of a detached container is filed
twice.  Every allowed change keeps a store sound.
-/

namespace SchemaOverlay

/-! ## Ledgers -/

namespace OverlayObject

def number : OverlayObject → Nat
  | .model overlay => overlay.number
  | .scope overlay => overlay.number
  | .entity overlay => overlay.number
  | .column overlay => overlay.number

end OverlayObject

/-- Which object each number names. -/
def Ledger : Type := Nat → Option OverlayObject

namespace Ledger

/-- Whether the ledger lists an object and all that its name mentions. -/
def Has (ledger : Ledger) : OverlayObject → Prop
  | .model overlay => ledger overlay.number = some (.model overlay)
  | .scope overlay =>
    ledger overlay.number = some (.scope overlay) ∧
      ledger overlay.model.number = some (.model overlay.model)
  | .entity overlay =>
    ledger overlay.number = some (.entity overlay) ∧
      ledger overlay.model.number = some (.model overlay.model)
  | .column overlay =>
    ledger overlay.number = some (.column overlay) ∧
      ledger overlay.entity.number = some (.entity overlay.entity) ∧
        ledger overlay.entity.model.number = some (.model overlay.entity.model)

def record (ledger : Ledger) (object : OverlayObject) : Ledger := fun number =>
  if number = object.number then some object else ledger number

variable {ledger : Ledger} {object : OverlayObject}

theorem Has.eq (has : ledger.Has object) : ledger object.number = some object := by
  cases object with
  | model overlay => exact has
  | scope overlay => exact has.1
  | entity overlay => exact has.1
  | column overlay => exact has.1

/-- A number names one object only. -/
theorem Has.inj {other : OverlayObject} (has : ledger.Has object) (also : ledger.Has other)
    (same : object.number = other.number) : object = other := by
  have equal := has.eq
  rw [same, also.eq] at equal
  exact (Option.some.inj equal).symm

/-- A ledger that lists all that another one lists has what that one has. -/
theorem Has.mono {larger : Ledger} (has : ledger.Has object)
    (grows : ∀ number named, ledger number = some named → larger number = some named) :
    larger.Has object := by
  cases object with
  | model overlay => exact grows _ _ has
  | scope overlay => exact ⟨grows _ _ has.1, grows _ _ has.2⟩
  | entity overlay => exact ⟨grows _ _ has.1, grows _ _ has.2⟩
  | column overlay => exact ⟨grows _ _ has.1, grows _ _ has.2.1, grows _ _ has.2.2⟩

end Ledger

/-! ## Soundness -/

/-- Whether a scope is one of a model for the container of an identity. -/
structure ScopeOverlay.StandsFor (scope : ScopeOverlay) (model : Model) (id : ObjectId) : Prop where
  id_eq : scope.id = id
  model_eq : scope.model = model
  own : id.dataSource = model.dataSource
  inner : id.isRoot = false

/-- Whether an overlay is one of a model for the entity of an identity. -/
structure EntityOverlay.StandsFor (overlay : EntityOverlay) (model : Model) (id : ObjectId) :
    Prop where
  id_eq : overlay.id? = some id
  name_eq : overlay.name = id.name
  model_eq : overlay.model = model
  own : id.dataSource = model.dataSource

/-- What a model holds, as its own and of its own data source. -/
structure ModelState.Recorded (ledger : Ledger) (model : Model) (state : ModelState) : Prop where
  listed : ledger.Has (.model model)
  scopes : ∀ id scope, state.scopes.get? id = some scope →
    ledger.Has (.scope scope) ∧ scope.StandsFor model id
  entities : ∀ id entity, state.entities.get? id = some entity →
    ledger.Has (.entity entity) ∧ entity.StandsFor model id

namespace ModelState.Recorded

variable {ledger : Ledger} {model : Model} {state : ModelState} {id : ObjectId}

/-- A model that files one more entity overlay under its identity holds its own. -/
theorem withEntity (recorded : state.Recorded ledger model) {overlay : EntityOverlay}
    (has : ledger.Has (.entity overlay)) (stands : overlay.StandsFor model id) :
    ModelState.Recorded ledger model
      { state with entities := state.entities.insert id overlay } where
  listed := recorded.listed
  scopes := recorded.scopes
  entities wanted entity found := by
    rw [SortedMap.get?_insert] at found
    split at found
    · rename_i same
      cases found
      rw [same]
      exact ⟨has, stands⟩
    · exact recorded.entities _ _ found

/-- A model that files one more scope holds its own. -/
theorem withScope (recorded : state.Recorded ledger model) {overlay : ScopeOverlay}
    (has : ledger.Has (.scope overlay)) (stands : overlay.StandsFor model overlay.id) :
    ModelState.Recorded ledger model { state with scopes := state.scopes.file overlay } where
  listed := recorded.listed
  scopes wanted scope found := by
    rw [ScopeTable.get?_file] at found
    split at found
    · rename_i same
      cases found
      rw [same]
      exact ⟨has, stands⟩
    · exact recorded.scopes _ _ found
  entities := recorded.entities

end ModelState.Recorded

/-- What was declared on an entity, as its own and each name once. -/
structure Declarations.Recorded (ledger : Ledger) (entity : EntityOverlay)
    (declared : Declarations) : Prop where
  listed : ledger.Has (.entity entity)
  columns : ∀ column ∈ declared.columns, column.entity = entity ∧ ledger.Has (.column column)
  names : (declared.columns.map (·.name)).Nodup

/-- An entity that declares one more column of its own under a new name declares each once. -/
theorem Declarations.Recorded.withColumn {ledger : Ledger} {entity : EntityOverlay}
    {declared : Declarations} (recorded : declared.Recorded ledger entity)
    {column : ColumnOverlay} (own : column.entity = entity) (has : ledger.Has (.column column))
    (absent : ∀ other ∈ declared.columns, other.name ≠ column.name) :
    Declarations.Recorded ledger entity
      { declared with columns := declared.columns ++ [column] } where
  listed := recorded.listed
  columns other mem := by
    rcases List.mem_append.mp mem with sooner | later
    · exact recorded.columns _ sooner
    · cases List.mem_singleton.mp later
      exact ⟨own, has⟩
  names := by
    rw [List.map_append, List.nodup_append]
    refine ⟨recorded.names, by simp, fun left mem right last => ?_⟩
    obtain ⟨other, listed, rfl⟩ := List.mem_map.mp mem
    cases List.mem_singleton.mp last
    exact absent other listed

/-- What holds of a store whatever was done to it, in terms of what its numbers name. -/
structure Store.SoundFor (store : Store) (ledger : Ledger) : Prop where
  bounded : ∀ number object, ledger number = some object → number < store.fresh
  registered : ∀ resolver dataSource model,
    (store.registry resolver).get? dataSource = some model →
      model.dataSource = dataSource ∧ ledger.Has (.model model) ∧
        (store.models.get? model.number).isSome = true
  models : ∀ number state, store.models.get? number = some state →
    ∃ model : Model, model.number = number ∧ state.Recorded ledger model
  orphans : ∀ key entity, store.orphans.get? key = some entity →
    ledger.Has (.entity entity) ∧ entity.id? = none
  /-- No overlay is filed under two keys. -/
  apart : ∀ left right entity, store.orphans.get? left = some entity →
    store.orphans.get? right = some entity → left = right
  declared : ∀ number declared, store.declarations.get? number = some declared →
    ∃ entity : EntityOverlay, entity.number = number ∧ declared.Recorded ledger entity
  slots : ∀ slot ∈ store.slots, ledger.Has slot.1 ∧ slot.2.number < store.fresh
  held : ∀ object, Held.object object ∈ store.held → ledger.Has object
  heldModels : ∀ model, Held.object (.model model) ∈ store.held →
    (store.models.get? model.number).isSome = true
  heldSettings : ∀ id, Held.settings id ∈ store.held → id.number < store.fresh

/-- Whether the numbers of a store name objects in a sound way. -/
def Store.Sound (store : Store) : Prop := ∃ ledger, store.SoundFor ledger

namespace Store.SoundFor

variable {store : Store} {ledger : Ledger}

/-! ## What sound stores know of what lives -/

theorem has_model (sound : store.SoundFor ledger) {model : Model}
    (lives : store.modelLives model = true) : ledger.Has (.model model) := by
  rcases modelLives_iff.mp lives with ⟨resolver, dataSource, found⟩ | held
  · exact (sound.registered _ _ _ found).2.1
  · exact sound.held _ held

theorem known (sound : store.SoundFor ledger) {model : Model}
    (lives : store.modelLives model = true) :
    ∃ state, store.models.get? model.number = some state ∧ state.Recorded ledger model := by
  have isSome : (store.models.get? model.number).isSome = true := by
    rcases modelLives_iff.mp lives with ⟨resolver, dataSource, found⟩ | held
    · exact (sound.registered _ _ _ found).2.2
    · exact sound.heldModels _ held
  obtain ⟨state, filed⟩ := Option.isSome_iff_exists.mp isSome
  obtain ⟨owner, number, recorded⟩ := sound.models _ _ filed
  have same := recorded.listed.inj (sound.has_model lives) number
  cases same
  exact ⟨state, filed, recorded⟩

theorem modelState_recorded (sound : store.SoundFor ledger) {model : Model}
    (lives : store.modelLives model = true) : (store.modelState model).Recorded ledger model := by
  obtain ⟨state, filed, recorded⟩ := sound.known lives
  simpa only [modelState, filed, Option.getD_some] using recorded

/-- What a living model files under an identity stands for the entity of that identity. -/
theorem entity_standsFor (sound : store.SoundFor ledger) {model : Model}
    (lives : store.modelLives model = true) {id : ObjectId} {entity : EntityOverlay}
    (found : store.entity? model id = some entity) : entity.StandsFor model id :=
  ((sound.modelState_recorded lives).entities id entity found).2

theorem scope_standsFor (sound : store.SoundFor ledger) {model : Model}
    (lives : store.modelLives model = true) {id : ObjectId} {scope : ScopeOverlay}
    (found : store.scope? model id = some scope) : scope.StandsFor model id :=
  ((sound.modelState_recorded lives).scopes id scope found).2

/-- The overlay that a living model finds lives. -/
theorem entityLives_of_filed (sound : store.SoundFor ledger) {model : Model} {id : ObjectId}
    {entity : EntityOverlay} (lives : store.modelLives model = true)
    (found : store.entity? model id = some entity) : store.entityLives entity = true := by
  obtain ⟨own, -, rfl, -⟩ := sound.entity_standsFor lives found
  exact entityLives_iff.mpr (.inl ⟨lives, isFiled_iff.mpr ⟨id, own, found⟩⟩)

theorem declared_recorded (sound : store.SoundFor ledger) {entity : EntityOverlay}
    (has : ledger.Has (.entity entity)) : (store.declared entity).Recorded ledger entity := by
  unfold Store.declared
  cases filed : store.declarations.get? entity.number with
  | none => exact ⟨has, by simp [Declarations.empty], by simp [Declarations.empty]⟩
  | some declared =>
      obtain ⟨owner, number, recorded⟩ := sound.declared _ _ filed
      cases recorded.listed.inj has number
      exact recorded

/-- A declared column is what its number names. -/
theorem has_declared (sound : store.SoundFor ledger) {entity : EntityOverlay}
    {column : ColumnOverlay} (mem : column ∈ (store.declared entity).columns) :
    ledger.Has (.column column) := by
  unfold Store.declared at mem
  cases filed : store.declarations.get? entity.number with
  | none => simp [filed, Declarations.empty] at mem
  | some declared =>
      obtain ⟨owner, -, recorded⟩ := sound.declared _ _ filed
      rw [filed] at mem
      exact (recorded.columns _ mem).2

theorem has_entity (sound : store.SoundFor ledger) {entity : EntityOverlay}
    (lives : store.entityLives entity = true) : ledger.Has (.entity entity) := by
  rcases entityLives_iff.mp lives with ⟨alive, filed⟩ | ⟨key, filed⟩ | held
  · obtain ⟨id, -, found⟩ := isFiled_iff.mp filed
    exact ((sound.modelState_recorded alive).entities id entity found).1
  · exact (sound.orphans _ _ filed).1
  · exact sound.held _ held

/-- A living object is what its number names. -/
theorem has_of_lives (sound : store.SoundFor ledger) {object : OverlayObject}
    (lives : store.lives object = true) : ledger.Has object := by
  cases object with
  | model overlay => exact sound.has_model lives
  | scope overlay =>
      rcases scopeLives_iff.mp lives with ⟨alive, found⟩ | held
      · exact ((sound.modelState_recorded alive).scopes overlay.id overlay found).1
      · exact sound.held _ held
  | entity overlay => exact sound.has_entity lives
  | column overlay =>
      rcases columnLives_iff.mp lives with ⟨alive, declared⟩ | held
      · exact ((sound.declared_recorded (sound.has_entity alive)).columns _ declared).2
      · exact sound.held _ held

theorem number_lt (sound : store.SoundFor ledger) {object : OverlayObject}
    (has : ledger.Has object) : object.number < store.fresh :=
  sound.bounded _ _ has.eq

theorem settings_lt (sound : store.SoundFor ledger) {id : SettingsId}
    (lives : store.settingsLive id = true) : id.number < store.fresh := by
  rcases settingsLive_iff.mp lives with ⟨object, own, -⟩ | held
  · exact (sound.slots _ own).2
  · exact sound.heldSettings _ held

end Store.SoundFor

/-- Nothing is wrong with the empty store. -/
theorem Store.Sound.empty : Store.Sound .empty := by
  refine ⟨fun _ => none, ?_⟩
  constructor <;> simp [Store.empty, Store.registry]

/-! ## What allowed changes keep -/

/-- The object that a change brings into being. -/
def Change.created (store : Store) : Change → Option OverlayObject
  | addModel dataSource _ => some (.model ⟨store.fresh, dataSource⟩)
  | addDetached model name => some (.entity (.ofDetached store.fresh name model))
  | addEntity model id => some (.entity (.ofEntity store.fresh id model))
  | addScope model id => some (.scope ⟨store.fresh, id, model⟩)
  | addOrphan model _ name => some (.entity (.ofDetached store.fresh name model))
  | addColumn entity name typeName => some (.column ⟨store.fresh, name, typeName, entity⟩)
  | _ => none

def Change.ledger (store : Store) (change : Change) (ledger : Ledger) : Ledger :=
  match change.created store with
  | some object => ledger.record object
  | none => ledger

namespace Change

variable {store : Store} {ledger : Ledger} {change : Change}

theorem created_number {object : OverlayObject} (created : change.created store = some object) :
    object.number = store.fresh ∧ (change.apply store).fresh = store.fresh + 1 := by
  cases change with
  | addModel | addDetached | addEntity | addScope | addOrphan | addColumn =>
      cases created
      exact ⟨rfl, rfl⟩
  | _ => cases created

theorem ledger_of_created {object : OverlayObject} (created : change.created store = some object)
    (number : Nat) :
    change.ledger store ledger number =
      if number = store.fresh then some object else ledger number := by
  simp only [Change.ledger, created, Ledger.record, (created_number created).1]

theorem ledger_grows (sound : store.SoundFor ledger) (number : Nat) (named : OverlayObject)
    (listed : ledger number = some named) : change.ledger store ledger number = some named := by
  cases created : change.created store with
  | none => simpa only [Change.ledger, created] using listed
  | some object =>
      have lt := sound.bounded _ _ listed
      rw [ledger_of_created created, if_neg (Nat.ne_of_lt lt)]
      exact listed

theorem has_ledger (sound : store.SoundFor ledger) {object : OverlayObject}
    (has : ledger.Has object) : (change.ledger store ledger).Has object :=
  has.mono (ledger_grows sound)

/-- The object that comes into being is listed. -/
theorem has_created (sound : store.SoundFor ledger) (allowed : change.Allowed store)
    {object : OverlayObject} (created : change.created store = some object) :
    (change.ledger store ledger).Has object := by
  have new : change.ledger store ledger store.fresh = some object := by
    rw [ledger_of_created created, if_pos rfl]
  cases change with
  | addModel dataSource catalog =>
      cases created
      exact new
  | addDetached model name =>
      cases created
      exact ⟨new, has_ledger sound (sound.has_model allowed)⟩
  | addEntity model id =>
      cases created
      exact ⟨new, has_ledger sound (sound.has_model allowed.1)⟩
  | addScope model id =>
      cases created
      exact ⟨new, has_ledger sound (sound.has_model allowed.1)⟩
  | addOrphan model key name =>
      cases created
      exact ⟨new, has_ledger sound (sound.has_model allowed.1)⟩
  | addColumn entity name typeName =>
      cases created
      exact ⟨new, has_ledger sound (sound.has_entity allowed.1)⟩
  | _ => cases created

theorem bounded_apply (sound : store.SoundFor ledger) (allowed : change.Allowed store)
    (number : Nat) (named : OverlayObject)
    (listed : change.ledger store ledger number = some named) :
    number < (change.apply store).fresh := by
  have le := fresh_le_apply allowed
  cases created : change.created store with
  | none =>
      simp only [Change.ledger, created] at listed
      exact Nat.lt_of_lt_of_le (sound.bounded _ _ listed) le
  | some object =>
      rw [ledger_of_created created] at listed
      rw [(created_number created).2]
      split at listed
      · omega
      · exact Nat.lt_succ_of_lt (sound.bounded _ _ listed)

theorem registry_register (resolver : Resolver) (model : Model) (number : Nat)
    (dataSource : String) :
    (((register resolver model).apply store).registry number).get? dataSource =
      if number = resolver.number ∧ dataSource = model.dataSource then some model
      else (store.registry number).get? dataSource := by
  rw [apply_register]
  by_cases here : number = resolver.number
  · subst here
    by_cases same : dataSource = model.dataSource <;>
      simp [Store.registry, SortedMap.get?_insert, same]
  · simp [Store.registry, SortedMap.get?_insert, here]

theorem known_apply (allowed : change.Allowed store) {number : Nat}
    (known : (store.models.get? number).isSome = true) :
    ((change.apply store).models.get? number).isSome = true := by
  by_cases other : change.kind ∈ [.model, .entity, .scope]
  · cases change with
    | addModel | addEntity | addScope =>
        simp only [apply_addModel, apply_addEntity, apply_addScope, SortedMap.get?_insert]
        split
        · rfl
        · exact known
    | _ => simp [kind] at other
  · rw [models_apply allowed other]
    exact known

theorem registered_apply (sound : store.SoundFor ledger) (allowed : change.Allowed store)
    (resolver : Nat) (dataSource : String) (model : Model)
    (found : ((change.apply store).registry resolver).get? dataSource = some model) :
    model.dataSource = dataSource ∧ (change.ledger store ledger).Has (.model model) ∧
      ((change.apply store).models.get? model.number).isSome = true := by
  have old : (store.registry resolver).get? dataSource = some model →
      model.dataSource = dataSource ∧ (change.ledger store ledger).Has (.model model) ∧
        ((change.apply store).models.get? model.number).isSome = true := by
    intro filed
    obtain ⟨same, has, known⟩ := sound.registered _ _ _ filed
    exact ⟨same, has_ledger sound has, known_apply allowed known⟩
  by_cases other : change.kind = .registry
  · cases change with
    | register owner registered =>
        rw [registry_register] at found
        split at found
        · rename_i here
          cases found
          obtain ⟨state, filed, -⟩ := sound.known allowed
          refine ⟨here.2.symm, sound.has_model allowed, ?_⟩
          exact known_apply allowed (congrArg Option.isSome filed)
        · exact old found
    | _ => cases other
  · refine old ?_
    simpa only [Store.registry, registries_apply allowed other] using found

theorem ModelState.recorded_ledger (change : Change) {model : Model} {state : ModelState}
    (sound : store.SoundFor ledger) (recorded : state.Recorded ledger model) :
    state.Recorded (change.ledger store ledger) model where
  listed := has_ledger sound recorded.listed
  scopes id number found :=
    ⟨has_ledger sound (recorded.scopes id number found).1, (recorded.scopes id number found).2⟩
  entities id number found :=
    ⟨has_ledger sound (recorded.entities id number found).1, (recorded.entities id number found).2⟩

theorem models_recorded_apply (sound : store.SoundFor ledger) (allowed : change.Allowed store)
    (number : Nat) (state : ModelState)
    (found : (change.apply store).models.get? number = some state) :
    ∃ model : Model, model.number = number ∧
      state.Recorded (change.ledger store ledger) model := by
  have old : store.models.get? number = some state →
      ∃ model : Model, model.number = number ∧
        state.Recorded (change.ledger store ledger) model := by
    intro filed
    obtain ⟨model, same, recorded⟩ := sound.models _ _ filed
    exact ⟨model, same, ModelState.recorded_ledger change sound recorded⟩
  -- A model's state is written again, still as one of its own.
  have written : ∀ (model : Model) (changed : ModelState),
      changed.Recorded (change.ledger store ledger) model →
      (store.models.insert model.number changed).get? number = some state →
      ∃ model : Model, model.number = number ∧
        state.Recorded (change.ledger store ledger) model := by
    intro model changed recorded filed
    rw [SortedMap.get?_insert] at filed
    split at filed
    · rename_i here
      cases filed
      exact ⟨model, here.symm, recorded⟩
    · exact old filed
  by_cases other : change.kind ∈ [.model, .entity, .scope]
  · cases change with
    | addModel dataSource catalog =>
        rw [apply_addModel] at found
        refine written ⟨store.fresh, dataSource⟩ _ ⟨has_created sound allowed rfl, ?_, ?_⟩ found <;>
          simp [ModelState.ofCatalog]
    | addEntity model id =>
        rw [apply_addEntity] at found
        have former := ModelState.recorded_ledger (addEntity model id) sound
          (sound.modelState_recorded allowed.1)
        have stands : (EntityOverlay.ofEntity store.fresh id model).StandsFor model id :=
          ⟨rfl, rfl, rfl, allowed.2.1⟩
        exact written model _ (former.withEntity (has_created sound allowed rfl) stands) found
    | addScope model id =>
        rw [apply_addScope] at found
        have former := ModelState.recorded_ledger (addScope model id) sound
          (sound.modelState_recorded allowed.1)
        have stands : (⟨store.fresh, id, model⟩ : ScopeOverlay).StandsFor model id :=
          ⟨rfl, rfl, allowed.2.1, allowed.2.2.1⟩
        exact written model _ (former.withScope (has_created sound allowed rfl) stands) found
    | _ => simp [kind] at other
  · rw [models_apply allowed other] at found
    exact old found

theorem orphans_apply_has (sound : store.SoundFor ledger) (allowed : change.Allowed store)
    (key : String) (entity : EntityOverlay)
    (found : (change.apply store).orphans.get? key = some entity) :
    (change.ledger store ledger).Has (.entity entity) ∧ entity.id? = none := by
  have old : store.orphans.get? key = some entity →
      (change.ledger store ledger).Has (.entity entity) ∧ entity.id? = none := by
    intro filed
    obtain ⟨has, orphan⟩ := sound.orphans _ _ filed
    exact ⟨has_ledger sound has, orphan⟩
  by_cases other : change.kind = .orphan
  · cases change with
    | addOrphan model filing name =>
        have new := has_created sound allowed rfl
        rw [apply_addOrphan] at found
        simp only [SortedMap.get?_insert] at found
        split at found
        · cases found
          exact ⟨new, rfl⟩
        · exact old found
    | _ => cases other
  · rw [orphans_apply allowed other] at found
    exact old found

theorem apart_apply (sound : store.SoundFor ledger) (allowed : change.Allowed store)
    (left right : String) (entity : EntityOverlay)
    (here : (change.apply store).orphans.get? left = some entity)
    (there : (change.apply store).orphans.get? right = some entity) : left = right := by
  by_cases other : change.kind = .orphan
  · cases change with
    | addOrphan model key name =>
        rw [apply_addOrphan] at here there
        simp only [SortedMap.get?_insert] at here there
        -- A number that is given out now is on no overlay that was there before.
        have older : ∀ key entity, store.orphans.get? key = some entity →
            entity.number < store.fresh := fun key entity filed =>
          sound.number_lt (sound.orphans _ _ filed).1
        split at here <;> split at there
        · rename_i front back
          rw [front, back]
        · cases here
          exact absurd (older _ _ there) (Nat.lt_irrefl _)
        · cases there
          exact absurd (older _ _ here) (Nat.lt_irrefl _)
        · exact sound.apart _ _ _ here there
    | _ => cases other
  · rw [orphans_apply allowed other] at here there
    exact sound.apart _ _ _ here there

theorem Declarations.recorded_ledger (change : Change) {entity : EntityOverlay}
    {declared : Declarations} (sound : store.SoundFor ledger)
    (recorded : declared.Recorded ledger entity) :
    declared.Recorded (change.ledger store ledger) entity where
  listed := has_ledger sound recorded.listed
  columns column mem :=
    ⟨(recorded.columns column mem).1, has_ledger sound (recorded.columns column mem).2⟩
  names := recorded.names

theorem declared_recorded_apply (sound : store.SoundFor ledger) (allowed : change.Allowed store)
    (number : Nat) (declared : Declarations)
    (found : (change.apply store).declarations.get? number = some declared) :
    ∃ entity : EntityOverlay, entity.number = number ∧
      declared.Recorded (change.ledger store ledger) entity := by
  have old : store.declarations.get? number = some declared →
      ∃ entity : EntityOverlay, entity.number = number ∧
        declared.Recorded (change.ledger store ledger) entity := by
    intro filed
    obtain ⟨entity, same, recorded⟩ := sound.declared _ _ filed
    exact ⟨entity, same, Declarations.recorded_ledger change sound recorded⟩
  -- What an entity declares is written again, still as its own.
  have written : ∀ (entity : EntityOverlay) (changed : Declarations),
      changed.Recorded (change.ledger store ledger) entity →
      (store.declarations.insert entity.number changed).get? number = some declared →
      ∃ entity : EntityOverlay, entity.number = number ∧
        declared.Recorded (change.ledger store ledger) entity := by
    intro entity changed recorded filed
    rw [SortedMap.get?_insert] at filed
    split at filed
    · rename_i here
      cases filed
      exact ⟨entity, here.symm, recorded⟩
    · exact old filed
  have former : ∀ entity : EntityOverlay, store.entityLives entity = true →
      (store.declared entity).Recorded (change.ledger store ledger) entity := fun entity lives =>
    Declarations.recorded_ledger change sound (sound.declared_recorded (sound.has_entity lives))
  by_cases other : change.kind ∈ [.column, .declaration]
  · cases change with
    | addColumn entity name typeName =>
        have absent : ∀ column ∈ (store.declared entity).columns, column.name ≠ name := by
          simpa using List.find?_eq_none.mp allowed.2
        have recorded := (former entity allowed.1).withColumn rfl
          (has_created sound allowed rfl) absent
        rw [apply_addColumn] at found
        exact written entity _ recorded found
    | declareConstraint entity constraint =>
        rw [apply_declareConstraint] at found
        obtain ⟨listed, columns, names⟩ := former entity allowed
        refine written entity _ ?_ found
        exact ⟨listed, columns, names⟩
    | declareForeignKey entity key =>
        rw [apply_declareForeignKey] at found
        obtain ⟨listed, columns, names⟩ := former entity allowed
        refine written entity _ ?_ found
        exact ⟨listed, columns, names⟩
    | describe entity columns =>
        rw [apply_describe] at found
        obtain ⟨listed, columns, names⟩ := former entity allowed
        refine written entity _ ?_ found
        exact ⟨listed, columns, names⟩
    | _ => simp [kind] at other
  · rw [declarations_apply allowed other] at found
    exact old found

theorem slots_apply_has (sound : store.SoundFor ledger) (allowed : change.Allowed store)
    (slot : OverlayObject × SettingsId) (mem : slot ∈ (change.apply store).slots) :
    (change.ledger store ledger).Has slot.1 ∧ slot.2.number < (change.apply store).fresh := by
  have old : slot ∈ store.slots → (change.ledger store ledger).Has slot.1 ∧
      slot.2.number < (change.apply store).fresh := by
    intro filed
    obtain ⟨has, lt⟩ := sound.slots _ filed
    exact ⟨has_ledger sound has, Nat.lt_of_lt_of_le lt (fresh_le_apply allowed)⟩
  by_cases other : change.kind = .slot
  · cases change with
    | createSettings object =>
        have slots := congrArg Store.slots (apply_createSettings allowed.2)
        rw [slots] at mem
        rcases List.mem_append.mp mem with former | new
        · exact old former
        · cases List.mem_singleton.mp new
          refine ⟨has_ledger sound (sound.has_of_lives allowed.1), ?_⟩
          rw [apply_createSettings allowed.2]
          exact Nat.lt_succ_self _
    | installSettings object id =>
        have slots := congrArg Store.slots (apply_installSettings id allowed.2.2)
        rw [slots] at mem
        rcases List.mem_append.mp mem with former | new
        · exact old former
        · cases List.mem_singleton.mp new
          refine ⟨has_ledger sound (sound.has_of_lives allowed.1), ?_⟩
          exact Nat.lt_of_lt_of_le (sound.settings_lt allowed.2.1) (fresh_le_apply allowed)
    | _ => cases other
  · rw [slots_apply other] at mem
    exact old mem

/-- What a caller holds after a change is held before, or new, or alive. -/
theorem held_cases (allowed : change.Allowed store) {held : Held}
    (mem : held ∈ (change.apply store).held) :
    held ∈ store.held ∨ (∃ object, change.created store = some object ∧ held = .object object) ∨
      (∃ contents, change = addSettings contents ∧ held = .settings ⟨store.fresh⟩) ∨
        (change = retain held ∧ store.isAlive held = true) := by
  by_cases other : change.kind ∈ [.model, .settings, .detached, .hold]
  · cases change with
    | addModel dataSource catalog =>
        rcases List.mem_cons.mp mem with rfl | former
        · exact .inr (.inl ⟨_, rfl, rfl⟩)
        · exact .inl former
    | addSettings contents =>
        rcases List.mem_cons.mp mem with rfl | former
        · exact .inr (.inr (.inl ⟨contents, rfl, rfl⟩))
        · exact .inl former
    | addDetached model name =>
        rcases List.mem_cons.mp mem with rfl | former
        · exact .inr (.inl ⟨_, rfl, rfl⟩)
        · exact .inl former
    | retain taken =>
        rcases List.mem_cons.mp mem with rfl | former
        · exact .inr (.inr (.inr ⟨rfl, allowed⟩))
        · exact .inl former
    | release gone => exact .inl (List.mem_of_mem_erase mem)
    | _ => simp [kind] at other
  · rw [held_apply allowed other] at mem
    exact .inl mem

theorem held_apply_has (sound : store.SoundFor ledger) (allowed : change.Allowed store)
    (object : OverlayObject) (mem : Held.object object ∈ (change.apply store).held) :
    (change.ledger store ledger).Has object := by
  rcases held_cases allowed mem with former | ⟨new, created, same⟩ | ⟨_, _, same⟩ | ⟨_, alive⟩
  · exact has_ledger sound (sound.held _ former)
  · cases same
    exact has_created sound allowed created
  · cases same
  · exact has_ledger sound (sound.has_of_lives alive)

theorem heldModels_apply (sound : store.SoundFor ledger) (allowed : change.Allowed store)
    (model : Model) (mem : Held.object (.model model) ∈ (change.apply store).held) :
    ((change.apply store).models.get? model.number).isSome = true := by
  rcases held_cases allowed mem with former | ⟨new, created, same⟩ | ⟨_, _, same⟩ | ⟨_, alive⟩
  · exact known_apply allowed (sound.heldModels _ former)
  · cases same
    cases change with
    | addModel dataSource catalog =>
        cases created
        simp [apply_addModel, SortedMap.get?_insert]
    | _ => cases created
  · cases same
  · obtain ⟨state, filed, -⟩ := sound.known alive
    exact known_apply allowed (congrArg Option.isSome filed)

theorem heldSettings_apply (sound : store.SoundFor ledger) (allowed : change.Allowed store)
    (id : SettingsId) (mem : Held.settings id ∈ (change.apply store).held) :
    id.number < (change.apply store).fresh := by
  have le := fresh_le_apply allowed
  rcases held_cases allowed mem with former | ⟨new, created, same⟩ | ⟨contents, rfl, same⟩ |
    ⟨_, alive⟩
  · exact Nat.lt_of_lt_of_le (sound.heldSettings _ former) le
  · cases same
  · cases same
    exact Nat.lt_succ_self store.fresh
  · exact Nat.lt_of_lt_of_le (sound.settings_lt alive) le

/-- An allowed change keeps a store sound, with the new object on the ledger. -/
theorem soundFor_apply (sound : store.SoundFor ledger) (allowed : change.Allowed store) :
    (change.apply store).SoundFor (change.ledger store ledger) where
  bounded := bounded_apply sound allowed
  registered := registered_apply sound allowed
  models := models_recorded_apply sound allowed
  orphans := orphans_apply_has sound allowed
  apart := apart_apply sound allowed
  declared := declared_recorded_apply sound allowed
  slots := slots_apply_has sound allowed
  held := held_apply_has sound allowed
  heldModels := heldModels_apply sound allowed
  heldSettings := heldSettings_apply sound allowed

theorem sound_apply (sound : store.Sound) (allowed : change.Allowed store) :
    (change.apply store).Sound := by
  obtain ⟨ledger, sound⟩ := sound
  exact ⟨_, soundFor_apply sound allowed⟩

end Change

theorem Trace.sound {before after : Store} {changes : List Change} {events : List Event}
    (trace : Trace before changes events after) (sound : before.Sound) : after.Sound :=
  trace.keeps Store.Sound (fun _ _ _ sound allowed => Change.sound_apply sound allowed) sound

end SchemaOverlay
