import SchemaOverlay.Proofs.Change

/-!
# What changes leave alone

Each change touches a few parts of the store, written out here once as one
equation for each sort of change.  The frame theorems then say, part by part,
which kinds of changes touch it at all.
-/

namespace SchemaOverlay

open SchemaOverlay.Action

namespace OverlayObject

/-- An object that owns settings keeps them. -/
theorem createSettings_of_some {object : OverlayObject} {store : Store} {id : SettingsId}
    (own : store.ownSettings? object = some id) :
    object.createSettings store = ⟨id, store, []⟩ := by
  simp only [createSettings, bind_apply, read_apply, own]
  rfl

/-- An object without settings gets new ones, in which nothing was decided. -/
theorem createSettings_of_none {object : OverlayObject} {store : Store}
    (own : store.ownSettings? object = none) :
    (object.createSettings store).value = ⟨store.fresh⟩ ∧
      (object.createSettings store).store =
        { store with
          fresh := store.fresh + 1
          settings := store.settings.insert store.fresh .empty
          slots := store.slots ++ [(object, ⟨store.fresh⟩)] } := by
  simp only [createSettings, bind_apply, read_apply, own]
  cases object <;> exact ⟨rfl, rfl⟩

/-- Settings are not installed over those that an object owns. -/
theorem installSettings_of_some {object : OverlayObject} {store : Store} {id own : SettingsId}
    (owned : store.ownSettings? object = some own) :
    object.installSettings id store = ⟨own, store, []⟩ := by
  simp only [installSettings, bind_apply, read_apply, owned]
  rfl

/-- Settings installed on an object without settings become its own. -/
theorem installSettings_of_none {object : OverlayObject} {store : Store} {id : SettingsId}
    (own : store.ownSettings? object = none) :
    object.installSettings id store =
      ⟨id, { store with slots := store.slots ++ [(object, id)] }, []⟩ := by
  simp only [installSettings, bind_apply, read_apply, own]
  rfl

end OverlayObject

namespace Change

variable {store : Store} {change : Change}

/-! ## One equation for each sort of change -/

theorem apply_addModel (dataSource : String) (catalog : SchemaCatalog) :
    (addModel dataSource catalog).apply store =
      { store with
        fresh := store.fresh + 1
        models := store.models.insert store.fresh (.ofCatalog catalog)
        held := .object (.model ⟨store.fresh, dataSource⟩) :: store.held } := rfl

theorem apply_addSettings (contents : TransformSettings) :
    (addSettings contents).apply store =
      { store with
        fresh := store.fresh + 1
        settings := store.settings.insert store.fresh contents
        held := .settings ⟨store.fresh⟩ :: store.held } := rfl

theorem apply_addEntity (model : Model) (id : ObjectId) :
    (addEntity model id).apply store =
      { store with
        fresh := store.fresh + 1
        models := store.models.insert model.number
          { store.modelState model with
            entities :=
              (store.modelState model).entities.insert id (.ofEntity store.fresh id model) } } :=
  rfl

theorem apply_addScope (model : Model) (id : ObjectId) :
    (addScope model id).apply store =
      { store with
        fresh := store.fresh + 1
        models := store.models.insert model.number
          { store.modelState model with
            scopes := (store.modelState model).scopes.file ⟨store.fresh, id, model⟩ } } := rfl

theorem apply_addOrphan (model : Model) (key name : String) :
    (addOrphan model key name).apply store =
      { store with
        fresh := store.fresh + 1
        orphans := store.orphans.insert key (.ofDetached store.fresh name model) } := rfl

theorem apply_addColumn (entity : EntityOverlay) (name : String) (typeName : Option String) :
    (addColumn entity name typeName).apply store =
      { store with
        fresh := store.fresh + 1
        declarations := store.declarations.insert entity.number
          { store.declared entity with
            columns := (store.declared entity).columns ++
              [⟨store.fresh, name, typeName, entity⟩] } } := rfl

theorem apply_declareConstraint (entity : EntityOverlay) (constraint : Constraint) :
    (declareConstraint entity constraint).apply store =
      store.updateDeclared entity fun declared =>
        { declared with constraints := declared.constraints ++ [constraint] } := rfl

theorem apply_declareForeignKey (entity : EntityOverlay) (key : Association) :
    (declareForeignKey entity key).apply store =
      store.updateDeclared entity fun declared =>
        { declared with foreignKeys := declared.foreignKeys ++ [key] } := rfl

theorem apply_describe (entity : EntityOverlay) (columns : Option String) :
    (describe entity columns).apply store =
      store.updateDeclared entity fun declared =>
        { declared with description := columns } := rfl

theorem apply_createSettings {object : OverlayObject} (own : store.ownSettings? object = none) :
    (createSettings object).apply store =
      { store with
        fresh := store.fresh + 1
        settings := store.settings.insert store.fresh .empty
        slots := store.slots ++ [(object, ⟨store.fresh⟩)] } :=
  (OverlayObject.createSettings_of_none own).2

theorem apply_installSettings {object : OverlayObject} (id : SettingsId)
    (own : store.ownSettings? object = none) :
    (installSettings object id).apply store =
      { store with slots := store.slots ++ [(object, id)] } :=
  congrArg Outcome.store (OverlayObject.installSettings_of_none own)

theorem apply_register (resolver : Resolver) (model : Model) :
    (register resolver model).apply store =
      { store with
        registries := store.registries.insert resolver.number
          ((store.registry resolver.number).insert model.dataSource model) } := rfl

/-! ## Frames -/

/-- Numbers that are used stay used. -/
theorem fresh_le_apply (allowed : change.Allowed store) :
    store.fresh ≤ (change.apply store).fresh := by
  cases change with
  | createSettings object =>
      rw [apply_createSettings allowed.2]
      exact Nat.le_succ _
  | installSettings object id =>
      exact Nat.le_of_eq (congrArg Store.fresh (apply_installSettings id allowed.2.2)).symm
  | report | declareConstraint | declareForeignKey | describe | edit | register | retain
  | release => exact Nat.le_refl _
  | addModel | addSettings | addDetached | addEntity | addScope | addOrphan | addColumn =>
      exact Nat.le_succ _

/-- Only registering a model touches the registries. -/
theorem registries_apply (allowed : change.Allowed store) (other : change.kind ≠ .registry) :
    (change.apply store).registries = store.registries := by
  cases change with
  | createSettings object => rw [apply_createSettings allowed.2]
  | installSettings object id => rw [apply_installSettings id allowed.2.2]
  | register => exact absurd rfl other
  | _ => rfl

/-- Only new models, entities and scopes touch what models hold. -/
theorem models_apply (allowed : change.Allowed store)
    (other : change.kind ∉ [.model, .entity, .scope]) :
    (change.apply store).models = store.models := by
  cases change with
  | createSettings object => rw [apply_createSettings allowed.2]
  | installSettings object id => rw [apply_installSettings id allowed.2.2]
  | addModel | addEntity | addScope => simp [kind] at other
  | _ => rfl

/-- Only new overlays of detached containers touch the orphans. -/
theorem orphans_apply (allowed : change.Allowed store) (other : change.kind ≠ .orphan) :
    (change.apply store).orphans = store.orphans := by
  cases change with
  | createSettings object => rw [apply_createSettings allowed.2]
  | installSettings object id => rw [apply_installSettings id allowed.2.2]
  | addOrphan => exact absurd rfl other
  | _ => rfl

/-- Only columns and other declarations touch what is declared. -/
theorem declarations_apply (allowed : change.Allowed store)
    (other : change.kind ∉ [.column, .declaration]) :
    (change.apply store).declarations = store.declarations := by
  cases change with
  | createSettings object => rw [apply_createSettings allowed.2]
  | installSettings object id => rw [apply_installSettings id allowed.2.2]
  | addColumn | declareConstraint | declareForeignKey | describe => simp [kind] at other
  | _ => rfl

/-- Only giving an object its settings touches the slots. -/
theorem slots_apply (other : change.kind ≠ .slot) : (change.apply store).slots = store.slots := by
  cases change with
  | createSettings | installSettings => exact absurd rfl other
  | _ => rfl

/-- Only new objects of the caller, and what the caller takes or lets go, touch what is held. -/
theorem held_apply (allowed : change.Allowed store)
    (other : change.kind ∉ [.model, .settings, .detached, .hold]) :
    (change.apply store).held = store.held := by
  cases change with
  | createSettings object => rw [apply_createSettings allowed.2]
  | installSettings object id => rw [apply_installSettings id allowed.2.2]
  | addModel | addSettings | addDetached | retain | release => simp [kind] at other
  | _ => rfl

end Change

end SchemaOverlay
