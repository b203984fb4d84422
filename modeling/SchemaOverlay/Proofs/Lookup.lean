import SchemaOverlay.Proofs.Soundness

/-!
# Outcomes of look-ups

What each look-up yields and leaves behind, as one equation for each case: the
object is found, it is missing and not wanted, or it is missing and comes into
being.  An object that has just come into being is found from then on.
-/

namespace SchemaOverlay

open SchemaOverlay.Action

/-! ## Objects that have just come into being -/

namespace Change

variable {store : Store}

/-- A new overlay is filed for its entity and for no other. -/
theorem entity?_addEntity_eq (model owner : Model) (id wanted : ObjectId) :
    ((addEntity model id).apply store).entity? owner wanted =
      if owner.number = model.number ∧ wanted = id then some (.ofEntity store.fresh id model)
      else store.entity? owner wanted := by
  rw [apply_addEntity]
  simp only [Store.entity?, Store.modelState, SortedMap.get?_insert]
  by_cases here : owner.number = model.number <;> by_cases same : wanted = id <;>
    simp [here, same, SortedMap.get?_insert]

/-- A new overlay of an entity is found under the entity's identity. -/
theorem entity?_addEntity (model : Model) (id : ObjectId) :
    ((addEntity model id).apply store).entity? model id =
      some (.ofEntity store.fresh id model) := by
  rw [entity?_addEntity_eq, if_pos ⟨rfl, rfl⟩]

/-- A new scope leaves the overlays of entities as they are. -/
theorem entity?_addScope (model owner : Model) (id wanted : ObjectId) :
    ((addScope model id).apply store).entity? owner wanted = store.entity? owner wanted := by
  rw [apply_addScope]
  simp only [Store.entity?, Store.modelState, SortedMap.get?_insert]
  by_cases here : owner.number = model.number <;> simp [here]

/-- A new scope is filed for its container and for no other. -/
theorem scope?_addScope_eq (model owner : Model) (id wanted : ObjectId) :
    ((addScope model id).apply store).scope? owner wanted =
      if owner.number = model.number ∧ wanted = id then some ⟨store.fresh, id, model⟩
      else store.scope? owner wanted := by
  rw [apply_addScope]
  simp only [Store.scope?, Store.modelState, SortedMap.get?_insert]
  by_cases here : owner.number = model.number <;> by_cases same : wanted = id <;>
    simp [here, same, ScopeTable.get?_file]

/-- A new scope is found under the container's identity. -/
theorem scope?_addScope (model : Model) (id : ObjectId) :
    ((addScope model id).apply store).scope? model id = some ⟨store.fresh, id, model⟩ := by
  rw [scope?_addScope_eq, if_pos ⟨rfl, rfl⟩]

/-- A new overlay of a container outside the schema is found under its key. -/
theorem orphan_addOrphan (model : Model) (key name : String) :
    ((addOrphan model key name).apply store).orphans.get? key =
      some (.ofDetached store.fresh name model) := by
  simp [apply_addOrphan, SortedMap.get?_insert]

theorem declared_addColumn (entity : EntityOverlay) (name : String) (typeName : Option String) :
    ((addColumn entity name typeName).apply store).declared entity =
      { store.declared entity with
        columns :=
          (store.declared entity).columns ++ [⟨store.fresh, name, typeName, entity⟩] } := by
  simp [apply_addColumn, Store.declared, SortedMap.get?_insert]

/-- A new column is found under its name. -/
theorem column?_addColumn {entity : EntityOverlay} {name : String} (typeName : Option String)
    (absent : store.column? entity name = none) :
    ((addColumn entity name typeName).apply store).column? entity name =
      some ⟨store.fresh, name, typeName, entity⟩ := by
  rw [Store.column?, declared_addColumn, List.find?_append]
  have before : (store.declared entity).columns.find? (·.name == name) = none := absent
  simp [before]

/-- Models live on when nothing is registered or let go. -/
theorem modelLives_apply {change : Change} (allowed : change.Allowed store) {model : Model}
    (other : change.kind ∉ [.registry, .hold]) (lives : store.modelLives model = true) :
    (change.apply store).modelLives model = true := by
  have registries := registries_apply allowed (by simp at other; exact other.1)
  rcases Store.modelLives_iff.mp lives with ⟨resolver, dataSource, found⟩ | held
  · refine Store.modelLives_iff.mpr (.inl ⟨resolver, dataSource, ?_⟩)
    simpa only [Store.registry, registries] using found
  · refine Store.modelLives_iff.mpr (.inr ?_)
    by_cases taken : change.kind ∈ [.model, .settings, .detached, .hold]
    · cases change with
      | addModel | addSettings | addDetached => exact List.mem_cons_of_mem _ held
      | _ => simp [kind] at taken other
    · rw [held_apply allowed taken]
      exact held

/-- Which entities live does not depend on columns, other declarations and settings. -/
theorem entityLives_apply {change : Change} (allowed : change.Allowed store)
    (inner : change.kind ∈ [.report, .column, .declaration, .slot, .contents])
    (entity : EntityOverlay) :
    (change.apply store).entityLives entity = store.entityLives entity := by
  refine Store.entityLives_congr (registries_apply allowed ?_) (models_apply allowed ?_)
    (orphans_apply allowed ?_) (held_apply allowed ?_) entity <;>
  · simp only [List.mem_cons, List.not_mem_nil, or_false] at inner
    rcases inner with kind | kind | kind | kind | kind <;> simp [kind]

end Change

/-! ## Entities of a model -/

namespace Model

variable {store : Store} {model : Model} {id : ObjectId} {create : Bool}

theorem entityById_of_foreign (foreign : id.dataSource ≠ model.dataSource) :
    model.entityById id create store = ⟨none, store, [.foreignObject model.dataSource id]⟩ := by
  simp only [entityById, if_pos foreign, bind_apply]
  rfl

theorem entityById_of_some {entity : EntityOverlay} (own : id.dataSource = model.dataSource)
    (found : store.entity? model id = some entity) :
    model.entityById id create store = ⟨some entity, store, []⟩ := by
  simp only [entityById, ne_eq, own, not_true, if_false, bind_apply, read_apply, found]
  rfl

theorem entityById_false (own : id.dataSource = model.dataSource)
    (absent : store.entity? model id = none) :
    model.entityById id false store = ⟨none, store, []⟩ := by
  simp only [entityById, ne_eq, own, not_true, if_false, bind_apply, read_apply, absent]
  rfl

/-- A missing overlay comes into being where it is wanted. -/
theorem entityById_true (own : id.dataSource = model.dataSource)
    (absent : store.entity? model id = none) :
    model.entityById id true store =
      ⟨some (.ofEntity store.fresh id model), (Change.addEntity model id).apply store,
        [.createdEntity id]⟩ := by
  simp only [entityById, ne_eq, own, not_true, if_false, bind_apply, read_apply, absent]
  rfl

/-- What is looked up with `create` set is found afterwards. -/
theorem entity?_of_entityById {entity : EntityOverlay} {create : Bool}
    (found : (model.entityById id create store).value = some entity) :
    id.dataSource = model.dataSource ∧
      (model.entityById id create store).store.entity? model id = some entity := by
  by_cases own : id.dataSource = model.dataSource
  · refine ⟨own, ?_⟩
    cases filed : store.entity? model id with
    | some former =>
        rw [entityById_of_some own filed] at found ⊢
        cases found
        exact filed
    | none =>
        cases create with
        | false =>
            rw [entityById_false own filed] at found
            cases found
        | true =>
            rw [entityById_true own filed] at found ⊢
            cases found
            exact Change.entity?_addEntity model id
  · rw [entityById_of_foreign own] at found
    cases found

/-! ## Scopes of a model -/

theorem findScope_of_some {scope : ScopeOverlay} (found : store.scope? model id = some scope) :
    model.findScope id create store = ⟨some scope, store, []⟩ := by
  simp only [findScope, bind_apply, read_apply, found]
  rfl

/-- A missing scope comes into being where it is wanted, for containers of the data source. -/
theorem findScope_of_none (absent : store.scope? model id = none) :
    model.findScope id create store =
      if create && !id.isRoot && id.dataSource == model.dataSource then
        ⟨some ⟨store.fresh, id, model⟩, (Change.addScope model id).apply store,
          [.createdContainer id]⟩
      else ⟨none, store, []⟩ := by
  simp only [findScope, bind_apply, read_apply, absent]
  split <;> rfl

/-- A scope that was looked up is found afterwards. -/
theorem scope?_of_findScope {scope : ScopeOverlay}
    (found : (model.findScope id create store).value = some scope) :
    (model.findScope id create store).store.scope? model id = some scope := by
  cases filed : store.scope? model id with
  | some former =>
      rw [findScope_of_some filed] at found ⊢
      cases found
      exact filed
  | none =>
      rw [findScope_of_none filed] at found ⊢
      split at found
      · rename_i wanted
        rw [if_pos wanted]
        cases found
        exact Change.scope?_addScope model id
      · cases found

/-! ## Containers outside the schema -/

theorem fileOrphan_of_some {key name : String} {overlay : EntityOverlay}
    (filed : store.orphans.get? key = some overlay) :
    model.fileOrphan key name store = ⟨overlay, store, []⟩ := by
  simp only [fileOrphan, bind_apply, read_apply, filed]
  rfl

/-- Where nothing is filed under the key, an overlay comes into being. -/
theorem fileOrphan_of_none {key name : String} (absent : store.orphans.get? key = none) :
    model.fileOrphan key name store =
      ⟨.ofDetached store.fresh name model, (Change.addOrphan model key name).apply store,
        [.createdOrphan key name]⟩ := by
  simp only [fileOrphan, bind_apply, read_apply, absent]
  rfl

end Model

/-! ## Columns of an entity -/

namespace EntityOverlay

variable {store : Store} {entity : EntityOverlay} {name : String} {create : Bool}

theorem findColumn_of_some {column : ColumnOverlay}
    (found : store.column? entity name = some column) :
    entity.findColumn name create store = ⟨some column, store, []⟩ := by
  simp only [findColumn, bind_apply, read_apply, found]
  rfl

/-- A missing column comes into being where it is wanted. -/
theorem findColumn_of_none (absent : store.column? entity name = none) :
    entity.findColumn name create store =
      if create then
        ⟨some ⟨store.fresh, name, none, entity⟩,
          (Change.addColumn entity name none).apply store, []⟩
      else ⟨none, store, []⟩ := by
  simp only [findColumn, bind_apply, read_apply, absent]
  split <;> rfl

/-- With `create` set there is always a column. -/
theorem exists_findColumn (entity : EntityOverlay) (name : String) (store : Store) :
    ∃ column, (entity.findColumn name true store).value = some column := by
  cases filed : store.column? entity name with
  | some column => exact ⟨column, congrArg Outcome.value (findColumn_of_some filed)⟩
  | none => exact ⟨_, congrArg Outcome.value (findColumn_of_none filed)⟩

/-- A column that was looked up is found afterwards. -/
theorem column?_of_findColumn {column : ColumnOverlay}
    (found : (entity.findColumn name create store).value = some column) :
    (entity.findColumn name create store).store.column? entity name = some column := by
  cases filed : store.column? entity name with
  | some former =>
      rw [findColumn_of_some filed] at found ⊢
      cases found
      exact filed
  | none =>
      rw [findColumn_of_none filed] at found ⊢
      split at found
      · rename_i wanted
        rw [if_pos wanted]
        cases found
        exact Change.column?_addColumn none filed
      · cases found

end EntityOverlay

/-! ## Models and orphans of a resolver -/

namespace Resolver

variable {store : Store} {resolver : Resolver}

theorem requireModel_of_some {dataSource : String} {model : Model}
    (found : resolver.model? dataSource store = some model) :
    resolver.requireModel dataSource store = ⟨some model, store, []⟩ := by
  simp only [requireModel, bind_apply, read_apply, found]
  rfl

theorem requireModel_of_none {dataSource : String}
    (absent : resolver.model? dataSource store = none) :
    resolver.requireModel dataSource store = ⟨none, store, [.missingModel dataSource]⟩ := by
  simp only [requireModel, bind_apply, read_apply, absent]
  rfl

theorem resolveDetached_false (container : DetachedContainer) :
    resolver.resolveDetached container false store =
      ⟨store.orphans.get? container.key, store, []⟩ := rfl

theorem resolveDetached_of_no_model {container : DetachedContainer}
    (absent : resolver.model? container.dataSource store = none) :
    resolver.resolveDetached container true store =
      ⟨none, store, [.missingModel container.dataSource]⟩ := by
  simp only [resolveDetached, Bool.not_true, Bool.false_eq_true, if_false, bind_apply,
    requireModel_of_none absent]
  rfl

/-- Once its model is there, the container is looked up under its key. -/
theorem resolveDetached_of_model {container : DetachedContainer} {model : Model}
    (found : resolver.model? container.dataSource store = some model) :
    resolver.resolveDetached container true store =
      (model.fileOrphan container.key container.name >>= fun overlay => pure (some overlay))
        store := by
  simp only [resolveDetached, Bool.not_true, Bool.false_eq_true, if_false, bind_apply,
    requireModel_of_some found, List.nil_append]

theorem resolveDetached_of_some {container : DetachedContainer} {model : Model}
    {overlay : EntityOverlay} (found : resolver.model? container.dataSource store = some model)
    (filed : store.orphans.get? container.key = some overlay) :
    resolver.resolveDetached container true store = ⟨some overlay, store, []⟩ := by
  simp only [resolveDetached_of_model found, bind_apply, Model.fileOrphan_of_some filed]
  rfl

theorem resolveDetached_of_none {container : DetachedContainer} {model : Model}
    (found : resolver.model? container.dataSource store = some model)
    (absent : store.orphans.get? container.key = none) :
    resolver.resolveDetached container true store =
      ⟨some (.ofDetached store.fresh container.name model),
        (Change.addOrphan model container.key container.name).apply store,
        [.createdOrphan container.key container.name]⟩ := by
  simp only [resolveDetached_of_model found, bind_apply, Model.fileOrphan_of_none absent]
  rfl

/-- A detached container that was resolved is found among the orphans afterwards. -/
theorem orphan_of_resolveDetached {container : DetachedContainer} {create : Bool}
    {overlay : EntityOverlay}
    (found : (resolver.resolveDetached container create store).value = some overlay) :
    (resolver.resolveDetached container create store).store.orphans.get? container.key =
      some overlay := by
  cases create with
  | false => exact found
  | true =>
      cases model : resolver.model? container.dataSource store with
      | none =>
          rw [resolveDetached_of_no_model model] at found
          cases found
      | some owner =>
          cases filed : store.orphans.get? container.key with
          | some former =>
              rw [resolveDetached_of_some model filed] at found ⊢
              cases found
              exact filed
          | none =>
              rw [resolveDetached_of_none model filed] at found ⊢
              cases found
              exact Change.orphan_addOrphan owner container.key container.name

end Resolver

/-! ## The way back -/

/-- What a living model files under an identity leads to what its catalog finds there. -/
theorem EntityOverlay.realEntity?_of_filed {store : Store} (sound : store.Sound) {model : Model}
    {id : ObjectId} {overlay : EntityOverlay} (lives : store.modelLives model = true)
    (filed : store.entity? model id = some overlay) :
    overlay.realEntity? store = (store.modelState model).catalog.find id := by
  obtain ⟨ledger, sound⟩ := sound
  obtain ⟨own, -, rfl, -⟩ := sound.entity_standsFor lives filed
  exact realEntity?_of_id? own lives

end SchemaOverlay
