import SchemaOverlay.Overlay.Store

/-!
# What lives

The tests for life, and the look-ups that they rest on, as statements about what
the store files, registers and holds.
-/

namespace SchemaOverlay.Store

variable {store : Store}

/-! ## Look-ups -/

/-- A scope is found where the model of a number files it. -/
theorem scope?_eq_some_iff {model : Model} {id : ObjectId} {scope : ScopeOverlay} :
    store.scope? model id = some scope ↔
      ∃ state, store.models.get? model.number = some state ∧
        state.scopes.get? id = some scope := by
  unfold scope? modelState
  cases store.models.get? model.number <;> simp [default, ModelState.ofCatalog]

/-- An overlay of an entity is found where the model of a number files it. -/
theorem entity?_eq_some_iff {model : Model} {id : ObjectId} {entity : EntityOverlay} :
    store.entity? model id = some entity ↔
      ∃ state, store.models.get? model.number = some state ∧
        state.entities.get? id = some entity := by
  unfold entity? modelState
  cases store.models.get? model.number <;> simp [default, ModelState.ofCatalog]

/-- What a model files depends on its number only. -/
theorem scope?_of_number {model owner : Model} (same : owner.number = model.number)
    (id : ObjectId) : store.scope? owner id = store.scope? model id := by
  simp only [scope?, modelState, same]

theorem entity?_of_number {model owner : Model} (same : owner.number = model.number)
    (id : ObjectId) : store.entity? owner id = store.entity? model id := by
  simp only [entity?, modelState, same]

/-- A scope stands under its own identity. -/
theorem scope?_id {model : Model} {id : ObjectId} {scope : ScopeOverlay}
    (found : store.scope? model id = some scope) : scope.id = id :=
  (store.modelState model).scopes.own id scope found

/-- A column is found among those that were declared, under its name. -/
theorem column?_mem {entity : EntityOverlay} {name : String} {column : ColumnOverlay}
    (found : store.column? entity name = some column) :
    column ∈ (store.declared entity).columns ∧ column.name = name :=
  ⟨List.mem_of_find?_eq_some found, by simpa using List.find?_some found⟩

/-! ## Life -/

theorem holds_iff {held : Held} : store.holds held = true ↔ held ∈ store.held := by
  simp [holds]

/-- A model is registered where some resolver finds it for some data source. -/
theorem isRegistered_iff {model : Model} :
    store.isRegistered model = true ↔
      ∃ resolver dataSource, (store.registry resolver).get? dataSource = some model := by
  simp only [isRegistered, List.any_eq_true, List.contains_iff_mem]
  constructor
  · rintro ⟨registry, filed, listed⟩
    obtain ⟨resolver, found⟩ := (SortedMap.mem_values_iff _ _).mp filed
    obtain ⟨dataSource, same⟩ := (SortedMap.mem_values_iff _ _).mp listed
    exact ⟨resolver, dataSource, by simpa [Store.registry, found] using same⟩
  · rintro ⟨resolver, dataSource, same⟩
    cases found : store.registries.get? resolver with
    | none => simp [Store.registry, found] at same
    | some registry =>
        refine ⟨registry, (SortedMap.mem_values_iff _ _).mpr ⟨resolver, found⟩, ?_⟩
        exact (SortedMap.mem_values_iff _ _).mpr ⟨dataSource, by
          simpa [Store.registry, found] using same⟩

/-- A model lives as long as it is registered or held. -/
theorem modelLives_iff {model : Model} :
    store.modelLives model = true ↔
      (∃ resolver dataSource, (store.registry resolver).get? dataSource = some model) ∨
        .object (.model model) ∈ store.held := by
  rw [modelLives, Bool.or_eq_true, isRegistered_iff, holds_iff]

theorem modelLives_of_registered {model : Model} {resolver : Nat} {dataSource : String}
    (found : (store.registry resolver).get? dataSource = some model) :
    store.modelLives model = true :=
  modelLives_iff.mpr (.inl ⟨resolver, dataSource, found⟩)

/-- A scope lives as long as its living model files it or it is held. -/
theorem scopeLives_iff {scope : ScopeOverlay} :
    store.scopeLives scope = true ↔
      (store.modelLives scope.model = true ∧ store.scope? scope.model scope.id = some scope) ∨
        .object (.scope scope) ∈ store.held := by
  simp [scopeLives, holds_iff]

/-- An overlay is filed when its model finds it under the identity underneath. -/
theorem isFiled_iff {entity : EntityOverlay} :
    store.isFiled entity = true ↔
      ∃ id, entity.id? = some id ∧ store.entity? entity.model id = some entity := by
  unfold isFiled
  cases entity.id? <;> simp

/-- An overlay lives as long as its living model files it, or the orphans do, or it is held. -/
theorem entityLives_iff {entity : EntityOverlay} :
    store.entityLives entity = true ↔
      (store.modelLives entity.model = true ∧ store.isFiled entity = true) ∨
        (∃ key, store.orphans.get? key = some entity) ∨
          .object (.entity entity) ∈ store.held := by
  simp only [entityLives, Bool.or_eq_true, Bool.and_eq_true, holds_iff, List.contains_iff_mem,
    SortedMap.mem_values_iff, or_assoc]

/-- A column lives as long as its living entity declares it or it is held. -/
theorem columnLives_iff {column : ColumnOverlay} :
    store.columnLives column = true ↔
      (store.entityLives column.entity = true ∧
        column ∈ (store.declared column.entity).columns) ∨
          .object (.column column) ∈ store.held := by
  simp [columnLives, holds_iff]

/-- Settings live as long as a living object owns them or they are held. -/
theorem settingsLive_iff {id : SettingsId} :
    store.settingsLive id = true ↔
      (∃ object, (object, id) ∈ store.slots ∧ store.lives object = true) ∨
        .settings id ∈ store.held := by
  simp only [settingsLive, Bool.or_eq_true, List.any_eq_true, Bool.and_eq_true, beq_iff_eq,
    holds_iff, Prod.exists]
  constructor
  · rintro (⟨object, own, mem, rfl, lives⟩ | held)
    · exact .inl ⟨object, mem, lives⟩
    · exact .inr held
  · rintro (⟨object, mem, lives⟩ | held)
    · exact .inl ⟨object, id, mem, rfl, lives⟩
    · exact .inr held

/-! ## What life depends on -/

theorem modelLives_congr {after : Store} (registries : after.registries = store.registries)
    (held : after.held = store.held) (model : Model) :
    after.modelLives model = store.modelLives model := by
  simp only [modelLives, isRegistered, holds, registries, held]

theorem entityLives_congr {after : Store} (registries : after.registries = store.registries)
    (models : after.models = store.models) (orphans : after.orphans = store.orphans)
    (held : after.held = store.held) (entity : EntityOverlay) :
    after.entityLives entity = store.entityLives entity := by
  simp only [entityLives, modelLives_congr registries held, isFiled, entity?, modelState, holds,
    models, orphans, held]

end SchemaOverlay.Store
