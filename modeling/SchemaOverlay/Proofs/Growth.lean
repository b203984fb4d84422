import SchemaOverlay.Proofs.Steps

/-!
# Growth

No operation takes back what was filed: models keep their catalogs, their scopes
and their overlays, orphans and columns stay where they are, and an object keeps
the settings that it owns.  What one look-up finds, every later one finds.
-/

namespace SchemaOverlay

/-- Whether a model later holds all that it held before. -/
structure ModelState.Grows (before after : ModelState) : Prop where
  catalog : after.catalog = before.catalog
  scopes : before.scopes.entries.Within after.scopes.entries
  entities : before.entities.Within after.entities

namespace ModelState.Grows

variable {before middle after : ModelState}

theorem refl (state : ModelState) : state.Grows state := ⟨rfl, .refl _, .refl _⟩

theorem trans (front : before.Grows middle) (back : middle.Grows after) : before.Grows after :=
  ⟨back.catalog.trans front.catalog, front.scopes.trans back.scopes,
    front.entities.trans back.entities⟩

variable {state : ModelState}

theorem withEntity {id : ObjectId} (overlay : EntityOverlay)
    (absent : state.entities.get? id = none) :
    state.Grows { state with entities := state.entities.insert id overlay } :=
  ⟨rfl, .refl _, .insert _ _ absent⟩

theorem withScope {scope : ScopeOverlay} (absent : state.scopes.get? scope.id = none) :
    state.Grows { state with scopes := state.scopes.file scope } :=
  ⟨rfl, .insert _ _ absent, .refl _⟩

end ModelState.Grows

/-- Whether a store later files all that it filed before. -/
structure Store.Grows (before after : Store) : Prop where
  registered : ∀ resolver dataSource,
    ((before.registry resolver).get? dataSource).isSome = true →
      ((after.registry resolver).get? dataSource).isSome = true
  models : ∀ number state, before.models.get? number = some state →
    ∃ later, after.models.get? number = some later ∧ state.Grows later
  orphans : before.orphans.Within after.orphans
  columns : ∀ entity, (before.declared entity).columns <+: (after.declared entity).columns
  slots : before.slots <+: after.slots

namespace Store.Grows

variable {before middle after : Store}

theorem refl (store : Store) : store.Grows store where
  registered _ _ found := found
  models _ state found := ⟨state, found, .refl state⟩
  orphans := .refl _
  columns _ := List.prefix_rfl
  slots := List.prefix_rfl

theorem trans (front : before.Grows middle) (back : middle.Grows after) : before.Grows after where
  registered resolver dataSource found :=
    back.registered _ _ (front.registered resolver dataSource found)
  models number state found := by
    obtain ⟨between, there, first⟩ := front.models number state found
    obtain ⟨later, last, second⟩ := back.models number between there
    exact ⟨later, last, first.trans second⟩
  orphans := front.orphans.trans back.orphans
  columns entity := (front.columns entity).trans (back.columns entity)
  slots := front.slots.trans back.slots

/-! ## What stays found -/

theorem entity? (grows : before.Grows after) {model : Model} {id : ObjectId}
    {entity : EntityOverlay} (found : before.entity? model id = some entity) :
    after.entity? model id = some entity := by
  obtain ⟨state, listed, filed⟩ := entity?_eq_some_iff.mp found
  obtain ⟨later, there, kept⟩ := grows.models _ _ listed
  exact entity?_eq_some_iff.mpr ⟨later, there, kept.entities _ _ filed⟩

theorem scope? (grows : before.Grows after) {model : Model} {id : ObjectId}
    {scope : ScopeOverlay} (found : before.scope? model id = some scope) :
    after.scope? model id = some scope := by
  obtain ⟨state, listed, filed⟩ := scope?_eq_some_iff.mp found
  obtain ⟨later, there, kept⟩ := grows.models _ _ listed
  exact scope?_eq_some_iff.mpr ⟨later, there, kept.scopes _ _ filed⟩

theorem column? (grows : before.Grows after) {entity : EntityOverlay} {name : String}
    {column : ColumnOverlay} (found : before.column? entity name = some column) :
    after.column? entity name = some column := by
  obtain ⟨later, same⟩ := grows.columns entity
  unfold Store.column? at found ⊢
  rw [← same, List.find?_append, found]
  rfl

theorem ownSettings? (grows : before.Grows after) {object : OverlayObject} {id : SettingsId}
    (own : before.ownSettings? object = some id) : after.ownSettings? object = some id := by
  obtain ⟨later, same⟩ := grows.slots
  unfold Store.ownSettings? at own ⊢
  obtain ⟨slot, found, rfl⟩ := Option.map_eq_some_iff.mp own
  rw [← same, List.find?_append, found]
  rfl

end Store.Grows

namespace Change

variable {store : Store} {change : Change}

theorem registered_grows (allowed : change.Allowed store) (resolver : Nat) (dataSource : String)
    (found : ((store.registry resolver).get? dataSource).isSome = true) :
    (((change.apply store).registry resolver).get? dataSource).isSome = true := by
  by_cases other : change.kind = .registry
  · cases change with
    | register owner model =>
        rw [registry_register]
        split
        · rfl
        · exact found
    | _ => cases other
  · simpa only [Store.registry, registries_apply allowed other] using found

theorem models_grows (sound : store.Sound) (allowed : change.Allowed store) (number : Nat)
    (state : ModelState) (found : store.models.get? number = some state) :
    ∃ later, (change.apply store).models.get? number = some later ∧ state.Grows later := by
  obtain ⟨ledger, sound⟩ := sound
  -- A model's state is written again, with all that it held.
  have written : ∀ (model : Model) (changed : ModelState),
      (store.modelState model).Grows changed →
      ∃ later, (store.models.insert model.number changed).get? number = some later ∧
        state.Grows later := by
    intro model changed grows
    rw [SortedMap.get?_insert]
    split
    · rename_i here
      have same : store.modelState model = state := by simp [Store.modelState, ← here, found]
      rw [same] at grows
      exact ⟨changed, rfl, grows⟩
    · exact ⟨state, found, .refl state⟩
  by_cases other : change.kind ∈ [.model, .entity, .scope]
  · cases change with
    | addModel dataSource catalog =>
        refine ⟨state, ?_, .refl state⟩
        -- The new model has a number that no model had.
        have lt : number < store.fresh := by
          obtain ⟨model, rfl, recorded⟩ := sound.models _ _ found
          exact sound.number_lt recorded.listed
        rw [apply_addModel, SortedMap.get?_insert, if_neg (Nat.ne_of_lt lt)]
        exact found
    | addEntity model id =>
        refine written model _ ?_
        exact .withEntity _ allowed.2.2
    | addScope model id =>
        refine written model _ ?_
        exact .withScope allowed.2.2.2
    | _ => simp [kind] at other
  · refine ⟨state, ?_, .refl state⟩
    rw [models_apply allowed other]
    exact found

theorem orphans_grow (allowed : change.Allowed store) :
    store.orphans.Within (change.apply store).orphans := by
  by_cases other : change.kind = .orphan
  · cases change with
    | addOrphan model key name =>
        rw [apply_addOrphan]
        exact .insert _ _ allowed.2
    | _ => cases other
  · rw [orphans_apply allowed other]
    exact .refl _

theorem columns_grow (allowed : change.Allowed store) (entity : EntityOverlay) :
    (store.declared entity).columns <+: ((change.apply store).declared entity).columns := by
  -- A declaration that adds no column keeps the columns of every entity as they are.
  have plain : ∀ (other : EntityOverlay) (update : Declarations → Declarations),
      (∀ former, (update former).columns = former.columns) →
      (store.declared entity).columns <+:
        ((store.updateDeclared other update).declared entity).columns := by
    intro other update kept
    simp only [Store.updateDeclared, Store.declared, SortedMap.get?_insert]
    split
    · rename_i here
      simp only [Option.getD_some, kept, here, List.prefix_rfl]
    · exact List.prefix_rfl
  by_cases other : change.kind ∈ [.column, .declaration]
  · cases change with
    | addColumn owner name typeName =>
        rw [apply_addColumn]
        simp only [Store.declared, SortedMap.get?_insert]
        split
        · rename_i here
          rw [here]
          exact List.prefix_append _ _
        · exact List.prefix_rfl
    | declareConstraint owner constraint =>
        rw [apply_declareConstraint]
        exact plain owner _ fun _ => rfl
    | declareForeignKey owner key =>
        rw [apply_declareForeignKey]
        exact plain owner _ fun _ => rfl
    | describe owner columns =>
        rw [apply_describe]
        exact plain owner _ fun _ => rfl
    | _ => simp [kind] at other
  · simp only [Store.declared, declarations_apply allowed other]
    exact List.prefix_rfl

theorem slots_grow (allowed : change.Allowed store) :
    store.slots <+: (change.apply store).slots := by
  by_cases other : change.kind = .slot
  · cases change with
    | createSettings object =>
        rw [apply_createSettings allowed.2]
        exact List.prefix_append _ _
    | installSettings object id =>
        rw [apply_installSettings id allowed.2.2]
        exact List.prefix_append _ _
    | _ => cases other
  · simp only [slots_apply other, List.prefix_rfl]

/-- An allowed change takes nothing back. -/
theorem grows (sound : store.Sound) (allowed : change.Allowed store) :
    store.Grows (change.apply store) where
  registered := registered_grows allowed
  models := models_grows sound allowed
  orphans := orphans_grow allowed
  columns := columns_grow allowed
  slots := slots_grow allowed

end Change

/-- A trace takes nothing back. -/
theorem Trace.grows {before after : Store} {changes : List Change} {events : List Event}
    (trace : Trace before changes events after) (sound : before.Sound) : before.Grows after := by
  induction trace with
  | done => exact .refl _
  | next allowed _ ih =>
      exact (Change.grows sound allowed).trans (ih (Change.sound_apply sound allowed))

theorem Action.Makes.grows {α : Type} {action : Action α} {store : Store}
    {kinds : List Change.Kind} (makes : action.Makes store kinds) (sound : store.Sound) :
    store.Grows (action store).store := by
  obtain ⟨changes, trace, -⟩ := makes
  exact trace.grows sound

/-- A run takes nothing back. -/
theorem Run.grows {before after : Store} {operations : List Operation}
    (run : Run before operations after) (sound : before.Sound) : before.Grows after := by
  induction run with
  | done => exact .refl _
  | next permitted _ ih =>
      have makes := Operation.makes sound permitted
      exact (makes.grows sound).trans (ih (makes.sound sound))

end SchemaOverlay

