import SchemaOverlay.Proofs.Creation

/-!
# Settings of containers outside the schema

A column of a container outside the schema inherits from the container's overlay
and then from a model.  The overlay is shared and stays for good, and so does
the link from it to the model that was registered when it came into being.  Once
another model is registered for the data source, the two part: the settings that
apply are still those of the old model, and none when it is gone.
-/

namespace SchemaOverlay

open SchemaOverlay.Action

/-! ## Settings of models -/

/-- Whether no two models own the same settings. -/
def Store.ModelsApart (store : Store) : Prop :=
  ∀ model other id, store.ownSettings? (.model model) = some id →
    store.ownSettings? (.model other) = some id → model = other

/-- Giving an object settings leaves those of all other objects alone. -/
theorem OverlayObject.ownSettings?_createSettings_other {object other : OverlayObject}
    (apart : object ≠ other) (store : Store) :
    (object.createSettings store).store.ownSettings? other = store.ownSettings? other := by
  rcases object.createSettings_slots store with same | ⟨id, slots⟩
  · simp only [Store.ownSettings?, same]
  · rw [Store.ownSettings?_append slots, if_neg apart, Option.or_none]

theorem OverlayObject.ownSettings?_installSettings_other {object other : OverlayObject}
    (apart : object ≠ other) (id : SettingsId) (store : Store) :
    (object.installSettings id store).store.ownSettings? other = store.ownSettings? other := by
  cases own : store.ownSettings? object with
  | some former => rw [installSettings_of_some own]
  | none => rw [installSettings_of_none own, Store.ownSettings?_append rfl, if_neg apart,
      Option.or_none]

theorem Resolver.ownSettings?_bindingSettings {store : Store} {resolver : Resolver}
    {binding : Binding} (sound : store.Sound) (lives : binding.lives store = true)
    (model : Model) :
    (resolver.bindingSettings binding true store).store.ownSettings? (.model model) =
      store.ownSettings? (.model model) := by
  have resolves : (resolver.resolveBinding binding true).Makes store _ :=
    resolveBinding_makes binding true
  have first := resolves.slots (by decide)
  rcases bindingSettings_cases sound lives with same | ⟨entity, column, alive, -, -, same⟩
  · rw [same, Store.ownSettings?, first, Store.ownSettings?]
  · have finds := EntityOverlay.findColumn_makes alive binding.column.name true
    have second := (finds.slots (by decide)).trans first
    rw [same, OverlayObject.ownSettings?_createSettings_other (by simp), Store.ownSettings?,
      second, Store.ownSettings?]

namespace Operation

variable {store : Store} {operation : Operation}

/-- A model keeps what it owns, or is given new settings of its own. -/
theorem ownSettings?_model (sound : store.Sound) (permitted : operation.isPermitted store = true)
    (model : Model) :
    (operation.perform store).ownSettings? (.model model) = store.ownSettings? (.model model) ∨
      operation = .ownSettings (.model model) ∧
        (operation.perform store).ownSettings? (.model model) = some ⟨store.fresh⟩ := by
  by_cases slot : .slot ∈ operation.kinds
  · rcases slot_cases slot with ⟨object, rfl⟩ | ⟨entity, id, rfl⟩ | ⟨column, rfl⟩ |
      ⟨resolver, binding, rfl⟩
    · by_cases same : object = .model model
      · subst same
        have owned : ((ownSettings (.model model)).perform store).ownSettings? (.model model) =
            _ := (OverlayObject.model model).ownSettings?_createSettings store
        cases own : store.ownSettings? (.model model) with
        | some id =>
            rw [OverlayObject.createSettings_of_some own] at owned
            exact .inl owned
        | none =>
            rw [(OverlayObject.createSettings_of_none own).1] at owned
            exact .inr ⟨rfl, owned⟩
      · exact .inl (OverlayObject.ownSettings?_createSettings_other same store)
    · exact .inl (OverlayObject.ownSettings?_installSettings_other (by simp) id store)
    · exact .inl (OverlayObject.ownSettings?_createSettings_other (by simp) store)
    · exact .inl (Resolver.ownSettings?_bindingSettings sound permitted model)
  · refine .inl ?_
    have slots : (operation.perform store).slots = store.slots :=
      (makes sound permitted).slots slot
    simp only [Store.ownSettings?, slots]

/-- New settings are nobody else's. -/
theorem modelsApart_perform (sound : store.Sound) (permitted : operation.isPermitted store = true)
    (apart : store.ModelsApart) : (operation.perform store).ModelsApart := by
  intro model other id own also
  -- Settings that were owned before have other numbers than those given out now.
  have older : ∀ model, store.ownSettings? (.model model) ≠ some ⟨store.fresh⟩ := by
    intro model owned
    obtain ⟨ledger, sound⟩ := sound
    exact Nat.lt_irrefl _ (sound.owned_lt owned)
  rcases ownSettings?_model sound permitted model with here | ⟨here, new⟩ <;>
    rcases ownSettings?_model sound permitted other with there | ⟨there, last⟩
  · exact apart model other id (here.symm.trans own) (there.symm.trans also)
  · cases last.symm.trans also
    exact absurd (here.symm.trans own) (older model)
  · cases new.symm.trans own
    exact absurd (there.symm.trans also) (older other)
  · cases here.symm.trans there
    rfl

end Operation

theorem Run.modelsApart {before after : Store} {operations : List Operation}
    (run : Run before operations after) (sound : before.Sound) (apart : before.ModelsApart) :
    after.ModelsApart := by
  induction run with
  | done => exact apart
  | next permitted _ ih =>
      exact ih (Operation.sound_perform sound permitted)
        (Operation.modelsApart_perform sound permitted apart)

theorem Store.Reachable.modelsApart {store : Store} (reachable : store.Reachable) :
    store.ModelsApart := by
  obtain ⟨operations, run⟩ := reachable
  refine run.modelsApart .empty ?_
  intro model other id own
  cases own

/-! ## What a container's column inherits -/

namespace Resolver

variable {store : Store} {resolver : Resolver} {binding : Binding} {container : DetachedContainer}
  {overlay : EntityOverlay} {column : ColumnOverlay}

/-- Settings of the overlay's model apply as long as that model lives. -/
theorem bindingSettings_orphan (sound : store.Sound) (leads : binding.detached? = some container)
    (filed : store.orphans.get? container.key = some overlay)
    (declared : store.column? overlay binding.column.name = some column)
    (plain : store.ownSettings? (.column column) = none)
    (bare : store.ownSettings? (.entity overlay) = none) :
    resolver.bindingSettings binding false store =
      ⟨if store.modelLives overlay.model then store.ownSettings? (.model overlay.model) else none,
        store, []⟩ := by
  have lives : store.entityLives overlay = true :=
    Store.entityLives_iff.mpr (.inr (.inl ⟨_, filed⟩))
  have owner : column.entity = overlay := by
    obtain ⟨ledger, sound⟩ := sound
    exact ((sound.declared_recorded (sound.has_entity lives)).columns _
      (Store.column?_mem declared).1).1
  have detached : overlay.id? = none := by
    obtain ⟨ledger, sound⟩ := sound
    exact (sound.orphans _ _ filed).2
  have resolved : resolver.resolveBinding binding false store = ⟨some overlay, store, []⟩ := by
    rw [Binding.eq_ofDetached leads, ← filed]
    rfl
  have effective : (OverlayObject.column column).effectiveSettings? store =
      if store.modelLives overlay.model then store.ownSettings? (.model overlay.model)
      else none := by
    rw [OverlayObject.effectiveSettings?_column sound, Store.levels, owner, if_pos lives,
      List.findSome?_cons, plain, List.findSome?_cons, bare, Store.levelsAround, detached]
    by_cases alive : store.modelLives overlay.model = true
    · simp [alive]
    · simp [alive]
  simp only [bindingSettings, bind_apply, resolved, EntityOverlay.findColumn_of_some declared]
  rw [← effective]
  rfl

/-- A container that is resolved for the first time gets an overlay of the model registered then,
and keeps it. -/
theorem model_of_first_resolved {earlier : Store} (sound : earlier.Sound)
    (absent : earlier.orphans.get? container.key = none) {operations : List Operation}
    (run : Run (resolver.resolveDetached container true earlier).store operations store)
    (kept : ∀ operation ∈ operations,
      operation.registers resolver.number container.dataSource = false) {model : Model}
    (registered : resolver.model? container.dataSource store = some model)
    (filed : store.orphans.get? container.key = some overlay) : overlay.model = model := by
  have makes : (resolver.resolveDetached container true).Makes earlier _ :=
    resolveDetached_makes container true
  have between := makes.sound sound
  have same : resolver.model? container.dataSource earlier = some model := by
    rw [← makes.model? (by decide) resolver container.dataSource, ← run.model? between kept]
    exact registered
  rw [resolveDetached_of_none same absent] at run between
  have stays := (run.grows between).orphans _ _ (Change.orphan_addOrphan model _ _)
  cases stays.symm.trans filed
  rfl

/-- A column without settings, of a container outside the schema whose overlay has none either,
gets the settings of the model that the overlay came into being with, as long as that one lives.
These are the settings of the registered model if and only if the two models are one or neither
has any settings to give; they are one until another model is registered in its place. -/
theorem orphanSettings_iff (reachable : store.Reachable)
    (leads : binding.detached? = some container) {model : Model}
    (registered : resolver.model? container.dataSource store = some model)
    (filed : store.orphans.get? container.key = some overlay)
    (declared : store.column? overlay binding.column.name = some column)
    (plain : store.ownSettings? (.column column) = none)
    (bare : store.ownSettings? (.entity overlay) = none) :
    resolver.bindingSettings binding false store =
        ⟨if store.modelLives overlay.model then store.ownSettings? (.model overlay.model) else none,
          store, []⟩ ∧
      ((resolver.bindingSettings binding false store).value =
          store.ownSettings? (.model model) ↔
        overlay.model = model ∨ store.ownSettings? (.model model) = none ∧
          (store.modelLives overlay.model = true →
            store.ownSettings? (.model overlay.model) = none)) ∧
      ∀ earlier operations, earlier.Reachable → earlier.orphans.get? container.key = none →
        Run (resolver.resolveDetached container true earlier).store operations store →
        (∀ operation ∈ operations,
          operation.registers resolver.number container.dataSource = false) →
        overlay.model = model := by
  have found : resolver.bindingSettings binding false store = _ :=
    bindingSettings_orphan reachable.sound leads filed declared plain bare
  refine ⟨found, ?_, fun earlier operations before absent run kept =>
    model_of_first_resolved before.sound absent run kept registered filed⟩
  rw [found]
  constructor
  · intro same
    by_cases one : overlay.model = model
    · exact .inl one
    · refine .inr ?_
      cases own : store.ownSettings? (.model model) with
      | none =>
          refine ⟨rfl, fun lives => ?_⟩
          simpa only [lives, if_true, own] using same
      | some id =>
          -- Settings that came from the overlay's model would be those of two models.
          rw [own] at same
          split at same
          · exact absurd (reachable.modelsApart _ _ _ same own) one
          · cases same
  · rintro (rfl | ⟨own, other⟩)
    · exact if_pos (modelLives_of_model? registered)
    · rw [own]
      split
      · rename_i lives
        exact other lives
      · rfl

end Resolver

/-! ## A model in the place of another -/

namespace Agency

def resolver : Resolver := ⟨0, {}, []⟩

def former : Model := ⟨0, "crm"⟩

/-- The totals of a query, which is outside the schema. -/
def totals : DetachedContainer := .query "crm" "totals" "select total"

def totalsOverlay : EntityOverlay := .ofDetached 1 "totals" former

def total : ColumnOverlay := ⟨2, "total", none, totalsOverlay⟩

def model : Model := ⟨3, "crm"⟩

/-- The settings of the whole data source. -/
def settings : SettingsId := ⟨4⟩

def binding : Binding := .ofDetached totals ⟨"total", "int4", none, 0, true⟩

/-- The query gets its overlay; then another model is registered, gets settings, and the former
one is let go. -/
def setup : List Operation :=
  [.createModel "crm" (.unreachable "offline"), .register resolver former,
    .resolveContainer resolver (.detached totals) true, .findColumn totalsOverlay "total" true,
    .createModel "crm" (.unreachable "offline"), .register resolver model,
    .ownSettings (.model model), .release (.object (.model former))]

def store : Store := setup.foldl (fun store operation => operation.perform store) .empty

theorem store_reachable : store.Reachable := ⟨setup, Run.of_permits (by decide)⟩

theorem leads : binding.detached? = some totals := rfl

theorem filed : store.orphans.get? totals.key = some totalsOverlay := by decide

theorem declared : store.column? totalsOverlay binding.column.name = some total := by decide

theorem plain : store.ownSettings? (.column total) = none := by decide

theorem bare : store.ownSettings? (.entity totalsOverlay) = none := by decide

/-- The settings of the registered model do not apply to the column of the query. -/
theorem settings_out_of_reach :
    store.Reachable ∧ binding.detached? = some totals ∧
      resolver.model? totals.dataSource store = some model ∧
      store.orphans.get? totals.key = some totalsOverlay ∧
      store.column? totalsOverlay binding.column.name = some total ∧
      store.ownSettings? (.column total) = none ∧
      store.ownSettings? (.entity totalsOverlay) = none ∧
      store.ownSettings? (.model model) = some settings ∧
      (resolver.bindingSettings binding false store).value = none := by
  have gone : store.modelLives totalsOverlay.model = false := by decide
  have found : resolver.bindingSettings binding false store = _ :=
    Resolver.bindingSettings_orphan store_reachable.sound leads filed declared plain bare
  refine ⟨store_reachable, leads, by decide, filed, declared, plain, bare, by decide, ?_⟩
  rw [found, gone]
  rfl

/-- The two models are not one, and the registered one has settings to give. -/
theorem orphanSettings_totals :
    store.Reachable ∧ binding.detached? = some totals ∧
      resolver.model? totals.dataSource store = some model ∧
      store.orphans.get? totals.key = some totalsOverlay ∧
      store.column? totalsOverlay binding.column.name = some total ∧
      store.ownSettings? (.column total) = none ∧
      store.ownSettings? (.entity totalsOverlay) = none ∧
      (resolver.bindingSettings binding false store).value ≠
        store.ownSettings? (.model model) := by
  have registered : resolver.model? totals.dataSource store = some model := by decide
  obtain ⟨-, condition, -⟩ :=
    Resolver.orphanSettings_iff store_reachable leads registered filed declared plain bare
  refine ⟨store_reachable, leads, registered, filed, declared, plain, bare, fun same => ?_⟩
  rcases condition.mp same with one | ⟨own, -⟩
  · revert one
    decide
  · revert own
    decide

end Agency

end SchemaOverlay
