import SchemaOverlay.Proofs.Catalog
import SchemaOverlay.Proofs.Creation
import SchemaOverlay.Proofs.References

/-!
# Unwrapping overlays

The way back from an overlay to the entity underneath.  Resolving goes through
the registry of a resolver and the entities of a model, unwrapping through the
link of the overlay to its model and the catalog there.  Where the registered
model has the catalog of a snapshot, each of the two undoes the other.  What
cannot be unwrapped has no entity underneath, or a schema layer that fails.
-/

namespace SchemaOverlay

open SchemaOverlay.Action

/-! ## One overlay -/

namespace EntityOverlay

variable {store : Store} {overlay : EntityOverlay}

/-- Whether there is no entity underneath an overlay: it belongs to a container outside the schema,
its model is gone, or the catalog knows no entity of its identity. -/
inductive LacksEntity (store : Store) (overlay : EntityOverlay) : Prop where
  | orphan (orphan : overlay.isOrphan = true)
  | gone (gone : store.modelLives overlay.model = false)
  | unknown {id : ObjectId} (own : overlay.id? = some id)
    (misses : (store.modelState overlay.model).catalog.find id = .ok none)

theorem realEntity?_eq_none_iff :
    overlay.realEntity? store = .ok none ↔ overlay.LacksEntity store := by
  cases own : overlay.id? with
  | none =>
      have orphan : overlay.isOrphan = true := by simp [isOrphan, own]
      exact iff_of_true (by simp only [realEntity?, own]) (.orphan orphan)
  | some id =>
      cases lives : store.modelLives overlay.model with
      | false => exact iff_of_true (realEntity?_of_dead lives) (.gone lives)
      | true =>
          rw [realEntity?_of_id? own lives]
          refine ⟨.unknown own, fun lacks => ?_⟩
          cases lacks with
          | orphan orphan => simp [isOrphan, own] at orphan
          | gone gone => cases lives.symm.trans gone
          | unknown also misses =>
              cases own.symm.trans also
              exact misses

end EntityOverlay

namespace EntityRef

variable {store : Store} {overlay : EntityOverlay} {reference : EntityRef} {entity : SchemaEntity}
  {error : OverlayError}

/-- An overlay leads to an entity exactly when its catalog does. -/
theorem requireReal_overlay_eq_ok_iff : (EntityRef.overlay overlay).requireReal store = .ok entity ↔
    overlay.realEntity? store = .ok (some entity) := by
  rw [requireReal]
  rcases overlay.realEntity? store with failure | _ | behind <;> simp

/-- An overlay is unresolved, and reported with its identity, exactly when it lacks an entity. -/
theorem requireReal_eq_unresolved_iff {object : String} :
    (EntityRef.overlay overlay).requireReal store = .error (.unresolved object) ↔
      overlay.LacksEntity store ∧ object = overlay.fullId := by
  rw [← EntityOverlay.realEntity?_eq_none_iff, requireReal]
  rcases overlay.realEntity? store with failure | _ | behind <;> simp [eq_comm]

theorem tryReal_of_ok (found : reference.requireReal store = .ok entity) :
    reference.tryReal store = ⟨.real entity, store, []⟩ := by
  simp only [tryReal, bind_apply, read_apply, found]
  rfl

theorem tryReal_of_error (fails : reference.requireReal store = .error error) :
    reference.tryReal store =
      ⟨reference, store, [.unresolvedEntity reference.name error.message]⟩ := by
  simp only [tryReal, bind_apply, read_apply, fails]
  rfl

/-- An attempt yields an entity exactly when the entity could have been required. -/
theorem value_tryReal_eq_real_iff : (reference.tryReal store).value = .real entity ↔
    reference.requireReal store = .ok entity := by
  cases required : reference.requireReal store with
  | ok found => simp [tryReal_of_ok required]
  | error error =>
      rw [tryReal_of_error required]
      refine iff_of_false ?_ (by simp)
      rintro rfl
      cases required

/-- A second attempt yields what the first one did. -/
theorem value_tryReal_tryReal (reference : EntityRef) (store : Store) :
    ((reference.tryReal store).value.tryReal (reference.tryReal store).store).value =
      (reference.tryReal store).value := by
  cases required : reference.requireReal store with
  | ok found => rw [tryReal_of_ok required, value_tryReal_eq_real_iff, requireReal]
  | error error => rw [tryReal_of_error required, tryReal_of_error required]

end EntityRef

/-! ## Overlays of a snapshot -/

/-- Whether the model registered for a data source has the catalog of a snapshot of it. -/
structure Resolver.HasSnapshot (resolver : Resolver) (model : Model) (catalog : SnapshotCatalog)
    (store : Store) : Prop where
  registered : resolver.model? model.dataSource store = some model
  built : ∃ snapshot, SnapshotCatalog.build snapshot = .ok catalog ∧
    snapshot.dataSource = model.dataSource
  serves : (store.modelState model).catalog = catalog.toSchemaCatalog

namespace Resolver.HasSnapshot

variable {resolver : Resolver} {model : Model} {catalog : SnapshotCatalog} {store : Store}
  {entity : SchemaEntity}

theorem find_eq_some_iff (has : resolver.HasSnapshot model catalog store) {id : ObjectId} :
    (store.modelState model).catalog.find id = .ok (some entity) ↔
      entity ∈ catalog.entities ∧ entity.id = id := by
  obtain ⟨snapshot, built, -⟩ := has.built
  rw [has.serves, ← SnapshotCatalog.find?_eq_some_iff built]
  exact ⟨Except.ok.inj, congrArg Except.ok⟩

theorem find_eq_none_iff (has : resolver.HasSnapshot model catalog store) {id : ObjectId} :
    (store.modelState model).catalog.find id = .ok none ↔
      ∀ entity ∈ catalog.entities, entity.id ≠ id := by
  obtain ⟨snapshot, built, -⟩ := has.built
  have absent : catalog.find? id = none ↔ ∀ entity ∈ catalog.entities, entity.id ≠ id := by
    simp only [Option.eq_none_iff_forall_ne_some, ne_eq, SnapshotCatalog.find?_eq_some_iff built,
      not_and]
  rw [has.serves, ← absent]
  exact ⟨Except.ok.inj, congrArg Except.ok⟩

theorem dataSource_eq (has : resolver.HasSnapshot model catalog store)
    (served : entity ∈ catalog.entities) : entity.dataSource = model.dataSource := by
  obtain ⟨snapshot, built, same⟩ := has.built
  rw [SnapshotCatalog.entities_eq built] at served
  obtain ⟨table, -, rfl⟩ := List.mem_map.mp served
  exact same

/-- Unwrapping the overlay of an entity leads back to the entity. -/
theorem requireReal_resolveEntity (has : resolver.HasSnapshot model catalog store)
    (sound : store.Sound) (served : entity ∈ catalog.entities) :
    ∃ overlay, (resolver.resolveEntity (.real entity) true store).value = some overlay ∧
      (EntityRef.overlay overlay).requireReal
        (resolver.resolveEntity (.real entity) true store).store = .ok entity := by
  have own := has.dataSource_eq served
  have registered : resolver.model? entity.dataSource store = some model :=
    own ▸ has.registered
  have lives := Resolver.modelLives_of_model? has.registered
  have makes := Model.entityById_makes lives entity.id true
  obtain ⟨overlay, found⟩ := Model.exists_entityById own store
  obtain ⟨-, filed⟩ := Model.entity?_of_entityById found
  rw [Resolver.resolveEntity_of_some registered]
  refine ⟨overlay, found, ?_⟩
  rw [EntityRef.requireReal_overlay_eq_ok_iff,
    EntityOverlay.realEntity?_of_filed (makes.sound sound) (makes.modelLives (by decide) lives)
      filed,
    (makes.grows sound).catalog_eq sound lives]
  exact has.find_eq_some_iff.mpr ⟨served, rfl⟩

/-- Resolving the entity of an overlay leads back to the overlay. -/
theorem resolveEntity_requireReal (has : resolver.HasSnapshot model catalog store)
    (sound : store.Sound) {id : ObjectId} {overlay : EntityOverlay}
    (filed : store.entity? model id = some overlay)
    (unwrapped : (EntityRef.overlay overlay).requireReal store = .ok entity) :
    resolver.resolveEntity (.real entity) false store = ⟨some overlay, store, []⟩ := by
  have lives := Resolver.modelLives_of_model? has.registered
  rw [EntityRef.requireReal_overlay_eq_ok_iff,
    EntityOverlay.realEntity?_of_filed sound lives filed, has.find_eq_some_iff] at unwrapped
  obtain ⟨served, rfl⟩ := unwrapped
  have own := has.dataSource_eq served
  rw [Resolver.resolveEntity_of_some (own ▸ has.registered), Model.entityById_of_some own filed]

/-- An overlay of the model is unresolved exactly when no table has its identity. -/
theorem requireReal_eq_unresolved_iff (has : resolver.HasSnapshot model catalog store)
    (sound : store.Sound) {id : ObjectId} {overlay : EntityOverlay}
    (filed : store.entity? model id = some overlay) :
    (EntityRef.overlay overlay).requireReal store = .error (.unresolved overlay.fullId) ↔
      ∀ entity ∈ catalog.entities, entity.id ≠ id := by
  have lives := Resolver.modelLives_of_model? has.registered
  rw [EntityRef.requireReal_eq_unresolved_iff, ← EntityOverlay.realEntity?_eq_none_iff,
    EntityOverlay.realEntity?_of_filed sound lives filed, has.find_eq_none_iff]
  simp

end Resolver.HasSnapshot

/-- In every reachable store, resolving and unwrapping undo each other between the entities of a
snapshot and the overlays of the registered model that has its catalog.  An overlay of any model is
unresolved exactly when there is no entity underneath, and the failure carries its identity.  An
attempt to unwrap a reference yields the entity where it can be required; otherwise it yields the
reference itself with one report of the failure.  A second attempt yields the same. -/
theorem Store.Reachable.unwrapping_inverts_resolving {store : Store} (reachable : store.Reachable) :
    (∀ resolver model catalog, Resolver.HasSnapshot resolver model catalog store →
      (∀ entity ∈ catalog.entities, ∃ overlay,
        (resolver.resolveEntity (.real entity) true store).value = some overlay ∧
          (EntityRef.overlay overlay).requireReal
            (resolver.resolveEntity (.real entity) true store).store = .ok entity) ∧
      (∀ id overlay entity, store.entity? model id = some overlay →
        (EntityRef.overlay overlay).requireReal store = .ok entity →
          resolver.resolveEntity (.real entity) false store = ⟨some overlay, store, []⟩) ∧
      ∀ id overlay, store.entity? model id = some overlay →
        ((EntityRef.overlay overlay).requireReal store = .error (.unresolved overlay.fullId) ↔
          ∀ entity ∈ catalog.entities, entity.id ≠ id)) ∧
    (∀ overlay object,
      (EntityRef.overlay overlay).requireReal store = .error (.unresolved object) ↔
        overlay.LacksEntity store ∧ object = overlay.fullId) ∧
    ∀ reference : EntityRef,
      (∀ entity, (reference.tryReal store).value = .real entity ↔
        reference.requireReal store = .ok entity) ∧
      (∀ entity, reference.requireReal store = .ok entity →
        reference.tryReal store = ⟨.real entity, store, []⟩) ∧
      (∀ error, reference.requireReal store = .error error → reference.tryReal store =
        ⟨reference, store, [.unresolvedEntity reference.name error.message]⟩) ∧
      ((reference.tryReal store).value.tryReal (reference.tryReal store).store).value =
        (reference.tryReal store).value := by
  refine ⟨fun resolver model catalog has => ⟨?_, ?_, ?_⟩, ?_, fun reference => ⟨?_, ?_, ?_, ?_⟩⟩
  · exact fun entity served => has.requireReal_resolveEntity reachable.sound served
  · exact fun id overlay entity filed unwrapped =>
      has.resolveEntity_requireReal reachable.sound filed unwrapped
  · exact fun id overlay filed => has.requireReal_eq_unresolved_iff reachable.sound filed
  · exact fun overlay object => EntityRef.requireReal_eq_unresolved_iff
  · exact fun entity => EntityRef.value_tryReal_eq_real_iff
  · exact fun entity => EntityRef.tryReal_of_ok
  · exact fun error => EntityRef.tryReal_of_error
  · exact EntityRef.value_tryReal_tryReal reference store

/-! ## A table that was dropped -/

namespace Museum

def vases : Table := (Table.ofName "vases").within ["east"]

def snapshot : Snapshot := ⟨"museum", [vases]⟩

def entity : SchemaEntity := snapshot.entityOf vases

def catalog : SnapshotCatalog := ⟨"museum", [entity], .insert .empty entity.id 0⟩

def resolver : Resolver := ⟨0, {}, []⟩

def model : Model := ⟨0, "museum"⟩

/-- The overlay of a table that is in the catalog no more. -/
def statues : EntityOverlay := .ofEntity 1 ⟨"museum", ["west", "statues"]⟩ model

def setup : List Operation :=
  [.createModel model.dataSource catalog.toSchemaCatalog, .register resolver model,
    .entityById model ⟨"museum", ["west", "statues"]⟩ true]

def store : Store := setup.foldl (fun store operation => operation.perform store) .empty

theorem reachable : store.Reachable := ⟨setup, Run.of_permits (by decide)⟩

def shown : Store := (Operation.resolveEntity resolver (.real entity) true).perform store

theorem reachable_shown : shown.Reachable := reachable.run (.next (by rfl) .done)

def overlay : EntityOverlay := .ofEntity 2 entity.id model

theorem hasSnapshot : resolver.HasSnapshot model catalog store :=
  ⟨by decide, ⟨snapshot, by rfl, rfl⟩, by rfl⟩

theorem hasSnapshot_shown : resolver.HasSnapshot model catalog shown :=
  ⟨by decide, ⟨snapshot, by rfl, rfl⟩, by rfl⟩

/-- The vases get an overlay that leads back to them, and they lead back to the overlay.  The
overlay of the statues is unresolved, and an attempt to unwrap it is reported. -/
theorem unwrapping_vases :
    store.Reachable ∧ resolver.HasSnapshot model catalog store ∧ shown.Reachable ∧
      resolver.HasSnapshot model catalog shown ∧
      (∃ found, (resolver.resolveEntity (.real entity) true store).value = some found ∧
        (EntityRef.overlay found).requireReal shown = .ok entity) ∧
      resolver.resolveEntity (.real entity) false shown = ⟨some overlay, shown, []⟩ ∧
      (EntityRef.overlay overlay).tryReal shown = ⟨.real entity, shown, []⟩ ∧
      (EntityRef.overlay statues).requireReal shown =
        .error (.unresolved "museum::west.statues") ∧
      (EntityRef.overlay statues).tryReal shown = ⟨.overlay statues, shown,
        [.unresolvedEntity "statues" "can't locate real entity for museum::west.statues"]⟩ := by
  obtain ⟨snapshots, -, -⟩ := reachable.unwrapping_inverts_resolving
  obtain ⟨later, unresolved, attempts⟩ := reachable_shown.unwrapping_inverts_resolving
  obtain ⟨unwraps, -, -⟩ := snapshots resolver model catalog hasSnapshot
  obtain ⟨-, resolves, -⟩ := later resolver model catalog hasSnapshot_shown
  obtain ⟨-, succeeds, -, -⟩ := attempts (.overlay overlay)
  obtain ⟨-, -, fails, -⟩ := attempts (.overlay statues)
  have unwrapped : (EntityRef.overlay overlay).requireReal shown = .ok entity := by rfl
  have lacks : (EntityRef.overlay statues).requireReal shown =
      .error (.unresolved "museum::west.statues") :=
    (unresolved statues _).mpr ⟨.unknown rfl (by rfl), by rfl⟩
  exact ⟨reachable, hasSnapshot, reachable_shown, hasSnapshot_shown,
    unwraps entity List.mem_cons_self, resolves entity.id overlay entity (by decide) unwrapped,
    succeeds entity unwrapped, lacks, fails _ lacks⟩

end Museum

end SchemaOverlay
