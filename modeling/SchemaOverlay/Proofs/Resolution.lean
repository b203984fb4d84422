import SchemaOverlay.Proofs.Growth

/-!
# Stable resolution

Several routes lead from an object of the schema to its overlay: through a
resolver, through the registered model, or through the overlay of the entity
around it.  All of them end at one entry of the store, and no operation drops or
replaces an entry, so what one resolution yields every later one yields, as long
as the model stays registered.  Overlays of containers outside the schema do not
depend on the model.
-/

namespace SchemaOverlay

open SchemaOverlay.Action Change.Kind

/-! ## What is resolved -/

/-- An object outside the overlays that may have one. -/
inductive Target where
  | entity (id : ObjectId)
  | column (id : ObjectId) (name : String)
  | scope (id : ObjectId)
  | detached (container : DetachedContainer)

namespace Target

/-- The data source that the object belongs to. -/
def dataSource : Target → String
  | entity id | column id _ | scope id => id.dataSource
  | detached container => container.dataSource

/-- What is resolved for a real object. -/
def ofReal : RealObject → Target
  | .container id => scope id
  | .entity owner => entity owner.id
  | .column owner field => column owner.id field.name

theorem dataSource_ofReal (object : RealObject) :
    (ofReal object).dataSource = object.dataSource := by
  cases object <;> rfl

end Target

/-- The ways to ask for the overlay of an object, with or without `create` set. -/
inductive Route (resolver : Resolver) (store : Store) :
    Target → (Bool → Action (Option OverlayObject)) → Prop where
  | resolveEntity (entity : SchemaEntity) :
    Route resolver store (.entity entity.id) fun create =>
      Option.map .entity <$> resolver.resolveEntity (.real entity) create
  | resolveContainer (entity : SchemaEntity) :
    Route resolver store (.entity entity.id) fun create =>
      Option.map .entity <$> resolver.resolveContainer (.entity (.real entity)) create
  | resolveBinding (column : Column) (entity : SchemaEntity) (container : ContainerRef) :
    Route resolver store (.entity entity.id) fun create =>
      Option.map .entity <$> resolver.resolveBinding ⟨column, some (.real entity), container⟩ create
  | resolveUnbound (column : Column) (entity : SchemaEntity) :
    Route resolver store (.entity entity.id) fun create =>
      Option.map .entity <$> resolver.resolveBinding ⟨column, none, .entity (.real entity)⟩ create
  | resolveObject (object : RealObject)
    (proper : ∀ id, object = .container id → id.isRoot = false) :
    Route resolver store (.ofReal object) fun create => resolver.resolveObject (.real object) create
  | findObject {model : Model} (object : RealObject)
    (proper : ∀ id, object = .container id → id.isRoot = false)
    (registered : resolver.model? object.dataSource store = some model) :
    Route resolver store (.ofReal object) fun create => model.findObject object create
  | findEntity {model : Model} (entity : SchemaEntity)
    (registered : resolver.model? entity.dataSource store = some model) :
    Route resolver store (.entity entity.id) fun create =>
      Option.map .entity <$> model.findEntity entity create
  | entityById {model : Model} (id : ObjectId)
    (registered : resolver.model? id.dataSource store = some model) :
    Route resolver store (.entity id) fun create =>
      Option.map .entity <$> model.entityById id create
  | findScope {model : Model} (id : ObjectId) (proper : id.isRoot = false)
    (registered : resolver.model? id.dataSource store = some model) :
    Route resolver store (.scope id) fun create => Option.map .scope <$> model.findScope id create
  | findColumn {model : Model} {overlay : EntityOverlay} (id : ObjectId) (name : String)
    (registered : resolver.model? id.dataSource store = some model)
    (filed : store.entity? model id = some overlay) :
    Route resolver store (.column id name) fun create =>
      Option.map .column <$> overlay.findColumn name create
  | resolveDetached (container : DetachedContainer) :
    Route resolver store (.detached container) fun create =>
      Option.map .entity <$> resolver.resolveContainer (.detached container) create
  | resolveDetachedBinding (column : Column) (container : DetachedContainer) :
    Route resolver store (.detached container) fun create =>
      Option.map .entity <$> resolver.resolveBinding ⟨column, none, .detached container⟩ create

/-! ## One look-up for all routes -/

@[simp] theorem Action.map_apply {α β : Type} (convert : α → β) (action : Action α)
    (store : Store) :
    (convert <$> action) store =
      ⟨convert (action store).value, (action store).store, (action store).events⟩ := by
  change Outcome.mk _ _ ((action store).events ++ []) = _
  rw [List.append_nil]
  rfl

/-- The look-up that a model, or for a detached container the resolver, answers. -/
def Target.lookUp (resolver : Resolver) (model : Model) :
    Target → Bool → Action (Option OverlayObject)
  | entity id, create => Option.map .entity <$> model.entityById id create
  | column id name, create => do
    match ← model.entityById id create with
    | none => return none
    | some overlay => Option.map .column <$> overlay.findColumn name create
  | scope id, create => Option.map .scope <$> model.findScope id create
  | detached container, create =>
    Option.map .entity <$> resolver.resolveDetached container create

namespace Resolver

variable {resolver : Resolver} {store : Store} {model : Model}

theorem resolveEntity_of_some {entity : SchemaEntity} {create : Bool}
    (registered : resolver.model? entity.dataSource store = some model) :
    resolver.resolveEntity (.real entity) create store =
      model.entityById entity.id create store := by
  simp only [resolveEntity, bind_apply, requireModel_of_some registered, List.nil_append]
  rfl

theorem resolveObject_of_some {object : RealObject} {create : Bool}
    (registered : resolver.model? object.dataSource store = some model) :
    resolver.resolveObject (.real object) create store = model.findObject object create store := by
  simp only [resolveObject, bind_apply, requireModel_of_some registered, List.nil_append]

end Resolver

/-- A model is registered under its own data source. -/
theorem Store.Sound.dataSource_of_model? {store : Store} (sound : store.Sound) {resolver : Resolver}
    {dataSource : String} {model : Model}
    (registered : resolver.model? dataSource store = some model) :
    model.dataSource = dataSource := by
  obtain ⟨ledger, sound⟩ := sound
  exact (sound.registered _ _ _ registered).1

theorem Model.findObject_eq_lookUp (resolver : Resolver) (model : Model) (object : RealObject)
    (proper : ∀ id, object = .container id → id.isRoot = false) (create : Bool) (store : Store) :
    model.findObject object create store =
      (Target.ofReal object).lookUp resolver model create store := by
  cases object with
  | container id =>
      simp [findObject, Target.ofReal, Target.lookUp, proper id rfl]
  | entity entity => simp [findObject, Target.ofReal, Target.lookUp, findEntity]
  | column entity column =>
      simp only [findObject, Target.ofReal, Target.lookUp, findEntity, bind_apply]
      cases (model.entityById entity.id create store).value with
      | none => rfl
      | some overlay => simp

namespace Route

variable {resolver : Resolver} {store : Store} {target : Target}
  {access : Bool → Action (Option OverlayObject)}

/-- All routes do what the look-up does. -/
theorem eq_lookUp (route : Route resolver store target access) (sound : store.Sound) {model : Model}
    (registered : resolver.model? target.dataSource store = some model) (create : Bool) :
    access create store = target.lookUp resolver model create store := by
  cases route with
  | resolveEntity entity | resolveContainer entity | resolveBinding _ entity _
  | resolveUnbound _ entity =>
      simp only [Resolver.resolveContainer, Resolver.resolveBinding, map_apply, Target.lookUp,
        Resolver.resolveEntity_of_some registered]
  | resolveObject object proper =>
      rw [Target.dataSource_ofReal] at registered
      exact (Resolver.resolveObject_of_some registered).trans
        (model.findObject_eq_lookUp resolver object proper create store)
  | findObject object proper also =>
      rw [Target.dataSource_ofReal] at registered
      cases also.symm.trans registered
      exact model.findObject_eq_lookUp resolver object proper create store
  | findEntity entity also =>
      cases also.symm.trans registered
      rfl
  | entityById id also =>
      cases also.symm.trans registered
      rfl
  | findScope id proper also =>
      cases also.symm.trans registered
      rfl
  | findColumn id name also filed =>
      cases also.symm.trans registered
      have own := sound.dataSource_of_model? registered
      simp only [Target.lookUp, bind_apply, Model.entityById_of_some own.symm filed,
        List.nil_append]
  | resolveDetached container => rfl
  | resolveDetachedBinding column container => rfl

/-- Nothing comes into being for a data source without a model. -/
theorem eq_none (route : Route resolver store target access)
    (absent : resolver.model? target.dataSource store = none) :
    (access true store).value = none := by
  cases route with
  | resolveEntity entity | resolveContainer entity | resolveBinding _ entity _
  | resolveUnbound _ entity =>
      have missing : resolver.model? entity.dataSource store = none := absent
      simp [Resolver.resolveContainer, Resolver.resolveBinding, Resolver.resolveEntity,
        Resolver.requireModel_of_none missing]
  | resolveObject object proper =>
      rw [Target.dataSource_ofReal] at absent
      simp [Resolver.resolveObject, Resolver.requireModel_of_none absent]
  | findObject object proper also =>
      rw [Target.dataSource_ofReal] at absent
      cases also.symm.trans absent
  | findEntity entity also => cases also.symm.trans absent
  | entityById id also => cases also.symm.trans absent
  | findScope id proper also => cases also.symm.trans absent
  | findColumn id name also filed => cases also.symm.trans absent
  | resolveDetached container | resolveDetachedBinding column container =>
      have missing : resolver.model? container.dataSource store = none := absent
      simp [Resolver.resolveContainer, Resolver.resolveBinding,
        Resolver.resolveDetached_of_no_model missing]

end Route

/-! ## Entries -/

/-- The overlay that a store files for a target, where the target's data source has a model. -/
inductive Store.Files (store : Store) (resolver : Resolver) : Target → OverlayObject → Prop where
  | entity {model : Model} {id : ObjectId} {overlay : EntityOverlay}
    (registered : resolver.model? id.dataSource store = some model)
    (filed : store.entity? model id = some overlay) :
    Files store resolver (.entity id) (.entity overlay)
  | column {model : Model} {id : ObjectId} {name : String} {owner : EntityOverlay}
    {overlay : ColumnOverlay} (registered : resolver.model? id.dataSource store = some model)
    (filed : store.entity? model id = some owner)
    (declared : store.column? owner name = some overlay) :
    Files store resolver (.column id name) (.column overlay)
  | scope {model : Model} {id : ObjectId} {overlay : ScopeOverlay}
    (registered : resolver.model? id.dataSource store = some model)
    (filed : store.scope? model id = some overlay) :
    Files store resolver (.scope id) (.scope overlay)
  | detached {container : DetachedContainer} {overlay : EntityOverlay}
    (registered : (resolver.model? container.dataSource store).isSome = true)
    (filed : store.orphans.get? container.key = some overlay) :
    Files store resolver (.detached container) (.entity overlay)

namespace Target

variable {resolver : Resolver} {store : Store} {model : Model} {target : Target}
  {object : OverlayObject}

theorem lookUp_makes (sound : store.Sound) (lives : store.modelLives model = true)
    (target : Target) (create : Bool) :
    (target.lookUp resolver model create).Makes store
      (creating create [.entity, .scope, .orphan, .column]) := by
  cases target with
  | entity id =>
      refine .bind ?_ (.pure _)
      exact (Model.entityById_makes lives id create).mono (creating_subset create (by simp))
  | column id name =>
      refine .bind ((Model.entityById_makes lives id create).mono
        (creating_subset create (by simp))) ?_
      split
      · exact .pure _
      · rename_i overlay yields
        refine .bind ?_ (.pure _)
        exact (EntityOverlay.findColumn_makes (Model.entityLives_of_entityById sound lives yields)
          name create).mono (creating_subset create (by simp))
  | scope id =>
      refine .bind ?_ (.pure _)
      exact (Model.findScope_makes lives id create).mono (creating_subset create (by simp))
  | detached container =>
      refine .bind ?_ (.pure _)
      exact (Resolver.resolveDetached_makes container create).mono
        (creating_subset create (by simp))

/-- What a look-up with `create` set yields is filed afterwards. -/
theorem files_of_lookUp (sound : store.Sound)
    (registered : resolver.model? target.dataSource store = some model)
    (found : (target.lookUp resolver model true store).value = some object) :
    (target.lookUp resolver model true store).store.Files resolver target object := by
  have lives := Resolver.modelLives_of_model? registered
  have makes : (target.lookUp resolver model true).Makes store _ :=
    lookUp_makes sound lives target true
  have after := (makes.model? (by decide) resolver target.dataSource).trans registered
  cases target with
  | entity id =>
      simp only [lookUp, map_apply] at found after ⊢
      obtain ⟨overlay, yields, rfl⟩ := Option.map_eq_some_iff.mp found
      exact .entity after (Model.entity?_of_entityById yields).2
  | column id name =>
      simp only [lookUp, bind_apply] at found after ⊢
      cases yields : (model.entityById id true store).value with
      | none =>
          rw [yields] at found
          cases found
      | some owner =>
          rw [yields] at found after
          simp only [map_apply] at found after ⊢
          obtain ⟨overlay, finds, rfl⟩ := Option.map_eq_some_iff.mp found
          have alive := Model.entityLives_of_entityById sound lives yields
          have grows := (EntityOverlay.findColumn_makes alive name true).grows
            ((Model.entityById_makes lives id true).sound sound)
          exact .column after (grows.entity? (Model.entity?_of_entityById yields).2)
            (EntityOverlay.column?_of_findColumn finds)
  | scope id =>
      simp only [lookUp, map_apply] at found after ⊢
      obtain ⟨overlay, yields, rfl⟩ := Option.map_eq_some_iff.mp found
      exact .scope after (Model.scope?_of_findScope yields)
  | detached container =>
      simp only [lookUp, map_apply] at found after ⊢
      obtain ⟨overlay, yields, rfl⟩ := Option.map_eq_some_iff.mp found
      exact .detached (congrArg Option.isSome after) (Resolver.orphan_of_resolveDetached yields)

theorem lookUp_of_files (sound : store.Sound)
    (registered : resolver.model? target.dataSource store = some model)
    (filed : store.Files resolver target object) (create : Bool) :
    (target.lookUp resolver model create store).value = some object := by
  have own := sound.dataSource_of_model? registered
  cases filed with
  | entity also filed =>
      cases also.symm.trans registered
      simp only [lookUp, map_apply, Model.entityById_of_some own.symm filed]
      rfl
  | column also filed declared =>
      cases also.symm.trans registered
      simp only [lookUp, bind_apply, map_apply, Model.entityById_of_some own.symm filed,
        EntityOverlay.findColumn_of_some declared]
      rfl
  | scope also filed =>
      cases also.symm.trans registered
      simp only [lookUp, map_apply, Model.findScope_of_some filed]
      rfl
  | detached _ filed =>
      cases create with
      | false =>
          simp only [lookUp, map_apply, Resolver.resolveDetached_false, filed]
          rfl
      | true =>
          simp only [lookUp, map_apply, Resolver.resolveDetached_of_some registered filed]
          rfl

end Target

/-! ## Runs -/

namespace Operation

variable {store : Store} {operation : Operation}

/-- The operations that may touch the registries. -/
theorem registry_cases (registry : .registry ∈ operation.kinds) :
    ∃ resolver model, operation = .register resolver model := by
  cases operation with
  | register resolver model => exact ⟨resolver, model, rfl⟩
  | _ => simp [kinds] at registry

/-- A registered model stays registered until one is registered in its place. -/
theorem model?_perform (sound : store.Sound) (permitted : operation.isPermitted store = true)
    {resolver : Resolver} {dataSource : String}
    (kept : operation.registers resolver.number dataSource = false) :
    resolver.model? dataSource (operation.perform store) = resolver.model? dataSource store := by
  by_cases registry : .registry ∈ operation.kinds
  · obtain ⟨other, model, rfl⟩ := registry_cases registry
    have apart : ¬ (resolver.number = other.number ∧ dataSource = model.dataSource) := by
      rintro ⟨same, rfl⟩
      simp [registers, same] at kept
    change ((((Change.register other model).apply store).registry resolver.number).get?
      dataSource) = _
    rw [Change.registry_register, if_neg apart]
    rfl
  · exact (makes sound permitted).model? registry resolver dataSource

end Operation

theorem Run.model? {before after : Store} {operations : List Operation}
    (run : Run before operations after) (sound : before.Sound) {resolver : Resolver}
    {dataSource : String}
    (kept : ∀ operation ∈ operations, operation.registers resolver.number dataSource = false) :
    resolver.model? dataSource after = resolver.model? dataSource before := by
  induction run with
  | done => rfl
  | next permitted _ ih =>
      have here := Operation.model?_perform sound permitted (kept _ List.mem_cons_self)
      have later := ih (Operation.sound_perform sound permitted)
        fun operation mem => kept operation (List.mem_cons_of_mem _ mem)
      exact later.trans here

/-- Whether no model is registered in the place of the one that the target's overlay belongs to;
the overlay of a detached container does not depend on it. -/
def Target.KeptBy (resolver : Resolver) (operations : List Operation) : Target → Prop
  | .detached _ => True
  | target => ∀ operation ∈ operations,
      operation.registers resolver.number target.dataSource = false

/-- What is filed stays filed. -/
theorem Store.Files.run {before after : Store} {operations : List Operation}
    (run : Run before operations after) (sound : before.Sound) {resolver : Resolver}
    {target : Target} {object : OverlayObject} (files : before.Files resolver target object)
    (kept : target.KeptBy resolver operations) : after.Files resolver target object := by
  have grows := run.grows sound
  cases files with
  | entity registered filed =>
      exact .entity ((run.model? sound kept).trans registered) (grows.entity? filed)
  | column registered filed declared =>
      exact .column ((run.model? sound kept).trans registered) (grows.entity? filed)
        (grows.column? declared)
  | scope registered filed =>
      exact .scope ((run.model? sound kept).trans registered) (grows.scope? filed)
  | detached registered filed =>
      exact .detached (grows.registered _ _ registered) (grows.orphans _ _ filed)

/-- A filed target's data source has a model. -/
theorem Store.Files.model? {store : Store} {resolver : Resolver} {target : Target}
    {object : OverlayObject} (files : store.Files resolver target object) :
    ∃ model, resolver.model? target.dataSource store = some model := by
  cases files with
  | entity registered _ | column registered _ _ | scope registered _ => exact ⟨_, registered⟩
  | detached registered _ => exact Option.isSome_iff_exists.mp registered

/-- Once an object was resolved with `create` set, every later resolution yields the same overlay,
by any route and with or without `create` set, until another model is registered for the object's
data source; registering another one changes nothing for detached containers. -/
theorem Route.resolution_stable {store later : Store} (reachable : store.Reachable)
    {resolver : Resolver} {target : Target} {first second : Bool → Action (Option OverlayObject)}
    (earlier : Route resolver store target first) {object : OverlayObject}
    (resolved : (first true store).value = some object) {operations : List Operation}
    (run : Run (first true store).store operations later)
    (kept : target.KeptBy resolver operations) (route : Route resolver later target second)
    (create : Bool) : (second create later).value = some object := by
  have sound := reachable.sound
  cases registered : resolver.model? target.dataSource store with
  | none =>
      rw [earlier.eq_none registered] at resolved
      cases resolved
  | some model =>
      rw [earlier.eq_lookUp sound registered] at resolved run
      have makes : (target.lookUp resolver model true).Makes store _ :=
        Target.lookUp_makes sound (Resolver.modelLives_of_model? registered) target true
      have between := makes.sound sound
      have files := (Target.files_of_lookUp sound registered resolved).run run between kept
      obtain ⟨owner, also⟩ := files.model?
      rw [route.eq_lookUp (run.sound between) also]
      exact Target.lookUp_of_files (run.sound between) also files create

namespace Shop

def resolver : Resolver := ⟨0, {}, []⟩

def model : Model := ⟨0, "shop"⟩

def item : SchemaEntity := .unreadable ⟨"shop", ["public", "item"]⟩ "offline"

def price : Column := ⟨"price", "text", none, 0, true⟩

def itemOverlay : EntityOverlay := .ofEntity 1 item.id model

def priceOverlay : ColumnOverlay := ⟨2, "price", none, itemOverlay⟩

def setup : List Operation :=
  [.createModel "shop" ⟨fun _ => .ok none⟩, .register resolver model]

def store : Store := setup.foldl (fun store operation => operation.perform store) .empty

/-- The store in which the price has an overlay. -/
def priced : Store := (resolver.resolveObject (.real (.column item price)) true store).store

/-- The model is let go by its creator, another entity is resolved and the price gets settings. -/
def further : List Operation :=
  [.release (.object (.model model)), .entityById model ⟨"shop", ["public", "order"]⟩ true,
    .ownSettings (.column priceOverlay)]

def later : Store := further.foldl (fun store operation => operation.perform store) priced

/-- The overlay of a column that a resolver made is found on the entity's overlay ever after. -/
theorem resolution_stable_price :
    store.Reachable ∧
      (resolver.resolveObject (.real (.column item price)) true store).value =
        some (.column priceOverlay) ∧
      Run priced further later ∧
      (itemOverlay.findColumn "price" false later).value.map OverlayObject.column =
        some (.column priceOverlay) := by
  have reachable : store.Reachable := ⟨setup, Run.of_permits (by decide)⟩
  have resolved : (resolver.resolveObject (.real (.column item price)) true store).value =
      some (.column priceOverlay) := by decide
  have run : Run priced further later := Run.of_permits (by decide)
  have first : Route resolver store (.column item.id "price") fun create =>
      resolver.resolveObject (.real (.column item price)) create :=
    .resolveObject (.column item price) (by simp)
  have registered : resolver.model? "shop" later = some model := by decide
  have filed : later.entity? model item.id = some itemOverlay := by decide
  have second : Route resolver later (.column item.id "price") fun create =>
      Option.map .column <$> itemOverlay.findColumn "price" create :=
    .findColumn item.id "price" registered filed
  have kept : (Target.column item.id "price").KeptBy resolver further := by
    change ∀ operation ∈ further, operation.registers 0 "shop" = false
    decide
  refine ⟨reachable, resolved, run, ?_⟩
  simpa only [map_apply] using
    Route.resolution_stable reachable first resolved run kept second false

end Shop

end SchemaOverlay
