import SchemaOverlay.Proofs.Resolution

/-!
# Handles of one entity

An entity can be named by itself or by the overlay that the registered model
holds for it.  Queries see a reference only through the real entity behind it
and through the overlay that it resolves to, so two references that agree in
both are interchangeable.  The two handles of an entity do, as long as the
model's catalog serves that entity.
-/

namespace SchemaOverlay

open SchemaOverlay.Action

/-- Actions that do the same at a store, and then the same with what they yield. -/
theorem Action.bind_congr {α β : Type} {first other : Action α} {second next : α → Action β}
    {store : Store} (here : first store = other store)
    (after : ∀ value later, second value later = next value later) :
    (first >>= second) store = (other >>= next) store := by
  simp only [bind_apply, here, after]

/-! ## References that agree -/

/-- Whether two references lead to one real entity and resolve to one overlay. -/
structure EntityRef.Agree (resolver : Resolver) (store : Store) (left right : EntityRef) :
    Prop where
  real : left.real? store = right.real? store
  resolved : ∀ create,
    resolver.resolveEntity left create store = resolver.resolveEntity right create store

namespace EntityRef.Agree

variable {resolver : Resolver} {store : Store} {left right : EntityRef}

theorem realItems {α : Type} (agree : Agree resolver store left right)
    (items : SchemaEntity → Except SourceError (List α)) :
    left.realItems items store = right.realItems items store := by
  simp only [EntityRef.realItems, agree.real]

theorem references (agree : Agree resolver store left right) :
    left.references store = right.references store :=
  agree.realItems _

/-- What the schema reports is the same, and so is what the overlay declares. -/
theorem merge {α : Type} (agree : Agree resolver store left right)
    (items : SchemaEntity → Except SourceError (List α)) (declared : Declarations → List α) :
    resolver.merge left items declared store = resolver.merge right items declared store := by
  simp only [Resolver.merge, bind_apply, read_apply, agree.realItems]
  cases right.realItems items store with
  | error error => rfl
  | ok reported => simp only [bind_apply, agree.resolved]

theorem descriptionColumns (agree : Agree resolver store left right) (key : Column) :
    resolver.descriptionColumns left key store = resolver.descriptionColumns right key store := by
  have chosen : resolver.chosenDescription left key store =
      resolver.chosenDescription right key store := by
    simp only [Resolver.chosenDescription, agree.real]
  have makes : (resolver.resolveEntity right false).Makes store [.report] :=
    Resolver.resolveEntity_makes right false
  have kept := makes.store_eq
  simp only [Resolver.descriptionColumns, bind_apply, read_apply, agree.resolved, kept]
  cases (resolver.resolveEntity right false store).value.bind
      fun overlay => (store.declared overlay).description with
  | some text => rfl
  | none => simp only [read_apply, chosen]

end EntityRef.Agree

/-! ## Bindings of entities -/

/-- The entity whose overlay a binding resolves to: the owner where it is known, or else the
container; none for containers outside the schema. -/
def Binding.entity? (binding : Binding) : Option EntityRef :=
  match binding.entity, binding.container with
  | some owner, _ => some owner
  | none, .entity owner => some owner
  | none, .detached _ => none

theorem Binding.resolveBinding_of_entity? {binding : Binding} {entity : EntityRef}
    (leads : binding.entity? = some entity) (resolver : Resolver) (create : Bool) :
    resolver.resolveBinding binding create = resolver.resolveEntity entity create := by
  obtain ⟨column, owner, container⟩ := binding
  cases owner with
  | some owner =>
      cases leads
      rfl
  | none =>
      cases container with
      | entity owner =>
          cases leads
          rfl
      | detached container => cases leads

/-- Whether two bindings of one column lead to references that agree. -/
structure Binding.Agree (resolver : Resolver) (store : Store) (left right : Binding) : Prop where
  column : left.column = right.column
  resolved : ∀ create,
    resolver.resolveBinding left create store = resolver.resolveBinding right create store

namespace Binding.Agree

variable {resolver : Resolver} {store : Store} {left right : Binding}

theorem of_entity? {first second : EntityRef} (agree : first.Agree resolver store second)
    (column : left.column = right.column) (leads : left.entity? = some first)
    (also : right.entity? = some second) : Agree resolver store left right where
  column := column
  resolved create := by
    rw [resolveBinding_of_entity? leads, resolveBinding_of_entity? also]
    exact agree.resolved create

theorem bindingSettings (agree : Agree resolver store left right) (create : Bool) :
    resolver.bindingSettings left create store = resolver.bindingSettings right create store := by
  refine bind_congr (agree.resolved create) fun entity later => ?_
  rw [agree.column]

theorem collectOptions (agree : Agree resolver store left right) :
    resolver.collectOptions left store = resolver.collectOptions right store :=
  bind_congr (agree.bindingSettings false) fun _ _ => rfl

theorem selectTransformers (agree : Agree resolver store left right) (custom : Option Bool) :
    resolver.selectTransformers left custom store =
      resolver.selectTransformers right custom store := by
  simp only [Resolver.selectTransformers, agree.column]
  split
  · rfl
  · exact bind_congr (agree.bindingSettings false) fun _ _ => rfl

end Binding.Agree

/-! ## The two handles of an entity -/

/-- An entity agrees with the overlay that the registered model holds for it, where the model's
catalog serves the entity. -/
theorem EntityRef.agree_overlay {store : Store} (sound : store.Sound) {resolver : Resolver}
    {model : Model} {entity : SchemaEntity} {overlay : EntityOverlay}
    (registered : resolver.model? entity.dataSource store = some model)
    (filed : store.entity? model entity.id = some overlay)
    (served : (store.modelState model).catalog.find entity.id = .ok (some entity)) :
    EntityRef.Agree resolver store (.real entity) (.overlay overlay) := by
  have lives := Resolver.modelLives_of_model? registered
  have own := sound.dataSource_of_model? registered
  constructor
  case real =>
    have leads : overlay.realEntity? store = .ok (some entity) :=
      (EntityOverlay.realEntity?_of_filed sound lives filed).trans served
    simp only [EntityRef.real?, leads]
    rfl
  case resolved =>
    intro create
    rw [Resolver.resolveEntity_of_some registered, Model.entityById_of_some own.symm filed]
    rfl

/-- The real entity and the overlay that the registered model holds for it are interchangeable in
every query, and in what a binding of a column leads to: values, errors, events and the store
afterwards are the same. -/
theorem EntityRef.handles_interchangeable {store : Store} (reachable : store.Reachable)
    {resolver : Resolver} {model : Model} {entity : SchemaEntity} {overlay : EntityOverlay}
    (registered : resolver.model? entity.dataSource store = some model)
    (filed : store.entity? model entity.id = some overlay)
    (served : (store.modelState model).catalog.find entity.id = .ok (some entity)) :
    resolver.constraints (.real entity) store = resolver.constraints (.overlay overlay) store ∧
      resolver.associations (.real entity) store =
        resolver.associations (.overlay overlay) store ∧
      EntityRef.references (.real entity) store = EntityRef.references (.overlay overlay) store ∧
      (∀ key, resolver.descriptionColumns (.real entity) key store =
        resolver.descriptionColumns (.overlay overlay) key store) ∧
      ∀ left right : Binding, left.column = right.column → left.entity? = some (.real entity) →
        right.entity? = some (.overlay overlay) →
          (∀ create, resolver.bindingSettings left create store =
            resolver.bindingSettings right create store) ∧
          resolver.collectOptions left store = resolver.collectOptions right store ∧
          ∀ custom, resolver.selectTransformers left custom store =
            resolver.selectTransformers right custom store := by
  have agree := EntityRef.agree_overlay reachable.sound registered filed served
  refine ⟨agree.merge _ _, agree.merge _ _, agree.references, agree.descriptionColumns, ?_⟩
  intro left right column leads also
  have bound := Binding.Agree.of_entity? agree column leads also
  exact ⟨bound.bindingSettings, bound.collectOptions, bound.selectTransformers⟩

/-! ## A table whose references cannot be read -/

namespace Clinic

def resolver : Resolver := ⟨0, {}, []⟩

def model : Model := ⟨0, "clinic"⟩

def primaryKey : Constraint := ⟨"patients_pkey", .primaryKey, ["id"]⟩

def patients : SchemaEntity :=
  ⟨⟨"clinic", ["ward", "patients"]⟩, .ok [], .ok [primaryKey], .ok [],
    .error (.metadata "offline")⟩

def overlay : EntityOverlay := .ofEntity 1 patients.id model

/-- The overlay declares a unique key. -/
def uniqueKey : Constraint := ⟨"patients_name_vkey", .uniqueKey, ["name"]⟩

def name : Column := ⟨"name", "text", none, 0, true⟩

def setup : List Operation :=
  [.createModel "clinic" ⟨fun id => .ok (if id = patients.id then some patients else none)⟩,
    .register resolver model, .entityById model patients.id true,
    .declareConstraint overlay uniqueKey]

def store : Store := setup.foldl (fun store operation => operation.perform store) .empty

/-- The overlay lists the key of its table and its own, fails where the table does, and a binding
through it gets the settings that a binding of the table gets. -/
theorem handles_interchangeable_patients :
    store.Reachable ∧ resolver.model? "clinic" store = some model ∧
      store.entity? model patients.id = some overlay ∧
      (store.modelState model).catalog.find patients.id = .ok (some patients) ∧
      resolver.constraints (.overlay overlay) store =
        ⟨.ok [.real primaryKey, .declared uniqueKey], store, []⟩ ∧
      EntityRef.references (.overlay overlay) store =
        .error (.metadataAccess (.metadata "offline")) ∧
      resolver.bindingSettings (.ofEntity (.overlay overlay) name) true store =
        resolver.bindingSettings (.ofEntity (.real patients) name) true store := by
  have reachable : store.Reachable := ⟨setup, Run.of_permits (by decide)⟩
  have registered : resolver.model? "clinic" store = some model := by decide
  have filed : store.entity? model patients.id = some overlay := by decide
  have served : (store.modelState model).catalog.find patients.id = .ok (some patients) := rfl
  obtain ⟨constraints, -, references, -, bound⟩ :=
    EntityRef.handles_interchangeable reachable registered filed served
  obtain ⟨settings, -, -⟩ :=
    bound (.ofEntity (.real patients) name) (.ofEntity (.overlay overlay) name) rfl rfl rfl
  refine ⟨reachable, registered, filed, served, ?_, ?_, (settings true).symm⟩
  · rw [← constraints]
    rfl
  · rw [← references]
    rfl

end Clinic

end SchemaOverlay
