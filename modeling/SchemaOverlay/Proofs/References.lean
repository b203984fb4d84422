import SchemaOverlay.Proofs.RealPart

/-!
# Incoming references

References come from the schema alone.  Two runs that register the same catalogs
may differ in everything else, in the overlays they create and in what they
declare on them: an entity has the same references after both, and so has the
overlay of it in a registered model.  A registered model keeps the catalog that
it was created with, so which catalog answers for a data source follows from the
registrations of a run.
-/

namespace SchemaOverlay

open SchemaOverlay.Action

/-! ## Registered catalogs -/

/-- A catalog in the place of others: the resolver, the data source, and the catalog itself. -/
structure Registration where
  resolver : Nat
  dataSource : String
  catalog : SchemaCatalog

namespace Operation

/-- The registration that an operation carries out. -/
def registration? (store : Store) : Operation → Option Registration
  | register resolver model =>
    some ⟨resolver.number, model.dataSource, (store.modelState model).catalog⟩
  | _ => none

/-- The registrations of operations that start in a store, in their order. -/
def registrations : Store → List Operation → List Registration
  | _, [] => []
  | store, operation :: later =>
    (operation.registration? store).toList ++ registrations (operation.perform store) later

end Operation

/-- The catalog that answers for a data source after some registrations. -/
def Registration.answering (resolver : Nat) (dataSource : String) :
    Option SchemaCatalog → List Registration → Option SchemaCatalog :=
  List.foldl fun former registration =>
    if registration.resolver = resolver ∧ registration.dataSource = dataSource then
      some registration.catalog
    else former

/-- The catalog of the model registered for a data source. -/
def Resolver.catalog? (resolver : Resolver) (dataSource : String) (store : Store) :
    Option SchemaCatalog :=
  (resolver.model? dataSource store).map fun model => (store.modelState model).catalog

/-- A living model keeps its catalog. -/
theorem Store.Grows.catalog_eq {before after : Store} (grows : before.Grows after)
    (sound : before.Sound) {model : Model} (lives : before.modelLives model = true) :
    (after.modelState model).catalog = (before.modelState model).catalog := by
  obtain ⟨ledger, sound⟩ := sound
  obtain ⟨state, filed, -⟩ := sound.known lives
  obtain ⟨later, there, kept⟩ := grows.models _ _ filed
  simp only [Store.modelState, filed, there, Option.getD_some, kept.catalog]

/-- Only a registration puts another catalog in place. -/
theorem Operation.catalog?_perform {store : Store} {operation : Operation} (sound : store.Sound)
    (permitted : operation.isPermitted store = true) (resolver : Resolver) (dataSource : String) :
    resolver.catalog? dataSource (operation.perform store) =
      Registration.answering resolver.number dataSource (resolver.catalog? dataSource store)
        (operation.registration? store).toList := by
  have grows := (makes sound permitted).grows sound
  by_cases registry : .registry ∈ operation.kinds
  · obtain ⟨other, model, rfl⟩ := registry_cases registry
    have found : resolver.model? dataSource ((register other model).perform store) =
        if resolver.number = other.number ∧ dataSource = model.dataSource then some model
        else resolver.model? dataSource store :=
      Change.registry_register ..
    simp only [registration?, Option.toList_some, Registration.answering, List.foldl_cons,
      List.foldl_nil, Resolver.catalog?, found]
    by_cases here : resolver.number = other.number ∧ dataSource = model.dataSource
    · rw [if_pos here, if_pos ⟨here.1.symm, here.2.symm⟩]
      rfl
    · rw [if_neg here, if_neg fun same => here ⟨same.1.symm, same.2.symm⟩]
      rfl
  · have still : resolver.model? dataSource (operation.perform store) =
        resolver.model? dataSource store :=
      (makes sound permitted).model? registry resolver dataSource
    have none : operation.registration? store = none := by
      cases operation with
      | register other model => simp [kinds] at registry
      | _ => rfl
    rw [none, Resolver.catalog?, still]
    cases registered : resolver.model? dataSource store with
    | none => simp [Registration.answering, Resolver.catalog?, registered]
    | some model =>
        have kept : ((operation.perform store).modelState model).catalog = _ :=
          grows.catalog_eq sound (Resolver.modelLives_of_model? registered)
        simp [Registration.answering, Resolver.catalog?, registered, kept]

/-- Which catalog answers after a run follows from its registrations. -/
theorem Run.catalog? {before after : Store} {operations : List Operation}
    (run : Run before operations after) (sound : before.Sound) (resolver : Resolver)
    (dataSource : String) :
    resolver.catalog? dataSource after =
      Registration.answering resolver.number dataSource (resolver.catalog? dataSource before)
        (Operation.registrations before operations) := by
  induction run with
  | done => rfl
  | next permitted _ ih =>
      rw [ih (Operation.sound_perform sound permitted),
        Operation.catalog?_perform sound permitted, Operation.registrations]
      simp only [Registration.answering, List.foldl_append]

/-! ## References after two runs -/

namespace EntityRef

variable {store : Store} {entity : SchemaEntity}

/-- What the schema lists as references, all of them real, or its failure. -/
theorem references_real :
    EntityRef.references (.real entity) store =
      (entity.references.map (·.map Merged.real)).mapError .metadataAccess := by
  simp only [references, realItems, real?]
  cases entity.references <;> rfl

/-- The overlay in a registered model has the references of the entity that the catalog serves. -/
theorem references_overlay {resolver : Resolver} {model : Model} {overlay : EntityOverlay}
    (sound : store.Sound)
    (registered : resolver.model? entity.dataSource store = some model)
    (served : (store.modelState model).catalog.find entity.id = .ok (some entity))
    (filed : store.entity? model entity.id = some overlay) :
    EntityRef.references (.overlay overlay) store = EntityRef.references (.real entity) store := by
  obtain ⟨ledger, sound⟩ := sound
  obtain ⟨own, -, rfl, -⟩ := sound.entity_standsFor (Resolver.modelLives_of_model? registered) filed
  rw [references_real, references, EntityOverlay.realItems_overlay,
    EntityOverlay.reported_of_registered own registered served]

end EntityRef

/-- Whatever else two runs do, an entity has the same references after both: those that its schema
lists, all of them real, or the failure of the schema.  Where the runs register the same catalogs,
a model registered after one of them has a counterpart after the other, and the overlay of the
entity in either of them has these references too. -/
theorem Run.references_independent {first second : List Operation} {left right : Store}
    (one : Run .empty first left) (other : Run .empty second right)
    (same : Operation.registrations .empty first = Operation.registrations .empty second)
    (entity : SchemaEntity) :
    EntityRef.references (.real entity) left =
        (entity.references.map (·.map Merged.real)).mapError .metadataAccess ∧
      EntityRef.references (.real entity) right = EntityRef.references (.real entity) left ∧
      ∀ (resolver : Resolver) (model : Model),
        resolver.model? entity.dataSource left = some model →
        (left.modelState model).catalog.find entity.id = .ok (some entity) →
        (∀ overlay, left.entity? model entity.id = some overlay →
          EntityRef.references (.overlay overlay) left =
            EntityRef.references (.real entity) left) ∧
        ∃ counterpart, resolver.model? entity.dataSource right = some counterpart ∧
          (right.modelState counterpart).catalog = (left.modelState model).catalog ∧
          ∀ overlay, right.entity? counterpart entity.id = some overlay →
            EntityRef.references (.overlay overlay) right =
              EntityRef.references (.real entity) left := by
  have both : EntityRef.references (.real entity) right =
      EntityRef.references (.real entity) left := by
    rw [EntityRef.references_real, EntityRef.references_real]
  refine ⟨EntityRef.references_real, both, fun resolver model registered served =>
    ⟨fun overlay filed =>
      EntityRef.references_overlay (one.sound .empty) registered served filed, ?_⟩⟩
  have catalogs : resolver.catalog? entity.dataSource right =
      resolver.catalog? entity.dataSource left := by
    rw [other.catalog? .empty, one.catalog? .empty, same]
  rw [Resolver.catalog?, Resolver.catalog?, registered, Option.map_some,
    Option.map_eq_some_iff] at catalogs
  obtain ⟨counterpart, also, equal⟩ := catalogs
  refine ⟨counterpart, also, equal, fun overlay filed => ?_⟩
  rw [← both]
  exact EntityRef.references_overlay (other.sound .empty) also (equal ▸ served) filed

/-! ## A declared key that leads to a table -/

namespace Airline

def resolver : Resolver := ⟨0, {}, []⟩

def model : Model := ⟨0, "air"⟩

def flights : ObjectId := ⟨"air", ["ops", "flights"]⟩

def tickets : ObjectId := ⟨"air", ["desk", "tickets"]⟩

def assigned : Association :=
  ⟨"crews_flight_fk", ⟨"air", ["ops", "crews"]⟩, flights, [⟨"flight", "id"⟩]⟩

def table : SchemaEntity := ⟨flights, .ok [], .ok [], .ok [], .ok [assigned]⟩

def catalog : SchemaCatalog := ⟨fun id => .ok (if id = flights then some table else none)⟩

/-- Only the model is created and registered, and the table gets its overlay. -/
def plain : List Operation :=
  [.createModel "air" catalog, .register resolver model, .entityById model flights true]

def plainStore : Store := plain.foldl (fun store operation => operation.perform store) .empty

def plainOverlay : EntityOverlay := .ofEntity 1 flights model

def ticketsOverlay : EntityOverlay := .ofEntity 1 tickets model

def flightsOverlay : EntityOverlay := .ofEntity 3 flights model

/-- Leads from another table to the one whose references are asked for. -/
def booked : Association := ⟨"tickets_flight_vfk", tickets, flights, [⟨"flight", "id"⟩]⟩

/-- The model is registered late, and the key is declared on both overlays. -/
def busy : List Operation :=
  [.createModel "air" catalog, .entityById model tickets true,
    .declareForeignKey ticketsOverlay booked, .createSettings .empty, .register resolver model,
    .entityById model flights true, .declareForeignKey flightsOverlay booked,
    .describe flightsOverlay (some "id")]

def busyStore : Store := busy.foldl (fun store operation => operation.perform store) .empty

/-- The declared key is no reference of the table or of its overlay in either run. -/
theorem references_flights :
    Run .empty plain plainStore ∧ Run .empty busy busyStore ∧
      Operation.registrations .empty plain = Operation.registrations .empty busy ∧
      resolver.model? table.dataSource plainStore = some model ∧
      (plainStore.modelState model).catalog.find table.id = .ok (some table) ∧
      plainStore.entity? model table.id = some plainOverlay ∧
      busyStore.entity? model table.id = some flightsOverlay ∧
      EntityRef.references (.real table) plainStore = .ok [.real assigned] ∧
      EntityRef.references (.real table) busyStore = .ok [.real assigned] ∧
      EntityRef.references (.overlay plainOverlay) plainStore = .ok [.real assigned] ∧
      EntityRef.references (.overlay flightsOverlay) busyStore = .ok [.real assigned] := by
  have one : Run .empty plain plainStore := Run.of_permits (by decide)
  have other : Run .empty busy busyStore := Run.of_permits (by decide)
  have same : Operation.registrations .empty plain = Operation.registrations .empty busy := rfl
  have registered : resolver.model? table.dataSource plainStore = some model := by decide
  have also : resolver.model? table.dataSource busyStore = some model := by decide
  have served : (plainStore.modelState model).catalog.find table.id = .ok (some table) := rfl
  have filed : plainStore.entity? model table.id = some plainOverlay := by decide
  have there : busyStore.entity? model table.id = some flightsOverlay := by decide
  obtain ⟨listed, equal, overlays⟩ := Run.references_independent one other same table
  obtain ⟨here, counterpart, found, -, elsewhere⟩ := overlays resolver model registered served
  cases also.symm.trans found
  exact ⟨one, other, same, registered, served, filed, there, listed, equal.trans listed,
    (here _ filed).trans listed, (elsewhere _ there).trans listed⟩

end Airline

end SchemaOverlay
