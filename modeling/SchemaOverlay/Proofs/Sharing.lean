import SchemaOverlay.Proofs.Creation

/-!
# Shared overlays of containers

Overlays of containers outside the schema are filed once for all resolvers, so a
resolver finds what another one created.  Without `create` set it finds them
whether or not it knows a model of the data source; with `create` set it asks
for the model first and finds nothing without one.  Only there do the two ways
part, and neither of them changes the store when there is an overlay to find.
-/

namespace SchemaOverlay

/-- Whether a resolver may create the overlay of a container: it knows a model for the data source
of one that is outside the schema. -/
def ContainerRef.IsKnown (container : ContainerRef) (resolver : Resolver) (store : Store) : Prop :=
  ∀ source, container = .detached source →
    (resolver.model? source.dataSource store).isSome = true

namespace Resolver

variable {store : Store} {resolver : Resolver} {container : ContainerRef}
  {overlay : EntityOverlay}

/-- An entity's overlay that is found without `create` set is found with it. -/
theorem resolveEntity_of_found {entity : EntityRef}
    (found : (resolver.resolveEntity entity false store).value = some overlay) :
    resolver.resolveEntity entity true store = ⟨some overlay, store, []⟩ := by
  cases entity with
  | overlay own =>
      cases found
      rfl
  | real entity =>
      cases registered : resolver.model? entity.dataSource store with
      | none =>
          rw [resolveEntity_of_none registered] at found
          cases found
      | some model =>
          rw [resolveEntity_of_some registered] at found ⊢
          have own := (Model.entity?_of_entityById found).1
          cases filed : store.entity? model entity.id with
          | none =>
              rw [Model.entityById_false own filed] at found
              cases found
          | some former =>
              rw [Model.entityById_of_some own filed] at found ⊢
              cases found
              rfl

/-- A container that was found with `create` set is known ever after. -/
theorem isKnown_of_resolved {earlier : Store} (sound : earlier.Sound)
    (resolved : (resolver.resolveContainer container true earlier).value.isSome = true)
    {operations : List Operation}
    (run : Run (resolver.resolveContainer container true earlier).store operations store) :
    container.IsKnown resolver store := by
  rintro source rfl
  have makes : (resolver.resolveContainer (.detached source) true).Makes earlier _ :=
    resolveDetached_makes source true
  have known : (resolver.model? source.dataSource earlier).isSome = true := by
    cases registered : resolver.model? source.dataSource earlier with
    | some model => rfl
    | none =>
        rw [resolveContainer, resolveDetached_of_no_model registered] at resolved
        cases resolved
  have grows := (makes.grows sound).trans (run.grows (makes.sound sound))
  exact grows.registered _ _ known

/-- What is found without `create` set is found with it, and nothing changes, exactly where the
container is known to the resolver.  Elsewhere nothing is found, and nothing changes either.  A
resolver that has once found the overlay of the container with `create` set always finds it. -/
theorem resolveContainer_create_iff
    (found : (resolver.resolveContainer container false store).value = some overlay) :
    (resolver.resolveContainer container true store = ⟨some overlay, store, []⟩ ↔
        container.IsKnown resolver store) ∧
      (¬ container.IsKnown resolver store →
        (resolver.resolveContainer container true store).value = none ∧
          (resolver.resolveContainer container true store).store = store) ∧
      ∀ earlier operations, earlier.Reachable →
        (resolver.resolveContainer container true earlier).value.isSome = true →
        Run (resolver.resolveContainer container true earlier).store operations store →
        resolver.resolveContainer container true store = ⟨some overlay, store, []⟩ := by
  have finds : container.IsKnown resolver store →
      resolver.resolveContainer container true store = ⟨some overlay, store, []⟩ := by
    intro known
    cases container with
    | entity entity => exact resolveEntity_of_found found
    | detached source =>
        obtain ⟨model, registered⟩ := Option.isSome_iff_exists.mp (known source rfl)
        exact resolveDetached_of_some registered found
  have fails : ¬ container.IsKnown resolver store →
      (resolver.resolveContainer container true store).value = none ∧
        (resolver.resolveContainer container true store).store = store := by
    intro unknown
    cases container with
    | entity entity =>
        exact absurd (fun source same => by cases same) unknown
    | detached source =>
        have absent : resolver.model? source.dataSource store = none := by
          cases registered : resolver.model? source.dataSource store with
          | none => rfl
          | some model =>
              refine absurd ?_ unknown
              rintro _ ⟨⟩
              rw [registered]
              rfl
        rw [resolveContainer, resolveDetached_of_no_model absent]
        exact ⟨rfl, rfl⟩
  refine ⟨⟨fun same => ?_, finds⟩, fails, fun earlier operations before resolved run =>
    finds (isKnown_of_resolved before.sound resolved run)⟩
  by_contra unknown
  rw [same] at fails
  cases (fails unknown).1

end Resolver

/-! ## A query that two resolvers share -/

namespace Gazette

/-- Knows a model of the data source. -/
def desk : Resolver := ⟨0, {}, []⟩

/-- Knows no model. -/
def reader : Resolver := ⟨1, {}, []⟩

def model : Model := ⟨0, "press"⟩

def headlines : DetachedContainer := .query "press" "headlines" "eu::query::select 1"

/-- A query of a data source that nobody knows, with the key of the other one. -/
def digest : DetachedContainer := .query "press::query::eu" "digest" "select 1"

def headlinesOverlay : EntityOverlay := .ofDetached 1 "headlines" model

def setup : List Operation :=
  [.createModel "press" ⟨fun _ => .ok none⟩, .register desk model,
    .resolveContainer desk (.detached headlines) true]

def store : Store := setup.foldl (fun store operation => operation.perform store) .empty

/-- The overlay of the query is found by the other resolver, and for the other query by either one,
and is lost as soon as `create` is set. -/
theorem overlay_lost :
    store.Reachable ∧
      (reader.resolveContainer (.detached headlines) false store).value = some headlinesOverlay ∧
      (reader.resolveContainer (.detached headlines) true store).value = none ∧
      (desk.resolveContainer (.detached digest) false store).value = some headlinesOverlay ∧
      (desk.resolveContainer (.detached digest) true store).value = none :=
  ⟨⟨setup, Run.of_permits (by decide)⟩, by decide, by decide, by decide, by decide⟩

/-- The resolver that created the overlay finds it again, the other one does not know the query. -/
theorem resolveContainer_headlines :
    (desk.resolveContainer (.detached headlines) false store).value = some headlinesOverlay ∧
      desk.resolveContainer (.detached headlines) true store = ⟨some headlinesOverlay, store, []⟩ ∧
      (reader.resolveContainer (.detached headlines) false store).value = some headlinesOverlay ∧
      ¬ (ContainerRef.detached headlines).IsKnown reader store ∧
      (reader.resolveContainer (.detached headlines) true store).store = store := by
  have here : (desk.resolveContainer (.detached headlines) false store).value =
      some headlinesOverlay := by decide
  have there : (reader.resolveContainer (.detached headlines) false store).value =
      some headlinesOverlay := by decide
  have known : (ContainerRef.detached headlines).IsKnown desk store := by
    rintro _ ⟨⟩
    decide
  have unknown : ¬ (ContainerRef.detached headlines).IsKnown reader store := by
    intro known
    have registered := known headlines rfl
    revert registered
    decide
  obtain ⟨finds, -, -⟩ := Resolver.resolveContainer_create_iff here
  obtain ⟨-, fails, -⟩ := Resolver.resolveContainer_create_iff there
  exact ⟨here, finds.mpr known, there, unknown, (fails unknown).2⟩

end Gazette

end SchemaOverlay
