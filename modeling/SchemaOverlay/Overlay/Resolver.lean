import SchemaOverlay.Overlay.Model
import SchemaOverlay.Config.Basic

/-!
# Resolution

A resolver leads from whatever a caller holds to its overlay.  It knows one
model for each data source; overlays of containers outside the schema are
shared by all resolvers and filed under the containers' keys.  With `create`
set, overlays that are missing come into being on the way.
-/

namespace SchemaOverlay

/-- An entry point to the overlays. -/
structure Resolver where
  number : Nat
  config : OverlayConfig
  transformers : TransformerRegistry

namespace Resolver

/-- The model registered for a data source. -/
def model? (resolver : Resolver) (dataSource : String) (store : Store) : Option Model :=
  (store.registry resolver.number).get? dataSource

/-- Register a model for its data source; yields the one that it replaces. -/
def register (resolver : Resolver) (model : Model) : Action (Option Model) := do
  Action.report (.registeredModel model.dataSource)
  let replaced ← Action.read (resolver.model? model.dataSource)
  Action.change fun store =>
    { store with
      registries := store.registries.insert resolver.number
        ((store.registry resolver.number).insert model.dataSource model) }
  return replaced

/-- The model registered for a data source; a missing one is reported. -/
def requireModel (resolver : Resolver) (dataSource : String) : Action (Option Model) := do
  match ← Action.read (resolver.model? dataSource) with
  | some model => return some model
  | none =>
    Action.report (.missingModel dataSource)
    return none

/-- The overlay of an entity; an overlay stands for itself. -/
def resolveEntity (resolver : Resolver) (entity : EntityRef) (create : Bool) :
    Action (Option EntityOverlay) := do
  match entity with
  | .overlay overlay => return some overlay
  | .real real =>
    match ← resolver.requireModel real.dataSource with
    | none => return none
    | some model => model.findEntity real create

/-- The overlay of a container outside the schema. -/
def resolveDetached (resolver : Resolver) (container : DetachedContainer) (create : Bool) :
    Action (Option EntityOverlay) := do
  if !create then Action.read (·.orphans.get? container.key)
  else
    match ← resolver.requireModel container.dataSource with
    | none => return none
    | some model => return some (← model.fileOrphan container.key container.name)

def resolveContainer (resolver : Resolver) (container : ContainerRef) (create : Bool) :
    Action (Option EntityOverlay) :=
  match container with
  | .entity entity => resolver.resolveEntity entity create
  | .detached source => resolver.resolveDetached source create

/-- The overlay of the entity that a bound column belongs to, or else of its container. -/
def resolveBinding (resolver : Resolver) (binding : Binding) (create : Bool) :
    Action (Option EntityOverlay) :=
  match binding.entity with
  | some entity => resolver.resolveEntity entity create
  | none => resolver.resolveContainer binding.container create

/-- The overlay of any object; an overlay stands for itself. -/
def resolveObject (resolver : Resolver) (object : ObjectRef) (create : Bool) :
    Action (Option OverlayObject) := do
  match object with
  | .overlay overlay => return some overlay
  | .real real =>
    match ← resolver.requireModel real.dataSource with
    | none => return none
    | some model => model.findObject real create

end Resolver

end SchemaOverlay
