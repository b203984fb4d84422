import SchemaOverlay.Overlay.Resolver
import SchemaOverlay.Overlay.Settings

/-!
# Inheritance of settings

Settings apply to everything underneath the object that owns them, until an
object further in owns settings itself.  The way outwards leads from a column to
its entity, from there to the innermost existing scope, and from scope to scope
to the model; it ends where an owner no longer lives.
-/

namespace SchemaOverlay

namespace OverlayObject

/-- The enclosing object; none around a model or once the owner is gone. -/
def parent? (store : Store) : OverlayObject → Option OverlayObject
  | .model _ => none
  | .scope overlay =>
    if store.modelLives overlay.model then some (store.nearestScope overlay.model overlay.id)
    else none
  | .entity overlay =>
    if store.modelLives overlay.model then
      match overlay.id? with
      | some id => some (store.nearestScope overlay.model id)
      | none => some (.model overlay.model)
    else none
  | .column overlay =>
    if store.entityLives overlay.entity then some (.entity overlay.entity) else none

/-- How far inside the object stands at most. -/
def depth : OverlayObject → Nat
  | .model _ => 0
  | .scope overlay => overlay.id.path.length + 1
  | .entity overlay =>
    match overlay.id? with
    | some id => id.path.length + 2
    | none => 1
  | .column overlay =>
    match overlay.entity.id? with
    | some id => id.path.length + 3
    | none => 2

/-- Around an identity stand only scopes that are further out. -/
theorem depth_nearestScope_lt (store : Store) (model : Model) (id : ObjectId) :
    (store.nearestScope model id).depth < id.path.length + 1 := by
  unfold Store.nearestScope
  split
  · rename_i scope found
    obtain ⟨ancestor, mem, filed⟩ := List.exists_of_findSome?_eq_some found
    have own := (store.modelState model).scopes.own ancestor scope filed
    simp only [ObjectId.ancestors, List.mem_map, List.mem_reverse, List.mem_range'] at mem
    obtain ⟨length, ⟨index, below, rfl⟩, rfl⟩ := mem
    simp only [depth, own, ObjectId.truncate, List.length_take]
    omega
  · simp [depth]

theorem depth_parent?_lt {store : Store} {object outer : OverlayObject}
    (found : object.parent? store = some outer) : outer.depth < object.depth := by
  cases object with
  | model model => simp [parent?] at found
  | scope overlay =>
      simp only [parent?] at found
      split at found
      · cases found
        exact depth_nearestScope_lt store overlay.model overlay.id
      · cases found
  | entity overlay =>
      simp only [parent?] at found
      split at found
      · split at found
        · rename_i id own
          cases found
          have nearer := depth_nearestScope_lt store overlay.model id
          have inner : (OverlayObject.entity overlay).depth = id.path.length + 2 := by
            simp [depth, own]
          omega
        · rename_i orphan
          cases found
          simp [depth, orphan]
      · cases found
  | column overlay =>
      simp only [parent?] at found
      split at found
      · cases found
        simp only [depth]
        split <;> simp
      · cases found

/-- The settings of the first object on the way outwards that owns some, the object included. -/
def effectiveSettings? (store : Store) (object : OverlayObject) : Option SettingsId :=
  match store.ownSettings? object with
  | some id => some id
  | none =>
    match next : object.parent? store with
    | none => none
    | some outer =>
      have := depth_parent?_lt next
      outer.effectiveSettings? store
termination_by object.depth

end OverlayObject

namespace ColumnOverlay

/-- The settings that apply to a column; with `create` set it owns them afterwards. -/
def resolveSettings (column : ColumnOverlay) (create : Bool) : Action (Option SettingsId) :=
  if create then do return some (← (OverlayObject.column column).createSettings)
  else Action.read fun store => (OverlayObject.column column).effectiveSettings? store

end ColumnOverlay

namespace Resolver

/-- The settings that apply to a bound column; none where it has no overlay. -/
def bindingSettings (resolver : Resolver) (binding : Binding) (create : Bool) :
    Action (Option SettingsId) := do
  match ← resolver.resolveBinding binding create with
  | none => return none
  | some entity =>
    match ← entity.findColumn binding.column.name create with
    | none => return none
    | some column => column.resolveSettings create

/-- The options that apply to a bound column. -/
def collectOptions (resolver : Resolver) (binding : Binding) : Action TransformOptions := do
  match ← resolver.bindingSettings binding false with
  | none => return .empty
  | some id => return (← Action.read (·.contents id)).options

end Resolver

end SchemaOverlay
