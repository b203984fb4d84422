import SchemaOverlay.Overlay.Action

/-!
# Real entities behind overlays

An overlay leads back to the entity underneath through the catalog of its model.
Overlays of containers outside the schema lead nowhere, and neither do overlays
whose model is gone.
-/

namespace SchemaOverlay

/-- Why an overlay could not be resolved, merged or read. -/
inductive OverlayError where
  /-- There is no real entity behind an overlay. -/
  | unresolved (object : String)
  /-- A result could not be read. -/
  | dataAccess (error : SourceError)
  /-- The schema layer did not answer. -/
  | metadataAccess (error : SourceError)
  deriving DecidableEq, Repr

def OverlayError.message : OverlayError → String
  | .unresolved object => "can't locate real entity for " ++ object
  | .dataAccess error => "data access error: " ++ error.message
  | .metadataAccess error => "metadata access error: " ++ error.message

/-- The entity underneath an overlay, as the catalog of its model finds it. -/
def EntityOverlay.realEntity? (entity : EntityOverlay) (store : Store) :
    Except SourceError (Option SchemaEntity) :=
  match entity.id? with
  | none => .ok none
  | some id =>
    if store.modelLives entity.model then (store.modelState entity.model).catalog.find id
    else .ok none

namespace EntityOverlay

variable {store : Store} {overlay : EntityOverlay}

theorem realEntity?_of_id? {id : ObjectId} (own : overlay.id? = some id)
    (lives : store.modelLives overlay.model = true) :
    overlay.realEntity? store = (store.modelState overlay.model).catalog.find id := by
  simp only [realEntity?, own, lives, if_true]

/-- Without its model an overlay leads nowhere. -/
theorem realEntity?_of_dead (gone : store.modelLives overlay.model = false) :
    overlay.realEntity? store = .ok none := by
  rw [realEntity?]
  cases overlay.id? <;> simp [gone]

end EntityOverlay

namespace EntityRef

/-- The real entity behind a reference, where there is one. -/
def real? (entity : EntityRef) (store : Store) : Except OverlayError (Option SchemaEntity) :=
  match entity with
  | .real schemaEntity => .ok (some schemaEntity)
  | .overlay virtual => (virtual.realEntity? store).mapError .metadataAccess

def requireReal (entity : EntityRef) (store : Store) : Except OverlayError SchemaEntity :=
  match entity with
  | .real schemaEntity => .ok schemaEntity
  | .overlay virtual =>
    match virtual.realEntity? store with
    | .error error => .error (.metadataAccess error)
    | .ok none => .error (.unresolved virtual.fullId)
    | .ok (some schemaEntity) => .ok schemaEntity

/-- The real entity behind a reference; the reference itself, reported, where there is none. -/
def tryReal (entity : EntityRef) : Action EntityRef := do
  match ← Action.read entity.requireReal with
  | .ok schemaEntity => return .real schemaEntity
  | .error error =>
    Action.report (.unresolvedEntity entity.name error.message)
    return entity

end EntityRef

end SchemaOverlay
