import SchemaOverlay.Overlay.Action

/-!
# Models

A model holds the overlays of one data source: scopes for its containers and
overlays for its entities, each created the first time it is asked for with
`create` set.  A model answers for no identity of another data source.
-/

namespace SchemaOverlay

namespace Model

/-- A new model of a data source without overlays, held by the caller. -/
def create (dataSource : String) (catalog : SchemaCatalog) : Action Model := do
  let number ← Action.freshNumber
  let model : Model := ⟨number, dataSource⟩
  Action.change fun store =>
    { store with models := store.models.insert number (.ofCatalog catalog) }
  Action.change (·.retain (.object (.model model)))
  return model

/-- A new overlay of a container outside the schema, held by the caller and filed nowhere. -/
def createDetached (model : Model) (name : String) : Action EntityOverlay := do
  let number ← Action.freshNumber
  let overlay : EntityOverlay := .ofDetached number name model
  Action.change (·.retain (.object (.entity overlay)))
  return overlay

/-- File a new overlay of a container outside the schema under a key. -/
def addOrphan (model : Model) (key name : String) : Action EntityOverlay := do
  let number ← Action.freshNumber
  Action.report (.createdOrphan key name)
  let overlay : EntityOverlay := .ofDetached number name model
  Action.change fun store => { store with orphans := store.orphans.insert key overlay }
  return overlay

/-- What is filed under a key among the overlays of containers outside the schema; where nothing
is, a new overlay of the given name gets filed. -/
def fileOrphan (model : Model) (key name : String) : Action EntityOverlay := do
  match ← Action.read (·.orphans.get? key) with
  | some overlay => return overlay
  | none => model.addOrphan key name

/-- File a new overlay of an entity. -/
def addEntity (model : Model) (id : ObjectId) : Action EntityOverlay := do
  let number ← Action.freshNumber
  Action.report (.createdEntity id)
  let overlay : EntityOverlay := .ofEntity number id model
  Action.change (·.updateModel model fun state =>
    { state with entities := state.entities.insert id overlay })
  return overlay

/-- The overlay of an entity by its identity. -/
def entityById (model : Model) (id : ObjectId) (create : Bool) : Action (Option EntityOverlay) := do
  if id.dataSource ≠ model.dataSource then
    Action.report (.foreignObject model.dataSource id)
    return none
  else
    match ← Action.read (·.entity? model id) with
    | some entity => return some entity
    | none => if create then return some (← model.addEntity id) else return none

def findEntity (model : Model) (entity : SchemaEntity) (create : Bool) :
    Action (Option EntityOverlay) :=
  model.entityById entity.id create

/-- File a new scope of a container. -/
def addScope (model : Model) (id : ObjectId) : Action ScopeOverlay := do
  let number ← Action.freshNumber
  Action.report (.createdContainer id)
  let scope : ScopeOverlay := ⟨number, id, model⟩
  Action.change (·.updateModel model fun state =>
    { state with scopes := state.scopes.file scope })
  return scope

/-- The scope of a container; the data source itself has none beside its model. -/
def findScope (model : Model) (id : ObjectId) (create : Bool) : Action (Option ScopeOverlay) := do
  match ← Action.read (·.scope? model id) with
  | some scope => return some scope
  | none =>
    if create && !id.isRoot && id.dataSource == model.dataSource then
      return some (← model.addScope id)
    else return none

end Model

namespace EntityOverlay

def addColumn (entity : EntityOverlay) (name : String) (typeName : Option String) :
    Action ColumnOverlay := do
  let number ← Action.freshNumber
  let column : ColumnOverlay := ⟨number, name, typeName, entity⟩
  Action.change (·.updateDeclared entity fun declared =>
    { declared with columns := declared.columns ++ [column] })
  return column

/-- The overlay of the column of a name. -/
def findColumn (entity : EntityOverlay) (name : String) (create : Bool) :
    Action (Option ColumnOverlay) := do
  match ← Action.read (·.column? entity name) with
  | some column => return some column
  | none => if create then return some (← entity.addColumn name none) else return none

/-- Declare a column that only the overlay has; an existing one of the name stays as it is. -/
def declareColumn (entity : EntityOverlay) (name typeName : String) : Action ColumnOverlay := do
  match ← Action.read (·.column? entity name) with
  | some column => return column
  | none => entity.addColumn name (some typeName)

def declareConstraint (entity : EntityOverlay) (constraint : Constraint) : Action Unit :=
  Action.change (·.updateDeclared entity fun declared =>
    { declared with constraints := declared.constraints ++ [constraint] })

def declareForeignKey (entity : EntityOverlay) (key : Association) : Action Unit :=
  Action.change (·.updateDeclared entity fun declared =>
    { declared with foreignKeys := declared.foreignKeys ++ [key] })

/-- Declare the columns that describe the entity's rows, or that none do. -/
def describe (entity : EntityOverlay) (columns : Option String) : Action Unit :=
  Action.change (·.updateDeclared entity fun declared => { declared with description := columns })

end EntityOverlay

/-- The overlay of a real object in a model. -/
def Model.findObject (model : Model) (object : RealObject) (create : Bool) :
    Action (Option OverlayObject) := do
  match object with
  | .container id =>
    if id.isRoot then return some (.model model)
    else return (← model.findScope id create).map .scope
  | .entity entity => return (← model.findEntity entity create).map .entity
  | .column entity column =>
    match ← model.findEntity entity create with
    | none => return none
    | some overlay => return (← overlay.findColumn column.name create).map .column

end SchemaOverlay
