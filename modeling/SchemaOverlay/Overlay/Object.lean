import SchemaOverlay.Schema.Entity

/-!
# Overlay objects

The objects that carry what users declare about a schema, and the references by
which callers name real and overlay objects alike.  Every overlay object has a
number of its own; what never changes about it is part of its handle, and what
does change is kept in a store under its number.
-/

namespace SchemaOverlay

/-- The overlays of one data source. -/
structure Model where
  number : Nat
  dataSource : String
  deriving DecidableEq, Repr, Inhabited

/-- The overlay of a container, such as a catalog or a schema. -/
structure ScopeOverlay where
  number : Nat
  id : ObjectId
  model : Model
  deriving DecidableEq, Repr, Inhabited

/-- The overlay of an entity, or of a container outside the schema. -/
structure EntityOverlay where
  number : Nat
  /-- The identity of the entity underneath; none for a container outside the schema. -/
  id? : Option ObjectId
  name : String
  model : Model
  deriving DecidableEq, Repr, Inhabited

/-- The overlay of a column. -/
structure ColumnOverlay where
  number : Nat
  name : String
  /-- The declared type of a column that only the overlay has. -/
  typeName : Option String
  entity : EntityOverlay
  deriving DecidableEq, Repr, Inhabited

/-- An overlay object of any sort. -/
inductive OverlayObject where
  | model (model : Model)
  | scope (scope : ScopeOverlay)
  | entity (entity : EntityOverlay)
  | column (column : ColumnOverlay)
  deriving DecidableEq, Repr

/-- Names settings that objects own and share. -/
structure SettingsId where
  number : Nat
  deriving DecidableEq, Repr, Inhabited

namespace EntityOverlay

/-- The overlay of an entity, named after it. -/
def ofEntity (number : Nat) (id : ObjectId) (model : Model) : EntityOverlay :=
  ⟨number, some id, id.name, model⟩

/-- The overlay of a container outside the schema. -/
def ofDetached (number : Nat) (name : String) (model : Model) : EntityOverlay :=
  ⟨number, none, name, model⟩

/-- The data source that the overlay belongs to. -/
def dataSource (entity : EntityOverlay) : String := entity.model.dataSource

/-- Whether nothing in the schema is underneath. -/
def isOrphan (entity : EntityOverlay) : Bool := entity.id?.isNone

/-- The identity as it is shown in messages. -/
def fullId (entity : EntityOverlay) : String :=
  match entity.id? with
  | some id => id.display
  | none => entity.dataSource ++ "::" ++ entity.name

end EntityOverlay

/-- Whether only the overlay has the column. -/
def ColumnOverlay.isCustom (column : ColumnOverlay) : Bool := column.typeName.isSome

/-- A source of rows without a place in the schema, such as a query. -/
structure DetachedContainer where
  dataSource : String
  name : String
  /-- The sort of container. -/
  kind : String
  /-- What tells the container from others of its sort in the data source. -/
  text : String
  deriving DecidableEq, Repr, Inhabited

namespace DetachedContainer

def query (dataSource name text : String) : DetachedContainer := ⟨dataSource, name, "query", text⟩

/-- The key under which the container's overlay is kept. -/
def key (container : DetachedContainer) : String :=
  container.dataSource ++ "::" ++ container.kind ++ "::" ++ container.text

end DetachedContainer

/-- An entity, real or overlay. -/
inductive EntityRef where
  | real (entity : SchemaEntity)
  | overlay (entity : EntityOverlay)

namespace EntityRef

def name : EntityRef → String
  | .real entity => entity.name
  | .overlay entity => entity.name

def dataSource : EntityRef → String
  | .real entity => entity.dataSource
  | .overlay entity => entity.dataSource

end EntityRef

/-- Where rows come from. -/
inductive ContainerRef where
  | entity (entity : EntityRef)
  | detached (container : DetachedContainer)

namespace ContainerRef

def name : ContainerRef → String
  | .entity owner => owner.name
  | .detached source => source.name

def dataSource : ContainerRef → String
  | .entity owner => owner.dataSource
  | .detached source => source.dataSource

end ContainerRef

/-- A column of a result, with the entity it belongs to and the container it comes from. -/
structure Binding where
  column : Column
  /-- The owning entity, where it is known. -/
  entity : Option EntityRef
  container : ContainerRef

namespace Binding

/-- The binding of a column of an entity. -/
def ofEntity (entity : EntityRef) (column : Column) : Binding :=
  ⟨column, some entity, .entity entity⟩

/-- The binding of a column of a container outside the schema. -/
def ofDetached (container : DetachedContainer) (column : Column) : Binding :=
  ⟨column, none, .detached container⟩

/-- The data source that the column belongs to. -/
def dataSource (binding : Binding) : String :=
  match binding.entity with
  | some entity => entity.dataSource
  | none => binding.container.dataSource

end Binding

/-- An object of the real schema. -/
inductive RealObject where
  /-- A container; the root stands for the data source. -/
  | container (id : ObjectId)
  | entity (entity : SchemaEntity)
  | column (entity : SchemaEntity) (column : Column)

/-- The data source of a real object. -/
def RealObject.dataSource : RealObject → String
  | .container id => id.dataSource
  | .entity owner => owner.dataSource
  | .column owner _ => owner.dataSource

/-- An object, real or overlay. -/
inductive ObjectRef where
  | real (object : RealObject)
  | overlay (object : OverlayObject)

/-- Whether the object is an overlay already. -/
def ObjectRef.isOverlay : ObjectRef → Bool
  | .real _ => false
  | .overlay _ => true

end SchemaOverlay
