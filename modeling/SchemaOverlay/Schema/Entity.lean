import SchemaOverlay.Schema.Column
import SchemaOverlay.Schema.Constraint

/-!
# Entities of a schema layer

A schema layer answers questions about real tables and views, and every answer
may fail.  An entity is its identity together with its four answers; a catalog
finds the entity of an identity.
-/

namespace SchemaOverlay

/-- Why a schema layer, a result or a value could not be read. -/
inductive SourceError where
  /-- The metadata of an entity. -/
  | metadata (reason : String)
  /-- The rows or the columns of a result. -/
  | resultSet (reason : String)
  /-- A single value of a row. -/
  | valueFetch (column : String) (reason : String)
  /-- The catalog, when it is built or asked. -/
  | catalog (reason : String)
  deriving DecidableEq, Repr

def SourceError.message : SourceError → String
  | .metadata reason => "metadata read failed: " ++ reason
  | .resultSet reason => "result set read failed: " ++ reason
  | .valueFetch column reason => "failed to fetch value of column " ++ column ++ ": " ++ reason
  | .catalog reason => "catalog error: " ++ reason

/-- A table or view, with what its schema layer answers about it. -/
structure SchemaEntity where
  id : ObjectId
  attributes : Except SourceError (List Column)
  constraints : Except SourceError (List Constraint)
  /-- The foreign keys that the entity owns. -/
  associations : Except SourceError (List Association)
  /-- The foreign keys that lead to the entity. -/
  references : Except SourceError (List Association)

namespace SchemaEntity

def name (entity : SchemaEntity) : String := entity.id.name

/-- The data source that the entity belongs to. -/
def dataSource (entity : SchemaEntity) : String := entity.id.dataSource

/-- An entity none of whose metadata can be read. -/
def unreadable (id : ObjectId) (reason : String) : SchemaEntity :=
  ⟨id, .error (.metadata reason), .error (.metadata reason), .error (.metadata reason),
    .error (.metadata reason)⟩

end SchemaEntity

/-- Finds the entities of a data source by their identities. -/
structure SchemaCatalog where
  find : ObjectId → Except SourceError (Option SchemaEntity)

namespace SchemaCatalog

def unreachable (reason : String) : SchemaCatalog :=
  ⟨fun _ => .error (.catalog reason)⟩

end SchemaCatalog

end SchemaOverlay
