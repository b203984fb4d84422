import SchemaOverlay.Schema.Snapshot
import SchemaOverlay.SortedMap

/-!
# Catalogs of snapshots

A catalog serves the tables of a snapshot as entities.  Building one files the
position of every table under its identity, then follows every foreign key from
its owner to the table it references, so that each key is listed twice: among
the associations of its owner and among the references of its target.  Building
fails on a repeated identity, and on a key that leads nowhere.
-/

namespace SchemaOverlay

/-- Why a snapshot makes no catalog. -/
inductive CatalogError where
  /-- The table repeats the identity of an earlier one. -/
  | duplicateTable (id : ObjectId)
  /-- The key of an owner leads to a table that is not there. -/
  | unknownTarget (key : String) (owner target : ObjectId)
  deriving DecidableEq, Repr

def CatalogError.message : CatalogError → String
  | .duplicateTable id => "duplicate table " ++ id.display
  | .unknownTarget key owner target =>
    "foreign key " ++ key ++ " of " ++ owner.display ++ " references unknown table "
      ++ target.display

/-- The error as the schema layer reports it. -/
def CatalogError.toSource (error : CatalogError) : SourceError := .catalog error.message

/-- The entities of a snapshot and their positions by identity. -/
structure SnapshotCatalog where
  dataSource : String
  /-- In the order of the snapshot's tables. -/
  entities : List SchemaEntity
  index : SortedMap ObjectId Nat

namespace SnapshotCatalog

/-- File the positions of tables, the first of them at `position`. -/
def indexTables (dataSource : String) (position : Nat) (index : SortedMap ObjectId Nat) :
    List Table → Except CatalogError (SortedMap ObjectId Nat)
  | [] => .ok index
  | table :: rest =>
    let id := table.id dataSource
    if index.contains id then .error (.duplicateTable id)
    else indexTables dataSource (position + 1) (index.insert id position) rest

/-- The foreign keys followed so far, by the positions of owners and of targets. -/
structure Links where
  outgoing : List (List Association)
  incoming : List (List Association)
  deriving DecidableEq

namespace Links

/-- No key followed yet, for a number of tables. -/
def unfollowed (tables : Nat) : Links :=
  ⟨List.replicate tables [], List.replicate tables []⟩

/-- List an association with its owner and its target. -/
def add (links : Links) (owner target : Nat) (association : Association) : Links where
  outgoing := links.outgoing.modify owner (· ++ [association])
  incoming := links.incoming.modify target (· ++ [association])

end Links

/-- Follow the keys of the table at a position. -/
def followKeys (dataSource : String) (index : SortedMap ObjectId Nat) (owner : Table)
    (position : Nat) (links : Links) : List ForeignKey → Except CatalogError Links
  | [] => .ok links
  | key :: rest =>
    let association := key.association dataSource owner
    match index.get? association.referenced with
    | none => .error (.unknownTarget key.name association.owner association.referenced)
    | some target =>
      followKeys dataSource index owner position (links.add position target association) rest

/-- Follow the keys of tables, the first of them at `position`. -/
def followTables (dataSource : String) (index : SortedMap ObjectId Nat) (position : Nat)
    (links : Links) : List Table → Except CatalogError Links
  | [] => .ok links
  | table :: rest => do
    let followed ← followKeys dataSource index table position links table.foreignKeys
    followTables dataSource index (position + 1) followed rest

/-- The entity of a table with the keys that lead away from it and to it. -/
def entityOf (dataSource : String) (table : Table) (associations references : List Association) :
    SchemaEntity :=
  ⟨table.id dataSource, .ok table.columns, .ok table.constraints, .ok associations, .ok references⟩

/-- The entities of tables, each with its place among the links. -/
def entitiesOf (dataSource : String) :
    List Table → List (List Association) → List (List Association) → List SchemaEntity
  | table :: tables, out :: outgoing, into :: incoming =>
    entityOf dataSource table out into :: entitiesOf dataSource tables outgoing incoming
  | _, _, _ => []

def build (snapshot : Snapshot) : Except CatalogError SnapshotCatalog := do
  let index ← indexTables snapshot.dataSource 0 .empty snapshot.tables
  let links ←
    followTables snapshot.dataSource index 0 (.unfollowed snapshot.tables.length) snapshot.tables
  .ok
    { dataSource := snapshot.dataSource
      entities := entitiesOf snapshot.dataSource snapshot.tables links.outgoing links.incoming
      index }

def find? (catalog : SnapshotCatalog) (id : ObjectId) : Option SchemaEntity :=
  (catalog.index.get? id).bind fun position => catalog.entities[position]?

/-- The catalog as a schema layer that never fails. -/
def toSchemaCatalog (catalog : SnapshotCatalog) : SchemaCatalog :=
  ⟨fun id => .ok (catalog.find? id)⟩

end SnapshotCatalog

end SchemaOverlay
