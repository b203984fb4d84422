import SchemaOverlay.Schema.Entity

/-!
# Snapshots of a schema

What an introspection of a data source yields: its tables with their columns,
constraints and foreign keys.  A snapshot is plain data, and nothing in it is
checked until a catalog is built from it.
-/

namespace SchemaOverlay

/-- A foreign key as its owning table declares it. -/
structure ForeignKey where
  name : String
  /-- The container of the referenced table; without one, that of the owning table. -/
  referencedContainer : Option (List String)
  referencedTable : String
  columns : List ColumnPair
  deriving DecidableEq, Repr, Inhabited

/-- A table of a snapshot. -/
structure Table where
  /-- The path of the enclosing container; may be empty. -/
  container : List String
  name : String
  columns : List Column
  constraints : List Constraint
  foreignKeys : List ForeignKey
  deriving DecidableEq, Repr, Inhabited

/-- The tables of one data source. -/
structure Snapshot where
  dataSource : String
  tables : List Table
  deriving DecidableEq, Repr, Inhabited

namespace Table

/-- A table of the given name, with nothing declared. -/
def ofName (name : String) : Table := ⟨[], name, [], [], []⟩

def within (table : Table) (container : List String) : Table :=
  { table with container }

/-- The table with one more column, at the next position. -/
def withColumn (table : Table) (column : Column) : Table :=
  { table with columns := table.columns ++ [column.atOrdinal (.ofNat table.columns.length)] }

def withConstraint (table : Table) (constraint : Constraint) : Table :=
  { table with constraints := table.constraints ++ [constraint] }

/-- The table with one more foreign key. -/
def withForeignKey (table : Table) (key : ForeignKey) : Table :=
  { table with foreignKeys := table.foreignKeys ++ [key] }

/-- The identity of the table in a data source. -/
def id (table : Table) (dataSource : String) : ObjectId :=
  ⟨dataSource, table.container ++ [table.name]⟩

end Table

namespace ForeignKey

/-- The identity of the table that the key of an owning table leads to. -/
def target (key : ForeignKey) (dataSource : String) (owner : Table) : ObjectId :=
  ⟨dataSource, key.referencedContainer.getD owner.container ++ [key.referencedTable]⟩

/-- The association that the key of an owning table declares. -/
def association (key : ForeignKey) (dataSource : String) (owner : Table) : Association :=
  ⟨key.name, owner.id dataSource, key.target dataSource owner, key.columns⟩

end ForeignKey

/-- The identities of the tables, in their order. -/
def Snapshot.ids (snapshot : Snapshot) : List ObjectId :=
  snapshot.tables.map fun table => table.id snapshot.dataSource

end SchemaOverlay
