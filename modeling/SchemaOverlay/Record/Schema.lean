import SchemaOverlay.Record.Fields
import SchemaOverlay.Schema.Catalog

/-!
# The JSON form of schema records

Reading and writing of identities, columns, constraints, associations, tables
and snapshots.  Writing puts every field, in the order in which the array form
lists them; reading takes what writing puts, and fills in missing fields that
have a default.
-/

namespace SchemaOverlay

open Json (Tree Slot)

namespace DataKind

/-- The name of the kind in JSON. -/
def tag : DataKind → String
  | .boolean => "boolean"
  | .numeric => "numeric"
  | .string => "string"
  | .datetime => "datetime"
  | .binary => "binary"
  | .structured => "structure"

def all : List DataKind := [.boolean, .numeric, .string, .datetime, .binary, .structured]

def ofTree? (tree : Tree) : Option DataKind :=
  tree.choice?.bind fun name => all.find? fun kind => kind.tag == name

def toTree (kind : DataKind) : Tree := .ofString kind.tag

end DataKind

namespace ConstraintKind

/-- The name of the kind in JSON. -/
def tag : ConstraintKind → String
  | .primaryKey => "primary_key"
  | .uniqueKey => "unique_key"
  | .check => "check"

def all : List ConstraintKind := [.primaryKey, .uniqueKey, .check]

def ofTree? (tree : Tree) : Option ConstraintKind :=
  tree.choice?.bind fun name => all.find? fun kind => kind.tag == name

def toTree (kind : ConstraintKind) : Tree := .ofString kind.tag

end ConstraintKind

namespace ObjectId

def ofTree? (tree : Tree) : Option ObjectId := do
  match ← tree.slots? [["data_source"], ["path"]] with
  | [dataSource, path] =>
    some ⟨← dataSource.required Tree.text?, ← path.required Tree.texts?⟩
  | _ => none

def toTree (id : ObjectId) : Tree :=
  .ofRecord [("data_source", .ofString id.dataSource), ("path", .ofStrings id.path)]

end ObjectId

namespace Column

def ofTree? (tree : Tree) : Option Column := do
  match ← tree.slots?
      [["name"], ["type_name", "data_type"], ["kind"], ["ordinal"], ["nullable"]] with
  | [name, typeName, kind, ordinal, nullable] =>
    some
      { name := ← name.required Tree.text?
        typeName := ← typeName.required Tree.text?
        declaredKind := ← kind.optional none (Tree.nullable? DataKind.ofTree?)
        ordinal := ← ordinal.optional 0 Tree.word?
        nullable := ← nullable.optional true Tree.bool? }
  | _ => none

def toTree (column : Column) : Tree :=
  .ofRecord
    [("name", .ofString column.name), ("type_name", .ofString column.typeName),
      ("kind", .ofOption DataKind.toTree column.declaredKind),
      ("ordinal", .ofNat column.ordinal.toNat), ("nullable", .bool column.nullable)]

end Column

namespace Constraint

def ofTree? (tree : Tree) : Option Constraint := do
  match ← tree.slots? [["name"], ["kind"], ["columns"]] with
  | [name, kind, columns] =>
    some
      { name := ← name.required Tree.text?
        kind := ← kind.required ConstraintKind.ofTree?
        columns := ← columns.optional [] Tree.texts? }
  | _ => none

def toTree (constraint : Constraint) : Tree :=
  .ofRecord
    [("name", .ofString constraint.name), ("kind", constraint.kind.toTree),
      ("columns", .ofStrings constraint.columns)]

end Constraint

namespace ColumnPair

def ofTree? (tree : Tree) : Option ColumnPair := do
  match ← tree.slots? [["column"], ["referenced_column"]] with
  | [column, referenced] =>
    some ⟨← column.required Tree.text?, ← referenced.required Tree.text?⟩
  | _ => none

def toTree (pair : ColumnPair) : Tree :=
  .ofRecord
    [("column", .ofString pair.column), ("referenced_column", .ofString pair.referencedColumn)]

end ColumnPair

namespace Association

def ofTree? (tree : Tree) : Option Association := do
  match ← tree.slots? [["name"], ["owner"], ["referenced"], ["columns"]] with
  | [name, owner, referenced, columns] =>
    some
      { name := ← name.required Tree.text?
        owner := ← owner.required ObjectId.ofTree?
        referenced := ← referenced.required ObjectId.ofTree?
        columns := ← columns.required (Tree.list? ColumnPair.ofTree?) }
  | _ => none

def toTree (association : Association) : Tree :=
  .ofRecord
    [("name", .ofString association.name), ("owner", association.owner.toTree),
      ("referenced", association.referenced.toTree),
      ("columns", .ofList ColumnPair.toTree association.columns)]

end Association

namespace ForeignKey

/-- The foreign key that a tree spells. -/
def ofTree? (tree : Tree) : Option ForeignKey := do
  match ← tree.slots?
      [["name"], ["referenced_container"], ["referenced_table"], ["columns"]] with
  | [name, container, table, columns] =>
    some
      { name := ← name.required Tree.text?
        referencedContainer := ← container.optional none (Tree.nullable? Tree.texts?)
        referencedTable := ← table.required Tree.text?
        columns := ← columns.required (Tree.list? ColumnPair.ofTree?) }
  | _ => none

def toTree (key : ForeignKey) : Tree :=
  .ofRecord
    [("name", .ofString key.name),
      ("referenced_container", .ofOption Tree.ofStrings key.referencedContainer),
      ("referenced_table", .ofString key.referencedTable),
      ("columns", .ofList ColumnPair.toTree key.columns)]

end ForeignKey

namespace Table

def ofTree? (tree : Tree) : Option Table := do
  match ← tree.slots? [["container"], ["name"], ["columns"], ["constraints"], ["foreign_keys"]] with
  | [container, name, columns, constraints, foreignKeys] =>
    some
      { container := ← container.optional [] Tree.texts?
        name := ← name.required Tree.text?
        columns := ← columns.optional [] (Tree.list? Column.ofTree?)
        constraints := ← constraints.optional [] (Tree.list? Constraint.ofTree?)
        foreignKeys := ← foreignKeys.optional [] (Tree.list? ForeignKey.ofTree?) }
  | _ => none

def toTree (table : Table) : Tree :=
  .ofRecord
    [("container", .ofStrings table.container), ("name", .ofString table.name),
      ("columns", .ofList Column.toTree table.columns),
      ("constraints", .ofList Constraint.toTree table.constraints),
      ("foreign_keys", .ofList ForeignKey.toTree table.foreignKeys)]

end Table

namespace Snapshot

def ofTree? (tree : Tree) : Option Snapshot := do
  match ← tree.slots? [["data_source"], ["tables"]] with
  | [dataSource, tables] =>
    some
      { dataSource := ← dataSource.required Tree.text?
        tables := ← tables.optional [] (Tree.list? Table.ofTree?) }
  | _ => none

def toTree (snapshot : Snapshot) : Tree :=
  .ofRecord
    [("data_source", .ofString snapshot.dataSource),
      ("tables", .ofList Table.toTree snapshot.tables)]

def ofText? (text : String) : Option Snapshot := (Tree.ofText? text).bind ofTree?

def toText (snapshot : Snapshot) : String := snapshot.toTree.toText

end Snapshot

/-- Why a text makes no catalog. -/
inductive SnapshotError where
  /-- The text spells no snapshot. -/
  | malformed
  /-- The snapshot that the text spells makes no catalog. -/
  | unsound (error : CatalogError)
  deriving DecidableEq, Repr

/-- The catalog of the snapshot that a text spells. -/
def SnapshotCatalog.ofText (text : String) : Except SnapshotError SnapshotCatalog :=
  match Snapshot.ofText? text with
  | none => .error .malformed
  | some snapshot => (build snapshot).mapError .unsound

end SchemaOverlay
