import SchemaOverlay.Proofs.Records
import SchemaOverlay.Record.Schema

/-!
# Snapshots and their texts

Which texts spell a snapshot: every record may list its fields in any order,
leave out those that hold their defaults and hold unknown ones, and the type of
a column goes by two names.  The text that is written for a snapshot is one of
them, and all of them are read as that snapshot, so that they make the same
catalog or fail with the same error.
-/

namespace SchemaOverlay

open Json (Tree Field Chosen SpellsRecord SpellsList Written ReadsBack HasDistinctNames)

/-! ## Single fields -/

namespace Json.ReadsBack

variable {α : Type} {write : α → Tree} {read : Tree → Option α}

theorem text : ReadsBack Tree.text? (Written .ofString) := .written Tree.text?_ofString

theorem bool : ReadsBack Tree.bool? (Written .bool) := .written fun _ => rfl

theorem word : ReadsBack Tree.word? (Written fun word : UInt64 => .ofNat word.toNat) :=
  .written Tree.word?_ofNat

theorem texts : ReadsBack Tree.texts? (Written .ofStrings) :=
  .written fun texts => text.list texts _ (.ofList (Written.self .ofString) texts)

/-- Something that may be missing is read back, when the null stands for nothing else. -/
theorem nullable (reads : ReadsBack read (Written write)) (null : read .null = none) :
    ReadsBack (Tree.nullable? read) (Written (.ofOption write)) := by
  refine .written fun value => ?_
  cases value with
  | none => rfl
  | some item =>
    have read_item : read (write item) = some item := reads item _ rfl
    have present : write item ≠ .null := by
      intro missing
      rw [missing, null] at read_item
      cases read_item
    rw [Tree.ofOption, Tree.nullable?.eq_def]
    split
    · contradiction
    · rw [read_item]
      rfl

end Json.ReadsBack

theorem DataKind.legible_toTree (kind : DataKind) : kind.toTree.Legible :=
  Tree.legible_ofString kind.tag

theorem ConstraintKind.legible_toTree (kind : ConstraintKind) : kind.toTree.Legible :=
  Tree.legible_ofString kind.tag

theorem DataKind.readsBack : ReadsBack ofTree? (Written toTree) := by
  refine .written fun kind => ?_
  cases kind <;> simp [ofTree?, toTree, Tree.choice?, Tree.ofString] <;> rfl

theorem ConstraintKind.readsBack : ReadsBack ofTree? (Written toTree) := by
  refine .written fun kind => ?_
  cases kind <;> simp [ofTree?, toTree, Tree.choice?, Tree.ofString] <;> rfl

/-! ## Records -/

namespace Column

/-- The fields of a column. -/
def fields (column : Column) : List Field :=
  [.required ["name"] (Written .ofString) column.name,
    .required ["type_name", "data_type"] (Written .ofString) column.typeName,
    .optional ["kind"] none (Written (.ofOption DataKind.toTree)) column.declaredKind,
    .optional ["ordinal"] 0 (Written fun word => .ofNat word.toNat) column.ordinal,
    .optional ["nullable"] true (Written .bool) column.nullable]

def IsSpelledBy (column : Column) : Tree → Prop := SpellsRecord column.fields

theorem isSpelledBy_toTree (column : Column) : column.IsSpelledBy column.toTree :=
  .ofRecord_self <| .present List.mem_cons_self rfl <| .present List.mem_cons_self rfl <|
    .present List.mem_cons_self rfl <| .present List.mem_cons_self rfl <|
    .present List.mem_cons_self rfl .nil

theorem legible_toTree (column : Column) : column.toTree.Legible := by
  refine Tree.legible_ofRecord ?_
  simp [Tree.legible_ofString, Tree.legible_ofNat, Tree.Legible.bool,
    Tree.legible_ofOption DataKind.legible_toTree]

theorem readsBack : ReadsBack ofTree? IsSpelledBy := by
  intro column tree spelled
  have distinct : HasDistinctNames
      [["name"], ["type_name", "data_type"], ["kind"], ["ordinal"], ["nullable"]] := by
    simp [HasDistinctNames]
  obtain ⟨slots, found, fills⟩ := spelled.slots distinct rfl
  simp only [fields] at fills
  obtain _ | ⟨name, _ | ⟨typeName, _ | ⟨kind, _ | ⟨ordinal, _ | ⟨nullable, _ | _⟩⟩⟩⟩⟩ := fills
  simp [ofTree?, found, ReadsBack.text.required name, ReadsBack.text.required typeName,
    (DataKind.readsBack.nullable rfl).optional kind, ReadsBack.word.optional ordinal,
    ReadsBack.bool.optional nullable]

end Column

namespace Constraint

/-- The fields of a constraint. -/
def fields (constraint : Constraint) : List Field :=
  [.required ["name"] (Written .ofString) constraint.name,
    .required ["kind"] (Written ConstraintKind.toTree) constraint.kind,
    .optional ["columns"] [] (Written .ofStrings) constraint.columns]

def IsSpelledBy (constraint : Constraint) : Tree → Prop := SpellsRecord constraint.fields

theorem isSpelledBy_toTree (constraint : Constraint) :
    constraint.IsSpelledBy constraint.toTree :=
  .ofRecord_self <| .present List.mem_cons_self rfl <| .present List.mem_cons_self rfl <|
    .present List.mem_cons_self rfl .nil

theorem legible_toTree (constraint : Constraint) : constraint.toTree.Legible := by
  refine Tree.legible_ofRecord ?_
  simp [Tree.legible_ofString, Tree.legible_ofStrings, ConstraintKind.legible_toTree]

theorem readsBack : ReadsBack ofTree? IsSpelledBy := by
  intro constraint tree spelled
  have distinct : HasDistinctNames [["name"], ["kind"], ["columns"]] := by
    simp [HasDistinctNames]
  obtain ⟨slots, found, fills⟩ := spelled.slots distinct rfl
  simp only [fields] at fills
  obtain _ | ⟨name, _ | ⟨kind, _ | ⟨columns, _ | _⟩⟩⟩ := fills
  simp [ofTree?, found, ReadsBack.text.required name, ConstraintKind.readsBack.required kind,
    ReadsBack.texts.optional columns]

end Constraint

namespace ColumnPair

/-- The fields of a pair of columns. -/
def fields (pair : ColumnPair) : List Field :=
  [.required ["column"] (Written .ofString) pair.column,
    .required ["referenced_column"] (Written .ofString) pair.referencedColumn]

def IsSpelledBy (pair : ColumnPair) : Tree → Prop := SpellsRecord pair.fields

theorem isSpelledBy_toTree (pair : ColumnPair) : pair.IsSpelledBy pair.toTree :=
  .ofRecord_self <| .present List.mem_cons_self rfl <| .present List.mem_cons_self rfl .nil

theorem legible_toTree (pair : ColumnPair) : pair.toTree.Legible := by
  refine Tree.legible_ofRecord ?_
  simp [Tree.legible_ofString]

theorem readsBack : ReadsBack ofTree? IsSpelledBy := by
  intro pair tree spelled
  have distinct : HasDistinctNames [["column"], ["referenced_column"]] := by
    simp [HasDistinctNames]
  obtain ⟨slots, found, fills⟩ := spelled.slots distinct rfl
  simp only [fields] at fills
  obtain _ | ⟨column, _ | ⟨referenced, _ | _⟩⟩ := fills
  simp [ofTree?, found, ReadsBack.text.required column, ReadsBack.text.required referenced]

end ColumnPair

namespace ForeignKey

/-- The fields of a foreign key. -/
def fields (key : ForeignKey) : List Field :=
  [.required ["name"] (Written .ofString) key.name,
    .optional ["referenced_container"] none (Written (.ofOption .ofStrings))
      key.referencedContainer,
    .required ["referenced_table"] (Written .ofString) key.referencedTable,
    .required ["columns"] (SpellsList ColumnPair.IsSpelledBy) key.columns]

def IsSpelledBy (key : ForeignKey) : Tree → Prop := SpellsRecord key.fields

theorem isSpelledBy_toTree (key : ForeignKey) : key.IsSpelledBy key.toTree :=
  .ofRecord_self <| .present List.mem_cons_self rfl <| .present List.mem_cons_self rfl <|
    .present List.mem_cons_self rfl <|
    .present List.mem_cons_self (.ofList ColumnPair.isSpelledBy_toTree key.columns) .nil

theorem legible_toTree (key : ForeignKey) : key.toTree.Legible := by
  refine Tree.legible_ofRecord ?_
  simp [Tree.legible_ofString, Tree.legible_ofOption Tree.legible_ofStrings,
    Tree.legible_ofList ColumnPair.legible_toTree]

theorem readsBack : ReadsBack ofTree? IsSpelledBy := by
  intro key tree spelled
  have distinct : HasDistinctNames
      [["name"], ["referenced_container"], ["referenced_table"], ["columns"]] := by
    simp [HasDistinctNames]
  obtain ⟨slots, found, fills⟩ := spelled.slots distinct rfl
  simp only [fields] at fills
  obtain _ | ⟨name, _ | ⟨container, _ | ⟨table, _ | ⟨columns, _ | _⟩⟩⟩⟩ := fills
  simp [ofTree?, found, ReadsBack.text.required name,
    (ReadsBack.texts.nullable rfl).optional container, ReadsBack.text.required table,
    ColumnPair.readsBack.list.required columns]

end ForeignKey

namespace Table

/-- The fields of a table. -/
def fields (table : Table) : List Field :=
  [.optional ["container"] [] (Written .ofStrings) table.container,
    .required ["name"] (Written .ofString) table.name,
    .optional ["columns"] [] (SpellsList Column.IsSpelledBy) table.columns,
    .optional ["constraints"] [] (SpellsList Constraint.IsSpelledBy) table.constraints,
    .optional ["foreign_keys"] [] (SpellsList ForeignKey.IsSpelledBy) table.foreignKeys]

def IsSpelledBy (table : Table) : Tree → Prop := SpellsRecord table.fields

theorem isSpelledBy_toTree (table : Table) : table.IsSpelledBy table.toTree :=
  .ofRecord_self <| .present List.mem_cons_self rfl <| .present List.mem_cons_self rfl <|
    .present List.mem_cons_self (.ofList Column.isSpelledBy_toTree table.columns) <|
    .present List.mem_cons_self (.ofList Constraint.isSpelledBy_toTree table.constraints) <|
    .present List.mem_cons_self (.ofList ForeignKey.isSpelledBy_toTree table.foreignKeys) .nil

theorem legible_toTree (table : Table) : table.toTree.Legible := by
  refine Tree.legible_ofRecord ?_
  simp [Tree.legible_ofString, Tree.legible_ofStrings, Tree.legible_ofList Column.legible_toTree,
    Tree.legible_ofList Constraint.legible_toTree, Tree.legible_ofList ForeignKey.legible_toTree]

theorem readsBack : ReadsBack ofTree? IsSpelledBy := by
  intro table tree spelled
  have distinct : HasDistinctNames
      [["container"], ["name"], ["columns"], ["constraints"], ["foreign_keys"]] := by
    simp [HasDistinctNames]
  obtain ⟨slots, found, fills⟩ := spelled.slots distinct rfl
  simp only [fields] at fills
  obtain _ | ⟨container, _ | ⟨name, _ | ⟨columns, _ | ⟨constraints, _ | ⟨keys, _ | _⟩⟩⟩⟩⟩ := fills
  simp [ofTree?, found, ReadsBack.texts.optional container, ReadsBack.text.required name,
    Column.readsBack.list.optional columns, Constraint.readsBack.list.optional constraints,
    ForeignKey.readsBack.list.optional keys]

end Table

namespace Snapshot

/-- The fields of a snapshot. -/
def fields (snapshot : Snapshot) : List Field :=
  [.required ["data_source"] (Written .ofString) snapshot.dataSource,
    .optional ["tables"] [] (SpellsList Table.IsSpelledBy) snapshot.tables]

def IsSpelledBy (snapshot : Snapshot) : Tree → Prop := SpellsRecord snapshot.fields

theorem isSpelledBy_toTree (snapshot : Snapshot) : snapshot.IsSpelledBy snapshot.toTree :=
  .ofRecord_self <| .present List.mem_cons_self rfl <|
    .present List.mem_cons_self (.ofList Table.isSpelledBy_toTree snapshot.tables) .nil

theorem legible_toTree (snapshot : Snapshot) : snapshot.toTree.Legible := by
  refine Tree.legible_ofRecord ?_
  simp [Tree.legible_ofString, Tree.legible_ofList Table.legible_toTree]

theorem readsBack : ReadsBack ofTree? IsSpelledBy := by
  intro snapshot tree spelled
  have distinct : HasDistinctNames [["data_source"], ["tables"]] := by
    simp [HasDistinctNames]
  obtain ⟨slots, found, fills⟩ := spelled.slots distinct rfl
  simp only [fields] at fills
  obtain _ | ⟨dataSource, _ | ⟨tables, _ | _⟩⟩ := fills
  simp [ofTree?, found, ReadsBack.text.required dataSource, Table.readsBack.list.optional tables]

/-- A text that spells the snapshot, in any of the ways its records may be filled. -/
def IsText (snapshot : Snapshot) (text : String) : Prop :=
  ∃ tree, snapshot.IsSpelledBy tree ∧ tree.IsSpelledBy text

variable {snapshot : Snapshot} {text : String}

theorem isText_toText (snapshot : Snapshot) : snapshot.IsText snapshot.toText :=
  ⟨snapshot.toTree, isSpelledBy_toTree snapshot, Tree.isSpelledBy_toText snapshot.legible_toTree⟩

theorem isText_indented (snapshot : Snapshot) :
    snapshot.IsText (String.ofList (snapshot.toTree.indented 0)) :=
  ⟨snapshot.toTree, isSpelledBy_toTree snapshot, Tree.isSpelledBy_indented snapshot.legible_toTree⟩

theorem IsText.ofText? (spells : snapshot.IsText text) : Snapshot.ofText? text = some snapshot := by
  obtain ⟨tree, spelled, laidOut⟩ := spells
  rw [Snapshot.ofText?, laidOut.ofText?]
  exact readsBack snapshot tree spelled

theorem IsText.catalog (spells : snapshot.IsText text) :
    SnapshotCatalog.ofText text = (SnapshotCatalog.build snapshot).mapError .unsound := by
  rw [SnapshotCatalog.ofText, spells.ofText?]

/--
The text that is written for a snapshot is read as that snapshot and makes the
catalog of the snapshot, or fails with its error.  Nothing changes about either
when the text is indented or laid out in another way, leaves out fields that
hold their defaults, calls the type of a column by its other name, lists fields
in another order or adds unknown ones.
-/
theorem texts_agree (snapshot : Snapshot) :
    (Snapshot.ofText? snapshot.toText = some snapshot ∧
      SnapshotCatalog.ofText snapshot.toText =
        (SnapshotCatalog.build snapshot).mapError .unsound) ∧
    snapshot.IsText (String.ofList (snapshot.toTree.indented 0)) ∧
    ∀ text, snapshot.IsText text →
      Snapshot.ofText? text = Snapshot.ofText? snapshot.toText ∧
        SnapshotCatalog.ofText text = SnapshotCatalog.ofText snapshot.toText := by
  have written := isText_toText snapshot
  refine ⟨⟨written.ofText?, written.catalog⟩, isText_indented snapshot,
    fun text spells => ⟨?_, ?_⟩⟩
  · rw [spells.ofText?, written.ofText?]
  · rw [spells.catalog, written.catalog]

end Snapshot

/-! ## A snapshot in other words -/

namespace Bakery

/-- A column whose kind and position are not declared. -/
def number : Column := ⟨"number", "int4", none, 0, true⟩

def loaves : Table := ⟨[], "loaves", [number], [], []⟩

def snapshot : Snapshot := ⟨"bakery", [loaves]⟩

/-- The column without its defaults, with the other name for its type. -/
def numberTree : Tree := .ofRecord [("data_type", .ofString "int4"), ("name", .ofString "number")]

/-- The table with a remark in front and its name at the end. -/
def loavesTree : Tree :=
  .ofRecord [("remark", .null), ("columns", .array [numberTree]), ("name", .ofString "loaves")]

/-- The snapshot with its tables in front and its data source at the end. -/
def tree : Tree := .ofRecord [("tables", .array [loavesTree]), ("data_source", .ofString "bakery")]

theorem isSpelledBy_numberTree : number.IsSpelledBy numberTree := by
  have chose : Chosen number.fields
      [("name", .ofString "number"), ("data_type", .ofString "int4")] :=
    .present (.head _) rfl <| .present (.tail _ (.head _)) rfl <| .missing rfl <| .missing rfl <|
      .missing rfl .nil
  exact .ofRecord chose (.swap _ _ []) (by simp)

theorem isSpelledBy_loavesTree : loaves.IsSpelledBy loavesTree := by
  have chose : Chosen loaves.fields
      [("name", .ofString "loaves"), ("columns", .array [numberTree])] :=
    .missing rfl <| .present (.head _) rfl <|
      .present (.head _) (.array (.cons isSpelledBy_numberTree .nil)) <| .missing rfl <|
      .missing rfl .nil
  have reversed := List.reverse_perm
    [("name", Tree.ofString "loaves"), ("columns", .array [numberTree]), ("remark", .null)]
  exact .ofRecord chose reversed (by simp [Table.fields, Field.required, Field.optional])

theorem isSpelledBy_tree : snapshot.IsSpelledBy tree := by
  have chose : Chosen snapshot.fields
      [("data_source", .ofString "bakery"), ("tables", .array [loavesTree])] :=
    .present (.head _) rfl <|
      .present (.head _) (.array (.cons isSpelledBy_loavesTree .nil)) .nil
  exact .ofRecord chose (.swap _ _ []) (by simp)

theorem legible_tree : tree.Legible := by
  have column : numberTree.Legible := Tree.legible_ofRecord (by simp [Tree.legible_ofString])
  have table : loavesTree.Legible := by
    refine Tree.legible_ofRecord ?_
    simp [Tree.Legible.null, Tree.legible_ofString, Tree.Legible.array, column]
  refine Tree.legible_ofRecord ?_
  simp [Tree.legible_ofString, Tree.Legible.array, table]

/-- A text without defaults, with the other name and a remark, is read as the snapshot. -/
theorem texts_agree_bakery :
    snapshot.IsText tree.toText ∧
      Snapshot.ofText? tree.toText = Snapshot.ofText? snapshot.toText ∧
      SnapshotCatalog.ofText tree.toText = SnapshotCatalog.ofText snapshot.toText := by
  have text : snapshot.IsText tree.toText :=
    ⟨tree, isSpelledBy_tree, Tree.isSpelledBy_toText legible_tree⟩
  exact ⟨text, (Snapshot.texts_agree snapshot).2.2 tree.toText text⟩

end Bakery

end SchemaOverlay
