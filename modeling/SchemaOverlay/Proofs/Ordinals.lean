import SchemaOverlay.Proofs.Catalog
import SchemaOverlay.Proofs.SnapshotText
import SchemaOverlay.Rows.ResultSet

/-!
# Ordinals and positions

The ordinal of a column is its position where this library puts the columns in
their places: in a table that is built column by column, and in rows that are
held in memory.  A catalog serves the columns of its snapshot as they are, and a
text may state any ordinal or none, which stands for the first position.  So the
ordinals of a catalog are positions exactly when those of its snapshot are.
-/

namespace SchemaOverlay

open Json (Tree)

namespace Column

variable {columns : List Column}

/-- Whether the ordinal of every column is its position. -/
def InPlace (columns : List Column) : Prop :=
  ∀ (index : Nat) (column : Column),
    columns[index]? = some column → column.ordinal = .ofNat index

theorem inPlace_nil : InPlace [] := by
  intro index column found
  cases found

theorem inPlace_numbered (columns : List Column) : InPlace (numbered columns) := by
  intro index column found
  rw [getElem?_numbered, Option.map_eq_some_iff] at found
  obtain ⟨original, -, rfl⟩ := found
  rfl

/-- One more column stands in place when it is put at the next position. -/
theorem InPlace.append_atOrdinal (inPlace : InPlace columns) (column : Column) :
    InPlace (columns ++ [column.atOrdinal (.ofNat columns.length)]) := by
  intro index other found
  rw [List.getElem?_append] at found
  split at found
  · exact inPlace index other found
  · rename_i behind
    rw [List.getElem?_singleton] at found
    split at found
    · rename_i last
      cases found
      have position : columns.length = index := by omega
      rw [position]
      rfl
    · cases found

end Column

/-! ## Tables built column by column -/

/-- The tables that are built from a name by adding things to them. -/
inductive Table.Built : Table → Prop where
  | ofName (name : String) : Built (.ofName name)
  | within {table : Table} (container : List String) : Built table → Built (table.within container)
  | withColumn {table : Table} (column : Column) : Built table → Built (table.withColumn column)
  | withConstraint {table : Table} (constraint : Constraint) :
      Built table → Built (table.withConstraint constraint)
  | withForeignKey {table : Table} (key : ForeignKey) :
      Built table → Built (table.withForeignKey key)

theorem Table.Built.inPlace {table : Table} (built : table.Built) :
    Column.InPlace table.columns := by
  induction built with
  | ofName => exact Column.inPlace_nil
  | within _ _ ih => exact ih
  | withColumn column _ ih => exact ih.append_atOrdinal column
  | withConstraint _ _ ih => exact ih
  | withForeignKey _ _ ih => exact ih

/-! ## Catalogs -/

namespace SnapshotCatalog

/-- Whether the columns that every entity answers with are in their places. -/
def InPlace (catalog : SnapshotCatalog) : Prop :=
  ∀ entity ∈ catalog.entities, ∃ columns, entity.attributes = .ok columns ∧
    Column.InPlace columns

/-- A catalog has the columns in their places exactly when its snapshot has. -/
theorem inPlace_iff {snapshot : Snapshot} {catalog : SnapshotCatalog}
    (built : build snapshot = .ok catalog) :
    catalog.InPlace ↔ ∀ table ∈ snapshot.tables, Column.InPlace table.columns := by
  rw [InPlace, entities_eq built, List.forall_mem_map]
  constructor
  · intro inPlace table among
    obtain ⟨_, ⟨⟩, placed⟩ := inPlace table among
    exact placed
  · exact fun inPlace table among => ⟨_, rfl, inPlace table among⟩

end SnapshotCatalog

/-! ## What a text states -/

namespace Json.Tree

/-- What a record holds for the field at a position among its fields. -/
def field? (record : List FieldNames) (position : Nat) (tree : Tree) : Option Tree :=
  ((tree.slots? record).bind (·[position]?)).join

/-- The items of a field that lists something; none where the field is missing. -/
def items : Option Tree → List Tree
  | some (.array items) => items
  | _ => []

end Json.Tree

/-- The trees of the tables that the tree of a snapshot lists. -/
def Snapshot.tableTrees (tree : Tree) : List Tree :=
  Tree.items (tree.field? [["data_source"], ["tables"]] 1)

/-- The trees of the columns that the tree of a table lists. -/
def Table.columnTrees (tree : Tree) : List Tree :=
  Tree.items
    (tree.field? [["container"], ["name"], ["columns"], ["constraints"], ["foreign_keys"]] 2)

/-- The ordinal that the tree of a column states. -/
def Column.statedOrdinal? (tree : Tree) : Option UInt64 :=
  (tree.field? [["name"], ["type_name", "data_type"], ["kind"], ["ordinal"], ["nullable"]] 3).bind
    Tree.word?

theorem Json.Tree.mapM_items {α : Type} {read : Tree → Option α} {slot : Json.Slot}
    {found : List α} (stated : slot.optional [] (list? read) = some found) :
    (items slot).mapM read = some found := by
  cases slot with
  | none =>
      cases stated
      rfl
  | some tree =>
      cases tree with
      | array trees => exact stated
      | null | bool | number | string | object => cases stated

/-- A column has the ordinal that its tree states, or the first one. -/
theorem Column.ordinal_of_ofTree? {tree : Tree} {column : Column}
    (read : Column.ofTree? tree = some column) :
    column.ordinal = (Column.statedOrdinal? tree).getD 0 := by
  simp only [Column.ofTree?, Option.bind_eq_bind, Option.bind_eq_some_iff] at read
  obtain ⟨slots, record, read⟩ := read
  split at read
  · rename_i ordinal _
    simp only [Option.bind_eq_some_iff, Option.some.injEq] at read
    obtain ⟨_, -, _, -, _, -, word, stated, _, -, rfl⟩ := read
    rw [statedOrdinal?, Tree.field?, record]
    cases ordinal with
    | none =>
        cases stated
        rfl
    | some tree => exact (congrArg (Option.getD · 0) stated).symm
  · cases read

theorem Table.columns_of_ofTree? {tree : Tree} {table : Table}
    (read : Table.ofTree? tree = some table) :
    (Table.columnTrees tree).mapM Column.ofTree? = some table.columns := by
  simp only [Table.ofTree?, Option.bind_eq_bind, Option.bind_eq_some_iff] at read
  obtain ⟨slots, record, read⟩ := read
  split at read
  · simp only [Option.bind_eq_some_iff, Option.some.injEq] at read
    obtain ⟨_, -, _, -, columns, stated, _, -, _, -, rfl⟩ := read
    rw [columnTrees, Tree.field?, record]
    exact Json.Tree.mapM_items stated
  · cases read

theorem Snapshot.tables_of_ofTree? {tree : Tree} {snapshot : Snapshot}
    (read : Snapshot.ofTree? tree = some snapshot) :
    (Snapshot.tableTrees tree).mapM Table.ofTree? = some snapshot.tables := by
  simp only [Snapshot.ofTree?, Option.bind_eq_bind, Option.bind_eq_some_iff] at read
  obtain ⟨slots, record, read⟩ := read
  split at read
  · simp only [Option.bind_eq_some_iff, Option.some.injEq] at read
    obtain ⟨_, -, tables, stated, rfl⟩ := read
    rw [tableTrees, Tree.field?, record]
    exact Json.Tree.mapM_items stated
  · cases read

/-- Items that are read one by one, none of them in vain. -/
theorem Json.Tree.map_eq_of_mapM {α : Type} {read : Tree → Option α} {trees : List Tree}
    {found : List α} (done : trees.mapM read = some found) : trees.map read = found.map some := by
  induction trees generalizing found with
  | nil =>
      cases done
      rfl
  | cons tree trees ih =>
      simp only [List.mapM_cons, Option.bind_eq_bind, Option.bind_eq_some_iff, Option.pure_def,
        Option.some.injEq] at done
      obtain ⟨first, here, rest, later, rfl⟩ := done
      rw [List.map_cons, List.map_cons, here, ih later]

/-- Whether every column of a table states its position, or stands first and states nothing. -/
def Table.StatesPositions (tree : Tree) : Prop :=
  ∀ (index : Nat) (column : Tree), (columnTrees tree)[index]? = some column →
    (Column.statedOrdinal? column).getD 0 = .ofNat index

theorem Table.inPlace_iff_statesPositions {tree : Tree} {table : Table}
    (read : Table.ofTree? tree = some table) :
    Column.InPlace table.columns ↔ StatesPositions tree := by
  have columns := Json.Tree.map_eq_of_mapM (columns_of_ofTree? read)
  have each (index : Nat) : ((columnTrees tree)[index]?).map Column.ofTree? =
      (table.columns[index]?).map some := by
    rw [← List.getElem?_map, columns, List.getElem?_map]
  constructor
  · intro inPlace index column found
    have here := each index
    rw [found, Option.map_some, eq_comm, Option.map_eq_some_iff] at here
    obtain ⟨read, there, same⟩ := here
    rw [← Column.ordinal_of_ofTree? same.symm, inPlace index read there]
  · intro stated index column found
    have here := each index
    rw [found, Option.map_some, Option.map_eq_some_iff] at here
    obtain ⟨tree, there, same⟩ := here
    rw [Column.ordinal_of_ofTree? same, stated index tree there]

namespace SnapshotCatalog

/-- The snapshot that a text with a catalog spells. -/
theorem exists_snapshot_of_ofText {text : String} {catalog : SnapshotCatalog}
    (built : ofText text = .ok catalog) :
    ∃ tree snapshot, Tree.ofText? text = some tree ∧ Snapshot.ofTree? tree = some snapshot ∧
      build snapshot = .ok catalog := by
  rw [ofText] at built
  split at built
  · cases built
  · rename_i snapshot spelled
    rw [Snapshot.ofText?, Option.bind_eq_some_iff] at spelled
    obtain ⟨tree, parsed, read⟩ := spelled
    refine ⟨tree, snapshot, parsed, read, ?_⟩
    cases made : build snapshot with
    | error error =>
        rw [made] at built
        cases built
    | ok other =>
        rw [made] at built
        cases built
        rfl

/-- The catalog of a text has the columns in their places exactly when the text states them. -/
theorem inPlace_iff_statesPositions {text : String} {catalog : SnapshotCatalog}
    (built : ofText text = .ok catalog) :
    ∃ tree, Tree.ofText? text = some tree ∧
      (catalog.InPlace ↔ ∀ table ∈ Snapshot.tableTrees tree, Table.StatesPositions table) := by
  obtain ⟨tree, snapshot, parsed, read, made⟩ := exists_snapshot_of_ofText built
  have tables := Json.Tree.map_eq_of_mapM (Snapshot.tables_of_ofTree? read)
  refine ⟨tree, parsed, (inPlace_iff made).trans ?_⟩
  constructor
  · intro inPlace table among
    have listed : Table.ofTree? table ∈ snapshot.tables.map some :=
      tables ▸ List.mem_map_of_mem among
    obtain ⟨read, there, same⟩ := List.mem_map.mp listed
    exact (Table.inPlace_iff_statesPositions same.symm).mp (inPlace read there)
  · intro stated table among
    have listed : some table ∈ (Snapshot.tableTrees tree).map Table.ofTree? :=
      tables ▸ List.mem_map_of_mem among
    obtain ⟨read, there, same⟩ := List.mem_map.mp listed
    exact (Table.inPlace_iff_statesPositions same).mpr (stated read there)

/-- When the ordinals that a catalog serves are positions: exactly when those of its snapshot are,
and, where it comes from a text, exactly when every column of the text states its position, for
which a column that stands first may state nothing.  They always are when the tables were built
column by column, also by way of a text, since that puts every column in its place, as memory does
with the columns of its rows. -/
theorem ordinals_are_positions_iff (catalog : SnapshotCatalog) :
    (∀ snapshot, build snapshot = .ok catalog →
        (catalog.InPlace ↔ ∀ table ∈ snapshot.tables, Column.InPlace table.columns)) ∧
      (∀ text, ofText text = .ok catalog → ∃ tree, Tree.ofText? text = some tree ∧
        (catalog.InPlace ↔ ∀ table ∈ Snapshot.tableTrees tree, Table.StatesPositions table)) ∧
      (∀ snapshot : Snapshot, (∀ table ∈ snapshot.tables, table.Built) →
        (build snapshot = .ok catalog ∨
          ∃ text, snapshot.IsText text ∧ ofText text = .ok catalog) → catalog.InPlace) ∧
      (∀ table : Table, table.Built → Column.InPlace table.columns) ∧
      ∀ columns rows, Column.InPlace (MemoryRows.start columns rows).columns := by
  refine ⟨fun _ => inPlace_iff, fun _ => inPlace_iff_statesPositions, ?_,
    fun _ built => built.inPlace, fun columns _ => Column.inPlace_numbered columns⟩
  intro snapshot builtTables made
  -- A text of the snapshot is read as that snapshot, whatever it leaves out.
  have built : build snapshot = .ok catalog := by
    rcases made with built | ⟨text, spells, made⟩
    · exact built
    · obtain ⟨tree, other, parsed, read, built⟩ := exists_snapshot_of_ofText made
      have same := spells.ofText?
      rw [Snapshot.ofText?, parsed, Option.bind_some, read] at same
      cases same
      exact built
  exact (inPlace_iff built).mpr fun table among => (builtTables table among).inPlace

end SnapshotCatalog

/-! ## A table of jars, built and read -/

namespace Pantry

open SnapshotCatalog

/-- A table whose second column was declared with an ordinal of its own. -/
def jars : Table :=
  ((Table.ofName "jars").withColumn (.ofType "label" "text")).withColumn
    ((Column.ofType "volume" "numeric").atOrdinal 7)

def snapshot : Snapshot := ⟨"pantry", [jars]⟩

/-- The catalogs of the snapshot and of its text have both columns in their places. -/
theorem ordinals_are_positions_jars :
    (∀ table ∈ snapshot.tables, table.Built) ∧ snapshot.IsText snapshot.toText ∧
      ∃ catalog, build snapshot = .ok catalog ∧ ofText snapshot.toText = .ok catalog ∧
        catalog.InPlace ∧ (∀ table ∈ snapshot.tables, Column.InPlace table.columns) ∧
        ∃ tree, Tree.ofText? snapshot.toText = some tree ∧
          ∀ table ∈ Snapshot.tableTrees tree, Table.StatesPositions table := by
  have builtTables : ∀ table ∈ snapshot.tables, table.Built := by
    intro table among
    rw [List.mem_singleton.mp among]
    exact .withColumn _ (.withColumn _ (.ofName _))
  have text := Snapshot.isText_toText snapshot
  have evaluated : (build snapshot).toOption.isSome = true := by decide +kernel
  obtain ⟨catalog, built⟩ : ∃ catalog, build snapshot = .ok catalog := by
    cases made : build snapshot with
    | error error =>
        rw [made] at evaluated
        cases evaluated
    | ok catalog => exact ⟨catalog, rfl⟩
  have spelled : ofText snapshot.toText = .ok catalog := by
    rw [text.catalog, built]
    rfl
  obtain ⟨bySnapshot, byText, always, -⟩ := ordinals_are_positions_iff catalog
  have inPlace := always snapshot builtTables (.inr ⟨_, text, spelled⟩)
  obtain ⟨tree, parsed, stated⟩ := byText snapshot.toText spelled
  exact ⟨builtTables, text, catalog, built, spelled, inPlace,
    (bySnapshot snapshot built).mp inPlace, tree, parsed, stated.mp inPlace⟩

/-- A text that states no ordinals. -/
def unnumbered : String :=
  "\x7b\"data_source\":\"pantry\",\"tables\":[\x7b\"name\":\"jars\",\"columns\":["
    ++ "\x7b\"name\":\"label\",\"type_name\":\"text\"\x7d,"
    ++ "\x7b\"name\":\"volume\",\"type_name\":\"numeric\"\x7d]\x7d]\x7d"

/-- Both columns of the text's catalog have the ordinal of the first one. -/
theorem unnumbered_not_inPlace :
    ∃ catalog, ofText unnumbered = .ok catalog ∧ ¬ catalog.InPlace := by
  have evaluated : ((ofText unnumbered).toOption.map fun catalog =>
      catalog.entities.map fun entity =>
        entity.attributes.toOption.map fun columns => columns.map (·.ordinal)) =
      some [some [0, 0]] := by decide +kernel
  cases made : ofText unnumbered with
  | error error =>
      rw [made] at evaluated
      cases evaluated
  | ok catalog =>
      refine ⟨catalog, rfl, fun inPlace => ?_⟩
      rw [made] at evaluated
      obtain ⟨entity, only, ordinals⟩ := List.map_eq_singleton_iff.mp (Option.some.inj evaluated)
      obtain ⟨columns, answered, placed⟩ := inPlace entity (only ▸ List.mem_singleton_self entity)
      rw [answered] at ordinals
      have zeros : columns.map (·.ordinal) = [0, 0] := Option.some.inj ordinals
      have second : (columns.map (·.ordinal))[1]? = some 0 := by
        rw [zeros]
        rfl
      rw [List.getElem?_map, Option.map_eq_some_iff] at second
      obtain ⟨column, found, zero⟩ := second
      rw [placed 1 column found] at zero
      cases zero

end Pantry

end SchemaOverlay
