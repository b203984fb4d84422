import SchemaOverlay.Schema.DataKind

/-!
# Columns

The metadata of an attribute of an entity, or of a column of a result.
-/

namespace SchemaOverlay

/-- A column of an entity or of a result. -/
structure Column where
  name : String
  /-- The native name of the column's type. -/
  typeName : String
  /-- The category of its values, where it has been declared. -/
  declaredKind : Option DataKind
  /-- The position in the owning entity or result, counted from zero; a word of 64 bits. -/
  ordinal : UInt64
  nullable : Bool
  deriving DecidableEq, Repr, Inhabited

namespace Column

/-- A nullable column whose kind follows from its type. -/
def ofType (name typeName : String) : Column :=
  ⟨name, typeName, some (DataKind.ofTypeName typeName), 0, true⟩

def atOrdinal (column : Column) (ordinal : UInt64) : Column :=
  { column with ordinal }

/-- The category of the column's values: as declared, or else by the name of its type. -/
def kind (column : Column) : DataKind :=
  column.declaredKind.getD (DataKind.ofTypeName column.typeName)

/-- The columns with their positions in the list as their ordinals. -/
def numbered (columns : List Column) : List Column :=
  columns.zipIdx.map fun entry => entry.1.atOrdinal (.ofNat entry.2)

theorem length_numbered (columns : List Column) : (numbered columns).length = columns.length := by
  simp [numbered]

/-- A numbered list keeps every column at its place. -/
theorem getElem?_numbered (columns : List Column) (index : Nat) :
    (numbered columns)[index]? =
      (columns[index]?).map fun column => column.atOrdinal (.ofNat index) := by
  simp [numbered, Function.comp_def]

end Column

end SchemaOverlay
