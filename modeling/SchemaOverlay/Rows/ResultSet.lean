import SchemaOverlay.Json.Value
import SchemaOverlay.Schema.Entity

/-!
# Result sets

A result set is a cursor that moves forward over rows.  Every step and every
reading may fail, and a set has only so many rows left.  `MemoryRows` is the
result set over rows that are already there: it starts before the first row, and
once past the last one it stays there.
-/

namespace SchemaOverlay

/-- A forward cursor over the rows of a result. -/
class ResultSet (σ : Type) where
  /-- The columns in their order. -/
  columns : σ → Except SourceError (List Column)
  /-- Move to the next row; false when there is none. -/
  next : σ → Except SourceError Bool × σ
  /-- The value of a column in the current row. -/
  value : σ → Nat → Except SourceError Value
  /-- A bound on the number of rows to come. -/
  remaining : σ → Nat
  /-- Every row that is reached leaves fewer to come. -/
  remaining_next : ∀ results, (next results).1 = .ok true →
    remaining (next results).2 < remaining results

/-- Rows that are held in memory. -/
structure MemoryRows where
  /-- Numbered by their positions. -/
  columns : List Column
  rows : List (List Value)
  /-- Which row is the current one: none before the first step, and the number of rows once past
  the last of them. -/
  cursor : Option Nat
  deriving DecidableEq

namespace MemoryRows

/-- The cursor before the first of the rows. -/
def start (columns : List Column) (rows : List (List Value)) : MemoryRows :=
  ⟨Column.numbered columns, rows, none⟩

/-- How many steps forward were taken, the one past the last row included. -/
def position (results : MemoryRows) : Nat := (results.cursor.map (· + 1)).getD 0

/-- Whether there is a row behind the current one. -/
def hasNext (results : MemoryRows) : Bool := results.position < results.rows.length

/-- The cursor after a step forward, which leads to the next row or else past the last one. -/
def advance (results : MemoryRows) : MemoryRows :=
  { results with
    cursor := some (if results.hasNext then results.position else results.rows.length) }

def current? (results : MemoryRows) : Option (List Value) :=
  results.cursor.bind (results.rows[·]?)

/-- The name of a column in messages: its own, or its number. -/
def columnLabel (results : MemoryRows) (index : Nat) : String :=
  match results.columns[index]? with
  | some column => column.name
  | none => "#" ++ toString index

/-- The value of a column in the current row. -/
def value (results : MemoryRows) (index : Nat) : Except SourceError Value :=
  match results.current? with
  | none => .error (.resultSet "no current row")
  | some row =>
    match row[index]? with
    | some value => .ok value
    | none => .error (.valueFetch (results.columnLabel index) "column index out of range")

instance : ResultSet MemoryRows where
  columns results := .ok results.columns
  next results := (.ok results.hasNext, results.advance)
  value := value
  remaining results := results.rows.length - results.position
  remaining_next results more := by
    have more : results.hasNext = true := by simpa using more
    have inside : results.position < results.rows.length := by simpa [hasNext] using more
    simp only [advance, more, if_true, position, Option.map_some, Option.getD_some] at inside ⊢
    omega

end MemoryRows

end SchemaOverlay
