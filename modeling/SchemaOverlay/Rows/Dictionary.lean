import SchemaOverlay.Event
import SchemaOverlay.Rows.Display
import SchemaOverlay.Rows.Monitor
import SchemaOverlay.Rows.ResultSet

/-!
# Dictionaries

A dictionary lists the values of a key with a label for each.  It is read off a
result whose first column holds the key and whose further columns describe it.
A read keeps at most one row with a null key, fails at the first value it cannot
fetch, and returns what it has when it is canceled.
-/

namespace SchemaOverlay

/-- A key value and the label it is shown under. -/
structure LabeledValue where
  label : String
  value : Value
  deriving DecidableEq

/-- Reads dictionaries of a data source. -/
structure DictionaryReader where
  dataSource : String
  /-- Stands between the texts of the description columns. -/
  separator : String
  /-- Shows the key, where nothing describes it. -/
  keyHandler : ValueHandler
  /-- Shows the description columns. -/
  handler : ValueHandler
  deriving DecidableEq, Repr

/-- What a read yields: the rows, the cursor and the monitor after it, and what it reported. -/
structure Scan (σ : Type) where
  rows : Except SourceError (List LabeledValue)
  results : σ
  monitor : Monitor
  events : List Event

namespace DictionaryReader

variable {σ : Type} [ResultSet σ]

/-- The text of a column in the current row. -/
def describe (reader : DictionaryReader) (results : σ) (index : Nat) :
    Except SourceError String := do
  let value ← ResultSet.value results index
  .ok (reader.handler.display .native value)

/-- The label of the current row, under its key. -/
def label (reader : DictionaryReader) (columns : Nat) (results : σ) (key : Value) :
    Except SourceError String :=
  if columns ≤ 1 then .ok (reader.keyHandler.display .native key)
  else do
    let texts ← (List.range' 1 (columns - 1)).mapM (reader.describe results)
    .ok (reader.separator.intercalate texts)

/-- The entry of the current row; nothing for a null key where one was seen before. -/
def entry? (reader : DictionaryReader) (columns : Nat) (seenNull : Bool) (results : σ) :
    Except SourceError (Option LabeledValue) := do
  let key ← ResultSet.value results 0
  if key.isNull && seenNull then .ok none
  else
    let label ← reader.label columns results key
    .ok (some ⟨label, key⟩)

/-- Read the rows to come; `taken` holds the entries so far, last one first. -/
def scan (reader : DictionaryReader) (columns : Nat) (taken : List LabeledValue) (seenNull : Bool)
    (monitor : Monitor) (results : σ) : Scan σ :=
  match step : ResultSet.next results with
  | (.error error, moved) => ⟨.error error, moved, monitor, []⟩
  | (.ok false, moved) => ⟨.ok taken.reverse, moved, monitor, []⟩
  | (.ok true, moved) =>
    have : ResultSet.remaining moved < ResultSet.remaining results := by
      have fewer := ResultSet.remaining_next results (by rw [step])
      rwa [step] at fewer
    if monitor.isCanceled then
      ⟨.ok taken.reverse, moved, monitor.polled, [.canceledScan reader.dataSource taken.length]⟩
    else
      match reader.entry? columns seenNull moved with
      | .error error => ⟨.error error, moved, monitor.polled, []⟩
      | .ok none => reader.scan columns taken seenNull monitor.polled moved
      | .ok (some entry) =>
        reader.scan columns (entry :: taken) (seenNull || entry.value.isNull) monitor.polled moved
termination_by ResultSet.remaining results

/-- Read the rows to come of a result set. -/
def read (reader : DictionaryReader) (monitor : Monitor) (results : σ) : Scan σ :=
  match ResultSet.columns results with
  | .error error => ⟨.error error, results, monitor, []⟩
  | .ok columns => reader.scan columns.length [] false monitor results

end DictionaryReader

end SchemaOverlay
