import SchemaOverlay.Overlay.Real
import SchemaOverlay.Overlay.Resolver
import SchemaOverlay.Rows.Dictionary

/-!
# Description columns

The columns whose values describe the rows of an entity in a dictionary.  What
was declared on the overlay counts first.  Otherwise one real column is chosen:
the one that matches the earliest preferred name, or else the first text column;
the key itself never is.
-/

namespace SchemaOverlay

/-- The column names in a declared text: what stands between commas, trimmed, if not blank. -/
def descriptionNames (text : String) : List String :=
  ((Text.fields ',' text.toList).map Text.trim).filter (!·.isEmpty) |>.map String.ofList

/-- The column names declared to describe an entity. -/
def Declarations.descriptionNames (declared : Declarations) : List String :=
  match declared.description with
  | none => []
  | some text => SchemaOverlay.descriptionNames text

namespace DescriptionConfig

/-- The first column that matches the earliest preferred name that any column matches. -/
def preferred? (config : DescriptionConfig) (candidates : List Column) : Option Column :=
  config.preferredColumns.findSome? fun name =>
    candidates.find? fun column => Text.sameIgnoringCase column.name name

/-- The column that describes an entity, of those that are not its key. -/
def choose? (config : DescriptionConfig) (columns : List Column) (key : String) : Option Column :=
  let candidates := columns.filter fun column => !Text.sameIgnoringCase column.name key
  (config.preferred? candidates).or (candidates.find? fun column => column.kind == .string)

end DescriptionConfig

/-- What a read yields to callers of the overlays: the rows, or the failure to get at the data. -/
def Scan.dictionary {σ : Type} (scan : Scan σ) : Except OverlayError (List LabeledValue) :=
  scan.rows.mapError .dataAccess

namespace Resolver

/-- The description column chosen among the real columns of an entity. -/
def chosenDescription (resolver : Resolver) (entity : EntityRef) (key : Column) (store : Store) :
    Except OverlayError (Option String) :=
  match entity.real? store with
  | .error error => .error error
  | .ok none => .ok none
  | .ok (some schemaEntity) =>
    match schemaEntity.attributes with
    | .error error => .error (.metadataAccess error)
    | .ok columns =>
      .ok ((resolver.config.description.choose? columns key.name).map (·.name))

/-- The columns that describe the values of a key in a dictionary of an entity. -/
def descriptionColumns (resolver : Resolver) (entity : EntityRef) (key : Column) :
    Action (Except OverlayError (Option String)) := do
  let overlay ← resolver.resolveEntity entity false
  let declared ← Action.read fun store =>
    overlay.bind fun entity => (store.declared entity).description
  match declared with
  | some text => return .ok (some text)
  | none => Action.read (resolver.chosenDescription entity key)

/-- The reader of dictionaries of a data source under the resolver's configuration. -/
def dictionaryReader (resolver : Resolver) (dataSource : String) : DictionaryReader :=
  let handler := ValueHandler.ofConfig resolver.config.dictionary
  ⟨dataSource, resolver.config.dictionary.labelSeparator, handler, handler⟩

end Resolver

end SchemaOverlay
