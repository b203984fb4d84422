import SchemaOverlay.Json.Value
import SchemaOverlay.Schema.Column

/-!
# Value transformers

A transformer changes how the values of a column are presented.  A registry
lists definitions in a fixed order; each definition says which kinds of values
it handles and whether it is custom, that is, applies only when it is chosen.
-/

namespace SchemaOverlay

abbrev TransformOptions := SortedMap String Value

/-- A change of how values are presented, under options. -/
structure Transformer where
  id : String
  transform : Value → TransformOptions → Value

/-- An entry of a registry. -/
structure TransformerDefinition where
  id : String
  /-- Custom transformers apply only when they are chosen. -/
  custom : Bool
  /-- Whether the transformer applies when nothing was chosen. -/
  applicableByDefault : Bool
  /-- The kinds of values it handles; every kind when the list is empty. -/
  kinds : List DataKind
  /-- The transformer that the entry stands for. -/
  transformer : Transformer

namespace TransformerDefinition

/-- Whether values of a kind are handled. -/
def handles (definition : TransformerDefinition) (kind : DataKind) : Bool :=
  definition.kinds.isEmpty || definition.kinds.contains kind

/-- Whether the transformer applies where nothing was decided about it. -/
def isDefault (definition : TransformerDefinition) : Bool :=
  !definition.custom && definition.applicableByDefault

/-- Whether the custom flag is the wanted one, where one is wanted. -/
def hasFlag (definition : TransformerDefinition) (wanted : Option Bool) : Bool :=
  wanted.all (definition.custom == ·)

end TransformerDefinition

/-- The known transformers in the order in which they apply. -/
abbrev TransformerRegistry := List TransformerDefinition

namespace TransformerRegistry

/-- The definitions that handle a column's values and have the wanted custom flag. -/
def candidates (registry : TransformerRegistry) (column : Column) (custom : Option Bool) :
    List TransformerDefinition :=
  (registry.filter (·.handles column.kind)).filter (·.hasFlag custom)

end TransformerRegistry

/-- Pass a value through transformers, one after the other. -/
def Transformer.applyAll (transformers : List Transformer) (options : TransformOptions)
    (value : Value) : Value :=
  transformers.foldl (fun value transformer => transformer.transform value options) value

end SchemaOverlay
