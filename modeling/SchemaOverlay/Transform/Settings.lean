import SchemaOverlay.Transform.Transformer

/-!
# Transform settings

What has been decided about the transformers of an object: the options they run
under, and a filter that names transformers to use or to leave out.  A filter
that names none decides nothing.
-/

namespace SchemaOverlay

/-- The transformers that were chosen, included or excluded by id. -/
structure TransformerFilter where
  /-- The one that the user picked. -/
  chosen : Option String
  /-- Those admitted although they are custom or do not apply by default. -/
  included : NameSet
  /-- Those never admitted. -/
  excluded : NameSet
  deriving DecidableEq

namespace TransformerFilter

def empty : TransformerFilter := ⟨none, .empty, .empty⟩

instance : Inhabited TransformerFilter := ⟨empty⟩

def isDeclared (filter : TransformerFilter) : Bool :=
  filter.chosen.isSome || !filter.included.isEmpty || !filter.excluded.isEmpty

/-- Whether a transformer passes.  The exclusions are looked at before the choice, and only
inclusions end them. -/
def admits (filter : TransformerFilter) (definition : TransformerDefinition) : Bool :=
  if filter.excluded.contains definition.id then false
  else if filter.chosen == some definition.id || filter.included.contains definition.id then true
  else definition.isDefault

/-- Admit a transformer; an exclusion of it ends. -/
def withIncluded (filter : TransformerFilter) (id : String) : TransformerFilter :=
  { filter with excluded := filter.excluded.erase id, included := filter.included.add id }

/-- Leave a transformer out; an inclusion of it ends. -/
def withExcluded (filter : TransformerFilter) (id : String) : TransformerFilter :=
  { filter with included := filter.included.erase id, excluded := filter.excluded.add id }

end TransformerFilter

/-- The options and the filter that one object owns. -/
structure TransformSettings where
  options : TransformOptions
  filter : TransformerFilter
  deriving DecidableEq

namespace TransformSettings

def empty : TransformSettings := ⟨.empty, .empty⟩

instance : Inhabited TransformSettings := ⟨empty⟩

def option? (settings : TransformSettings) (name : String) : Option Value :=
  settings.options.get? name

/-- Give an option a value, over the one it has. -/
def setOption (settings : TransformSettings) (name : String) (value : Value) : TransformSettings :=
  { settings with options := settings.options.insert name value }

def removeOption (settings : TransformSettings) (name : String) : TransformSettings :=
  { settings with options := settings.options.erase name }

def setFilter (settings : TransformSettings) (filter : TransformerFilter) : TransformSettings :=
  { settings with filter }

def includeTransformer (settings : TransformSettings) (id : String) : TransformSettings :=
  { settings with filter := settings.filter.withIncluded id }

def excludeTransformer (settings : TransformSettings) (id : String) : TransformSettings :=
  { settings with filter := settings.filter.withExcluded id }

def chooseTransformer (settings : TransformSettings) (id : Option String) : TransformSettings :=
  { settings with filter := { settings.filter with chosen := id } }

/-- The candidates that the filter admits, in their order; none when no filter is declared. -/
def filterTransformers? (settings : TransformSettings) (candidates : List TransformerDefinition) :
    Option (List TransformerDefinition) :=
  if settings.filter.isDeclared then some (candidates.filter settings.filter.admits) else none

/-- A change of settings. -/
inductive Edit where
  | setOption (name : String) (value : Value)
  | removeOption (name : String)
  | includeTransformer (id : String)
  | excludeTransformer (id : String)
  | chooseTransformer (id : Option String)
  | setFilter (filter : TransformerFilter)
  deriving DecidableEq

def apply (settings : TransformSettings) : Edit → TransformSettings
  | .setOption name value => settings.setOption name value
  | .removeOption name => settings.removeOption name
  | .includeTransformer id => settings.includeTransformer id
  | .excludeTransformer id => settings.excludeTransformer id
  | .chooseTransformer id => settings.chooseTransformer id
  | .setFilter filter => settings.setFilter filter

end TransformSettings

end SchemaOverlay
