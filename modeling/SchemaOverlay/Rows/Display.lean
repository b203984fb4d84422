import SchemaOverlay.Config.Basic
import SchemaOverlay.Json.Value

/-!
# Display of values

The text under which a value is shown.  Texts are shown bare and structured
values as JSON, indented where they are edited.
-/

namespace SchemaOverlay

/-- What a displayed value is for. -/
inductive DisplayFormat where
  /-- Grids and labels. -/
  | ui
  /-- An inline editor. -/
  | edit
  /-- The natural text of the value. -/
  | native
  deriving DecidableEq, Repr, Inhabited

/-- Passes values through and shows them, nulls under a label. -/
structure ValueHandler where
  nullLabel : String := defaultNullLabel
  deriving DecidableEq, Repr, Inhabited

namespace ValueHandler

/-- The handler that shows nulls under the configured label. -/
def ofConfig (config : DictionaryConfig) : ValueHandler := ⟨config.nullLabel⟩

def display (handler : ValueHandler) (format : DisplayFormat) (value : Value) : String :=
  match value with
  | .null => handler.nullLabel
  | .string text => text
  | .bool truth => if truth then "true" else "false"
  | .number number => String.ofList number.text
  | structured => if format = .edit then structured.indentedText else structured.compactText

end ValueHandler

end SchemaOverlay
