import SchemaOverlay.Text.Blank

/-!
# Configuration

The settings of the overlay layer itself: how dictionary labels are put
together, and which columns are tried first as descriptions.  Everything has a
default.  A configuration is valid when no preferred column is blank.
-/

namespace SchemaOverlay

/-- The label under which null values are shown unless another one is configured. -/
def defaultNullLabel : String := "[NULL]"

/-- How labels of dictionary rows are put together. -/
structure DictionaryConfig where
  /-- Stands between the texts of the description columns. -/
  labelSeparator : String := " "
  /-- Stands for a null value. -/
  nullLabel : String := defaultNullLabel
  deriving DecidableEq, Repr, Inhabited

/-- How a description column is chosen where none is declared. -/
structure DescriptionConfig where
  /-- Column names, tried in this order. -/
  preferredColumns : List String := ["name", "title", "label", "description"]
  deriving DecidableEq, Repr, Inhabited

/-- The configuration of the overlay layer. -/
structure OverlayConfig where
  dictionary : DictionaryConfig := {}
  description : DescriptionConfig := {}
  deriving DecidableEq, Repr, Inhabited

/-- Why there is no configuration. -/
inductive ConfigError where
  /-- The file is missing or holds no text. -/
  | unreadable
  /-- The text does not spell a configuration. -/
  | malformed
  /-- The preferred column at a position is blank. -/
  | blankColumn (position : Nat)
  deriving DecidableEq, Repr

/-- The wording of an error, where the error has one of its own. -/
def ConfigError.message? : ConfigError → Option String
  | .unreadable => none
  | .malformed => none
  | .blankColumn position =>
    some ("Configuration error: description.preferred_columns[" ++ toString position
      ++ "] is blank")

/-- Whether a name holds nothing but blanks. -/
def isBlankName (name : String) : Bool := Text.isAllBlank name.toList

namespace OverlayConfig

/-- The first blank name among the preferred columns, by its position. -/
def blankColumn? (config : OverlayConfig) : Option Nat :=
  config.description.preferredColumns.findIdx? isBlankName

/-- The configuration itself, when it is valid. -/
def validate (config : OverlayConfig) : Except ConfigError OverlayConfig :=
  match config.blankColumn? with
  | some position => .error (.blankColumn position)
  | none => .ok config

/-- A configuration is valid exactly when every preferred column holds more than blanks. -/
theorem validate_eq_ok_iff (config : OverlayConfig) :
    config.validate = .ok config ↔
      ∀ name ∈ config.description.preferredColumns, isBlankName name = false := by
  unfold validate blankColumn?
  constructor
  · intro valid
    split at valid
    · cases valid
    · rename_i absent
      simpa [List.findIdx?_eq_none_iff] using absent
  · intro solid
    have absent : config.description.preferredColumns.findIdx? isBlankName = none := by
      simpa [List.findIdx?_eq_none_iff] using solid
    simp [absent]

end OverlayConfig

end SchemaOverlay
