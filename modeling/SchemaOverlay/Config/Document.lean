import SchemaOverlay.Config.Basic
import SchemaOverlay.Yaml.Node

/-!
# Configuration files

A configuration is a YAML document: a map whose known entries are maps again.
Entries that are left out have their defaults, and unknown ones do not matter.
A text that holds nothing but blanks is the default configuration.  What was
read is valid.
-/

namespace SchemaOverlay

open Yaml (Node)

/-- The name of an entry; only a scalar can be one. -/
def Yaml.Node.name? : Node → Option String
  | .scalar text _ => some text
  | _ => none

/-- A text; every scalar is one as it is spelled. -/
def Yaml.Node.text? : Node → Option String
  | .scalar text _ => some text
  | _ => none

/-- A list of texts; empty when it is left out. -/
def Yaml.Node.texts? (node : Node) : Option (List String) :=
  if node.isMissing then some []
  else
    match node with
    | .list items => items.mapM Node.text?
    | _ => none

/-- The entries of a map under their names; none when it is left out. -/
def Yaml.Node.entries? (node : Node) : Option (List (String × Node)) :=
  if node.isMissing then some []
  else
    match node with
    | .map entries => entries.mapM fun entry => (entry.1.name?).map fun name => (name, entry.2)
    | _ => none

/-- Read the entry of a name; the default when it is left out, nothing when it repeats. -/
def Yaml.readEntry? {α : Type} (entries : List (String × Node)) (name : String) (default : α)
    (read : Node → Option α) : Option α :=
  match entries.filter fun entry => entry.1 == name with
  | [] => some default
  | [entry] => read entry.2
  | _ => none

/-- The dictionary configuration that a node spells. -/
def DictionaryConfig.ofNode? (node : Node) : Option DictionaryConfig := do
  let standard : DictionaryConfig := {}
  let entries ← node.entries?
  return {
    labelSeparator :=
      ← Yaml.readEntry? entries "label_separator" standard.labelSeparator Node.text?
    nullLabel := ← Yaml.readEntry? entries "null_label" standard.nullLabel Node.text? }

/-- The description configuration that a node spells. -/
def DescriptionConfig.ofNode? (node : Node) : Option DescriptionConfig := do
  let standard : DescriptionConfig := {}
  let entries ← node.entries?
  return ⟨← Yaml.readEntry? entries "preferred_columns" standard.preferredColumns Node.texts?⟩

namespace OverlayConfig

def ofNode? (node : Node) : Option OverlayConfig := do
  let entries ← node.entries?
  return {
    dictionary := ← Yaml.readEntry? entries "dictionary" {} DictionaryConfig.ofNode?
    description := ← Yaml.readEntry? entries "description" {} DescriptionConfig.ofNode? }

def ofText (text : String) : Except ConfigError OverlayConfig :=
  if isBlankName text then validate {}
  else
    match (Node.ofText? text).bind ofNode? with
    | some config => config.validate
    | none => .error .malformed

/-- The configuration in the bytes of a file, if there is one. -/
def ofFile (bytes : Option ByteArray) : Except ConfigError OverlayConfig :=
  match bytes.bind String.fromUTF8? with
  | some text => ofText text
  | none => .error .unreadable

end OverlayConfig

end SchemaOverlay
