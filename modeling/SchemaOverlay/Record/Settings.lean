import SchemaOverlay.Record.Fields
import SchemaOverlay.Transform.Settings
import SchemaOverlay.Config.Basic

/-!
# The JSON form of settings

Reading and writing of transformer filters, transform settings and the
configuration.  The filter's chosen transformer is written only when there is
one.  Option values are kept whole, so they may nest only as deep as the whole
text may, of which the settings take up two levels themselves.
-/

namespace SchemaOverlay

open Json (Tree Slot)

namespace TransformerFilter

def ofTree? (tree : Tree) : Option TransformerFilter := do
  match ← tree.slots? [["custom_transformer"], ["included"], ["excluded"]] with
  | [chosen, included, excluded] =>
    some
      { chosen := ← chosen.optional none (Tree.nullable? Tree.text?)
        included := ← included.optional .empty Tree.names?
        excluded := ← excluded.optional .empty Tree.names? }
  | _ => none

def toTree (filter : TransformerFilter) : Tree :=
  .ofRecord
    ((filter.chosen.map fun id => ("custom_transformer", Tree.ofString id)).toList
      ++ [("included", .ofStrings filter.included.keys),
        ("excluded", .ofStrings filter.excluded.keys)])

end TransformerFilter

namespace TransformOptions

/-- The options that a tree spells, with `room` for containers in their values. -/
def ofTree? (room : Nat) : Tree → Option TransformOptions
  | .object fields => (Tree.toFields? room fields).map SortedMap.ofList
  | _ => none

def toTree (options : TransformOptions) : Tree := (Value.object options.toList).toTree

end TransformOptions

namespace TransformSettings

def ofTree? (tree : Tree) : Option TransformSettings := do
  match ← tree.slots? [["options"], ["filter"]] with
  | [options, filter] =>
    some
      { options := ← options.optional .empty (TransformOptions.ofTree? (Tree.depthLimit - 2))
        filter := ← filter.optional .empty TransformerFilter.ofTree? }
  | _ => none

def toTree (settings : TransformSettings) : Tree :=
  .ofRecord
    [("options", TransformOptions.toTree settings.options), ("filter", settings.filter.toTree)]

def ofText? (text : String) : Option TransformSettings := (Tree.ofText? text).bind ofTree?

def toText (settings : TransformSettings) : String := settings.toTree.toText

end TransformSettings

namespace DictionaryConfig

/-- The dictionary configuration that a tree spells. -/
def ofTree? (tree : Tree) : Option DictionaryConfig := do
  let standard : DictionaryConfig := {}
  match ← tree.slots? [["label_separator"], ["null_label"]] with
  | [separator, label] =>
    some
      { labelSeparator := ← separator.optional standard.labelSeparator Tree.text?
        nullLabel := ← label.optional standard.nullLabel Tree.text? }
  | _ => none

def toTree (config : DictionaryConfig) : Tree :=
  .ofRecord
    [("label_separator", .ofString config.labelSeparator),
      ("null_label", .ofString config.nullLabel)]

end DictionaryConfig

namespace DescriptionConfig

/-- The description configuration that a tree spells. -/
def ofTree? (tree : Tree) : Option DescriptionConfig := do
  let standard : DescriptionConfig := {}
  match ← tree.slots? [["preferred_columns"]] with
  | [columns] => some ⟨← columns.optional standard.preferredColumns Tree.texts?⟩
  | _ => none

def toTree (config : DescriptionConfig) : Tree :=
  .ofRecord [("preferred_columns", .ofStrings config.preferredColumns)]

end DescriptionConfig

namespace OverlayConfig

def ofTree? (tree : Tree) : Option OverlayConfig := do
  match ← tree.slots? [["dictionary"], ["description"]] with
  | [dictionary, description] =>
    some
      { dictionary := ← dictionary.optional {} DictionaryConfig.ofTree?
        description := ← description.optional {} DescriptionConfig.ofTree? }
  | _ => none

def toTree (config : OverlayConfig) : Tree :=
  .ofRecord
    [("dictionary", config.dictionary.toTree), ("description", config.description.toTree)]

end OverlayConfig

end SchemaOverlay
