import SchemaOverlay.Proofs.SnapshotText
import SchemaOverlay.Proofs.ValueText
import SchemaOverlay.Record.Settings

/-!
# Settings and their texts

Settings that were edited in any way are read back from the text that is written
for them, as long as their options hold no floating-point numbers and do not
nest too deep.  What is read behaves like the original: it answers everything in
the same way, and goes on to do so whatever edits are made to both.
-/

namespace SchemaOverlay

open Json (Tree Field SpellsRecord Written ReadsBack HasDistinctNames)

/-- A set of names is read back from its names in order. -/
theorem Json.ReadsBack.names :
    ReadsBack Tree.names? (Written fun names : NameSet => .ofStrings (SortedMap.keys names)) := by
  refine .written fun names => ?_
  rw [Tree.names?, ReadsBack.texts (SortedMap.keys names) _ (Written.self .ofStrings _)]
  exact congrArg some (NameSet.ofNames_keys names)

namespace TransformerFilter

/-- The fields of a filter. -/
def fields (filter : TransformerFilter) : List Field :=
  [.optional ["custom_transformer"] none (Written (.ofOption .ofString)) filter.chosen,
    .optional ["included"] .empty (Written fun names => .ofStrings (SortedMap.keys names))
      filter.included,
    .optional ["excluded"] .empty (Written fun names => .ofStrings (SortedMap.keys names))
      filter.excluded]

def IsSpelledBy (filter : TransformerFilter) : Tree → Prop := SpellsRecord filter.fields

/-- The chosen transformer is left out where there is none. -/
theorem isSpelledBy_toTree (filter : TransformerFilter) : filter.IsSpelledBy filter.toTree := by
  obtain ⟨chosen, included, excluded⟩ := filter
  cases chosen with
  | none =>
    exact .ofRecord_self <| .missing rfl <| .present List.mem_cons_self rfl <|
      .present List.mem_cons_self rfl .nil
  | some id =>
    exact .ofRecord_self <| .present List.mem_cons_self rfl <| .present List.mem_cons_self rfl <|
      .present List.mem_cons_self rfl .nil

theorem legible_toTree (filter : TransformerFilter) : filter.toTree.Legible := by
  refine Tree.legible_ofRecord ?_
  cases filter.chosen <;> simp [Tree.legible_ofString, Tree.legible_ofStrings]

theorem readsBack : ReadsBack ofTree? IsSpelledBy := by
  intro filter tree spelled
  have distinct : HasDistinctNames [["custom_transformer"], ["included"], ["excluded"]] := by
    simp [HasDistinctNames]
  obtain ⟨slots, found, fills⟩ := spelled.slots distinct rfl
  simp only [fields] at fills
  obtain _ | ⟨chosen, _ | ⟨included, _ | ⟨excluded, _ | _⟩⟩⟩ := fills
  simp [ofTree?, found, (ReadsBack.text.nullable rfl).optional chosen,
    ReadsBack.names.optional included, ReadsBack.names.optional excluded]

end TransformerFilter

namespace TransformSettings

/-! ## Edits one after the other -/

def applyAll (settings : TransformSettings) (edits : List Edit) : TransformSettings :=
  edits.foldl apply settings

/-- No option holds a floating-point number. -/
def IsFloatFree (settings : TransformSettings) : Prop :=
  ∀ name value, settings.option? name = some value → value.IsFloatFree

variable {settings : TransformSettings}

theorem IsFloatFree.apply (floatFree : settings.IsFloatFree) {edit : Edit}
    (given : ∀ name value, edit = .setOption name value → value.IsFloatFree) :
    (settings.apply edit).IsFloatFree := by
  cases edit with
  | setOption name value =>
    intro wanted found filed
    simp only [TransformSettings.apply, setOption, option?, SortedMap.get?_insert] at filed
    split at filed
    · cases filed
      exact given name value rfl
    · exact floatFree wanted found filed
  | removeOption name =>
    intro wanted found filed
    simp only [TransformSettings.apply, removeOption, option?, SortedMap.get?_erase] at filed
    split at filed
    · cases filed
    · exact floatFree wanted found filed
  | includeTransformer | excludeTransformer | chooseTransformer | setFilter => exact floatFree

theorem IsFloatFree.applyAll (floatFree : settings.IsFloatFree) {edits : List Edit}
    (given : ∀ name value, .setOption name value ∈ edits → value.IsFloatFree) :
    (settings.applyAll edits).IsFloatFree := by
  induction edits generalizing settings with
  | nil => exact floatFree
  | cons edit later ih =>
    refine ih (floatFree.apply fun name value same => ?_) fun name value member => ?_
    · exact given name value (same ▸ List.mem_cons_self)
    · exact given name value (List.mem_cons_of_mem edit member)

theorem isFloatFree_empty : empty.IsFloatFree := by
  intro name value found
  cases found

/-! ## Reading what was written -/

/-- The option values nest within the limit, of which the settings take up two levels. -/
def FitsText (settings : TransformSettings) : Prop :=
  ∀ name value, settings.option? name = some value → value.depth + 2 ≤ Tree.depthLimit

theorem fitsText_iff :
    settings.FitsText ↔ Value.fieldsDepth settings.options.toList ≤ Tree.depthLimit - 2 := by
  have limit : 2 ≤ Tree.depthLimit := by decide
  simp only [FitsText, option?, SortedMap.get?_eq_some_iff, Value.fieldsDepth_le_iff, Prod.forall]
  constructor <;> intro fits name value member <;> have := fits name value member <;> omega

instance : Decidable settings.FitsText := decidable_of_iff _ fitsText_iff.symm

/-- The fields of settings. -/
def fields (settings : TransformSettings) : List Field :=
  [.optional ["options"] .empty (Written TransformOptions.toTree) settings.options,
    .optional ["filter"] .empty TransformerFilter.IsSpelledBy settings.filter]

def IsSpelledBy (settings : TransformSettings) : Tree → Prop := SpellsRecord settings.fields

theorem isSpelledBy_toTree (settings : TransformSettings) :
    settings.IsSpelledBy settings.toTree :=
  .ofRecord_self <| .present List.mem_cons_self rfl <|
    .present List.mem_cons_self (TransformerFilter.isSpelledBy_toTree settings.filter) .nil

/-- The options form an object without floating-point numbers. -/
theorem IsFloatFree.value (floatFree : settings.IsFloatFree) :
    (Value.object settings.options.toList).IsFloatFree :=
  .object fun field member =>
    floatFree field.1 field.2 ((SortedMap.get?_eq_some_iff _ _ _).mpr member)

theorem IsFloatFree.legible_toTree (floatFree : settings.IsFloatFree) :
    settings.toTree.Legible := by
  refine Tree.legible_ofRecord ?_
  simpa using ⟨floatFree.value.legible_toTree, settings.filter.legible_toTree⟩

/-- The options are read back exactly when there is room for their values, whether they are there
or are left out because there are none. -/
theorem IsFloatFree.optional_options (floatFree : settings.IsFloatFree) {names : Tree.FieldNames}
    {slot : Json.Slot} (room : Nat)
    (fills : (Field.optional names .empty (Written TransformOptions.toTree)
      settings.options).Fills slot) :
    slot.optional .empty (TransformOptions.ofTree? room) =
      if Value.fieldsDepth settings.options.toList ≤ room then some settings.options
      else none := by
  cases slot with
  | none =>
    have nothing : settings.options = .empty := fills
    rw [nothing, SortedMap.toList_empty, Value.fieldsDepth, if_pos (Nat.zero_le room)]
    rfl
  | some tree =>
    obtain rfl : tree = .object (Value.fieldTrees settings.options.toList) := fills
    have read : ∀ field ∈ settings.options.toList, Tree.toValue? room field.2.toTree =
        if field.2.depth ≤ room then some field.2 else none := fun field member =>
      Tree.toValue?_toTree
        (floatFree field.1 field.2 ((SortedMap.get?_eq_some_iff _ _ _).mpr member)) room
    rw [Json.Slot.optional, TransformOptions.ofTree?, Tree.toFields?_fieldTrees read]
    split
    · exact congrArg some (SortedMap.ofList_toList settings.options)
    · rfl

/-- What spells the settings is read as the settings exactly when they fit. -/
theorem IsFloatFree.ofTree? (floatFree : settings.IsFloatFree) {tree : Tree}
    (spelled : settings.IsSpelledBy tree) :
    TransformSettings.ofTree? tree = if settings.FitsText then some settings else none := by
  have distinct : HasDistinctNames [["options"], ["filter"]] := by simp [HasDistinctNames]
  obtain ⟨slots, found, fills⟩ := spelled.slots distinct rfl
  simp only [fields] at fills
  obtain _ | ⟨options, _ | ⟨filter, _ | _⟩⟩ := fills
  by_cases fits : Value.fieldsDepth settings.options.toList ≤ Tree.depthLimit - 2 <;>
    simp [TransformSettings.ofTree?, found, floatFree.optional_options _ options,
      TransformerFilter.readsBack.optional filter, fitsText_iff, fits]

theorem IsFloatFree.ofText? (floatFree : settings.IsFloatFree) {text : String}
    (spelled : settings.toTree.IsSpelledBy text) :
    TransformSettings.ofText? text = if settings.FitsText then some settings else none := by
  rw [TransformSettings.ofText?, spelled.ofText?, Option.bind_some]
  exact floatFree.ofTree? settings.isSpelledBy_toTree

/-! ## Settings that behave alike -/

/-- Whether two settings answer everything in the same way, and are written in the same way. -/
structure Alike (left right : TransformSettings) : Prop where
  option : ∀ name, left.option? name = right.option? name
  options : left.options = right.options
  filter : left.filter = right.filter
  declared : left.filter.isDeclared = right.filter.isDeclared
  filtered : ∀ candidates, left.filterTransformers? candidates =
    right.filterTransformers? candidates
  text : left.toText = right.toText

theorem Alike.refl (settings : TransformSettings) : settings.Alike settings :=
  ⟨fun _ => rfl, rfl, rfl, rfl, fun _ => rfl, rfl⟩

/--
Whatever edits led to settings without floating-point numbers, their text, plain
or indented, is read back as settings that are like them and stay so under all
further edits of both.  Settings that nest too deep are not read at all.
-/
theorem stored_settings_alike (edits : List Edit)
    (floatFree : ∀ name value, Edit.setOption name value ∈ edits → value.IsFloatFree) :
    ((empty.applyAll edits).FitsText →
      ∃ restored, ofText? (empty.applyAll edits).toText = some restored ∧
        ofText? (String.ofList ((empty.applyAll edits).toTree.indented 0)) = some restored ∧
        ∀ further, (restored.applyAll further).Alike ((empty.applyAll edits).applyAll further)) ∧
      (¬ (empty.applyAll edits).FitsText → ofText? (empty.applyAll edits).toText = none) := by
  have kept : (empty.applyAll edits).IsFloatFree := isFloatFree_empty.applyAll floatFree
  have compact := kept.ofText? (Tree.isSpelledBy_toText kept.legible_toTree)
  have indented := kept.ofText? (Tree.isSpelledBy_indented kept.legible_toTree)
  constructor
  · intro fits
    rw [if_pos fits] at compact indented
    exact ⟨_, compact, indented, fun further => .refl _⟩
  · intro deeper
    rw [if_neg deeper] at compact
    exact compact

end TransformSettings

/-! ## Settings with values and filters of every sort -/

namespace Hotel

open TransformSettings

/-- How dates are shown: an object with a list inside. -/
def dates : Value :=
  .object [("offset", .number (.integer (-90))), ("zones", .array [.string "MEZ", .null])]

/-- One transformer is both included and excluded. -/
def filter : TransformerFilter := ⟨some "upper", .ofNames ["trim", "pad"], .ofNames ["pad"]⟩

def edits : List Edit :=
  [.setOption "dates" (.bool true), .includeTransformer "round", .setFilter filter,
    .setOption "dates" dates, .setOption "rate" (.string "net"), .removeOption "rate"]

def settings : TransformSettings := empty.applyAll edits

theorem isFloatFree_dates : dates.IsFloatFree := by
  have items : ∀ item ∈ [Value.string "MEZ", .null], item.IsFloatFree := by
    simp [Value.IsFloatFree.string, Value.IsFloatFree.null]
  have offset : (Value.number (.integer (-90))).IsFloatFree := .integer (by decide)
  refine @Value.IsFloatFree.object
    ⟨[("offset", .number (.integer (-90))), ("zones", .array [.string "MEZ", .null])], by decide⟩ ?_
  simp [offset, Value.IsFloatFree.array items]

/-- The settings of a hotel are written with their filter, and what is read back leaves out the
same transformers, also after one was let in again. -/
theorem stored_settings_alike_hotel :
    (∀ name value, Edit.setOption name value ∈ edits → value.IsFloatFree) ∧
      ∃ restored, ofText? settings.toText = some restored ∧
        restored.option? "dates" = some dates ∧
        restored.filter = filter ∧
        (restored.applyAll [.includeTransformer "pad"]).filter =
          ⟨some "upper", .ofNames ["pad", "trim"], .empty⟩ := by
  have floatFree : ∀ name value, Edit.setOption name value ∈ edits → value.IsFloatFree := by
    intro name value member
    simp only [edits, List.mem_cons, List.not_mem_nil, or_false, Edit.setOption.injEq,
      reduceCtorEq, false_or] at member
    obtain ⟨-, rfl⟩ | ⟨-, rfl⟩ | ⟨-, rfl⟩ := member
    · exact .bool true
    · exact isFloatFree_dates
    · exact .string "net"
  have fits : settings.FitsText := by decide
  obtain ⟨restored, read, -, alike⟩ := (stored_settings_alike edits floatFree).1 fits
  refine ⟨floatFree, restored, read, ?_, ?_, ?_⟩
  · exact ((alike []).option "dates").trans (by decide)
  · exact (alike []).filter.trans (by decide)
  · exact (alike [.includeTransformer "pad"]).filter.trans (by decide)

end Hotel

end SchemaOverlay
