import SchemaOverlay.Proofs.Queries

/-!
# The rule of selection

A transformer is selected for a bound column by one rule, whether a filter was
declared, settings are there without one, or nothing was decided at all: it must
handle the column's values, have the wanted custom flag, not be excluded, and be
chosen, included or applied by default.  The selection is the part of the
registry that satisfies the rule, in the registry's order.
-/

namespace SchemaOverlay

open SchemaOverlay.Action

/-! ## Declared and undeclared filters -/

namespace TransformerFilter

variable {filter : TransformerFilter} {definition : TransformerDefinition}

/-- The filter of settings; without settings nothing is decided. -/
def ofSettings (settings : Option TransformSettings) : TransformerFilter :=
  (settings.map (·.filter)).getD .empty

theorem admits_iff :
    filter.admits definition = true ↔
      filter.excluded.contains definition.id = false ∧
        (filter.chosen = some definition.id ∨ filter.included.contains definition.id = true ∨
          definition.isDefault = true) := by
  unfold admits
  cases filter.excluded.contains definition.id with
  | true => simp
  | false =>
      simp only [Bool.false_eq_true, if_false, true_and]
      split
      · rename_i named
        rw [Bool.or_eq_true, beq_iff_eq] at named
        exact iff_of_true rfl (or_assoc.mp (.inl named))
      · rename_i unnamed
        rw [Bool.or_eq_true, beq_iff_eq, not_or] at unnamed
        constructor
        · intro applies
          exact .inr (.inr applies)
        · rintro (chosen | included | applies)
          · exact absurd chosen unnamed.1
          · exact absurd included unnamed.2
          · exact applies

/-- A filter that names no transformer admits what applies by default. -/
theorem admits_of_not_declared (undeclared : filter.isDeclared = false)
    (definition : TransformerDefinition) : filter.admits definition = definition.isDefault := by
  rw [isDeclared, Bool.or_eq_false_iff, Bool.or_eq_false_iff, Bool.not_eq_false',
    Bool.not_eq_false'] at undeclared
  obtain ⟨⟨unchosen, nothing⟩, nowhere⟩ := undeclared
  rw [Option.isSome_eq_false_iff, Option.isNone_iff_eq_none] at unchosen
  rw [admits, SortedMap.contains_of_isEmpty nowhere, SortedMap.contains_of_isEmpty nothing,
    unchosen]
  rfl

theorem admits_empty (definition : TransformerDefinition) :
    empty.admits definition = definition.isDefault :=
  admits_of_not_declared rfl definition

end TransformerFilter

/-- What settings leave of candidates is what their filter admits, declared or not. -/
theorem Resolver.admitted_eq_filter (candidates : List TransformerDefinition)
    (settings : Option TransformSettings) :
    admitted candidates settings =
      candidates.filter (TransformerFilter.ofSettings settings).admits := by
  cases settings with
  | none =>
      refine List.filter_congr fun definition _ => ?_
      exact (TransformerFilter.admits_empty definition).symm
  | some settings =>
      rw [admitted, Option.bind_some, TransformSettings.filterTransformers?]
      cases declared : settings.filter.isDeclared with
      | true => rfl
      | false =>
          refine List.filter_congr fun definition _ => ?_
          exact (TransformerFilter.admits_of_not_declared declared definition).symm

/-! ## The rule -/

/-- Whether a definition is selected for a column under a filter. -/
structure TransformerDefinition.Qualifies (definition : TransformerDefinition) (column : Column)
    (custom : Option Bool) (filter : TransformerFilter) : Prop where
  handled : definition.handles column.kind = true
  /-- Where a custom flag is wanted, the definition has it. -/
  flagged : ∀ wanted, custom = some wanted → definition.custom = wanted
  spared : filter.excluded.contains definition.id = false
  admitted : filter.chosen = some definition.id ∨ filter.included.contains definition.id = true ∨
    definition.custom = false ∧ definition.applicableByDefault = true

namespace TransformerDefinition

variable {definition : TransformerDefinition} {column : Column} {custom : Option Bool}
  {filter : TransformerFilter}

theorem hasFlag_iff :
    definition.hasFlag custom = true ↔
      ∀ wanted, custom = some wanted → definition.custom = wanted := by
  cases custom with
  | none => simp [hasFlag]
  | some wanted => simp [hasFlag]

/-- The rule is what the registry's look-up and the filter test one after the other. -/
theorem qualifies_iff :
    definition.Qualifies column custom filter ↔
      (definition.handles column.kind && definition.hasFlag custom && filter.admits definition) =
        true := by
  rw [Bool.and_eq_true, Bool.and_eq_true, hasFlag_iff, TransformerFilter.admits_iff, isDefault,
    Bool.and_eq_true, Bool.not_eq_true']
  constructor
  · rintro ⟨handled, flagged, spared, admitted⟩
    exact ⟨⟨handled, flagged⟩, spared, admitted⟩
  · rintro ⟨⟨handled, flagged⟩, spared, admitted⟩
    exact ⟨handled, flagged, spared, admitted⟩

instance : Decidable (definition.Qualifies column custom filter) :=
  decidable_of_iff' _ qualifies_iff

/-- A wanted custom flag only narrows the rule down. -/
theorem qualifies_some_iff {wanted : Bool} :
    definition.Qualifies column (some wanted) filter ↔
      definition.Qualifies column none filter ∧ definition.custom = wanted := by
  constructor
  · rintro ⟨handled, flagged, spared, admitted⟩
    refine ⟨⟨handled, ?_, spared, admitted⟩, flagged wanted rfl⟩
    rintro _ ⟨⟩
  · rintro ⟨⟨handled, -, spared, admitted⟩, flag⟩
    refine ⟨handled, ?_, spared, admitted⟩
    rintro _ ⟨⟩
    exact flag

end TransformerDefinition

/-! ## Selection -/

/-- The filter of the settings that apply, if any. -/
def Store.filterUnder (store : Store) (settings : Option SettingsId) : TransformerFilter :=
  .ofSettings (settings.map store.contents)

namespace TransformerRegistry

/-- The definitions of a registry that are selected for a column, in their order. -/
def selection (registry : TransformerRegistry) (column : Column) (custom : Option Bool)
    (filter : TransformerFilter) : List TransformerDefinition :=
  registry.filter fun definition => definition.Qualifies column custom filter

/-- The transformers of definitions, one for each of them; nothing for no definition. -/
def instances (definitions : List TransformerDefinition) : Option (List Transformer) :=
  if definitions.isEmpty then none else some (definitions.map (·.transformer))

theorem instances_eq_none_iff {definitions : List TransformerDefinition} :
    instances definitions = none ↔ definitions = [] := by
  cases definitions <;> simp [instances]

/-- The candidates that a filter admits are the selection. -/
theorem filter_candidates (registry : TransformerRegistry) (column : Column) (custom : Option Bool)
    (filter : TransformerFilter) :
    (registry.candidates column custom).filter filter.admits =
      registry.selection column custom filter := by
  rw [candidates, selection, List.filter_filter, List.filter_filter]
  refine List.filter_congr fun definition _ => ?_
  rw [Bool.eq_iff_iff, decide_eq_true_iff, TransformerDefinition.qualifies_iff]
  simp only [Bool.and_eq_true]
  constructor
  · rintro ⟨⟨admits, flag⟩, handles⟩
    exact ⟨⟨handles, flag⟩, admits⟩
  · rintro ⟨⟨handles, flag⟩, admits⟩
    exact ⟨⟨admits, flag⟩, handles⟩

theorem selection_some (registry : TransformerRegistry) (column : Column) (flag : Bool)
    (filter : TransformerFilter) :
    registry.selection column (some flag) filter =
      (registry.selection column none filter).filter (·.custom == flag) := by
  rw [selection, selection, List.filter_filter]
  refine List.filter_congr fun definition _ => ?_
  rw [Bool.eq_iff_iff, decide_eq_true_iff, TransformerDefinition.qualifies_some_iff,
    Bool.and_eq_true, decide_eq_true_iff, beq_iff_eq, and_comm]

end TransformerRegistry

namespace Resolver

/-- What is selected for a bound column under the settings that apply to it. -/
def selection (resolver : Resolver) (binding : Binding) (custom : Option Bool) (store : Store) :
    List TransformerDefinition :=
  resolver.transformers.selection binding.column custom
    (store.filterUnder (resolver.bindingSettings binding false store).value)

theorem value_selectTransformers (resolver : Resolver) (binding : Binding) (custom : Option Bool)
    (store : Store) :
    (resolver.selectTransformers binding custom store).value =
      TransformerRegistry.instances (resolver.selection binding custom store) := by
  have left (candidates : List TransformerDefinition) (id : Option SettingsId) :
      admitted candidates (id.map store.contents) =
        candidates.filter (store.filterUnder id).admits := admitted_eq_filter _ _
  have unchanged := (resolver.bindingSettings_quiet store binding).store_eq
  rw [selection, ← TransformerRegistry.filter_candidates]
  cases listed : resolver.transformers.candidates binding.column custom with
  | nil =>
      simp only [selectTransformers, listed, List.isEmpty_nil, if_true]
      rfl
  | cons first rest =>
      simp only [selectTransformers, listed, List.isEmpty_cons, Bool.false_eq_true, if_false,
        bind_apply, read_apply, unchanged, left]
      cases kept : (first :: rest).filter
          (store.filterUnder (resolver.bindingSettings binding false store).value).admits with
      | nil =>
          simp only [List.isEmpty_nil, if_true]
          rfl
      | cons chosen others =>
          simp only [List.isEmpty_cons, Bool.false_eq_true, if_false]
          rfl

/-- The transformers selected for a bound column are those of the definitions that satisfy the
rule under the filter in force, in the registry's order and as often as it lists them; none are
selected exactly when no definition satisfies it, and a wanted custom flag picks out the
definitions that have it. -/
theorem selectTransformers_eq_instances (resolver : Resolver) (binding : Binding)
    (custom : Option Bool) (store : Store) :
    (resolver.selectTransformers binding custom store).value =
        TransformerRegistry.instances (resolver.transformers.filter fun definition =>
          definition.Qualifies binding.column custom
            (store.filterUnder (resolver.bindingSettings binding false store).value)) ∧
      ((resolver.selectTransformers binding custom store).value = none ↔
        ∀ definition ∈ resolver.transformers,
          ¬ definition.Qualifies binding.column custom
            (store.filterUnder (resolver.bindingSettings binding false store).value)) ∧
      ∀ flag, (resolver.selectTransformers binding (some flag) store).value =
        TransformerRegistry.instances
          ((resolver.selection binding none store).filter (·.custom == flag)) := by
  refine ⟨value_selectTransformers resolver binding custom store, ?_, fun flag => ?_⟩
  · rw [value_selectTransformers, TransformerRegistry.instances_eq_none_iff, selection,
      TransformerRegistry.selection, List.filter_eq_nil_iff]
    simp only [decide_eq_true_iff]
  · rw [value_selectTransformers, selection, TransformerRegistry.selection_some, selection]

end Resolver

end SchemaOverlay
