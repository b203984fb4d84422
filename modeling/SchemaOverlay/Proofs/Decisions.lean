import SchemaOverlay.Proofs.SettingsText
import SchemaOverlay.Proofs.Transparency

/-!
# Decisions about transformers

A transformer is included or excluded by its id, and of several such decisions
about one id the last one counts.  A decision changes the selection for a bound
column only where it concerns a candidate of that id, whether a filter was
declared before or not.  The transformer that the user picked is meant to be
admitted always, but a choice does not end an exclusion, nor an exclusion a
choice: it is left out where the last decision about it was to exclude it.
-/

namespace SchemaOverlay

open SchemaOverlay.Action

/-! ## One decision -/

namespace TransformerFilter

/-- The ids that were included, or those that were excluded. -/
def decided (filter : TransformerFilter) (admitted : Bool) : NameSet :=
  if admitted then filter.included else filter.excluded

theorem admits_withIncluded (filter : TransformerFilter) (id : String)
    (definition : TransformerDefinition) :
    (filter.withIncluded id).admits definition =
      (definition.id == id || filter.admits definition) := by
  by_cases same : definition.id = id <;>
    simp [admits, withIncluded, NameSet.contains_add, NameSet.contains_erase, same]

theorem admits_withExcluded (filter : TransformerFilter) (id : String)
    (definition : TransformerDefinition) :
    (filter.withExcluded id).admits definition =
      (definition.id != id && filter.admits definition) := by
  by_cases same : definition.id = id <;>
    simp [admits, withExcluded, NameSet.contains_add, NameSet.contains_erase, same]

end TransformerFilter

namespace TransformSettings

namespace Edit

/-- Whether an edit puts a whole filter in the place of all that was decided before. -/
def replacesFilter : Edit → Bool
  | setFilter _ => true
  | _ => false

/-- The edit that includes the transformers of an id, or the one that excludes them. -/
def decision (id : String) (admitted : Bool) : Edit :=
  if admitted then includeTransformer id else excludeTransformer id

/-- Whether an edit includes or excludes the transformers of an id. -/
def DecidesOn (edit : Edit) (id : String) : Prop := ∃ admitted, edit = decision id admitted

end Edit

variable {settings : TransformSettings} {edits : List Edit} {edit first : Edit} {id : String}

/-- What an edit of some decisions does to the ids that are included, or excluded. -/
theorem contains_decided_apply (settings : TransformSettings)
    (keeps : edit.replacesFilter = false) (id : String) (admitted : Bool) :
    ((settings.apply edit).filter.decided admitted).contains id = true ↔
      edit = .decision id admitted ∨
        (settings.filter.decided admitted).contains id = true ∧ ¬ edit.DecidesOn id := by
  cases edit with
  | setFilter filter => cases keeps
  | setOption | removeOption | chooseTransformer =>
      cases admitted <;>
        simp [apply, setOption, removeOption, chooseTransformer, Edit.decision, Edit.DecidesOn,
          TransformerFilter.decided]
  | includeTransformer named | excludeTransformer named =>
      by_cases same : id = named <;> cases admitted <;>
        simp [apply, includeTransformer, excludeTransformer, Edit.decision, Edit.DecidesOn,
          TransformerFilter.decided, TransformerFilter.withIncluded,
          TransformerFilter.withExcluded, NameSet.contains_add, NameSet.contains_erase, same,
          Ne.symm]

/-! ## Decisions one after the other -/

/-- Whether a list of edits contains the edit, and none after it that decides about the id. -/
def IsLastOn (edits : List Edit) (id : String) (edit : Edit) : Prop :=
  ∃ front later, edits = front ++ edit :: later ∧ ∀ other ∈ later, ¬ other.DecidesOn id

theorem not_isLastOn_nil : ¬ IsLastOn [] id edit := by
  rintro ⟨front, later, split, -⟩
  simp at split

/-- An edit is last among the later ones, or it comes first and nothing later decides. -/
theorem isLastOn_cons_iff : IsLastOn (first :: edits) id edit ↔
    IsLastOn edits id edit ∨ first = edit ∧ ∀ other ∈ edits, ¬ other.DecidesOn id := by
  constructor
  · rintro ⟨front, later, split, undecided⟩
    cases front with
    | nil =>
        obtain ⟨same, rfl⟩ := List.cons.inj split
        exact .inr ⟨same, undecided⟩
    | cons _ front => exact .inl ⟨front, later, (List.cons.inj split).2, undecided⟩
  · rintro (⟨front, later, rfl, undecided⟩ | ⟨rfl, undecided⟩)
    · exact ⟨first :: front, later, rfl, undecided⟩
    · exact ⟨[], edits, rfl, undecided⟩

/-- There is only one last decision about an id. -/
theorem IsLastOn.unique {admitted other : Bool} (last : IsLastOn edits id (.decision id admitted))
    (also : IsLastOn edits id (.decision id other)) : admitted = other := by
  -- What is last among later edits decides there, so no earlier edit can be last as well.
  have decided {rest : List Edit} {verdict : Bool} (last : IsLastOn rest id (.decision id verdict))
      (undecided : ∀ edit ∈ rest, ¬ edit.DecidesOn id) : False := by
    obtain ⟨front, later, rfl, -⟩ := last
    exact undecided _ (by simp) ⟨verdict, rfl⟩
  induction edits with
  | nil => exact absurd last not_isLastOn_nil
  | cons first rest ih =>
      rcases isLastOn_cons_iff.mp last with later | ⟨rfl, undecided⟩ <;>
        rcases isLastOn_cons_iff.mp also with laterToo | ⟨same, undecidedToo⟩
      · exact ih later laterToo
      · exact (decided later undecidedToo).elim
      · exact (decided laterToo undecided).elim
      · cases admitted <;> cases other <;> first | rfl | cases same

/-- Ids are included, or excluded, by the last decision about them, and where there was none they
are what they were. -/
theorem contains_decided_applyAll (settings : TransformSettings)
    (keeps : ∀ edit ∈ edits, edit.replacesFilter = false) (id : String) (admitted : Bool) :
    ((settings.applyAll edits).filter.decided admitted).contains id = true ↔
      IsLastOn edits id (.decision id admitted) ∨
        (settings.filter.decided admitted).contains id = true ∧
          ∀ edit ∈ edits, ¬ edit.DecidesOn id := by
  induction edits generalizing settings with
  | nil => simp [applyAll, not_isLastOn_nil]
  | cons first rest ih =>
      obtain ⟨keep, keeps⟩ := List.forall_mem_cons.mp keeps
      have step : settings.applyAll (first :: rest) = (settings.apply first).applyAll rest := rfl
      rw [step, ih _ keeps, contains_decided_apply _ keep, isLastOn_cons_iff, List.forall_mem_cons]
      tauto

/-- Of the ids that were decided about one by one, those are included, or excluded, whose last
decision was that. -/
theorem contains_decided_iff (keeps : ∀ edit ∈ edits, edit.replacesFilter = false) (id : String)
    (admitted : Bool) :
    ((empty.applyAll edits).filter.decided admitted).contains id = true ↔
      IsLastOn edits id (.decision id admitted) := by
  have undecided : (empty.filter.decided admitted).contains id = false := by
    cases admitted <;> rfl
  rw [contains_decided_applyAll empty keeps, undecided]
  simp

end TransformSettings

/-! ## Decisions and selections -/

namespace Resolver

variable {resolver : Resolver} {binding : Binding} {store : Store} {settings : SettingsId}

/-- An edit of settings leaves it alone which settings apply to a bound column. -/
theorem value_bindingSettings_updateContents (resolver : Resolver) (binding : Binding)
    (store : Store) (edited : SettingsId) (contents : TransformSettings) :
    (resolver.bindingSettings binding false (store.updateContents edited contents)).value =
      (resolver.bindingSettings binding false store).value := by
  have resolved : (resolver.resolveBinding binding false
      (store.updateContents edited contents)).value =
        (resolver.resolveBinding binding false store).value := by
    rcases binding.leads_cases with ⟨entity, leads⟩ | ⟨container, leads, -⟩
    · rw [Binding.resolveBinding_of_entity? leads]
      cases entity with
      | overlay overlay => rfl
      | real entity =>
          have same : resolver.model? entity.dataSource (store.updateContents edited contents) =
              resolver.model? entity.dataSource store := rfl
          cases registered : resolver.model? entity.dataSource store with
          | none =>
              rw [resolveEntity_of_none registered, resolveEntity_of_none (same.trans registered)]
          | some model =>
              rw [resolveEntity_of_some registered, resolveEntity_of_some (same.trans registered),
                model.value_entityById_false, model.value_entityById_false]
              rfl
    · rw [Binding.eq_ofDetached leads]
      rfl
  rw [value_bindingSettings_false, value_bindingSettings_false, resolved]
  have own : (store.updateContents edited contents).ownSettings? = store.ownSettings? := rfl
  refine Option.bind_congr fun column _ => OverlayObject.effectiveSettings?_congr own ?_ _
  intro object
  cases object <;> rfl

/-- Whether the selection for a bound column is what passes a test among the candidates. -/
def SelectsBy (resolver : Resolver) (binding : Binding) (custom : Option Bool) (store : Store)
    (test : TransformerDefinition → Bool) : Prop :=
  (resolver.selectTransformers binding custom store).value =
    TransformerRegistry.instances
      ((resolver.transformers.candidates binding.column custom).filter test)

/-- The selection is what the filter of the settings that apply admits. -/
theorem selectsBy_admits
    (applies : (resolver.bindingSettings binding false store).value = some settings)
    (custom : Option Bool) :
    resolver.SelectsBy binding custom store (store.contents settings).filter.admits := by
  rw [SelectsBy, value_selectTransformers, selection, ← TransformerRegistry.filter_candidates,
    applies]
  rfl

/-- After an edit the selection is what the edited filter admits. -/
theorem selectsBy_edited
    (applies : (resolver.bindingSettings binding false store).value = some settings)
    (custom : Option Bool) (edit : TransformSettings.Edit) :
    resolver.SelectsBy binding custom ((Operation.editSettings settings edit).perform store)
      ((store.contents settings).apply edit).filter.admits := by
  have still : (resolver.bindingSettings binding false
      ((Operation.editSettings settings edit).perform store)).value = some settings :=
    (resolver.value_bindingSettings_updateContents binding store settings _).trans applies
  have admits := selectsBy_admits still custom
  rwa [Operation.contents_editSettings, if_pos rfl] at admits

end Resolver

namespace TransformSettings

/-- Of decisions about one id the last one counts, so no id is both included and excluded.  In
whatever state settings are, including an id makes every candidate of that id selected for the
columns that the settings apply to, excluding it makes none of them selected, and all other
candidates stay selected or unselected in their order. -/
theorem decisions_are_local :
    (∀ edits : List Edit, (∀ edit ∈ edits, edit.replacesFilter = false) → ∀ id : String,
      ¬ ((empty.applyAll edits).filter.included.contains id = true ∧
        (empty.applyAll edits).filter.excluded.contains id = true) ∧
      ((empty.applyAll edits).filter.included.contains id = true ↔
        IsLastOn edits id (.includeTransformer id)) ∧
      ((empty.applyAll edits).filter.excluded.contains id = true ↔
        IsLastOn edits id (.excludeTransformer id))) ∧
    ∀ (resolver : Resolver) (binding : Binding) (store : Store) (settings : SettingsId),
      (resolver.bindingSettings binding false store).value = some settings →
        ∀ (custom : Option Bool) (id : String),
          resolver.SelectsBy binding custom store (store.contents settings).filter.admits ∧
          resolver.SelectsBy binding custom
            ((Operation.editSettings settings (.includeTransformer id)).perform store)
            (fun definition => definition.id == id ||
              (store.contents settings).filter.admits definition) ∧
          resolver.SelectsBy binding custom
            ((Operation.editSettings settings (.excludeTransformer id)).perform store)
            (fun definition => definition.id != id &&
              (store.contents settings).filter.admits definition) := by
  refine ⟨fun edits keeps id => ?_, fun resolver binding store settings applies custom id => ?_⟩
  · have included := contains_decided_iff keeps id true
    have excluded := contains_decided_iff keeps id false
    refine ⟨fun both => ?_, included, excluded⟩
    have same := (included.mp both.1).unique (excluded.mp both.2)
    cases same
  · have former := Resolver.selectsBy_admits applies custom
    have after := Resolver.selectsBy_edited applies custom
    refine ⟨former, ?_, ?_⟩
    · have admits := funext ((store.contents settings).filter.admits_withIncluded id)
      exact admits ▸ after (.includeTransformer id)
    · have admits := funext ((store.contents settings).filter.admits_withExcluded id)
      exact admits ▸ after (.excludeTransformer id)

/-- What the user picked is admitted, and kept among any candidates, unless the last decision about
it was to exclude it; then it is left out. -/
theorem chosen_admitted_unless_excluded {edits : List Edit}
    (keeps : ∀ edit ∈ edits, edit.replacesFilter = false) {id : String}
    (chosen : (empty.applyAll edits).filter.chosen = some id) :
    (∀ definition : TransformerDefinition, definition.id = id →
      ((empty.applyAll edits).filter.admits definition = true ↔
        ¬ IsLastOn edits id (.excludeTransformer id))) ∧
    ∀ candidates, ∃ kept, (empty.applyAll edits).filterTransformers? candidates = some kept ∧
      (¬ IsLastOn edits id (.excludeTransformer id) →
        kept.filter (·.id == id) = candidates.filter (·.id == id)) ∧
      (IsLastOn edits id (.excludeTransformer id) → ∀ definition ∈ kept, definition.id ≠ id) := by
  have admits_iff (definition : TransformerDefinition) (named : definition.id = id) :
      (empty.applyAll edits).filter.admits definition = true ↔
        ¬ IsLastOn edits id (.excludeTransformer id) := by
    have excluded : (empty.applyAll edits).filter.excluded.contains id = true ↔
        IsLastOn edits id (.excludeTransformer id) := contains_decided_iff keeps id false
    rw [TransformerFilter.admits_iff, named, chosen, ← excluded, Bool.not_eq_true]
    simp
  have declared : (empty.applyAll edits).filter.isDeclared = true := by
    simp [TransformerFilter.isDeclared, chosen]
  refine ⟨admits_iff, fun candidates => ⟨candidates.filter _, if_pos declared, ?_, ?_⟩⟩
  · intro spared
    rw [List.filter_filter]
    refine List.filter_congr fun definition _ => ?_
    by_cases named : definition.id = id
    · simp [named, (admits_iff definition named).mpr spared]
    · simp [named]
  · intro vetoed definition kept named
    exact (admits_iff definition named).mp (List.mem_filter.mp kept).2 vetoed

end TransformSettings

/-! ## Transformers of a film title -/

namespace Cinema

open TransformSettings

def upper : TransformerDefinition := ⟨"upper", false, true, [], ⟨"upper", fun value _ => value⟩⟩

def mask : TransformerDefinition := ⟨"mask", true, false, [], ⟨"mask", fun _ _ => .null⟩⟩

def resolver : Resolver := ⟨0, {}, [upper, mask, upper]⟩

def model : Model := ⟨0, "cinema"⟩

def films : SchemaEntity := .unreadable ⟨"cinema", ["main", "films"]⟩ "offline"

def title : Binding := .ofEntity (.real films) (.ofType "title" "text")

def titleOverlay : ColumnOverlay := ⟨2, "title", none, .ofEntity 1 films.id model⟩

/-- The settings of the column, in which nothing is decided. -/
def settings : SettingsId := ⟨3⟩

def setup : List Operation :=
  [.createModel model.dataSource (.unreachable "offline"), .register resolver model,
    .bindingSettings resolver title true]

def store : Store := setup.foldl (fun store operation => operation.perform store) .empty

theorem reachable : store.Reachable := ⟨setup, Run.of_permits (by decide)⟩

theorem applies : (resolver.bindingSettings title false store).value = some settings := by
  have declared :
      ((store.declaredBy (resolver.resolveBinding title false store).value).columns.find?
        (·.name == "title")) = some titleOverlay := by decide
  rw [resolver.value_bindingSettings_false]
  refine (congrArg (Option.bind · _) declared).trans ?_
  rw [Option.bind_some, OverlayObject.effectiveSettings?_column reachable.sound]
  decide +kernel

def edits : List Edit :=
  [.excludeTransformer "mask", .chooseTransformer (some "mask"), .includeTransformer "mask",
    .includeTransformer "upper", .excludeTransformer "upper"]

theorem included_last : IsLastOn edits "mask" (.includeTransformer "mask") := by
  refine ⟨[.excludeTransformer "mask", .chooseTransformer (some "mask")],
    [.includeTransformer "upper", .excludeTransformer "upper"], rfl, ?_⟩
  simp [Edit.DecidesOn, Edit.decision]

/-- Including the custom transformer adds it to the default ones, which are selected each time that
they are listed, and excluding the default ones leaves nothing. -/
theorem decisions_are_local_mask :
    (∀ edit ∈ edits, edit.replacesFilter = false) ∧
      (empty.applyAll edits).filter.included.contains "mask" = true ∧
      (resolver.bindingSettings title false store).value = some settings ∧
      (store.contents settings).filter.isDeclared = false ∧
      (resolver.selectTransformers title none store).value =
        some [upper.transformer, upper.transformer] ∧
      (resolver.selectTransformers title none
          ((Operation.editSettings settings (.includeTransformer "mask")).perform store)).value =
        some [upper.transformer, mask.transformer, upper.transformer] ∧
      (resolver.selectTransformers title none
          ((Operation.editSettings settings (.excludeTransformer "upper")).perform store)).value =
        none := by
  have keeps : ∀ edit ∈ edits, edit.replacesFilter = false := by decide
  obtain ⟨last, selections⟩ := decisions_are_local
  obtain ⟨before, with_mask, -⟩ := selections resolver title store settings applies none "mask"
  obtain ⟨-, -, without⟩ := selections resolver title store settings applies none "upper"
  refine ⟨keeps, (last edits keeps "mask").2.1.mpr included_last, applies, by decide, ?_, ?_, ?_⟩
  · exact before.trans (by rfl)
  · exact with_mask.trans (by rfl)
  · exact without.trans (by rfl)

/-- The user picks a transformer and then excludes it. -/
def withdrawn : List Edit := [.chooseTransformer (some "mask"), .excludeTransformer "mask"]

/-- A transformer that is excluded after the user picked it is left out of the candidates, although
it is the picked one still. -/
theorem chosen_vetoed :
    (∀ edit ∈ withdrawn, edit.replacesFilter = false) ∧
      (empty.applyAll withdrawn).filter.chosen = some mask.id ∧
      (empty.applyAll withdrawn).filter.admits mask = false ∧
      (empty.applyAll withdrawn).filterTransformers? [upper, mask] = some [upper] :=
  ⟨by decide, by decide, by decide, rfl⟩

/-- The picked transformer is kept where it was excluded first and included later, and left out
where it was excluded last. -/
theorem chosen_admitted_mask :
    (∀ edit ∈ edits, edit.replacesFilter = false) ∧
      (empty.applyAll edits).filter.chosen = some mask.id ∧
      (empty.applyAll edits).filter.admits mask = true ∧
      (∀ edit ∈ withdrawn, edit.replacesFilter = false) ∧
      (empty.applyAll withdrawn).filter.chosen = some mask.id ∧
      ∀ candidates, ∃ kept, (empty.applyAll withdrawn).filterTransformers? candidates = some kept ∧
        ∀ definition ∈ kept, definition.id ≠ mask.id := by
  have keeps : ∀ edit ∈ edits, edit.replacesFilter = false := by decide
  have chosen : (empty.applyAll edits).filter.chosen = some mask.id := by decide
  have also_keeps : ∀ edit ∈ withdrawn, edit.replacesFilter = false := by decide
  have also_chosen : (empty.applyAll withdrawn).filter.chosen = some mask.id := by decide
  obtain ⟨admits, -⟩ := chosen_admitted_unless_excluded keeps chosen
  obtain ⟨-, filtered⟩ := chosen_admitted_unless_excluded also_keeps also_chosen
  refine ⟨keeps, chosen, (admits mask rfl).mpr ?_, also_keeps, also_chosen, fun candidates => ?_⟩
  · intro excluded
    have same : true = false := IsLastOn.unique included_last excluded
    cases same
  · obtain ⟨kept, filters, -, vetoed⟩ := filtered candidates
    exact ⟨kept, filters, vetoed ⟨[.chooseTransformer (some "mask")], [], rfl, by simp⟩⟩

end Cinema

end SchemaOverlay
